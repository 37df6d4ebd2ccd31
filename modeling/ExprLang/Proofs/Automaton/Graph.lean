import ExprLang.Proofs.Automaton.Shape

/-!
The automaton as a graph that is built state by state. Here every state has a mark and, for each
character, the set of the states that follow, to which states are added as lexemes are registered:
nothing in a state says where it hangs, and nothing keeps a state out of two sets. Each step of the
building leaves the graph with as many states, the same marks and the same successors as the
automaton has, whose branches name the state they hang from. So that every state but the root is in
exactly one set, and once in it, is true of the graph because of how it is built.
-/
set_option autoImplicit false

namespace ExprLang

/-- A state with its mark, and the states that follow it by each character. -/
structure GraphState where
  mark : Option Mark
  next : Char → List Nat

/-- The states by their numbers, the root being 0. -/
structure Graph where
  states : Array GraphState

namespace Graph

/-- The graph of an empty catalog. -/
def empty : Graph := ⟨#[⟨none, fun _ => []⟩]⟩

/-- The mark of a state. -/
def mark? (graph : Graph) (state : Nat) : Option Mark :=
  graph.states[state]?.bind GraphState.mark

/-- The states that follow a state by a character. -/
def successors (graph : Graph) (state : Nat) (symbol : Char) : List Nat :=
  (graph.states[state]?.map (·.next symbol)).getD []

/-- Adds a state that nothing follows. -/
def pushState (graph : Graph) (mark : Option Mark) : Graph :=
  ⟨graph.states.push ⟨mark, fun _ => []⟩⟩

/-- Puts a state into the set of those that follow by a character, unless it is there. -/
def link (graph : Graph) (state : Nat) (symbol : Char) (next : Nat) : Graph :=
  ⟨graph.states.modify state fun found =>
    { found with next := fun c =>
        if c = symbol ∧ next ∉ found.next c then found.next c ++ [next] else found.next c }⟩

/-- Puts a mark on a state that has none. -/
def setMark (graph : Graph) (state : Nat) (mark : Mark) : Graph :=
  ⟨graph.states.modify state fun found => { found with mark := found.mark.or (some mark) }⟩

/-- Adds a state that follows another one by a character. -/
def hang (graph : Graph) (state : Nat) (symbol : Char) (mark : Option Mark) : Graph :=
  (graph.pushState mark).link state symbol graph.states.size

/-- Goes on to the first successor there is, or to a new state. -/
def successorOrInsert (graph : Graph) (state : Nat) (symbol : Char) : Graph × Nat :=
  match graph.successors state symbol with
  | next :: _ => (graph, next)
  | [] => (graph.hang state symbol none, graph.states.size)

/-- Ends a lexeme in the first successor that is free or stands for the same kind already, otherwise
in a new state. -/
def terminate (graph : Graph) (state : Nat) (symbol : Char) (mark : Mark) : Graph :=
  let reusable := (graph.successors state symbol).find? fun next =>
    (graph.mark? next).all (·.kind == mark.kind)
  match reusable with
  | some next => graph.setMark next mark
  | none => graph.hang state symbol (some mark)

/-- Adds a lexeme below a state: goes on by all characters but the last, with which it ends. -/
def insert (graph : Graph) (state : Nat) (mark : Mark) (lexeme : List Char) : Graph :=
  match lexeme.getLast? with
  | none => graph
  | some last =>
    let (graph, state) := lexeme.dropLast.foldl
      (fun (graph, state) symbol => graph.successorOrInsert state symbol) (graph, state)
    graph.terminate state last mark

/-- The graph of a catalog. -/
def ofCatalog (catalog : Catalog) : Graph :=
  catalog.zipIdx.foldl
    (fun graph (entry, order) => graph.insert 0 ⟨entry.kind, order⟩ entry.lexeme.toList) empty

/-- The graph has the states of the automaton, with the same marks and successors. -/
structure Represents (graph : Graph) (machine : Automaton) : Prop where
  size_eq : graph.states.size = machine.stateCount
  mark_eq : ∀ state, graph.mark? state = machine.mark? state
  successors_eq : ∀ state symbol, graph.successors state symbol = machine.successors state symbol

end Graph

/-! ## Steps of the automaton -/

namespace Automaton

variable {machine : Automaton} {state next : Nat} {symbol : Char}

theorem successors_push (machine : Automaton) (branch : Branch) (state : Nat) (symbol : Char) :
    (machine.push branch).successors state symbol = machine.successors state symbol ++
      if branch.parent = state ∧ branch.symbol = symbol then [machine.stateCount] else [] := by
  have hold : ∀ index ∈ List.range machine.branches.size,
      (machine.branches.push branch)[index]? = machine.branches[index]? := by
    intro index hindex
    rw [Array.getElem?_push, if_neg (List.mem_range.mp hindex).ne]
  rw [successors, successors, push, Array.size_push, List.range_succ, List.filterMap_append]
  congr 1
  · refine List.filterMap_congr fun index hindex => ?_
    rw [hold index hindex]
  · rw [List.filterMap_cons, Array.getElem?_push_size, Option.bind_some, List.filterMap_nil]
    split <;> rename_i h <;> split at h <;> simp_all [stateCount]

theorem successors_setMark (machine : Automaton) (marked : Nat) (mark : Mark) (state : Nat)
    (symbol : Char) :
    (machine.setMark marked mark).successors state symbol = machine.successors state symbol := by
  rw [successors, successors, setMark, Array.size_modify]
  refine List.filterMap_congr fun index _ => ?_
  rw [Array.getElem?_modify]
  split
  · cases machine.branches[index]? <;> rfl
  · rfl

theorem mark?_push (machine : Automaton) (branch : Branch) (state : Nat) :
    (machine.push branch).mark? state =
      if state = machine.stateCount then branch.mark else machine.mark? state := by
  cases state with
  | zero => exact (if_neg (Nat.succ_ne_zero _).symm).symm
  | succ index =>
    simp only [mark?, push, Array.getElem?_push, stateCount, Nat.add_right_cancel_iff]
    split <;> rfl

theorem bounds_of_mem_successors (h : next ∈ machine.successors state symbol) :
    0 < next ∧ next < machine.stateCount := by
  obtain ⟨index, _, rfl, hbranch, -⟩ := mem_successors.mp h
  exact ⟨Nat.succ_pos index, Nat.succ_lt_succ (Array.getElem?_eq_some_iff.mp hbranch).1⟩

end Automaton

/-! ## Steps of the graph -/

namespace Graph

variable {graph : Graph} {machine : Automaton} {state : Nat}

theorem mark?_hang (graph : Graph) (state : Nat) (symbol : Char) (mark : Option Mark) (other : Nat) :
    (graph.hang state symbol mark).mark? other =
      if other = graph.states.size then mark else graph.mark? other := by
  have hlink : ∀ (graph : Graph) (next : Nat),
      (graph.link state symbol next).mark? other = graph.mark? other := by
    intro graph next
    rw [mark?, mark?, link, Array.getElem?_modify]
    split
    · cases graph.states[other]? <;> rfl
    · rfl
  rw [hang, hlink, mark?, mark?, pushState, Array.getElem?_push]
  split <;> rfl

theorem successors_hang {symbol : Char} (hstate : state < graph.states.size)
    (hnew : graph.states.size ∉ graph.successors state symbol) (mark : Option Mark) (other : Nat)
    (c : Char) : (graph.hang state symbol mark).successors other c = graph.successors other c ++
      if state = other ∧ symbol = c then [graph.states.size] else [] := by
  rw [successors, hang, link, pushState, Array.getElem?_modify, Array.getElem?_push]
  by_cases hother : state = other
  · subst hother
    have hfound : graph.states[state]? = some graph.states[state] := Array.getElem?_eq_getElem hstate
    rw [successors, hfound, Option.map_some, Option.getD_some] at hnew
    rw [if_pos rfl, if_neg hstate.ne, successors, hfound]
    simp only [Option.map_some, Option.getD_some, true_and]
    by_cases hc : c = symbol
    · subst hc
      rw [if_pos ⟨rfl, hnew⟩, if_pos rfl]
    · rw [if_neg fun h => hc h.1, if_neg fun h => hc h.symm, List.append_nil]
  · have hboth : ¬ (state = other ∧ symbol = c) := fun h => hother h.1
    rw [if_neg hother, if_neg hboth, List.append_nil, successors]
    split
    · rename_i hlast
      rw [hlast, Array.getElem?_eq_none (Nat.le_refl _)]
      rfl
    · rfl

theorem Represents.hang (h : graph.Represents machine) (hstate : state < machine.stateCount)
    (symbol : Char) (mark : Option Mark) :
    (graph.hang state symbol mark).Represents (machine.push ⟨state, symbol, mark⟩) := by
  have hnew : graph.states.size ∉ graph.successors state symbol := by
    rw [h.successors_eq, h.size_eq]
    exact fun hnext => Nat.lt_irrefl _ (Automaton.bounds_of_mem_successors hnext).2
  refine ⟨?_, fun other => ?_, fun other c => ?_⟩
  · simp [Graph.hang, link, pushState, Automaton.push, Automaton.stateCount, h.size_eq]
  · rw [mark?_hang, Automaton.mark?_push, h.size_eq, h.mark_eq]
  · rw [successors_hang (h.size_eq ▸ hstate) hnew, Automaton.successors_push, h.size_eq,
      h.successors_eq]

theorem Represents.setMark (h : graph.Represents machine) (hpos : 0 < state)
    (hstate : state < machine.stateCount) (mark : Mark) :
    (graph.setMark state mark).Represents (machine.setMark state mark) := by
  refine ⟨?_, fun other => ?_, fun other c => ?_⟩
  · simp [Graph.setMark, Automaton.setMark, Automaton.stateCount, h.size_eq]
  · rw [Automaton.mark?_setMark hpos hstate, ← h.mark_eq, mark?, mark?, Graph.setMark,
      Array.getElem?_modify]
    by_cases hother : state = other
    · rw [if_pos hother, if_pos hother.symm]
      subst hother
      rw [Array.getElem?_eq_getElem (h.size_eq ▸ hstate)]
      rfl
    · rw [if_neg hother, if_neg fun heq => hother heq.symm]
  · rw [Automaton.successors_setMark, ← h.successors_eq, successors, successors, Graph.setMark,
      Array.getElem?_modify]
    split
    · cases graph.states[other]? <;> rfl
    · rfl

theorem Represents.terminate (h : graph.Represents machine) (hstate : state < machine.stateCount)
    (symbol : Char) (mark : Mark) :
    (graph.terminate state symbol mark).Represents (machine.terminate state symbol mark) := by
  have hsame : (graph.successors state symbol).find? (fun next =>
      (graph.mark? next).all (·.kind == mark.kind)) =
        (machine.successors state symbol).find? fun next =>
          (machine.mark? next).all (·.kind == mark.kind) := by
    rw [h.successors_eq]
    simp only [h.mark_eq]
  rw [Graph.terminate, Automaton.terminate, hsame]
  cases hnext : (machine.successors state symbol).find? fun next =>
      (machine.mark? next).all (·.kind == mark.kind) with
  | some next =>
    obtain ⟨hpos, hlt⟩ :=
      Automaton.bounds_of_mem_successors (List.mem_of_find?_eq_some hnext)
    exact h.setMark hpos hlt mark
  | none => exact h.hang hstate symbol (some mark)

/-! ## Building -/

/-- Registering a lexeme goes the same way through the graph and through the automaton. -/
theorem Represents.insert (mark : Mark) (lexeme : List Char) :
    ∀ {graph : Graph} {machine : Automaton} {state : Nat}, graph.Represents machine →
      state < machine.stateCount →
      (graph.insert state mark lexeme).Represents (machine.extend state mark lexeme) := by
  induction lexeme with
  | nil => exact fun h _ => h
  | cons symbol rest ih =>
    intro graph machine state h hstate
    cases rest with
    | nil => exact h.terminate hstate symbol mark
    | cons second rest =>
      have hwalk : graph.insert state mark (symbol :: second :: rest) =
          (graph.successorOrInsert state symbol).1.insert
            (graph.successorOrInsert state symbol).2 mark (second :: rest) := by
        rw [Graph.insert, Graph.insert, List.getLast?_cons_cons, List.dropLast_cons_cons,
          List.foldl_cons]
        cases hlast : (second :: rest).getLast? with
        | none => exact absurd (List.getLast?_eq_none_iff.mp hlast) (List.cons_ne_nil _ _)
        | some last => rfl
      rw [hwalk, successorOrInsert, h.successors_eq]
      cases hnext : machine.successors state symbol with
      | nil =>
        rw [Automaton.extend_of_no_successor mark hnext, h.size_eq]
        refine ih (h.hang hstate symbol none) ?_
        simp [Automaton.stateCount, Automaton.push]
      | cons next others =>
        rw [Automaton.extend_of_successor mark hnext]
        have hmem : next ∈ machine.successors state symbol := hnext ▸ List.mem_cons_self
        exact ih h (Automaton.bounds_of_mem_successors hmem).2

theorem represents_empty : empty.Represents Automaton.empty := by
  refine ⟨rfl, fun state => ?_, fun state symbol => ?_⟩
  · cases state <;> rfl
  · cases state <;> rfl

/-- The graph of a catalog and its automaton have the same states, marks and successors. -/
theorem ofCatalog_represents (catalog : Catalog) :
    (ofCatalog catalog).Represents (Automaton.ofCatalog catalog) := by
  rw [ofCatalog, Automaton.ofCatalog]
  generalize catalog.zipIdx = entries
  have hfold : ∀ {graph : Graph} {machine : Automaton}, graph.Represents machine →
      (entries.foldl (fun graph (entry, order) =>
        graph.insert 0 ⟨entry.kind, order⟩ entry.lexeme.toList) graph).Represents
      (entries.foldl (fun machine (entry, order) =>
        machine.extend 0 ⟨entry.kind, order⟩ entry.lexeme.toList) machine) := by
    induction entries with
    | nil => exact fun h => h
    | cons entry entries ih => exact fun h => ih (.insert _ _ h (Nat.succ_pos _))
  exact hfold represents_empty

/-- No set of successors holds the root. Every other state is in one set of one earlier state, and is
there once. -/
theorem ofCatalog_isTree (catalog : Catalog) :
    let graph := ofCatalog catalog
    (∀ state symbol, 0 ∉ graph.successors state symbol) ∧
    (∀ next, 0 < next → next < graph.states.size →
      ∃! place : Nat × Char, next ∈ graph.successors place.1 place.2) ∧
    ∀ state symbol next, next ∈ graph.successors state symbol →
      (graph.successors state symbol).count next = 1 ∧ state < next ∧ next < graph.states.size := by
  intro graph
  have h : graph.Represents (Automaton.ofCatalog catalog) := ofCatalog_represents catalog
  have htree := (Automaton.grown_ofCatalog catalog).isTree
  simp only [h.successors_eq, h.size_eq]
  exact ⟨htree.root, htree.follows, fun state symbol next hnext =>
    ⟨htree.once state symbol next hnext, htree.later state symbol next hnext⟩⟩

end Graph

end ExprLang
