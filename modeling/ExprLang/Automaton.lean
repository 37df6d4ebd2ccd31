import ExprLang.Catalog

/-!
The automaton that finds lexemes of a catalog. It is a tree whose states are numbered in the order
in which they were made, the root being 0. Every other state is a branch: it hangs from one state by
one character, and may carry a mark with the kind of the lexeme that ends there and the place of
that lexeme in the catalog. One state can have several successors by the same character, since a
lexeme that is registered again with another kind ends in a sibling of the state where it ended
before. So reading goes on with a set of states, the frontier, and the longest lexeme at the start
of a stream is the last mark seen before the frontier is empty.
-/
set_option autoImplicit false

namespace ExprLang

/-- What a state that ends a lexeme stands for; of two marks the one of the lower order counts. -/
structure Mark where
  kind : Kind
  order : Nat
deriving DecidableEq, Repr

/-- A state other than the root. -/
structure Branch where
  parent : Nat
  symbol : Char
  mark : Option Mark
deriving DecidableEq, Repr

/-- The branches in the order of their creation; the branch at index `i` is the state `i + 1`. -/
structure Automaton where
  branches : Array Branch
deriving DecidableEq, Repr

/-- A lexeme found at the start of a stream. -/
structure Match where
  kind : Kind
  length : Nat
deriving DecidableEq, Repr

namespace Automaton

/-- The automaton of an empty catalog. -/
def empty : Automaton := ⟨#[]⟩

/-- How many states there are, the root included. -/
def stateCount (machine : Automaton) : Nat := machine.branches.size + 1

/-- The mark of a state. -/
def mark? (machine : Automaton) : Nat → Option Mark
  | 0 => none
  | index + 1 => machine.branches[index]?.bind Branch.mark

/-- The states that follow a state by a character, in the order of their creation. -/
def successors (machine : Automaton) (state : Nat) (symbol : Char) : List Nat :=
  (List.range machine.branches.size).filterMap fun index =>
    machine.branches[index]?.bind fun branch =>
      if branch.parent = state ∧ branch.symbol = symbol then some (index + 1) else none

/-! ## Building -/

/-- Adds a state. -/
def push (machine : Automaton) (branch : Branch) : Automaton :=
  ⟨machine.branches.push branch⟩

/-- Puts a mark on a branch that has none. -/
def setMark (machine : Automaton) (state : Nat) (mark : Mark) : Automaton :=
  ⟨machine.branches.modify (state - 1) fun branch =>
    { branch with mark := branch.mark.or (some mark) }⟩

/-- Ends a lexeme with its last character: in the first successor that is free or stands for the
same kind already, otherwise in a new one. -/
def terminate (machine : Automaton) (state : Nat) (symbol : Char) (mark : Mark) : Automaton :=
  let reusable := (machine.successors state symbol).find? fun next =>
    (machine.mark? next).all (·.kind == mark.kind)
  match reusable with
  | some next => machine.setMark next mark
  | none => machine.push ⟨state, symbol, some mark⟩

/-- Adds a lexeme below a state: all characters but the last follow the first successor there is, or
a new state. The empty lexeme adds nothing. -/
def extend (machine : Automaton) (state : Nat) (mark : Mark) : List Char → Automaton
  | [] => machine
  | [symbol] => machine.terminate state symbol mark
  | symbol :: rest =>
    match machine.successors state symbol with
    | next :: _ => machine.extend next mark rest
    | [] => (machine.push ⟨state, symbol, none⟩).extend machine.stateCount mark rest

/-- The automaton of a catalog. -/
def ofCatalog (catalog : Catalog) : Automaton :=
  catalog.zipIdx.foldl
    (fun machine (entry, order) => machine.extend 0 ⟨entry.kind, order⟩ entry.lexeme.toList) empty

/-- The automaton of the language. -/
def standard : Automaton := ofCatalog Catalog.standard

/-! ## Reading -/

/-- The frontier behind one more character. -/
def follow (machine : Automaton) (frontier : List Nat) (symbol : Char) : List Nat :=
  frontier.flatMap (machine.successors · symbol)

/-- The frontier behind a word, from the root. -/
def reach (machine : Automaton) (word : List Char) : List Nat :=
  word.foldl machine.follow [0]

/-- The mark of lowest order in a frontier. -/
def firstMark? (machine : Automaton) (frontier : List Nat) : Option Mark :=
  (frontier.filterMap machine.mark?).foldl (fun found mark =>
    match found with
    | some best => if mark.order < best.order then some mark else some best
    | none => some mark) none

/-- Reads on from a frontier that was reached behind `depth` characters, `found` being the longest
match so far. -/
def longestFrom (machine : Automaton) :
    List Nat → Nat → Option Match → List Char → Option Match
  | _, _, found, [] => found
  | frontier, depth, found, symbol :: rest =>
    match machine.follow frontier symbol with
    | [] => found
    | next =>
      let here := (machine.firstMark? next).map fun mark => ⟨mark.kind, depth + 1⟩
      machine.longestFrom next (depth + 1) (here.or found) rest

/-- The longest lexeme at the start of a stream; of several kinds the one registered first. -/
def longest? (machine : Automaton) (stream : List Char) : Option Match :=
  machine.longestFrom [0] 0 none stream

theorem longestFrom_bounds (machine : Automaton) (stream : List Char) :
    ∀ (frontier : List Nat) (depth : Nat) (found : Option Match) (result : Match),
      (∀ m ∈ found, 0 < m.length ∧ m.length ≤ depth) →
      machine.longestFrom frontier depth found stream = some result →
      0 < result.length ∧ result.length ≤ depth + stream.length := by
  induction stream with
  | nil =>
    intro frontier depth found result hfound h
    exact hfound result h
  | cons symbol rest ih =>
    intro frontier depth found result hfound h
    rw [longestFrom] at h
    split at h
    · have := hfound result h
      simp only [List.length_cons]
      omega
    · have step := ih _ (depth + 1) _ result (fun m hm => by
        cases hmark : machine.firstMark? (machine.follow frontier symbol) with
        | none =>
          rw [hmark] at hm
          have := hfound m hm
          omega
        | some mark =>
          rw [hmark] at hm
          cases hm
          exact ⟨Nat.succ_pos depth, Nat.le_refl _⟩) h
      simp only [List.length_cons]
      omega

/-- A match is not empty and lies within the stream. -/
theorem longest?_bounds {machine : Automaton} {stream : List Char} {found : Match}
    (h : machine.longest? stream = some found) :
    0 < found.length ∧ found.length ≤ stream.length := by
  have := longestFrom_bounds machine stream [0] 0 none found (by simp) h
  omega

/-! ## Listing -/

/-- The characters that lead on from a state with the states they lead to, by code point. -/
def exits (machine : Automaton) (state : Nat) : List (Char × List Nat) :=
  let symbols := (machine.branches.toList.filter (·.parent = state)).map Branch.symbol
  (symbols.eraseDups.mergeSort fun a b => decide (a.toNat ≤ b.toNat)).map fun symbol =>
    (symbol, machine.successors state symbol)

end Automaton

end ExprLang
