import ExprLang.Proofs.Automaton.Words

/-!
What registering a lexeme does to an automaton. Seen by words, an automaton is a row of marks for
each word, one for each state of the word. Registering a lexeme changes the rows of its prefixes
only: an empty row in front of the end becomes one state without a mark, and the row of the lexeme
itself takes the mark where it finds a state that is free, or has one of the kind already, and gets
a new state otherwise. In which order lexemes that share a prefix arrive does not matter for this.
-/
set_option autoImplicit false

namespace ExprLang.Automaton

/-- The marks of the states of a word, in the order of their creation. -/
def row (machine : Automaton) (word : List Char) : List (Option Mark) :=
  (machine.statesOf word).map machine.mark?

/-- A row with one more mark: in the first state that is free or of its kind, or in a new state. -/
def markRow (mark : Mark) : List (Option Mark) → List (Option Mark)
  | [] => [some mark]
  | none :: rest => some mark :: rest
  | some other :: rest =>
    if other.kind = mark.kind then some other :: rest else some other :: markRow mark rest

/-- The row of a word once a lexeme is registered. -/
def registerRow (lexeme : List Char) (mark : Mark) (word : List Char) (row : List (Option Mark)) :
    List (Option Mark) :=
  if word = lexeme then markRow mark row
  else if word <+: lexeme ∧ row = [] then [none]
  else row

variable {machine : Automaton}

/-! ## Rows and the steps of building -/

theorem mark?_push_of_lt {state : Nat} (h : state < machine.stateCount) (branch : Branch) :
    (machine.push branch).mark? state = machine.mark? state := by
  cases state with
  | zero => rfl
  | succ index =>
    have hlt : index < machine.branches.size := Nat.lt_of_succ_lt_succ h
    rw [mark?, mark?, push, Array.getElem?_push_lt hlt, Array.getElem?_eq_getElem hlt]

theorem mark?_push_new (machine : Automaton) (branch : Branch) :
    (machine.push branch).mark? machine.stateCount = branch.mark := by
  rw [stateCount, mark?, push, Array.getElem?_push_size, Option.bind_some]

theorem mark?_setMark {state : Nat} (hstate : 0 < state) (hlt : state < machine.stateCount)
    (mark : Mark) (other : Nat) :
    (machine.setMark state mark).mark? other =
      if other = state then (machine.mark? other).or (some mark) else machine.mark? other := by
  obtain ⟨marked, rfl⟩ := Nat.exists_eq_succ_of_ne_zero (Nat.pos_iff_ne_zero.mp hstate)
  cases other with
  | zero => simp [mark?]
  | succ index =>
    rw [mark?, mark?, setMark, Nat.succ_sub_one, Array.getElem?_modify]
    by_cases hindex : index = marked
    · subst hindex
      have hin : index < machine.branches.size := Nat.lt_of_succ_lt_succ hlt
      simp [Array.getElem?_eq_getElem hin]
    · simp [hindex, Ne.symm hindex]

theorem row_push (branch : Branch) {word : List Char}
    (h : machine.words[branch.parent]? = some word) (other : List Char) :
    (machine.push branch).row other = machine.row other ++
      if other = word ++ [branch.symbol] then [branch.mark] else [] := by
  rw [row, statesOf_push branch h, List.map_append]
  congr 1
  · refine List.map_congr_left fun state hstate => ?_
    exact mark?_push_of_lt (lt_stateCount_of_word (mem_statesOf.mp hstate)) branch
  · split
    · rw [List.map_singleton, mark?_push_new]
    · rfl

/-- In a row without repetitions, marking the state that is looked for is `markRow`. -/
theorem markRow_map_of_find? {states : List Nat} {next : Nat} {mark : Mark}
    {marks : Nat → Option Mark} (hnodup : states.Nodup)
    (h : states.find? (fun state => (marks state).all (·.kind == mark.kind)) = some next) :
    states.map (fun state => if state = next then (marks state).or (some mark) else marks state) =
      markRow mark (states.map marks) := by
  induction states with
  | nil => cases h
  | cons state states ih =>
    rw [List.nodup_cons] at hnodup
    rw [List.find?_cons] at h
    split at h
    · rename_i hfits
      cases h
      have hrest : states.map
          (fun other => if other = next then (marks other).or (some mark) else marks other) =
            states.map marks := by
        refine List.map_congr_left fun other hother => if_neg ?_
        exact ne_of_mem_of_not_mem hother hnodup.1
      rw [List.map_cons, List.map_cons, hrest, if_pos rfl]
      cases hmark : marks next with
      | none => rfl
      | some own =>
        rw [hmark, Option.all_some, beq_iff_eq] at hfits
        rw [Option.some_or, markRow, if_pos hfits]
    · rename_i hother
      have hne : state ≠ next := by
        rintro rfl
        exact hnodup.1 (List.mem_of_find?_eq_some h)
      rw [List.map_cons, List.map_cons, ih hnodup.2 h, if_neg hne]
      cases hmark : marks state with
      | none =>
        rw [hmark] at hother
        simp at hother
      | some own =>
        rw [hmark, Option.all_some, beq_eq_false_iff_ne] at hother
        rw [markRow, if_neg hother]

theorem markRow_map_of_find?_none {states : List Nat} {mark : Mark} {marks : Nat → Option Mark}
    (h : states.find? (fun state => (marks state).all (·.kind == mark.kind)) = none) :
    markRow mark (states.map marks) = states.map marks ++ [some mark] := by
  induction states with
  | nil => rfl
  | cons state states ih =>
    rw [List.find?_cons] at h
    split at h
    · cases h
    · rename_i hother
      rw [List.map_cons, List.cons_append, ← ih h]
      cases hmark : marks state with
      | none =>
        rw [hmark] at hother
        simp at hother
      | some own =>
        rw [hmark, Option.all_some, beq_eq_false_iff_ne] at hother
        rw [markRow, if_neg hother]

/-! ## Ending a lexeme -/

theorem Grown.terminate (h : Grown machine) {state : Nat} {word : List Char}
    (htrunk : machine.Trunk state word) (symbol : Char) (mark : Mark) :
    Grown (machine.terminate state symbol mark) := by
  rw [Automaton.terminate]
  split
  · exact .setMark machine _ mark h
  · exact .push machine state word symbol (some mark) h htrunk

theorem row_terminate (h : Grown machine) {state : Nat} {word : List Char}
    (htrunk : machine.Trunk state word) (symbol : Char) (mark : Mark) (other : List Char) :
    (machine.terminate state symbol mark).row other =
      if other = word ++ [symbol] then markRow mark (machine.row other) else machine.row other := by
  rw [Automaton.terminate, h.successors_trunk htrunk]
  split
  · rename_i next hnext
    have hmem := mem_statesOf.mp (List.mem_of_find?_eq_some hnext)
    have hpos : 0 < next := by
      refine Nat.pos_of_ne_zero fun hzero => ?_
      rw [hzero, h.word_root, Option.some.injEq] at hmem
      simp at hmem
    have hmarks := mark?_setMark hpos (lt_stateCount_of_word hmem) mark
    rw [row, statesOf_setMark, List.map_congr_left fun state _ => hmarks state]
    split
    · rename_i hother
      subst hother
      exact markRow_map_of_find? (statesOf_nodup machine _) hnext
    · rename_i hother
      refine List.map_congr_left fun state hstate => if_neg ?_
      rintro rfl
      have hword := mem_statesOf.mp hstate
      rw [hmem, Option.some.injEq] at hword
      exact hother hword.symm
  · rename_i hnone
    rw [row_push ⟨state, symbol, some mark⟩ htrunk.word_eq]
    split
    · rename_i hother
      subst hother
      exact (markRow_map_of_find?_none hnone).symm
    · exact List.append_nil _

/-! ## Registering a lexeme -/

theorem extend_of_successor {machine : Automaton} {state next symbol second rest others}
    (mark : Mark) (h : machine.successors state symbol = next :: others) :
    machine.extend state mark (symbol :: second :: rest) =
      machine.extend next mark (second :: rest) := by
  rw [extend, h]
  simp

theorem extend_of_no_successor {machine : Automaton} {state symbol second rest}
    (mark : Mark) (h : machine.successors state symbol = []) :
    machine.extend state mark (symbol :: second :: rest) =
      (machine.push ⟨state, symbol, none⟩).extend machine.stateCount mark (second :: rest) := by
  rw [extend, h]
  simp

/-- The row of a word once the rest of a lexeme is registered below a word of the given length. -/
def registerBelow (depth : Nat) (lexeme : List Char) (mark : Mark) (word : List Char)
    (row : List (Option Mark)) : List (Option Mark) :=
  if word.length ≤ depth then row else registerRow lexeme mark word row

/-- Of the words that are one longer only the prefix of the lexeme is changed. -/
theorem registerBelow_eq_succ {lexeme inner : List Char} {depth : Nat} (hinner : inner <+: lexeme)
    (hlt : inner.length < lexeme.length) (hdepth : inner.length = depth + 1) (mark : Mark)
    (word : List Char) (row : List (Option Mark)) :
    registerBelow depth lexeme mark word row =
      registerBelow (depth + 1) lexeme mark word
        (if word = inner ∧ row = [] then [none] else row) := by
  rcases Nat.lt_trichotomy word.length (depth + 1) with hshort | hlength | hlong
  · have hother : word ≠ inner := fun heq => by
      rw [heq] at hshort
      omega
    rw [registerBelow, registerBelow, if_pos (by omega), if_pos (by omega), if_neg fun h => hother h.1]
  · have hother : word ≠ lexeme := fun heq => by
      rw [heq] at hlength
      omega
    have hprefix : word <+: lexeme ↔ word = inner := by
      have hsame : word.length = inner.length := hlength.trans hdepth.symm
      constructor
      · intro h
        exact (List.prefix_of_prefix_length_le h hinner hsame.le).eq_of_length hsame
      · rintro rfl
        exact hinner
    rw [registerBelow, registerBelow, if_neg (by omega), if_pos (by omega)]
    simp only [registerRow, if_neg hother, hprefix]
  · have hother : word ≠ inner := fun heq => by
      rw [heq] at hlong
      omega
    rw [registerBelow, registerBelow, if_neg (by omega), if_neg (by omega),
      if_neg fun h => hother h.1]

theorem row_extend_singleton (h : Grown machine) {state : Nat} {word : List Char}
    (htrunk : machine.Trunk state word) (symbol : Char) (mark : Mark) (other : List Char) :
    (machine.extend state mark [symbol]).row other =
      registerBelow word.length (word ++ [symbol]) mark other (machine.row other) := by
  rw [extend, row_terminate h htrunk, registerBelow]
  by_cases hshort : other.length ≤ word.length
  · have hother : other ≠ word ++ [symbol] := by
      rintro rfl
      rw [List.length_append, List.length_singleton] at hshort
      omega
    rw [if_pos hshort, if_neg hother]
  · have hprefix : ¬ other <+: word := fun h => hshort h.length_le
    rw [if_neg hshort, registerRow]
    split
    · rfl
    · rename_i hother
      rw [if_neg fun hboth => (List.prefix_concat_iff.mp hboth.1).elim hother hprefix]

/-- Registering the rest of a lexeme below the trunk of its beginning changes the rows of the longer
prefixes of the lexeme, and no others. -/
theorem extend_grown_and_row (mark : Mark) (symbol : Char) (rest : List Char) :
    ∀ {machine : Automaton} {state : Nat} {word : List Char}, Grown machine →
      machine.Trunk state word →
      Grown (machine.extend state mark (symbol :: rest)) ∧
      ∀ other, (machine.extend state mark (symbol :: rest)).row other =
        registerBelow word.length (word ++ symbol :: rest) mark other (machine.row other) := by
  induction rest generalizing symbol with
  | nil =>
    intro machine state word h htrunk
    exact ⟨h.terminate htrunk symbol mark, row_extend_singleton h htrunk symbol mark⟩
  | cons second rest ih =>
    intro machine state word h htrunk
    have hsuccessors := h.successors_trunk htrunk symbol
    have hlexeme : word ++ symbol :: second :: rest = word ++ [symbol] ++ second :: rest := by simp
    have hlength : (word ++ [symbol]).length = word.length + 1 := by simp
    have hstep : ∀ other row, registerBelow word.length (word ++ symbol :: second :: rest) mark other
        row = registerBelow (word ++ [symbol]).length (word ++ [symbol] ++ second :: rest) mark other
          (if other = word ++ [symbol] ∧ row = [] then [none] else row) := by
      intro other row
      rw [hlexeme, hlength]
      exact registerBelow_eq_succ (List.prefix_append _ _) (by simp) hlength mark other row
    cases hstates : machine.statesOf (word ++ [symbol]) with
    | cons next others =>
      -- There is a trunk for the longer beginning: its row is not empty, and nothing is added.
      obtain ⟨hgrown, hrows⟩ := ih second h (trunk_of_statesOf hstates)
      rw [extend_of_successor mark (hsuccessors.trans hstates)]
      refine ⟨hgrown, fun other => ?_⟩
      have hrow : ¬ (other = word ++ [symbol] ∧ machine.row other = []) := by
        rintro ⟨rfl, hempty⟩
        simp [row, hstates] at hempty
      rw [hrows, hstep, if_neg hrow]
    | nil =>
      have hempty : machine.row (word ++ [symbol]) = [] := by simp [row, hstates]
      have hpush := row_push ⟨state, symbol, none⟩ htrunk.word_eq
      have hnext : (machine.push ⟨state, symbol, none⟩).Trunk machine.stateCount
          (word ++ [symbol]) := by
        have hnew := statesOf_push ⟨state, symbol, none⟩ htrunk.word_eq (word ++ [symbol])
        rw [hstates, if_pos rfl, List.nil_append] at hnew
        exact trunk_of_statesOf hnew
      obtain ⟨hgrown, hrows⟩ := ih second (.push machine state word symbol none h htrunk) hnext
      rw [extend_of_no_successor mark (hsuccessors.trans hstates)]
      refine ⟨hgrown, fun other => ?_⟩
      rw [hrows, hstep, hpush]
      by_cases hother : other = word ++ [symbol]
      · simp [hother, hempty]
      · simp [hother]

end ExprLang.Automaton
