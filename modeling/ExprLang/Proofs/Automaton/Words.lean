import ExprLang.Automaton
import Mathlib.Data.List.Induction
import Mathlib.Data.List.Range
import Mathlib.Data.List.Sort

/-!
The words of an automaton. Every state stands for one word: the root for the empty one, a branch for
that of the state it hangs from with one character more. Of the states of one word only the first,
its trunk, ever has successors, so the frontier behind a word holds exactly the states of the word,
in the order of their creation. `Grown` says that an automaton was made by the two steps of
building; what is true of all such automata is proved by induction on those steps.
-/
set_option autoImplicit false

namespace ExprLang.Automaton

/-- The words with that of one more branch. -/
def withWord (words : List (List Char)) (branch : Branch) : List (List Char) :=
  words ++ [words.getD branch.parent [] ++ [branch.symbol]]

/-- The words of the states, in the order of the states. -/
def words (machine : Automaton) : List (List Char) :=
  machine.branches.toList.foldl withWord [[]]

/-- The states of a word, in the order of their creation. -/
def statesOf (machine : Automaton) (word : List Char) : List Nat :=
  (List.range machine.stateCount).filter fun state => machine.words[state]? = some word

/-- The state is the first one of a word. -/
structure Trunk (machine : Automaton) (state : Nat) (word : List Char) : Prop where
  word_eq : machine.words[state]? = some word
  first : ∀ earlier < state, machine.words[earlier]? ≠ some word

/-- The automaton was made by hanging branches on trunks and by marking. -/
inductive Grown : Automaton → Prop
  | empty : Grown empty
  | push (machine : Automaton) (parent : Nat) (word : List Char) (symbol : Char)
      (mark : Option Mark) (hmachine : Grown machine) (hparent : machine.Trunk parent word) :
      Grown (machine.push ⟨parent, symbol, mark⟩)
  | setMark (machine : Automaton) (state : Nat) (mark : Mark) (hmachine : Grown machine) :
      Grown (machine.setMark state mark)

variable {machine : Automaton}

/-! ## Words and the steps of building -/

theorem words_push (machine : Automaton) (branch : Branch) :
    (machine.push branch).words =
      machine.words ++ [machine.words.getD branch.parent [] ++ [branch.symbol]] := by
  simp [words, push, withWord]

theorem words_setMark (machine : Automaton) (state : Nat) (mark : Mark) :
    (machine.setMark state mark).words = machine.words := by
  have hmodify : ∀ (branches : List Branch) (index : Nat) (start : List (List Char)),
      (branches.modify index fun branch => { branch with mark := branch.mark.or (some mark) }).foldl
          withWord start = branches.foldl withWord start := by
    intro branches
    induction branches with
    | nil => intro index start; cases index <;> rfl
    | cons branch branches ih =>
      intro index start
      cases index with
      | zero => rfl
      | succ index => exact ih index _
  unfold words setMark
  rw [Array.toList_modify]
  exact hmodify _ _ _

theorem length_words (machine : Automaton) : machine.words.length = machine.stateCount := by
  have hfold : ∀ (branches : List Branch) (start : List (List Char)),
      (branches.foldl withWord start).length = start.length + branches.length := by
    intro branches
    induction branches with
    | nil => intro start; rfl
    | cons branch branches ih =>
      intro start
      rw [List.foldl_cons, ih]
      simp only [withWord, List.length_append, List.length_cons, List.length_nil]
      omega
  rw [words, hfold, stateCount, Array.length_toList]
  exact Nat.add_comm _ _

theorem lt_stateCount_of_word {state : Nat} {word : List Char}
    (h : machine.words[state]? = some word) : state < machine.stateCount := by
  rw [← length_words]
  exact (List.getElem?_eq_some_iff.mp h).1

theorem word_push_of_lt {state : Nat} (h : state < machine.stateCount) (branch : Branch) :
    (machine.push branch).words[state]? = machine.words[state]? := by
  rw [words_push, List.getElem?_append_left (by rw [length_words]; exact h)]

theorem word_push_new {word : List Char} (machine : Automaton) (branch : Branch)
    (h : machine.words[branch.parent]? = some word) :
    (machine.push branch).words[machine.stateCount]? = some (word ++ [branch.symbol]) := by
  rw [words_push, ← length_words, List.getElem?_concat_length, List.getD_eq_getElem?_getD, h]
  rfl

theorem Trunk.push {state : Nat} {word : List Char} (h : machine.Trunk state word)
    (branch : Branch) : (machine.push branch).Trunk state word := by
  have hlt := lt_stateCount_of_word h.word_eq
  refine ⟨by rw [word_push_of_lt hlt]; exact h.word_eq, fun earlier hearlier => ?_⟩
  rw [word_push_of_lt (Nat.lt_trans hearlier hlt)]
  exact h.first earlier hearlier

theorem Trunk.setMark {state : Nat} {word : List Char} (h : machine.Trunk state word)
    (marked : Nat) (mark : Mark) : (machine.setMark marked mark).Trunk state word := by
  have hwords := words_setMark machine marked mark
  exact ⟨by rw [hwords]; exact h.word_eq, by rw [hwords]; exact h.first⟩

theorem Trunk.unique {first second : Nat} {word : List Char} (h : machine.Trunk first word)
    (h' : machine.Trunk second word) : first = second := by
  rcases Nat.lt_trichotomy first second with hlt | heq | hgt
  · exact absurd h.word_eq (h'.first first hlt)
  · exact heq
  · exact absurd h'.word_eq (h.first second hgt)

/-! ## Branches -/

theorem branch_push {index : Nat} {branch added : Branch}
    (h : (machine.push added).branches[index]? = some branch) :
    machine.branches[index]? = some branch ∨ index = machine.branches.size ∧ branch = added := by
  rw [push, Array.getElem?_push] at h
  split at h
  · rename_i hindex
    exact Or.inr ⟨hindex, (Option.some.inj h).symm⟩
  · exact Or.inl h

theorem branch_setMark {index state : Nat} {branch : Branch} {mark : Mark}
    (h : (machine.setMark state mark).branches[index]? = some branch) :
    ∃ before, machine.branches[index]? = some before ∧ before.parent = branch.parent ∧
      before.symbol = branch.symbol := by
  rw [setMark, Array.getElem?_modify] at h
  split at h
  · obtain ⟨before, hbefore, rfl⟩ := Option.map_eq_some_iff.mp h
    exact ⟨before, hbefore, rfl, rfl⟩
  · exact ⟨branch, h, rfl, rfl⟩

/-- A branch hangs from the trunk of a word and has one character more. -/
theorem Grown.branch (h : Grown machine) :
    ∀ {index : Nat} {branch : Branch}, machine.branches[index]? = some branch →
      ∃ word, machine.Trunk branch.parent word ∧
        machine.words[index + 1]? = some (word ++ [branch.symbol]) := by
  induction h with
  | empty => intro index branch hbranch; simp [Automaton.empty] at hbranch
  | push machine parent word symbol mark _ hparent ih =>
    intro index branch hbranch
    rcases branch_push hbranch with hold | ⟨rfl, rfl⟩
    · obtain ⟨before, htrunk, hword⟩ := ih hold
      refine ⟨before, htrunk.push _, ?_⟩
      rw [word_push_of_lt (lt_stateCount_of_word hword)]
      exact hword
    · exact ⟨word, hparent.push _, word_push_new machine ⟨parent, symbol, mark⟩ hparent.word_eq⟩
  | setMark machine state mark _ ih =>
    intro index branch hbranch
    obtain ⟨before, hbefore, hparent, hsymbol⟩ := branch_setMark hbranch
    obtain ⟨word, htrunk, hword⟩ := ih hbefore
    rw [hparent] at htrunk
    rw [hsymbol] at hword
    exact ⟨word, htrunk.setMark state mark, by rw [words_setMark]; exact hword⟩

/-! ## States of a word -/

theorem mem_statesOf {state : Nat} {word : List Char} :
    state ∈ machine.statesOf word ↔ machine.words[state]? = some word := by
  rw [statesOf, List.mem_filter, List.mem_range, decide_eq_true_eq]
  exact ⟨fun h => h.2, fun h => ⟨lt_stateCount_of_word h, h⟩⟩

theorem statesOf_nodup (machine : Automaton) (word : List Char) : (machine.statesOf word).Nodup :=
  List.nodup_range.filter _

theorem statesOf_sorted (machine : Automaton) (word : List Char) :
    (machine.statesOf word).Pairwise (· < ·) :=
  List.pairwise_lt_range.filter _

/-- The trunk comes first among the states of a word. -/
theorem trunk_of_statesOf {word : List Char} {trunk : Nat} {others : List Nat}
    (h : machine.statesOf word = trunk :: others) : machine.Trunk trunk word := by
  have hsorted := statesOf_sorted machine word
  rw [h, List.pairwise_cons] at hsorted
  refine ⟨mem_statesOf.mp (h ▸ List.mem_cons_self), fun earlier hearlier hword => ?_⟩
  have hmem := mem_statesOf.mpr hword
  rw [h, List.mem_cons] at hmem
  rcases hmem with rfl | hin
  · exact Nat.lt_irrefl _ hearlier
  · exact Nat.lt_asymm hearlier (hsorted.1 earlier hin)

theorem statesOf_push (branch : Branch) {word : List Char}
    (h : machine.words[branch.parent]? = some word) (other : List Char) :
    (machine.push branch).statesOf other = machine.statesOf other ++
      if other = word ++ [branch.symbol] then [machine.stateCount] else [] := by
  have hcount : (machine.push branch).stateCount = machine.stateCount + 1 := by
    simp [stateCount, push]
  have hold : (List.range machine.stateCount).filter
      (fun state => (machine.push branch).words[state]? = some other) = machine.statesOf other := by
    refine List.filter_congr fun state hstate => ?_
    rw [word_push_of_lt (List.mem_range.mp hstate)]
  have hnew := word_push_new machine branch h
  rw [statesOf, hcount, List.range_succ, List.filter_append, hold, List.filter_singleton, hnew]
  by_cases hother : other = word ++ [branch.symbol]
  · simp [hother]
  · simp [hother, Ne.symm hother]

theorem statesOf_setMark (machine : Automaton) (state : Nat) (mark : Mark) (word : List Char) :
    (machine.setMark state mark).statesOf word = machine.statesOf word := by
  have hcount : (machine.setMark state mark).stateCount = machine.stateCount := by
    simp [stateCount, setMark]
  rw [statesOf, statesOf, hcount, words_setMark]

theorem Grown.word_root (h : Grown machine) : machine.words[0]? = some [] := by
  induction h with
  | empty => rfl
  | push machine parent word symbol mark _ _ ih =>
    rw [word_push_of_lt (Nat.succ_pos _), ih]
  | setMark machine state mark _ ih => rw [words_setMark, ih]

theorem Grown.word_eq_nil_iff (h : Grown machine) {state : Nat} :
    machine.words[state]? = some [] ↔ state = 0 := by
  refine ⟨fun hword => ?_, fun hstate => hstate ▸ h.word_root⟩
  cases state with
  | zero => rfl
  | succ index =>
    have hlt : index < machine.branches.size := Nat.lt_of_succ_lt_succ (lt_stateCount_of_word hword)
    obtain ⟨before, _, hgrown⟩ := h.branch (Array.getElem?_eq_getElem hlt)
    rw [hword, Option.some.injEq] at hgrown
    simp at hgrown

theorem Grown.trunk_root (h : Grown machine) : machine.Trunk 0 [] :=
  ⟨h.word_root, fun _ hearlier => absurd hearlier (Nat.not_lt_zero _)⟩

theorem Grown.parent_of_word (h : Grown machine) {state : Nat} {word : List Char} {symbol : Char}
    (hword : machine.words[state]? = some (word ++ [symbol])) :
    ∃ index branch, state = index + 1 ∧ machine.branches[index]? = some branch ∧
      branch.symbol = symbol ∧ machine.Trunk branch.parent word := by
  cases state with
  | zero =>
    rw [h.word_root, Option.some.injEq] at hword
    simp at hword
  | succ index =>
    have hlt : index < machine.branches.size := Nat.lt_of_succ_lt_succ (lt_stateCount_of_word hword)
    have hbranch : machine.branches[index]? = some machine.branches[index] :=
      Array.getElem?_eq_getElem hlt
    obtain ⟨before, htrunk, hgrown⟩ := h.branch hbranch
    rw [hgrown, Option.some.injEq] at hword
    obtain ⟨rfl, hsymbol⟩ := List.append_inj' hword rfl
    exact ⟨index, _, rfl, hbranch, List.singleton_inj.mp hsymbol, htrunk⟩

/-! ## Reading -/

theorem mem_successors {state next : Nat} {symbol : Char} :
    next ∈ machine.successors state symbol ↔
      ∃ index branch, next = index + 1 ∧ machine.branches[index]? = some branch ∧
        branch.parent = state ∧ branch.symbol = symbol := by
  rw [successors, List.mem_filterMap]
  constructor
  · rintro ⟨index, _, hnext⟩
    obtain ⟨branch, hbranch, hnext⟩ := Option.bind_eq_some_iff.mp hnext
    split at hnext
    · rename_i hboth
      exact ⟨index, branch, (Option.some.inj hnext).symm, hbranch, hboth.1, hboth.2⟩
    · cases hnext
  · rintro ⟨index, branch, rfl, hbranch, rfl, rfl⟩
    refine ⟨index, List.mem_range.mpr (Array.getElem?_eq_some_iff.mp hbranch).1, ?_⟩
    rw [hbranch, Option.bind_some, if_pos ⟨rfl, rfl⟩]

theorem successors_sorted (machine : Automaton) (state : Nat) (symbol : Char) :
    (machine.successors state symbol).Pairwise (· < ·) := by
  refine List.Pairwise.filterMap _ ?_ List.pairwise_lt_range
  intro first second hlt next hnext other hother
  have hindex : ∀ {index next : Nat}, (machine.branches[index]?.bind fun branch =>
      if branch.parent = state ∧ branch.symbol = symbol then some (index + 1) else none) = some next →
      next = index + 1 := by
    intro index next h
    obtain ⟨branch, _, h⟩ := Option.bind_eq_some_iff.mp h
    split at h
    · exact (Option.some.inj h).symm
    · cases h
  rw [hindex hnext, hindex hother]
  exact Nat.succ_lt_succ hlt

theorem successors_ne_nil_iff {state : Nat} {symbol : Char} : machine.successors state symbol ≠ [] ↔
    ∃ branch ∈ machine.branches.toList, branch.parent = state ∧ branch.symbol = symbol := by
  constructor
  · intro hne
    obtain ⟨next, hnext⟩ := List.exists_mem_of_ne_nil _ hne
    obtain ⟨index, branch, _, hbranch, hboth⟩ := mem_successors.mp hnext
    exact ⟨branch, (Array.mem_of_getElem? hbranch).val, hboth⟩
  · rintro ⟨branch, hmem, hboth⟩
    obtain ⟨index, hbranch⟩ := Array.getElem?_of_mem (Array.mem_toList_iff.mp hmem)
    exact List.ne_nil_of_mem (mem_successors.mpr ⟨index, branch, rfl, hbranch, hboth⟩)

/-- The successors of a trunk are the states of the word with one character more. -/
theorem Grown.successors_trunk (h : Grown machine) {state : Nat} {word : List Char}
    (htrunk : machine.Trunk state word) (symbol : Char) :
    machine.successors state symbol = machine.statesOf (word ++ [symbol]) := by
  refine (successors_sorted machine state symbol).eq_of_mem_iff (statesOf_sorted machine _)
    fun next => ?_
  rw [mem_successors, mem_statesOf]
  constructor
  · rintro ⟨index, branch, rfl, hbranch, rfl, rfl⟩
    obtain ⟨before, hbefore, hword⟩ := h.branch hbranch
    have heq := htrunk.word_eq
    rw [hbefore.word_eq, Option.some.injEq] at heq
    rw [← heq]
    exact hword
  · intro hword
    obtain ⟨index, branch, rfl, hbranch, hsymbol, hparent⟩ := h.parent_of_word hword
    exact ⟨index, branch, rfl, hbranch, hparent.unique htrunk, hsymbol⟩

theorem Grown.successors_eq_nil (h : Grown machine) {state : Nat} {word : List Char}
    (hword : machine.words[state]? = some word) (hother : ¬ machine.Trunk state word)
    (symbol : Char) : machine.successors state symbol = [] := by
  refine List.eq_nil_iff_forall_not_mem.mpr fun next hnext => ?_
  obtain ⟨index, branch, rfl, hbranch, rfl, rfl⟩ := mem_successors.mp hnext
  obtain ⟨before, htrunk, _⟩ := h.branch hbranch
  have heq := htrunk.word_eq
  rw [hword, Option.some.injEq] at heq
  exact hother (heq ▸ htrunk)

theorem Grown.follow_statesOf (h : Grown machine) (word : List Char) (symbol : Char) :
    machine.follow (machine.statesOf word) symbol = machine.statesOf (word ++ [symbol]) := by
  cases hstates : machine.statesOf word with
  | nil =>
    rw [follow, List.flatMap_nil]
    refine (List.eq_nil_iff_forall_not_mem.mpr fun next hnext => ?_).symm
    obtain ⟨_, branch, _, _, _, hparent⟩ := h.parent_of_word (mem_statesOf.mp hnext)
    have hmem := mem_statesOf.mpr hparent.word_eq
    rw [hstates] at hmem
    cases hmem
  | cons trunk others =>
    have htrunk := trunk_of_statesOf hstates
    have hsorted := statesOf_sorted machine word
    rw [hstates, List.pairwise_cons] at hsorted
    have hothers : others.flatMap (machine.successors · symbol) = [] := by
      refine List.flatMap_eq_nil_iff.mpr fun state hstate => ?_
      have hword := mem_statesOf.mp (hstates ▸ List.mem_cons_of_mem trunk hstate)
      refine h.successors_eq_nil hword (fun hfirst => ?_) symbol
      exact hfirst.first trunk (hsorted.1 state hstate) htrunk.word_eq
    rw [follow, List.flatMap_cons, hothers, List.append_nil, h.successors_trunk htrunk]

/-- The frontier behind a word holds the states of the word. -/
theorem Grown.reach_eq (h : Grown machine) (word : List Char) :
    machine.reach word = machine.statesOf word := by
  induction word using List.reverseRecOn with
  | nil =>
    refine (List.pairwise_singleton (· < ·) 0).eq_of_mem_iff (statesOf_sorted machine [])
      fun state => ?_
    rw [List.mem_singleton, mem_statesOf, h.word_eq_nil_iff]
  | append_singleton word symbol ih =>
    rw [reach, List.foldl_append, List.foldl_cons, List.foldl_nil]
    rw [reach] at ih
    rw [ih, h.follow_statesOf]

/-! ## Listing -/

theorem nodup_eraseDups (symbols : List Char) : symbols.eraseDups.Nodup := by
  match symbols with
  | [] => simp
  | symbol :: rest =>
    rw [List.eraseDups_cons, List.nodup_cons]
    exact ⟨by simp, nodup_eraseDups _⟩
termination_by symbols.length
decreasing_by exact Nat.lt_succ_of_le (List.length_filter_le _ _)

/-- A state is listed with its successors by every character that leads on, and by no other. -/
theorem mem_exits {state : Nat} {symbol : Char} {states : List Nat} :
    (symbol, states) ∈ machine.exits state ↔
      states ≠ [] ∧ states = machine.successors state symbol := by
  have hsymbols : ∀ {c : Char},
      c ∈ (machine.branches.toList.filter (·.parent = state)).map Branch.symbol ↔
        machine.successors state c ≠ [] := by
    intro c
    simp [successors_ne_nil_iff, and_assoc]
  simp only [exits, List.mem_map, List.mem_mergeSort, List.mem_eraseDups, hsymbols, Prod.mk.injEq]
  constructor
  · rintro ⟨c, hne, rfl, rfl⟩
    exact ⟨hne, rfl⟩
  · rintro ⟨hne, rfl⟩
    exact ⟨symbol, hne, rfl, rfl⟩

/-- The characters are listed by code point, each once. -/
theorem exits_sorted (machine : Automaton) (state : Nat) :
    (machine.exits state).Pairwise fun first second => first.1.toNat < second.1.toNat := by
  rw [exits, List.pairwise_map]
  generalize (machine.branches.toList.filter (·.parent = state)).map Branch.symbol = symbols
  have hsorted : (symbols.eraseDups.mergeSort fun a b => decide (a.toNat ≤ b.toNat)).Pairwise
      fun a b => decide (a.toNat ≤ b.toNat) = true := by
    refine List.pairwise_mergeSort (fun a b c h h' => ?_) (fun a b => ?_) _
    · exact decide_eq_true (Nat.le_trans (of_decide_eq_true h) (of_decide_eq_true h'))
    · simpa using Nat.le_total a.toNat b.toNat
  have hnodup := (List.mergeSort_perm symbols.eraseDups fun a b =>
    decide (a.toNat ≤ b.toNat)).nodup_iff.mpr (nodup_eraseDups symbols)
  refine hsorted.imp₂ (fun a b hle hne => ?_) hnodup
  exact Nat.lt_of_le_of_ne (of_decide_eq_true hle) fun heq => hne (Char.toNat_inj.mp heq)

end ExprLang.Automaton
