import ExprLang.Proofs.Automaton.Frontiers
import Mathlib.Algebra.BigOperators.Group.Finset.Basic
import Mathlib.Algebra.Order.BigOperators.Group.Finset

/-!
The shape of the automaton of a catalog. It is a tree: the root follows no state, and every other
state follows one earlier state by one character. All of this but that the state is an earlier one
is true of every automaton, grown or not, because a branch names the one state it hangs from; with
sets of successors it is a property of building, which `Proofs.Automaton.Graph` proves of them.
The rest comes from building. The states that follow a state by a character belong to one word, and
only the first of them can be free or go on, since a longer lexeme always passes the trunk; the
others are leaves, one for each further kind of the same lexeme, in the order of registration. So
the states can be counted from the catalog: one for the root, and for each beginning of a lexeme as
many as it has kinds, but at least one.
-/
set_option autoImplicit false

namespace ExprLang

/-- The distinct beginnings of the lexemes, the empty one left out. -/
def Catalog.beginnings (catalog : Catalog) : Finset String :=
  (catalog.flatMap fun entry => entry.lexeme.toList.inits.map String.ofList).toFinset.erase ""

namespace Automaton

/-- Every state but the root follows one state, an earlier one, by one character, and is listed there
once. Only `later` depends on how the automaton was built. -/
structure IsTree (machine : Automaton) : Prop where
  root : ∀ state symbol, 0 ∉ machine.successors state symbol
  follows : ∀ next, 0 < next → next < machine.stateCount →
    ∃! place : Nat × Char, next ∈ machine.successors place.1 place.2
  once : ∀ state symbol next, next ∈ machine.successors state symbol →
    (machine.successors state symbol).count next = 1
  later : ∀ state symbol next, next ∈ machine.successors state symbol →
    state < next ∧ next < machine.stateCount

/-- Only the first of these states can be free or go on; the marks differ in kind and rise in
order. -/
structure LeavesBehindFirst (machine : Automaton) (states : List Nat) : Prop where
  marked : ∀ state ∈ states.tail, machine.mark? state ≠ none
  leaf : ∀ state ∈ states.tail, ∀ symbol, machine.successors state symbol = []
  kinds : ((states.filterMap machine.mark?).map Mark.kind).Nodup
  orders : (states.filterMap machine.mark?).Pairwise (·.order < ·.order)

/-- The word of a state as a text. -/
def wordAt (machine : Automaton) (state : Nat) : String := String.ofList (machine.words.getD state [])

variable {machine : Automaton}

/-! ## The tree -/

theorem root_notMem_successors (machine : Automaton) (state : Nat) (symbol : Char) :
    0 ∉ machine.successors state symbol := by
  intro hroot
  obtain ⟨index, _, hzero, -⟩ := mem_successors.mp hroot
  exact Nat.succ_ne_zero index hzero.symm

/-- A branch names the state and the character that it follows. -/
theorem existsUnique_place {next : Nat} (hpos : 0 < next) (hlt : next < machine.stateCount) :
    ∃! place : Nat × Char, next ∈ machine.successors place.1 place.2 := by
  obtain ⟨index, rfl⟩ := Nat.exists_eq_succ_of_ne_zero hpos.ne'
  have hbranch := Array.getElem?_eq_getElem (Nat.lt_of_succ_lt_succ hlt)
  refine ⟨(_, _), mem_successors.mpr ⟨index, _, rfl, hbranch, rfl, rfl⟩, ?_⟩
  rintro ⟨state, symbol⟩ hnext
  obtain ⟨place, branch, hplace, hother, hstate, hsymbol⟩ := mem_successors.mp hnext
  obtain rfl := Nat.succ.inj hplace
  rw [hbranch, Option.some.injEq] at hother
  rw [hother, Prod.mk.injEq]
  exact ⟨hstate.symm, hsymbol.symm⟩

/-- A branch hangs from a state that was made before it. -/
theorem Grown.parent_le (h : Grown machine) :
    ∀ {index : Nat} {branch : Branch}, machine.branches[index]? = some branch →
      branch.parent ≤ index := by
  induction h with
  | empty => intro index branch hbranch; simp [Automaton.empty] at hbranch
  | push machine parent word symbol mark _ hparent ih =>
    intro index branch hbranch
    rcases branch_push hbranch with hold | ⟨rfl, rfl⟩
    · exact ih hold
    · exact Nat.le_of_lt_succ (lt_stateCount_of_word hparent.word_eq)
  | setMark machine state mark _ ih =>
    intro index branch hbranch
    obtain ⟨before, hbefore, hparent, -⟩ := branch_setMark hbranch
    exact hparent ▸ ih hbefore

theorem Grown.isTree (h : Grown machine) : machine.IsTree where
  root := root_notMem_successors machine
  follows _ := existsUnique_place
  once state symbol _ hnext :=
    List.count_eq_one_of_mem ((successors_sorted machine state symbol).imp Nat.ne_of_lt) hnext
  later state symbol next hnext := by
    obtain ⟨index, branch, rfl, hbranch, rfl, -⟩ := mem_successors.mp hnext
    have hlt : index < machine.branches.size := (Array.getElem?_eq_some_iff.mp hbranch).1
    exact ⟨Nat.lt_succ_of_le (h.parent_le hbranch), Nat.succ_lt_succ hlt⟩

/-! ## The states behind a state -/

/-- Nothing follows a state, or the states of one word do. -/
theorem Grown.successors_cases (h : Grown machine) (state : Nat) (symbol : Char) :
    machine.successors state symbol = [] ∨
      ∃ word, word ≠ [] ∧ machine.successors state symbol = machine.statesOf word := by
  cases hsuccessors : machine.successors state symbol with
  | nil => exact Or.inl rfl
  | cons next others =>
    obtain ⟨index, branch, rfl, hbranch, rfl, rfl⟩ :=
      mem_successors.mp (hsuccessors ▸ List.mem_cons_self)
    obtain ⟨word, htrunk, -⟩ := h.branch hbranch
    exact Or.inr ⟨word ++ [branch.symbol], by simp,
      hsuccessors.symm.trans (h.successors_trunk htrunk branch.symbol)⟩

/-- Behind the trunk, the states of a word are leaves. -/
theorem Grown.successors_tail (h : Grown machine) {word : List Char} {state : Nat}
    (hstate : state ∈ (machine.statesOf word).tail) (symbol : Char) :
    machine.successors state symbol = [] := by
  cases hstates : machine.statesOf word with
  | nil => simp [hstates] at hstate
  | cons trunk others =>
    rw [hstates, List.tail_cons] at hstate
    have hsorted := statesOf_sorted machine word
    rw [hstates, List.pairwise_cons] at hsorted
    have hword := mem_statesOf.mp (hstates ▸ List.mem_cons_of_mem trunk hstate)
    refine h.successors_eq_nil hword (fun hfirst => ?_) symbol
    exact hfirst.first trunk (hsorted.1 state hstate) (trunk_of_statesOf hstates).word_eq

theorem nodup_kinds_firstOfKinds (marks : List Mark) :
    ((Mark.firstOfKinds marks).map Mark.kind).Nodup := by
  induction marks using List.reverseRecOn with
  | nil => exact List.nodup_nil
  | append_singleton marks mark ih =>
    rw [Mark.firstOfKinds_concat, Mark.keep]
    split
    · exact ih
    · rename_i hnew
      rw [List.map_append, List.map_singleton, ← List.concat_eq_append]
      exact ih.concat hnew

/-- Only the first state of a row can be free. -/
theorem ne_none_of_mem_tail_rowOf {entries : List (CatalogEntry × Nat)} {word : List Char}
    {mark : Option Mark} (h : mark ∈ (rowOf entries word).tail) : mark ≠ none := by
  rw [rowOf] at h
  split at h
  · obtain ⟨own, -, rfl⟩ := List.mem_map.mp (List.mem_of_mem_tail h)
    exact Option.some_ne_none own
  · split at h <;> cases h

theorem leavesBehindFirst_statesOf (catalog : Catalog) {word : List Char} (hword : word ≠ []) :
    (ofCatalog catalog).LeavesBehindFirst ((ofCatalog catalog).statesOf word) := by
  have hrow := row_ofCatalog catalog hword
  have hmarks : ((ofCatalog catalog).statesOf word).filterMap (ofCatalog catalog).mark? =
      Mark.firstOfKinds (marksOf catalog.zipIdx word) := by
    rw [← (grown_ofCatalog catalog).reach_eq]
    exact filterMap_mark?_reach catalog hword
  refine ⟨fun state hstate => ?_, fun state hstate symbol => ?_, ?_, ?_⟩
  · have hmem := List.mem_map_of_mem (f := (ofCatalog catalog).mark?) hstate
    rw [List.map_tail] at hmem
    rw [row] at hrow
    rw [hrow] at hmem
    exact ne_none_of_mem_tail_rowOf hmem
  · exact (grown_ofCatalog catalog).successors_tail hstate symbol
  · rw [hmarks]
    exact nodup_kinds_firstOfKinds _
  · rw [hmarks]
    exact (marksOf_sorted catalog word).sublist (Mark.firstOfKinds_sublist _)

theorem leavesBehindFirst_successors (catalog : Catalog) (state : Nat) (symbol : Char) :
    (ofCatalog catalog).LeavesBehindFirst ((ofCatalog catalog).successors state symbol) := by
  rcases (grown_ofCatalog catalog).successors_cases state symbol with hnone | ⟨word, hword, hstates⟩
  · rw [hnone]
    exact ⟨by simp, by simp, List.nodup_nil, List.Pairwise.nil⟩
  · rw [hstates]
    exact leavesBehindFirst_statesOf catalog hword

/-! ## Counting the states -/

theorem mem_beginnings_iff {catalog : Catalog} {word : String} :
    word ∈ catalog.beginnings ↔
      word ≠ "" ∧ ∃ entry ∈ catalog, word.toList <+: entry.lexeme.toList := by
  rw [Catalog.beginnings, Finset.mem_erase, List.mem_toFinset, List.mem_flatMap]
  refine and_congr_right fun _ => exists_congr fun entry => and_congr_right fun _ => ?_
  rw [List.mem_map]
  constructor
  · rintro ⟨front, hfront, rfl⟩
    rw [String.toList_ofList]
    exact (List.mem_inits _ _).mp hfront
  · intro hfront
    exact ⟨word.toList, (List.mem_inits _ _).mpr hfront, String.ofList_toList⟩

theorem mem_statesOf_wordAt {state : Nat} (h : state < machine.stateCount) :
    state ∈ machine.statesOf (machine.wordAt state).toList := by
  rw [← length_words] at h
  rw [mem_statesOf, wordAt, String.toList_ofList, List.getD_eq_getElem?_getD,
    List.getElem?_eq_getElem h, Option.getD_some]

/-- The states of a beginning: one for each kind of the lexeme, but at least one. -/
theorem length_statesOf_beginning {catalog : Catalog} {word : String}
    (h : word ∈ catalog.beginnings) :
    ((ofCatalog catalog).statesOf word.toList).length = max 1 (catalog.kindsOf word).length := by
  obtain ⟨hne, entry, hentry, hbegins⟩ := mem_beginnings_iff.mp h
  have hword : word.toList ≠ [] := by simpa using hne
  have hkinds := congrArg List.length (firstOfKinds_marksOf catalog word)
  rw [List.length_map] at hkinds
  have hlength : ((ofCatalog catalog).statesOf word.toList).length =
      (rowOf catalog.zipIdx word.toList).length := by
    rw [← row_ofCatalog catalog hword, row, List.length_map]
  rw [hlength, ← hkinds, rowOf]
  by_cases hspelled : ∃ other ∈ catalog.zipIdx, other.1.lexeme.toList = word.toList
  · have hpos : 0 < (Mark.firstOfKinds (marksOf catalog.zipIdx word.toList)).length :=
      List.length_pos_iff.mpr (mt Mark.firstOfKinds_eq_nil_iff.mp (marksOf_ne_nil hspelled))
    rw [if_pos hspelled, List.length_map]
    omega
  · have hplaced : ∃ other ∈ catalog.zipIdx, word.toList <+: other.1.lexeme.toList := by
      rw [← List.zipIdx_map_fst 0 catalog] at hentry
      obtain ⟨other, hother, rfl⟩ := List.mem_map.mp hentry
      exact ⟨other, hother, hbegins⟩
    rw [if_neg hspelled, if_pos hplaced, marksOf_eq_nil hspelled]
    rfl

theorem card_wordAt (machine : Automaton) (word : String) :
    ((Finset.range machine.stateCount).filter (machine.wordAt · = word)).card =
      (machine.statesOf word.toList).length := by
  rw [← List.toFinset_card_of_nodup (statesOf_nodup machine word.toList)]
  congr 1
  ext state
  rw [Finset.mem_filter, Finset.mem_range, List.mem_toFinset]
  constructor
  · rintro ⟨hlt, rfl⟩
    exact mem_statesOf_wordAt hlt
  · intro hstate
    have hword := mem_statesOf.mp hstate
    refine ⟨lt_stateCount_of_word hword, ?_⟩
    rw [wordAt, List.getD_eq_getElem?_getD, hword, Option.getD_some, String.ofList_toList]

/-- The states are those of the beginnings, and the root. -/
theorem stateCount_eq (catalog : Catalog) : (ofCatalog catalog).stateCount =
    1 + ∑ word ∈ catalog.beginnings, max 1 (catalog.kindsOf word).length := by
  have hroot : (ofCatalog catalog).statesOf "".toList = [0] :=
    ((grown_ofCatalog catalog).reach_eq []).symm
  have hmaps : Set.MapsTo (ofCatalog catalog).wordAt
      (Finset.range (ofCatalog catalog).stateCount) (insert "" catalog.beginnings : Finset String) := by
    intro state hstate
    have hmem := mem_statesOf_wordAt (Finset.mem_range.mp (Finset.mem_coe.mp hstate))
    rw [Finset.mem_coe, Finset.mem_insert]
    refine or_iff_not_imp_left.mpr fun hne => mem_beginnings_iff.mpr ⟨hne, ?_⟩
    rw [← reach_ofCatalog_ne_nil_iff catalog (by simpa using hne),
      (grown_ofCatalog catalog).reach_eq]
    exact List.ne_nil_of_mem hmem
  have hcount := Finset.card_eq_sum_card_fiberwise hmaps
  simp only [Finset.card_range, card_wordAt] at hcount
  rw [hcount, Finset.sum_insert (by simp [mem_beginnings_iff]), hroot, List.length_singleton]
  congr 1
  exact Finset.sum_congr rfl fun word hword => length_statesOf_beginning hword

/-- The automaton of a catalog is a tree, in which only the first of the states that follow a state by
a character can be free or go on, and the kinds of the lexemes tell how many states there are. -/
theorem ofCatalog_shape (catalog : Catalog) :
    (ofCatalog catalog).IsTree ∧
    (∀ state symbol,
      (ofCatalog catalog).LeavesBehindFirst ((ofCatalog catalog).successors state symbol)) ∧
    (ofCatalog catalog).stateCount =
      1 + ∑ word ∈ catalog.beginnings, max 1 (catalog.kindsOf word).length :=
  ⟨(grown_ofCatalog catalog).isTree, leavesBehindFirst_successors catalog, stateCount_eq catalog⟩

/-- Two kinds of one lexeme, which a longer lexeme begins with: four states besides the root. -/
example : (ofCatalog [⟨"ab", .identifier⟩, ⟨"ab", .number⟩, ⟨"abc", .string⟩]).stateCount = 5 := by
  decide +kernel

end Automaton

end ExprLang
