import ExprLang.Proofs.Automaton.Registration

/-!
The language of the automaton of a catalog. What is behind a word depends on the entries alone: the
entries with this lexeme leave one mark for each of their kinds, that of the first such entry, in
the order of the catalog; a word that is only the beginning of a lexeme has one state without a
mark. So there is a frontier behind a word exactly if some lexeme begins with the word, and the mark
that counts there is the one of the first entry that is spelled so.
-/
set_option autoImplicit false

namespace ExprLang

namespace Mark

/-- Marks with one more, unless its kind is there already. -/
def keep (marks : List Mark) (mark : Mark) : List Mark :=
  if mark.kind ∈ marks.map Mark.kind then marks else marks ++ [mark]

/-- The first mark of each kind. -/
def firstOfKinds (marks : List Mark) : List Mark := marks.foldl keep []

theorem firstOfKinds_concat (marks : List Mark) (mark : Mark) :
    firstOfKinds (marks ++ [mark]) = keep (firstOfKinds marks) mark := by
  simp [firstOfKinds]

theorem firstOfKinds_sublist (marks : List Mark) : (firstOfKinds marks).Sublist marks := by
  induction marks using List.reverseRecOn with
  | nil => exact List.Sublist.refl []
  | append_singleton marks mark ih =>
    rw [firstOfKinds_concat, keep]
    split
    · exact ih.trans (List.sublist_append_left marks [mark])
    · exact ih.append (List.Sublist.refl [mark])

theorem head?_firstOfKinds (marks : List Mark) : (firstOfKinds marks).head? = marks.head? := by
  induction marks using List.reverseRecOn with
  | nil => rfl
  | append_singleton marks mark ih =>
    rw [firstOfKinds_concat, keep, List.head?_append, ← ih]
    cases firstOfKinds marks with
    | nil => rfl
    | cons first rest => split <;> simp

theorem firstOfKinds_eq_nil_iff {marks : List Mark} : firstOfKinds marks = [] ↔ marks = [] := by
  rw [← List.head?_eq_none_iff, head?_firstOfKinds, List.head?_eq_none_iff]

end Mark

namespace Automaton

/-- An entry with its place in a catalog leaves this mark. -/
def markOf (entry : CatalogEntry × Nat) : Mark := ⟨entry.1.kind, entry.2⟩

/-- The marks of all entries that are spelled like a word. -/
def marksOf (entries : List (CatalogEntry × Nat)) (word : List Char) : List Mark :=
  (entries.filter fun entry => entry.1.lexeme.toList = word).map markOf

/-- The automaton with one more entry. -/
def register (machine : Automaton) (entry : CatalogEntry × Nat) : Automaton :=
  machine.extend 0 (markOf entry) entry.1.lexeme.toList

/-- The row of a word, as the entries tell it. -/
def rowOf (entries : List (CatalogEntry × Nat)) (word : List Char) : List (Option Mark) :=
  if ∃ entry ∈ entries, entry.1.lexeme.toList = word then
    (Mark.firstOfKinds (marksOf entries word)).map some
  else if ∃ entry ∈ entries, word <+: entry.1.lexeme.toList then [none]
  else []

theorem marksOf_eq_nil {entries : List (CatalogEntry × Nat)} {word : List Char}
    (h : ¬ ∃ entry ∈ entries, entry.1.lexeme.toList = word) : marksOf entries word = [] := by
  rw [marksOf, List.map_eq_nil_iff, List.filter_eq_nil_iff]
  intro entry hentry
  simpa using fun heq => h ⟨entry, hentry, heq⟩

theorem marksOf_ne_nil {entries : List (CatalogEntry × Nat)} {word : List Char}
    (h : ∃ entry ∈ entries, entry.1.lexeme.toList = word) : marksOf entries word ≠ [] := by
  obtain ⟨entry, hentry, heq⟩ := h
  have hmem : entry ∈ entries.filter fun entry => entry.1.lexeme.toList = word :=
    List.mem_filter.mpr ⟨hentry, by simpa using heq⟩
  exact List.ne_nil_of_mem (List.mem_map_of_mem hmem)

/-! ## One entry after the other -/

theorem register_grown_and_row {machine : Automaton} (h : Grown machine)
    (entry : CatalogEntry × Nat) :
    Grown (machine.register entry) ∧ ∀ word, word ≠ [] →
      (machine.register entry).row word =
        registerRow entry.1.lexeme.toList (markOf entry) word (machine.row word) := by
  rw [register]
  cases hlexeme : entry.1.lexeme.toList with
  | nil =>
    refine ⟨h, fun word hword => ?_⟩
    have hother : ¬ (word <+: [] ∧ machine.row word = []) := fun hboth =>
      hword (List.prefix_nil.mp hboth.1)
    rw [extend, registerRow, if_neg hword, if_neg hother]
  | cons symbol rest =>
    obtain ⟨hgrown, hrows⟩ := extend_grown_and_row (markOf entry) symbol rest h h.trunk_root
    refine ⟨hgrown, fun word hword => ?_⟩
    have hpos : ¬ word.length ≤ ([] : List Char).length := fun hle =>
      hword (List.length_eq_zero_iff.mp (Nat.le_zero.mp hle))
    rw [hrows, registerBelow, if_neg hpos, List.nil_append]

theorem markRow_map_some (marks : List Mark) (mark : Mark) :
    markRow mark (marks.map some) = (Mark.keep marks mark).map some := by
  induction marks with
  | nil => rfl
  | cons first rest ih =>
    rw [List.map_cons, markRow, ih, Mark.keep, Mark.keep, List.map_cons]
    by_cases hfirst : first.kind = mark.kind
    · simp [hfirst]
    · by_cases hrest : mark.kind ∈ rest.map Mark.kind
      · simp [hfirst, hrest]
      · simp [hfirst, Ne.symm hfirst, hrest]

/-- Registering one more entry changes a row as the entries tell it. -/
theorem registerRow_rowOf (entries : List (CatalogEntry × Nat)) (entry : CatalogEntry × Nat)
    (word : List Char) :
    registerRow entry.1.lexeme.toList (markOf entry) word (rowOf entries word) =
      rowOf (entries ++ [entry]) word := by
  by_cases hword : entry.1.lexeme.toList = word
  · -- The entry ends at the word: its mark is kept beside those before it.
    have hmarks : marksOf (entries ++ [entry]) word = marksOf entries word ++ [markOf entry] := by
      simp [marksOf, hword]
    have hspelled : ∃ other ∈ entries ++ [entry], other.1.lexeme.toList = word :=
      ⟨entry, by simp, hword⟩
    rw [registerRow, if_pos hword.symm, rowOf, rowOf, if_pos hspelled, hmarks,
      Mark.firstOfKinds_concat, ← markRow_map_some]
    by_cases hbefore : ∃ other ∈ entries, other.1.lexeme.toList = word
    · rw [if_pos hbefore]
    · rw [if_neg hbefore, marksOf_eq_nil hbefore]
      split <;> rfl
  · -- The entry does not end at the word: only a row that is still empty can change.
    have hmarks : marksOf (entries ++ [entry]) word = marksOf entries word := by
      simp [marksOf, hword]
    have hspelled : (∃ other ∈ entries ++ [entry], other.1.lexeme.toList = word) ↔
        ∃ other ∈ entries, other.1.lexeme.toList = word := by
      simp [hword, or_and_right, exists_or]
    have hbegins : (∃ other ∈ entries ++ [entry], word <+: other.1.lexeme.toList) ↔
        (∃ other ∈ entries, word <+: other.1.lexeme.toList) ∨
          word <+: entry.1.lexeme.toList := by
      simp [or_and_right, exists_or]
    simp only [registerRow, if_neg (Ne.symm hword), rowOf, hmarks, hspelled, hbegins]
    by_cases hbefore : ∃ other ∈ entries, other.1.lexeme.toList = word
    · have hne := marksOf_ne_nil hbefore
      simp [hbefore, Mark.firstOfKinds_eq_nil_iff, hne]
    · by_cases hbegun : ∃ other ∈ entries, word <+: other.1.lexeme.toList
      · simp [hbefore, hbegun]
      · simp [hbefore, hbegun]

theorem rows_of_entries (entries : List (CatalogEntry × Nat)) :
    Grown (entries.foldl register empty) ∧ ∀ word, word ≠ [] →
      (entries.foldl register empty).row word = rowOf entries word := by
  induction entries using List.reverseRecOn with
  | nil =>
    refine ⟨.empty, fun word hword => ?_⟩
    have hstates : empty.statesOf word = [] := by
      refine List.eq_nil_iff_forall_not_mem.mpr fun state hstate => ?_
      have hvalid := lt_stateCount_of_word (mem_statesOf.mp hstate)
      have hzero : state = 0 := Nat.lt_one_iff.mp hvalid
      have hmem := mem_statesOf.mp hstate
      rw [hzero, Grown.empty.word_root, Option.some.injEq] at hmem
      exact hword hmem.symm
    simp [row, hstates, rowOf]
  | append_singleton entries entry ih =>
    obtain ⟨hgrown, hrows⟩ := ih
    rw [List.foldl_append, List.foldl_cons, List.foldl_nil]
    obtain ⟨hmore, hregistered⟩ := register_grown_and_row hgrown entry
    refine ⟨hmore, fun word hword => ?_⟩
    rw [hregistered word hword, hrows word hword, registerRow_rowOf]

/-! ## The frontier behind a word -/

theorem grown_ofCatalog (catalog : Catalog) : Grown (ofCatalog catalog) :=
  (rows_of_entries catalog.zipIdx).1

theorem row_ofCatalog (catalog : Catalog) {word : List Char} (h : word ≠ []) :
    (ofCatalog catalog).row word = rowOf catalog.zipIdx word :=
  (rows_of_entries catalog.zipIdx).2 word h

/-- There is a frontier behind a word exactly if a lexeme begins with it. -/
theorem reach_ofCatalog_ne_nil_iff (catalog : Catalog) {word : List Char} (h : word ≠ []) :
    (ofCatalog catalog).reach word ≠ [] ↔ ∃ entry ∈ catalog, word <+: entry.lexeme.toList := by
  have hrow : (ofCatalog catalog).reach word ≠ [] ↔ rowOf catalog.zipIdx word ≠ [] := by
    rw [← row_ofCatalog catalog h, (grown_ofCatalog catalog).reach_eq, row, ne_eq, ne_eq,
      List.map_eq_nil_iff]
  have hentry : (∃ entry ∈ catalog, word <+: entry.lexeme.toList) ↔
      ∃ entry ∈ catalog.zipIdx, word <+: entry.1.lexeme.toList := by
    conv_lhs => rw [← List.zipIdx_map_fst 0 catalog]
    constructor
    · rintro ⟨_, hentry, hbegins⟩
      obtain ⟨entry, hplaced, rfl⟩ := List.mem_map.mp hentry
      exact ⟨entry, hplaced, hbegins⟩
    · rintro ⟨entry, hplaced, hbegins⟩
      exact ⟨entry.1, List.mem_map_of_mem hplaced, hbegins⟩
  rw [hrow, hentry, rowOf]
  split
  · rename_i hspelled
    have hmarks := marksOf_ne_nil hspelled
    obtain ⟨entry, hentry, heq⟩ := hspelled
    refine iff_of_true ?_ ⟨entry, hentry, heq ▸ List.prefix_refl _⟩
    simpa [Mark.firstOfKinds_eq_nil_iff] using hmarks
  · split
    · rename_i hbegun
      exact iff_of_true (by simp) hbegun
    · rename_i hbegun
      exact iff_of_false (by simp) hbegun

theorem foldl_lowest {marks : List Mark} {best : Mark} (h : ∀ mark ∈ marks, best.order < mark.order) :
    marks.foldl (fun found mark =>
      match found with
      | some best => if mark.order < best.order then some mark else some best
      | none => some mark) (some best) = some best := by
  induction marks with
  | nil => rfl
  | cons mark marks ih =>
    have hlater : ¬ mark.order < best.order := Nat.lt_asymm (h mark List.mem_cons_self)
    rw [List.foldl_cons]
    simp only [if_neg hlater]
    exact ih fun other hother => h other (List.mem_cons_of_mem _ hother)

theorem marksOf_sorted (catalog : Catalog) (word : List Char) :
    (marksOf catalog.zipIdx word).Pairwise (·.order < ·.order) := by
  have hplaces : (catalog.zipIdx.map Prod.snd).Pairwise (· < ·) := by
    rw [List.zipIdx_map_snd]
    exact List.pairwise_lt_range'
  rw [marksOf, List.pairwise_map]
  exact (List.pairwise_map.mp hplaces).sublist List.filter_sublist

theorem filterMap_rowOf (entries : List (CatalogEntry × Nat)) (word : List Char) :
    (rowOf entries word).filterMap id = Mark.firstOfKinds (marksOf entries word) := by
  by_cases hspelled : ∃ entry ∈ entries, entry.1.lexeme.toList = word
  · rw [rowOf, if_pos hspelled, List.filterMap_map, Function.id_comp, List.filterMap_some]
  · have hnone := marksOf_eq_nil hspelled
    rw [rowOf, if_neg hspelled, hnone]
    split <;> rfl

theorem filterMap_mark?_reach (catalog : Catalog) {word : List Char} (h : word ≠ []) :
    ((ofCatalog catalog).reach word).filterMap (ofCatalog catalog).mark? =
      Mark.firstOfKinds (marksOf catalog.zipIdx word) := by
  rw [← filterMap_rowOf, ← row_ofCatalog catalog h, row, (grown_ofCatalog catalog).reach_eq,
    List.filterMap_map, Function.id_comp]

/-- The mark that counts behind a word is the one of the first entry that is spelled so. -/
theorem firstMark?_reach (catalog : Catalog) {word : List Char} (h : word ≠ []) :
    ((ofCatalog catalog).firstMark? ((ofCatalog catalog).reach word)).map Mark.kind =
      (catalog.find? fun entry => entry.lexeme.toList = word).map CatalogEntry.kind := by
  have hmarks := filterMap_mark?_reach catalog h
  have hsorted := (marksOf_sorted catalog word).sublist (Mark.firstOfKinds_sublist _)
  have hfirst : (ofCatalog catalog).firstMark? ((ofCatalog catalog).reach word) =
      (marksOf catalog.zipIdx word).head? := by
    rw [firstMark?, hmarks, ← Mark.head?_firstOfKinds]
    cases hkept : Mark.firstOfKinds (marksOf catalog.zipIdx word) with
    | nil => rfl
    | cons best later =>
      rw [hkept, List.pairwise_cons] at hsorted
      exact foldl_lowest hsorted.1
  rw [hfirst, marksOf, List.head?_map, List.head?_filter]
  conv_rhs => rw [← List.zipIdx_map_fst 0 catalog]
  rw [List.find?_map, Option.map_map, Option.map_map]
  rfl

end Automaton

end ExprLang
