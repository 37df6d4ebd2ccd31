import ExprLang.Proofs.Automaton.Language

/-!
The frontier behind a word, told from the catalog alone. There is one exactly if some lexeme begins
with the word. Behind a word that is not empty it has one mark for each kind that is registered with
this lexeme, in the order in which the kinds were first registered with it, and each mark has the
place of that first registration. Behind the empty word stands the root, without a mark.
-/
set_option autoImplicit false

namespace ExprLang

namespace Catalog

/-- The kinds that are registered with a lexeme, in the order of their first registration. -/
def kindsOf (catalog : Catalog) (lexeme : String) : List Kind :=
  ((catalog.filter (·.lexeme = lexeme)).map CatalogEntry.kind).eraseDups

/-- The mark of the first entry with this lexeme and this kind. -/
def firstMark (catalog : Catalog) (lexeme : String) (kind : Kind) : Mark :=
  ⟨kind, catalog.idxOf ⟨lexeme, kind⟩⟩

variable (catalog : Catalog) (entry : CatalogEntry) {lexeme : String} {kind : Kind}

/-! ## One more entry -/

theorem mem_kindsOf_iff : kind ∈ catalog.kindsOf lexeme ↔ ⟨lexeme, kind⟩ ∈ catalog := by
  rw [kindsOf, List.mem_eraseDups, List.mem_map]
  constructor
  · rintro ⟨found, hfound, rfl⟩
    obtain ⟨hmem, hlexeme⟩ := List.mem_filter.mp hfound
    obtain rfl : found.lexeme = lexeme := by simpa using hlexeme
    exact hmem
  · intro hmem
    exact ⟨⟨lexeme, kind⟩, List.mem_filter.mpr ⟨hmem, by simp⟩, rfl⟩

theorem kindsOf_concat_other (h : entry.lexeme ≠ lexeme) :
    kindsOf (catalog ++ [entry]) lexeme = catalog.kindsOf lexeme := by
  simp [kindsOf, h]

theorem kindsOf_concat_known (h : entry.kind ∈ catalog.kindsOf entry.lexeme) :
    kindsOf (catalog ++ [entry]) entry.lexeme = catalog.kindsOf entry.lexeme := by
  rw [kindsOf, List.mem_eraseDups] at h
  simp [kindsOf, List.eraseDups_append, List.removeAll, h]

theorem kindsOf_concat_new (h : entry.kind ∉ catalog.kindsOf entry.lexeme) :
    kindsOf (catalog ++ [entry]) entry.lexeme = catalog.kindsOf entry.lexeme ++ [entry.kind] := by
  rw [kindsOf, List.mem_eraseDups] at h
  simp [kindsOf, List.eraseDups_append, List.removeAll, h, List.eraseDups_cons]

theorem firstMark_concat_known (h : kind ∈ catalog.kindsOf lexeme) :
    firstMark (catalog ++ [entry]) lexeme kind = catalog.firstMark lexeme kind := by
  have hmem := (catalog.mem_kindsOf_iff).mp h
  rw [firstMark, firstMark, List.idxOf_append_of_mem hmem]

theorem firstMark_concat_new (h : entry.kind ∉ catalog.kindsOf entry.lexeme) :
    firstMark (catalog ++ [entry]) entry.lexeme entry.kind = ⟨entry.kind, catalog.length⟩ := by
  have hnew : entry ∉ catalog := fun hmem => h ((catalog.mem_kindsOf_iff).mpr hmem)
  rw [firstMark, List.idxOf_append_of_notMem hnew]
  simp

end Catalog

namespace Automaton

open Catalog

theorem marksOf_concat (catalog : Catalog) (entry : CatalogEntry) (lexeme : String) :
    marksOf (catalog ++ [entry]).zipIdx lexeme.toList =
      marksOf catalog.zipIdx lexeme.toList ++
        if entry.lexeme = lexeme then [⟨entry.kind, catalog.length⟩] else [] := by
  by_cases h : entry.lexeme = lexeme
  · simp [marksOf, List.zipIdx_append, h, markOf]
  · have hspelled : entry.lexeme.toList ≠ lexeme.toList := fun heq => h (String.toList_inj.mp heq)
    simp [marksOf, List.zipIdx_append, h, hspelled]

/-- The marks that building keeps are those of the first registrations. -/
theorem firstOfKinds_marksOf (catalog : Catalog) (lexeme : String) :
    Mark.firstOfKinds (marksOf catalog.zipIdx lexeme.toList) =
      (catalog.kindsOf lexeme).map (catalog.firstMark lexeme) := by
  induction catalog using List.reverseRecOn with
  | nil => rfl
  | append_singleton catalog entry ih =>
    have hold : (kindsOf catalog lexeme).map (firstMark (catalog ++ [entry]) lexeme) =
        (kindsOf catalog lexeme).map (firstMark catalog lexeme) :=
      List.map_congr_left fun kind hkind => firstMark_concat_known catalog entry hkind
    have hkinds : ((kindsOf catalog lexeme).map (firstMark catalog lexeme)).map Mark.kind =
        kindsOf catalog lexeme := by
      simp [Function.comp_def, firstMark]
    rw [marksOf_concat]
    by_cases hlexeme : entry.lexeme = lexeme
    · subst hlexeme
      rw [if_pos rfl, Mark.firstOfKinds_concat, ih, Mark.keep, hkinds]
      by_cases hkind : entry.kind ∈ kindsOf catalog entry.lexeme
      · rw [if_pos hkind, kindsOf_concat_known catalog entry hkind, hold]
      · rw [if_neg hkind, kindsOf_concat_new catalog entry hkind, List.map_append, hold,
          List.map_singleton, firstMark_concat_new catalog entry hkind]
    · rw [if_neg hlexeme, List.append_nil, ih, kindsOf_concat_other catalog entry hlexeme, hold]

/-- The language of the automaton is the catalog: a frontier stands behind the beginnings of lexemes
and behind no other words, and its marks are those of the kinds that are registered with the word,
each for its first registration. -/
theorem reach_ofCatalog (catalog : Catalog) (word : String) :
    ((ofCatalog catalog).reach word.toList ≠ [] ↔
      word = "" ∨ ∃ entry ∈ catalog, word.toList <+: entry.lexeme.toList) ∧
    (word ≠ "" → ((ofCatalog catalog).reach word.toList).filterMap (ofCatalog catalog).mark? =
      (catalog.kindsOf word).map (catalog.firstMark word)) ∧
    (word = "" → (ofCatalog catalog).reach word.toList = [0] ∧ (ofCatalog catalog).mark? 0 = none) := by
  have hroot : (ofCatalog catalog).reach "".toList = [0] := rfl
  by_cases hempty : word = ""
  · subst hempty
    refine ⟨?_, fun hne => absurd rfl hne, fun _ => ⟨hroot, rfl⟩⟩
    rw [hroot]
    simp
  · have hword : word.toList ≠ [] := by simpa using hempty
    refine ⟨?_, fun _ => ?_, fun h => absurd h hempty⟩
    · rw [reach_ofCatalog_ne_nil_iff catalog hword, or_iff_right hempty]
    · rw [filterMap_mark?_reach catalog hword, firstOfKinds_marksOf]

/-- A lexeme with two kinds, one of them registered twice, that a longer lexeme begins with. -/
example :
    let catalog : Catalog := [⟨"ab", .identifier⟩, ⟨"ab", .number⟩, ⟨"ab", .identifier⟩,
      ⟨"abc", .string⟩]
    ((ofCatalog catalog).reach "ab".toList).filterMap (ofCatalog catalog).mark? =
      [⟨.identifier, 0⟩, ⟨.number, 1⟩] := by decide +kernel

end Automaton

end ExprLang
