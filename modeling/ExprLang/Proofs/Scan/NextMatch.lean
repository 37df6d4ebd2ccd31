import ExprLang.Scan
import ExprLang.Proofs.Automaton.LongestMatch
import ExprLang.Proofs.Scan.Layout
import ExprLang.Proofs.Source

/-!
One lexeme at a time. Wherever a source stands, its next lexeme is found behind the layout, as a
search through the entries of the catalog would find it: the longest entry that fits, the first of
several, or one character that starts no entry. The source is left right behind it.
-/
set_option autoImplicit false

namespace ExprLang

theorem isBlank_of_break : isBlank '\n' = true := by decide

theorem ne_break_of_complete {first : Char} {rest : List Char}
    (h : ¬ StartsLayout (first :: rest)) : first ≠ '\n' := by
  rintro rfl
  exact h (Or.inl ⟨'\n', rfl, isBlank_of_break⟩)

namespace Source

variable {source : Source} {text : String} {offset : Nat}

theorem StandsAt.skipLayout (h : source.StandsAt text offset) :
    ∃ skipped, BehindLayout ((streamOfText text).drop offset) skipped source.skipLayout.rest ∧
      source.skipLayout.StandsAt text (offset + skipped.length) := by
  have hends := endsLine_drop text offset
  have hbehind := Segment.behindLayout _ hends
  have hle := Segment.layoutLength_le _ hends
  rw [← h.rest_eq] at hbehind hle ⊢
  refine ⟨_, hbehind, ?_⟩
  rw [List.length_take, Nat.min_eq_left hle]
  exact h.advanceBy hle

theorem nextMatch_of_finds {catalog : Catalog} {kind : Kind} {lexeme : String}
    (h : catalog.Finds source.skipLayout.rest kind lexeme) :
    source.nextMatch (Automaton.ofCatalog catalog) =
      (Token.startingAt kind lexeme none source.skipLayout.cursor,
        source.skipLayout.advanceBy lexeme.length) := by
  obtain ⟨first, rest, hrest⟩ := List.exists_cons_of_ne_nil h.ne_nil
  simp only [nextMatch, hrest]
  rw [hrest] at h
  cases h with
  | @entry _ entry hlongest =>
    have hfound := Automaton.longest?_eq_some_iff.mpr ⟨entry, hlongest, rfl⟩
    have hlexeme := hlongest.1.take_eq
    rw [← hrest] at hfound hlexeme
    simp only [← hrest, hfound, hlexeme]
  | none hnone =>
    have hfound := Automaton.longest?_eq_none_iff.mpr hnone
    rw [← hrest] at hfound
    simp only [← hrest, hfound, String.length_singleton, advance]

theorem nextMatch_of_nil (machine : Automaton) (h : source.skipLayout.rest = []) :
    source.nextMatch machine = (Token.eof source.endPosition, source.skipLayout) := by
  simp only [nextMatch, h]
  rfl

/-- Wherever a source stands, the next lexeme is the one that a search through the catalog finds
behind the layout; only layout up to the end gives the closing token. Behind it stands the source. -/
theorem nextMatch_finds (catalog : Catalog) (text : String) (cursor : Cursor) :
    let source := (ofText text).seek cursor
    let next := source.nextMatch (Automaton.ofCatalog catalog)
    ∃ skipped rest,
      BehindLayout ((streamOfText text).drop (offsetOf (linesOf text.toList) cursor)) skipped rest ∧
      let place := offsetOf (linesOf text.toList) cursor + skipped.length
      (rest = [] ∧ next.1 = Token.eof source.endPosition ∨
        ∃ kind lexeme, catalog.Finds rest kind lexeme ∧
          next.1 = Token.startingAt kind lexeme none (cursorAt (streamOfText text) place)) ∧
      next.2.StandsAt text (place + next.1.lexeme.length) := by
  intro source next
  obtain ⟨skipped, hbehind, hstands⟩ := (seek_standsAt text cursor).skipLayout
  refine ⟨skipped, source.skipLayout.rest, hbehind, ?_⟩
  intro place
  by_cases hrest : source.skipLayout.rest = []
  · rw [show next = _ from nextMatch_of_nil _ hrest]
    exact ⟨Or.inl ⟨hrest, rfl⟩, hstands⟩
  · obtain ⟨kind, lexeme, hfinds⟩ := catalog.exists_finds hrest
    obtain ⟨first, rest, hcons⟩ := List.exists_cons_of_ne_nil hrest
    have hcursor : source.skipLayout.cursor = cursorAt (streamOfText text) place :=
      hstands.cursor_eq hcons (ne_break_of_complete (hcons ▸ hbehind.complete))
    rw [show next = _ from nextMatch_of_finds hfinds, hcursor]
    exact ⟨Or.inr ⟨kind, lexeme, hfinds, rfl⟩, hstands.advanceBy hfinds.length_le⟩

end Source

end ExprLang
