import ExprLang.Proofs.Scan.Loops
import ExprLang.Proofs.Scan.TokenForms

/-!
Progress of scanning. A round that gives a token or an error stands in front of a solid piece behind
the layout, and a piece is never empty, whatever the catalog is: also a lexeme that is rejected, and
whose characters are read again as a literal, leaves the source behind at least one of them. So the
offset grows with every round, no round leads beyond the end of the stream, and there are no more
results than the stream has characters.
-/
set_option autoImplicit false

namespace ExprLang

/-- A stream has the characters of its lines and one line feed for every line. -/
theorem length_streamOf (lines : List (List Char)) :
    (streamOf lines).length = (lines.map List.length).sum + lines.length := by
  induction lines with
  | nil => rfl
  | cons line lines ih =>
    rw [streamOf_cons, List.length_append, List.length_cons, ih, List.map_cons, List.sum_cons,
      List.length_cons]
    omega

namespace Source

variable {source behind : Source} {text : String} {offset : Nat} {catalog : Catalog}
  {result : Except LexError Token} {results : List (Except LexError Token)}

variable [IdentifierClasses]

/-! ## One round -/

theorem round_skipLayout (machine : Automaton) (h : ¬ StartsLayout source.skipLayout.rest) :
    source.round machine = source.skipLayout.round machine := by
  simp only [round, nextMatch, skipLayout_eq_self h]

/-- A round that gives a token or an error leaves the source behind some characters. -/
theorem round_moves (h : source.StandsAt text offset)
    (hround : source.round (Automaton.ofCatalog catalog) = some (result, behind)) :
    ∃ further, behind.StandsAt text further ∧ offset < further := by
  obtain ⟨skipped, hbehind, hstands⟩ := h.skipLayout
  have hlayout := hbehind.complete
  rw [round_skipLayout _ hlayout] at hround
  rcases Segment.solid?_cases catalog source.skipLayout.rest with ⟨piece, -, hsolid⟩ | ⟨-, hstops⟩
  · obtain ⟨_, -, hpiece⟩ := round_of_solid hstands hlayout hsolid
    have hstarts := hsolid.starts
    have hpositive : 0 < piece.length := List.length_pos_iff.mpr hstarts.1
    have hmoved := hstands.advanceBy hstarts.length_le
    rw [hpiece, Option.some.injEq, Prod.mk.injEq] at hround
    rw [hround.2] at hmoved
    exact ⟨_, hmoved, by omega⟩
  · rw [round_of_stops hlayout hstops] at hround
    cases hround

/-! ## All rounds -/

theorem exists_rounds (catalog : Catalog) (h : source.StandsAt text offset) :
    ∃ results, source.Rounds (Automaton.ofCatalog catalog) results := by
  obtain ⟨rest, hcut⟩ := cut_ofStream (Automaton.ofCatalog catalog) source.rest
  exact ⟨_, rounds_of_cut hcut source offset h rfl⟩

/-- Every result takes at least one character off the stream. -/
theorem Rounds.length_le (hrounds : source.Rounds (Automaton.ofCatalog catalog) results) :
    ∀ offset, source.StandsAt text offset →
      offset + results.length ≤ (streamOfText text).length := by
  induction hrounds with
  | stop _ => exact fun offset h => h.offset_le
  | next hround _ ih =>
    intro offset h
    obtain ⟨further, hfurther, hlt⟩ := round_moves h hround
    have hlater := ih further hfurther
    rw [List.length_cons]
    omega

/-- Wherever a source stands in a text, all its loops end, a round that gives something moves it to a
larger offset within the text, and the rounds come to an end. Scanning gives one token or one error a
round, so there are no more of them than the lines have characters and line ends. -/
theorem scan_moves_forward (catalog : Catalog) (text : String) :
    (∀ (source : Source) (offset : Nat), source.StandsAt text offset →
      source.LoopsEnd (Automaton.ofCatalog catalog) ∧
      (∀ result behind, source.round (Automaton.ofCatalog catalog) = some (result, behind) →
        ∃ further, behind.StandsAt text further ∧ offset < further ∧
          further ≤ (streamOfText text).length) ∧
      ∃ results, source.Rounds (Automaton.ofCatalog catalog) results ∧
        offset + results.length ≤ (streamOfText text).length) ∧
    ∃ results, (ofText text).Rounds (Automaton.ofCatalog catalog) results ∧
      let found := (Scanner.create (Automaton.ofCatalog catalog) text).finish
      found.tokens = valuesOf results ++ [Token.eof (ofText text).endPosition] ∧
      found.errors = errorsOf results ∧
      (valuesOf results).length + found.errors.length = results.length ∧
      (valuesOf results).length + found.errors.length ≤
        ((linesOf text.toList).map List.length).sum + (linesOf text.toList).length := by
  refine ⟨fun source offset h => ⟨loopsEnd _ source, fun result behind hround => ?_, ?_⟩, ?_⟩
  · obtain ⟨further, hfurther, hlt⟩ := round_moves h hround
    exact ⟨further, hfurther, hlt, hfurther.offset_le⟩
  · obtain ⟨results, hrounds⟩ := exists_rounds catalog h
    exact ⟨results, hrounds, hrounds.length_le offset h⟩
  · obtain ⟨results, hrounds, hscan⟩ := scanWith_rounds catalog text
    have hbound := hrounds.length_le 0 (ofText_standsAt text)
    rw [streamOfText, length_streamOf, Nat.zero_add] at hbound
    have hcount := length_valuesOf_add_length_errorsOf results
    have hfound : (Scanner.create (Automaton.ofCatalog catalog) text).finish = _ := hscan
    refine ⟨results, hrounds, ?_⟩
    rw [hfound]
    exact ⟨rfl, rfl, hcount, hcount.trans_le hbound⟩

end Source

end ExprLang
