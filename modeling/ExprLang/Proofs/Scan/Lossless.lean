import ExprLang.Scan
import ExprLang.Proofs.Scan.Cutting
import ExprLang.Proofs.Source

/-!
Scanning accounts for every character. The stream of a text is cut without gaps or overlaps; the
tokens and the errors are the pieces of their kinds, in the order of the stream, and each is placed
where its first character stands by counting line feeds. Only a lexeme for the end leaves a rest.
-/
set_option autoImplicit false

namespace ExprLang

/-- What the pieces of each kind look like. -/
def Segment.WellShaped : Segment → Prop
  | .blank symbol => symbol ∈ [' ', '\t', '\r', '\n']
  | .comment text => ∃ body, '\n' ∉ body ∧ text = '/' :: '/' :: body ++ ['\n']
  | .token _ lexeme _ => lexeme ≠ []
  | .stray lexeme => lexeme ≠ []
  | .unclosed text => ∃ body, '"' ∉ body ∧ text = '"' :: body

/-- The token of a piece: its characters, and the line and column where it starts. -/
def tokenAt (stream : List Char) : Nat × Segment → Option Token
  | (offset, .token kind lexeme literal) =>
    some ⟨kind, String.ofList lexeme, literal, (cursorAt stream offset).line + 1,
      (cursorAt stream offset).column + 1⟩
  | _ => none

/-- The error of a piece: its line and its characters, or the last line for an unclosed string. -/
def errorAt (stream : List Char) (lastLine : Nat) : Nat × Segment → Option LexError
  | (offset, .stray lexeme) =>
    some (.unexpectedCharacter ((cursorAt stream offset).line + 1) (String.ofList lexeme))
  | (_, .unclosed _) => some (.unterminatedString lastLine)
  | _ => none

/-- A scan is accounted for by pieces of the stream and the rest behind them. -/
structure Scan.Accounts (result : Scan) (catalog : Catalog) (text : String)
    (pieces : List Segment) (rest : List Char) : Prop where
  covers : streamOfText text = pieces.flatMap Segment.chars ++ rest
  shaped : ∀ piece ∈ pieces, piece.WellShaped
  unclosed_last : ∀ front tail back, pieces = front ++ .unclosed tail :: back →
    back = [] ∧ rest = []
  stops : ¬ StartsLayout rest ∧ catalog.StopsAt rest
  goes_on : ∀ place ∈ placed 0 pieces, StartsLayout ((streamOfText text).drop place.1) ∨
    ¬ catalog.StopsAt ((streamOfText text).drop place.1)
  tokens_eq : result.tokens = (placed 0 pieces).filterMap (tokenAt (streamOfText text)) ++
    [Token.eof (Source.ofText text).endPosition]
  errors_eq : result.errors =
    (placed 0 pieces).filterMap (errorAt (streamOfText text) (linesOf text.toList).length)

/-! ## Places -/

/-- The pieces are located where their first characters are by counting. -/
theorem located_eq_placed {whole rest : List Char} (pieces : List Segment) :
    ∀ offset, whole.drop offset = pieces.flatMap Segment.chars ++ rest →
      Segment.located (cursorAt whole offset) pieces =
        (placed offset pieces).map fun place => (cursorAt whole place.1, place.2) := by
  induction pieces with
  | nil => intro offset _; rfl
  | cons piece pieces ih =>
    intro offset hoffset
    rw [List.flatMap_cons, List.append_assoc] at hoffset
    have hbehind : whole.drop (offset + piece.length) = pieces.flatMap Segment.chars ++ rest := by
      rw [← List.drop_drop, hoffset, Segment.length, List.drop_left]
    rw [Segment.located, placed, List.map_cons, cursorAt_advanceOver hoffset]
    exact congrArg _ (ih _ hbehind)

theorem lastLine_eq {text : String} (h : linesOf text.toList ≠ []) :
    (Source.ofText text).lastLine = (linesOf text.toList).length := by
  have hpos := List.length_pos_iff.mpr h
  rw [Source.lastLine, Source.endPosition, Source.ofText, List.getLast?_eq_some_getLast h]
  exact Nat.sub_add_cancel hpos

/-! ## Tokens and errors -/

theorem valuesOf_results (stream : List Char) (lastLine : Nat) (places : List (Nat × Segment)) :
    valuesOf ((places.map fun place => (cursorAt stream place.1, place.2)).filterMap
      fun (cursor, piece) => piece.result? lastLine cursor) = places.filterMap (tokenAt stream) := by
  rw [valuesOf, List.filterMap_map, List.filterMap_filterMap]
  refine List.filterMap_congr fun place _ => ?_
  obtain ⟨offset, piece⟩ := place
  cases piece <;> rfl

theorem errorsOf_results (stream : List Char) (lastLine : Nat) (places : List (Nat × Segment)) :
    errorsOf ((places.map fun place => (cursorAt stream place.1, place.2)).filterMap
      fun (cursor, piece) => piece.result? lastLine cursor) =
        places.filterMap (errorAt stream lastLine) := by
  rw [errorsOf, List.filterMap_map, List.filterMap_filterMap]
  refine List.filterMap_congr fun place _ => ?_
  obtain ⟨offset, piece⟩ := place
  cases piece <;> rfl

/-! ## Shapes -/

theorem isBlank_iff {symbol : Char} :
    isBlank symbol = true ↔ symbol ∈ [' ', '\t', '\r', '\n'] := by
  simp [isBlank, or_assoc]

variable [IdentifierClasses]

theorem Solid.wellShaped {catalog : Catalog} {stream : List Char} {piece : Segment}
    (h : Solid catalog stream piece) : piece.WellShaped := by
  cases h with
  | token hfinds _ _ => exact hfinds.starts.1
  | stray hfinds _ => exact hfinds.starts.1
  | literal _ hliteral =>
    have hstarts := Segment.starts_of_literal? hliteral
    cases Segment.literalAt_of_literal? hliteral with
    | string => exact hstarts.1
    | unclosed body hbody => exact ⟨body, hbody, rfl⟩
    | number => exact hstarts.1
    | word => exact hstarts.1

theorem Segment.wellShaped_of_next? {catalog : Catalog} {stream : List Char} {piece : Segment}
    (hstream : EndsLine stream) (h : next? (Automaton.ofCatalog catalog) stream = some piece) :
    piece.WellShaped := by
  rcases next?_eq_some_iff.mp h with hlayout | ⟨_, hsolid⟩
  · rcases layout?_cases hstream hlayout with ⟨symbol, hblank, rfl⟩ | ⟨body, hbody, rfl⟩
    · exact isBlank_iff.mp hblank
    · exact ⟨body, hbody, rfl⟩
  · exact hsolid.wellShaped

theorem Cut.wellShaped {catalog : Catalog} {stream rest : List Char} {pieces : List Segment}
    (h : Cut (Automaton.ofCatalog catalog) stream pieces rest) (hstream : EndsLine stream) :
    ∀ piece ∈ pieces, piece.WellShaped := by
  induction h with
  | stop => simp
  | @piece stream piece _ _ hnext _ ih =>
    intro other hother
    rcases List.mem_cons.mp hother with rfl | hlater
    · exact Segment.wellShaped_of_next? hstream hnext
    · exact ih (hstream.drop piece.length) other hlater

/-! ## All pieces of a text -/

/-- The tokens and the errors of a text are pieces of its stream. -/
theorem scanWith_cut (machine : Automaton) (text : String) :
    ∃ pieces rest, Cut machine (streamOfText text) pieces rest ∧
      (scanWith machine text).tokens = (placed 0 pieces).filterMap (tokenAt (streamOfText text)) ++
        [Token.eof (Source.ofText text).endPosition] ∧
      (scanWith machine text).errors =
        (placed 0 pieces).filterMap (errorAt (streamOfText text) (linesOf text.toList).length) := by
  obtain ⟨rest, hcut⟩ := cut_ofStream machine (streamOfText text)
  let pieces := Segment.ofStream machine (streamOfText text)
  have hlocated : Segment.located Cursor.start pieces =
      (placed 0 pieces).map fun place => (cursorAt (streamOfText text) place.1, place.2) :=
    located_eq_placed pieces 0 hcut.flatten
  have hresults : (scanWith machine text).tokens =
        valuesOf ((Segment.located Cursor.start pieces).filterMap fun (cursor, piece) =>
          piece.result? (Source.ofText text).lastLine cursor) ++
            [Token.eof (Source.ofText text).endPosition] ∧
      (scanWith machine text).errors =
        errorsOf ((Segment.located Cursor.start pieces).filterMap fun (cursor, piece) =>
          piece.result? (Source.ofText text).lastLine cursor) := ⟨rfl, rfl⟩
  rw [hlocated, valuesOf_results, errorsOf_results] at hresults
  refine ⟨pieces, rest, hcut, hresults.1, ?_⟩
  rw [hresults.2]
  by_cases hlines : linesOf text.toList = []
  · -- Without lines there is no piece, and no line to report.
    have hempty : streamOfText text = [] := by rw [streamOfText, hlines, streamOf_nil]
    have hnone : Cut machine [] pieces rest := hempty ▸ hcut
    rw [hnone.nil.1]
    rfl
  · rw [lastLine_eq hlines]

/-- Pieces of the stream account for all that a scanner gives, under any catalog. -/
theorem Scanner.finish_accounts (catalog : Catalog) (text : String) :
    ∃ pieces rest,
      (create (Automaton.ofCatalog catalog) text).finish.Accounts catalog text pieces rest := by
  obtain ⟨pieces, rest, hcut, htokens, herrors⟩ := scanWith_cut (Automaton.ofCatalog catalog) text
  refine ⟨pieces, rest, hcut.flatten, hcut.wellShaped (endsLine_streamOf _), hcut.unclosed_last,
    Segment.next?_eq_none_iff.mp hcut.stops, fun place hplace => ?_, htokens, herrors⟩
  have hnext := hcut.next?_of_placed (streamOfText text) 0 rfl place hplace
  rcases Segment.next?_eq_some_iff.mp hnext with hlayout | ⟨_, hsolid⟩
  · refine Or.inl (by_contra fun hno => ?_)
    rw [Segment.layout?_eq_none_iff.mpr hno] at hlayout
    cases hlayout
  · exact Or.inr hsolid.not_stopsAt

end ExprLang
