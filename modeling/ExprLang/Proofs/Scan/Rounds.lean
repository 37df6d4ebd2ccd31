import ExprLang.Proofs.Scan.Lossless
import ExprLang.Proofs.Scan.NextMatch

/-!
Scanning in rounds. A round asks for the next lexeme of the catalog; if that is unexpected, the
source goes back to where it started and a number, a string or a word is read there, and only if
there is none the character is reported, with the source behind the lexeme again. Repeated until a
lexeme for the end comes, the rounds give what cutting the stream gives: each one skips the layout
and takes the next solid piece.
-/
set_option autoImplicit false

namespace ExprLang

namespace Source

/-- One round: a token or an error, and the source behind it; nothing at the end. -/
def round [IdentifierClasses] (machine : Automaton) (source : Source) :
    Option (Except LexError Token × Source) :=
  let (found, behind) := source.nextMatch machine
  match found.kind with
  | .eof => none
  | .unexpected =>
    match (behind.seek found.cursor).nextLiteral? with
    | some literal => some literal
    | none =>
      some (.error (.unexpectedCharacter found.line found.lexeme), behind.seek behind.cursor)
  | _ => some (.ok found, behind)

/-- The results of all rounds from a source on, until one gives nothing. -/
inductive Rounds [IdentifierClasses] (machine : Automaton) :
    Source → List (Except LexError Token) → Prop
  | stop {source : Source} (hnone : source.round machine = none) : Rounds machine source []
  | next {source behind : Source} {result : Except LexError Token}
      {results : List (Except LexError Token)} (hround : source.round machine = some (result, behind))
      (hrest : Rounds machine behind results) : Rounds machine source (result :: results)

variable {source : Source} {text : String} {offset : Nat} {catalog : Catalog}

/-! ## Layout and places -/

theorem advanceBy_add (source : Source) (first second : Nat) :
    source.advanceBy (first + second) = (source.advanceBy first).advanceBy second := by
  simp only [advanceBy, List.take_add, List.drop_drop, Cursor.advanceOver_append]

theorem skipLayout_advanceBy {piece : Segment} (h : Segment.layout? source.rest = some piece) :
    (source.advanceBy piece.length).skipLayout = source.skipLayout := by
  conv_rhs => rw [skipLayout, Segment.layoutLength_of_some h, advanceBy_add]
  rfl

theorem skipLayout_eq_self (h : ¬ StartsLayout source.rest) : source.skipLayout = source := by
  rw [skipLayout, Segment.layoutLength_of_none (Segment.layout?_eq_none_iff.mpr h)]
  rfl

theorem StandsAt.seek_eq (h : source.StandsAt text offset) {other : Source}
    (hlines : other.lines = source.lines) : other.seek source.cursor = source := by
  have hrest := h.streamFrom_eq
  rw [← h.lines_eq] at hrest
  rw [seek, hlines, hrest]

theorem StandsAt.lastLine_eq (h : source.StandsAt text offset) :
    source.lastLine = (ofText text).lastLine := by
  rw [h.eq_seek]
  rfl

theorem nextMatch_at_head (hlayout : ¬ StartsLayout source.rest) {kind : Kind} {lexeme : String}
    (h : catalog.Finds source.rest kind lexeme) :
    source.nextMatch (Automaton.ofCatalog catalog) =
      (Token.startingAt kind lexeme none source.cursor, source.advanceBy lexeme.length) := by
  have hself := skipLayout_eq_self hlayout
  have hmatch := nextMatch_of_finds (hself.symm ▸ h)
  rwa [hself] at hmatch

/-! ## One round -/

variable [IdentifierClasses]

theorem Rounds.congr {machine : Automaton} {other : Source} {results : List (Except LexError Token)}
    (h : Rounds machine other results) (hround : source.round machine = other.round machine) :
    Rounds machine source results := by
  cases h with
  | stop hnone => exact .stop (hround.trans hnone)
  | next hnext hrest => exact .next (hround.trans hnext) hrest

/-- A piece of layout makes no difference to the round. -/
theorem round_advanceBy_layout {piece : Segment} (machine : Automaton)
    (h : Segment.layout? source.rest = some piece) :
    source.round machine = (source.advanceBy piece.length).round machine := by
  simp only [round, nextMatch, skipLayout_advanceBy h]

theorem exists_result {stream : List Char} {piece : Segment} (h : LiteralAt stream piece)
    (lastLine : Nat) (cursor : Cursor) : ∃ result, piece.result? lastLine cursor = some result := by
  cases h <;> exact ⟨_, rfl⟩

/-- In front of a solid piece the round gives the token or the error of the piece. -/
theorem round_of_solid (h : source.StandsAt text offset) {piece : Segment}
    (hlayout : ¬ StartsLayout source.rest) (hsolid : Solid catalog source.rest piece) :
    ∃ result, piece.result? (ofText text).lastLine source.cursor = some result ∧
      source.round (Automaton.ofCatalog catalog) = some (result, source.advanceBy piece.length) := by
  have hback : ∀ count, (source.advanceBy count).seek source.cursor = source :=
    fun _ => h.seek_eq rfl
  cases hsolid with
  | @token kind lexeme hfinds heof hexpected =>
    have hpiece : (Segment.token kind lexeme.toList none).length = lexeme.length :=
      String.length_toList
    refine ⟨_, rfl, ?_⟩
    simp only [round, nextMatch_at_head hlayout hfinds, Token.startingAt, hpiece,
      String.ofList_toList]
  | @literal lexeme piece hfinds hliteral =>
    obtain ⟨result, hresult⟩ := exists_result (Segment.literalAt_of_literal? hliteral)
      (ofText text).lastLine source.cursor
    have hnext : source.nextLiteral? = some (result, source.advanceBy piece.length) := by
      rw [nextLiteral?, hliteral, Option.bind_some, h.lastLine_eq, hresult, Option.map_some]
    refine ⟨result, hresult, ?_⟩
    simp only [round, nextMatch_at_head hlayout hfinds, Token.cursor_startingAt, hback, hnext]
    rfl
  | @stray lexeme hfinds hnone =>
    have hpiece : (Segment.stray lexeme.toList).length = lexeme.length := String.length_toList
    have hnext : source.nextLiteral? = none := by rw [nextLiteral?, hnone, Option.bind_none]
    have hbehind : (source.advanceBy lexeme.length).seek (source.advanceBy lexeme.length).cursor =
        source.advanceBy lexeme.length := (h.advanceBy hfinds.length_le).seek_eq rfl
    refine ⟨_, rfl, ?_⟩
    simp only [round, nextMatch_at_head hlayout hfinds, Token.cursor_startingAt, hback, hnext,
      hbehind, hpiece, String.ofList_toList]
    rfl

theorem round_of_stops (hlayout : ¬ StartsLayout source.rest) (hstops : catalog.StopsAt source.rest) :
    source.round (Automaton.ofCatalog catalog) = none := by
  rcases hstops with hnil | ⟨entry, hlongest, hkind⟩
  · have hself := skipLayout_eq_self hlayout
    have hmatch := nextMatch_of_nil (Automaton.ofCatalog catalog) (hself.symm ▸ hnil)
    simp only [round, hmatch]
    rfl
  · have hmatch := nextMatch_at_head hlayout (.entry hlongest)
    simp only [round, hmatch, Token.startingAt, hkind]

/-! ## All rounds -/

/-- From any place on, the rounds give the results of the pieces into which the rest is cut. -/
theorem rounds_of_cut {stream rest : List Char} {pieces : List Segment}
    (h : Cut (Automaton.ofCatalog catalog) stream pieces rest) :
    ∀ (source : Source) (offset : Nat), source.StandsAt text offset → source.rest = stream →
      Rounds (Automaton.ofCatalog catalog) source
        ((Segment.located source.cursor pieces).filterMap fun (cursor, piece) =>
          piece.result? (ofText text).lastLine cursor) := by
  induction h with
  | stop hnone =>
    intro source offset _ hrest
    obtain ⟨hlayout, hstops⟩ := Segment.next?_eq_none_iff.mp hnone
    rw [← hrest] at hlayout hstops
    exact .stop (round_of_stops hlayout hstops)
  | @piece stream piece pieces rest hnext _ ih =>
    intro source offset hstands hrest
    have hstarts := Segment.starts_of_next? hnext
    have hfront : source.rest.take piece.length = piece.chars := by rw [hrest, hstarts.take_eq]
    have hwithin : piece.length ≤ source.rest.length := hrest ▸ hstarts.length_le
    have hlater := ih (source.advanceBy piece.length) _ (hstands.advanceBy hwithin)
      (by rw [advanceBy, hrest])
    have hcursor : (source.advanceBy piece.length).cursor =
        source.cursor.advanceOver piece.chars := by rw [advanceBy, hfront]
    rw [hcursor] at hlater
    rw [Segment.located, List.filterMap_cons]
    rcases Segment.next?_eq_some_iff.mp hnext with hlayout | ⟨hlayout, hsolid⟩
    · have hnothing : piece.result? (ofText text).lastLine source.cursor = none := by
        rcases Segment.layout?_shape hlayout with ⟨_, rfl⟩ | ⟨_, rfl⟩ <;> rfl
      simp only [hnothing]
      exact hlater.congr (round_advanceBy_layout _ (hrest ▸ hlayout))
    · rw [← hrest] at hlayout hsolid
      obtain ⟨result, hresult, hround⟩ := round_of_solid hstands hlayout hsolid
      simp only [hresult]
      exact .next hround hlater

end Source

/-- Scanning a text gives the values and the errors of all rounds from its start. -/
theorem scanWith_rounds [IdentifierClasses] (catalog : Catalog) (text : String) :
    ∃ results, (Source.ofText text).Rounds (Automaton.ofCatalog catalog) results ∧
      scanWith (Automaton.ofCatalog catalog) text =
        ⟨valuesOf results ++ [Token.eof (Source.ofText text).endPosition], errorsOf results⟩ := by
  obtain ⟨rest, hcut⟩ := cut_ofStream (Automaton.ofCatalog catalog) (Source.ofText text).rest
  exact ⟨_, Source.rounds_of_cut hcut _ 0 (Source.ofText_standsAt text) rfl, rfl⟩

end ExprLang
