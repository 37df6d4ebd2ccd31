import ExprLang.Proofs.Positions
import ExprLang.Proofs.Scan.Lookahead
import ExprLang.Text.IdentifierTables

/-!
Rejected characters are blanks that are complained about. A space in the place of one is cut off as
a blank where the character was cut off as a stray piece, and the pieces in front of it end there
either way, since neither a space nor a rejected character goes on with a number, a word or an
operator. So a text with spaces for its rejected characters gives the same tokens at the same
positions, and of its errors only those of an open string are left.
-/
set_option autoImplicit false

namespace ExprLang

/-- The error is one of a string that is left open. -/
def LexError.isUnterminated : LexError → Bool
  | .unexpectedCharacter _ _ => false
  | .unterminatedString _ => true

/-- The character that is rejected where a piece stands. -/
def Segment.rejected? : Cursor × Segment → Option (Cursor × Char)
  | (cursor, .stray [c]) => some (cursor, c)
  | _ => none

/-- The characters that are rejected among some pieces, the first of them at the cursor. -/
def Segment.rejectedFrom (cursor : Cursor) (pieces : List Segment) : List (Cursor × Char) :=
  (located cursor pieces).filterMap rejected?

/-- The characters of a text that its scan rejects, with the positions where they stand. -/
def rejected [IdentifierClasses] (text : String) : List (Cursor × Char) :=
  Segment.rejectedFrom Cursor.start (Segment.ofStream Automaton.standard (streamOfText text))

/-- The characters from a position on, with a space for each one that is among the places. -/
def blankOut (places : List (Cursor × Char)) : Cursor → List Char → List Char
  | _, [] => []
  | cursor, c :: rest =>
    (if (cursor, c) ∈ places then ' ' else c) :: blankOut places (cursor.advance c) rest

/-- The text with a space for every character that its scan rejects. -/
def withoutRejected [IdentifierClasses] (text : String) : String :=
  String.ofList (blankOut (rejected text) Cursor.start text.toList)

/-- The piece, or a blank in the place of a rejected character. -/
def Segment.spared : Segment → Segment
  | .stray _ => .blank ' '
  | piece => piece

/-- Only single characters are rejected, and no blanks. -/
def SingleStrays (pieces : List Segment) : Prop :=
  ∀ lexeme, .stray lexeme ∈ pieces → ∃ c, lexeme = [c] ∧ isBlank c = false

variable {places : List (Cursor × Char)} {pieces : List Segment} {stream rest : List Char}

/-! ## Spaces in a text -/

theorem not_isBreak_of_not_blank {c : Char} (h : isBlank c = false) : ¬ IsBreak c := by
  intro hbreak
  rw [isBlank_of_isBreak hbreak] at h
  cases h

theorem blankOut_append (front : List Char) (cursor : Cursor) :
    blankOut places cursor (front ++ rest) =
      blankOut places cursor front ++ blankOut places (cursor.advanceOver front) rest := by
  induction front generalizing cursor with
  | nil => rfl
  | cons c front ih =>
    rw [List.cons_append, blankOut, blankOut, ih]
    rfl

theorem blankOut_cons_break (hplaces : ∀ place ∈ places, ¬ IsBreak place.2) {c : Char}
    (hc : IsBreak c) (cursor : Cursor) (rest : List Char) :
    blankOut places cursor (c :: rest) = c :: blankOut places (cursor.advance c) rest := by
  rw [blankOut, if_neg fun hmem => hplaces _ hmem hc]

theorem blankOut_breaks (hplaces : ∀ place ∈ places, ¬ IsBreak place.2) {breaks : List Char}
    (h : ∀ c ∈ breaks, IsBreak c) (cursor : Cursor) : blankOut places cursor breaks = breaks := by
  induction breaks generalizing cursor with
  | nil => rfl
  | cons c breaks ih =>
    rw [List.forall_mem_cons] at h
    rw [blankOut_cons_break hplaces h.1, ih h.2]

theorem sameBreaks_blankOut (hplaces : ∀ place ∈ places, ¬ IsBreak place.2) (cursor : Cursor)
    (text : List Char) : SameBreaks (blankOut places cursor text) text := by
  induction text generalizing cursor with
  | nil => rfl
  | cons c text ih =>
    have hfirst : SameBreaks [if (cursor, c) ∈ places then ' ' else c] [c] := by
      split
      · rename_i hmem
        have hbreak : c ≠ '\n' := fun hc => hplaces _ hmem (Or.inr hc)
        simpa [SameBreaks] using hbreak
      · exact SameBreaks.refl _
    exact hfirst.append (ih (cursor.advance c))

theorem eq_of_not_space {p : Prop} [Decidable p] {c d : Char} (h : (if p then ' ' else c) = d)
    (hspace : ' ' ≠ d) : c = d := by
  split at h
  · exact absurd h hspace
  · exact h

theorem plainBreaks_blankOut (hplaces : ∀ place ∈ places, ¬ IsBreak place.2) (cursor : Cursor)
    (text : List Char) :
    plainBreaks (blankOut places cursor text) = blankOut places cursor (plainBreaks text) := by
  induction text using plainBreaks.induct generalizing cursor with
  | case1 => rfl
  | case2 rest ih =>
    rw [plainBreaks_break, blankOut_cons_break hplaces (Or.inl rfl),
      blankOut_cons_break hplaces (Or.inr rfl), blankOut_cons_break hplaces (Or.inr rfl),
      plainBreaks_break, ih]
    rfl
  | case3 c rest hbreak ih =>
    have hhead : c = '\r' → rest.head? ≠ some '\n' := by
      rintro rfl hfeed
      obtain ⟨tail, rfl⟩ := List.head?_eq_some_iff.mp hfeed
      exact hbreak tail rfl rfl
    rw [plainBreaks_cons hhead, blankOut, blankOut, plainBreaks_cons, ih]
    -- A carriage return was one before, and so was a line feed behind it.
    intro hreturn hfeed
    have hc := eq_of_not_space hreturn (by decide)
    cases rest with
    | nil => cases hfeed
    | cons d rest =>
      have hd := eq_of_not_space (Option.some.inj hfeed) (by decide)
      exact hhead hc (congrArg some hd)

/-! ## Spaces among the pieces -/

theorem SingleStrays.tail {piece : Segment} (h : SingleStrays (piece :: pieces)) :
    SingleStrays pieces :=
  fun lexeme hmem => h lexeme (List.mem_cons_of_mem piece hmem)

theorem SingleStrays.head {piece : Segment} (h : SingleStrays (piece :: pieces)) :
    (∃ c, piece = .stray [c] ∧ isBlank c = false) ∨ ∀ lexeme, piece ≠ .stray lexeme := by
  by_cases hstray : ∃ lexeme, piece = .stray lexeme
  · obtain ⟨lexeme, rfl⟩ := hstray
    obtain ⟨c, rfl, hblank⟩ := h lexeme List.mem_cons_self
    exact Or.inl ⟨c, rfl, hblank⟩
  · exact Or.inr fun lexeme hpiece => hstray ⟨lexeme, hpiece⟩

namespace Segment

theorem spared_eq_self {piece : Segment} (h : ∀ lexeme, piece ≠ .stray lexeme) :
    piece.spared = piece := by
  cases piece with
  | stray lexeme => exact absurd rfl (h lexeme)
  | _ => rfl

theorem rejected?_eq_none {piece : Segment} (h : ∀ lexeme, piece ≠ .stray lexeme)
    (cursor : Cursor) : rejected? (cursor, piece) = none := by
  cases piece with
  | stray lexeme => exact absurd rfl (h lexeme)
  | _ => rfl

theorem rejectedFrom_cons (cursor : Cursor) (piece : Segment) (pieces : List Segment) :
    rejectedFrom cursor (piece :: pieces) = (rejected? (cursor, piece)).toList ++
      rejectedFrom (cursor.advanceOver piece.chars) pieces := by
  rw [rejectedFrom, located, List.filterMap_cons]
  cases rejected? (cursor, piece) <;> rfl

theorem exists_stray_of_mem_rejectedFrom {cursor : Cursor} {place : Cursor × Char}
    (h : place ∈ rejectedFrom cursor pieces) : cursor ≤ place.1 ∧ .stray [place.2] ∈ pieces := by
  induction pieces generalizing cursor with
  | nil => cases h
  | cons piece pieces ih =>
    rw [rejectedFrom_cons, List.mem_append, Option.mem_toList] at h
    rcases h with hfirst | hlater
    · unfold rejected? at hfirst
      split at hfirst
      · rename_i heq
        cases hfirst
        cases heq
        exact ⟨Cursor.le_refl _, List.mem_cons_self⟩
      · cases hfirst
    · obtain ⟨hle, hmem⟩ := ih hlater
      exact ⟨Cursor.le_trans (Cursor.le_advanceOver _ _) hle, List.mem_cons_of_mem piece hmem⟩

end Segment

/-- Characters are left as they are where none of the places is. -/
theorem blankOut_eq_self {run : List Char} {cursor : Cursor}
    (h : ∀ place ∈ places, cursor ≤ place.1 → cursor.advanceOver run ≤ place.1) :
    blankOut places cursor run = run := by
  induction run generalizing cursor with
  | nil => rfl
  | cons c run ih =>
    have hfirst : (cursor, c) ∉ places := fun hmem =>
      Cursor.not_advanceOver_le (List.cons_ne_nil c run) cursor (h _ hmem (Cursor.le_refl cursor))
    have hrest := ih fun place hmem hle => h place hmem (Cursor.le_trans (Cursor.le_advance _ c) hle)
    rw [blankOut, if_neg hfirst, hrest]

theorem not_le_of_mem_before {before : List (Cursor × Char)} {cursor : Cursor} {piece : Segment}
    (hbefore : ∀ place ∈ before, ¬ cursor ≤ place.1) (hsingle : SingleStrays (piece :: pieces)) :
    ∀ place ∈ before ++ (Segment.rejected? (cursor, piece)).toList,
      ¬ cursor.advanceOver piece.chars ≤ place.1 := by
  intro place hmem hle
  rcases List.mem_append.mp hmem with hin | hin
  · exact hbefore place hin (Cursor.le_trans (Cursor.le_advanceOver _ _) hle)
  · rcases hsingle.head with ⟨c, rfl, -⟩ | hother
    · obtain rfl : place = (cursor, c) := by simpa [Segment.rejected?] using hin
      exact Cursor.not_advance_le cursor c hle
    · rw [Segment.rejected?_eq_none hother] at hin
      cases hin

theorem blankOut_chars {before : List (Cursor × Char)} {cursor : Cursor} {piece : Segment}
    (hbefore : ∀ place ∈ before, ¬ cursor ≤ place.1) (hsingle : SingleStrays (piece :: pieces)) :
    blankOut (before ++ Segment.rejectedFrom cursor (piece :: pieces)) cursor piece.chars =
      piece.spared.chars := by
  rcases hsingle.head with ⟨c, rfl, -⟩ | hother
  · have hfirst : (cursor, c) ∈ before ++ Segment.rejectedFrom cursor (.stray [c] :: pieces) := by
      simp [Segment.rejectedFrom_cons, Segment.rejected?]
    show [if _ then ' ' else c] = [' ']
    rw [if_pos hfirst]
  · rw [Segment.rejectedFrom_cons, Segment.rejected?_eq_none hother, Segment.spared_eq_self hother]
    refine blankOut_eq_self fun place hmem hle => ?_
    rcases List.mem_append.mp hmem with hin | hin
    · exact absurd hle (hbefore place hin)
    · exact (Segment.exists_stray_of_mem_rejectedFrom hin).1

/-- Spaces for the rejected characters are blanks for the stray pieces. -/
theorem blankOut_flatMap (hsingle : SingleStrays pieces) (before : List (Cursor × Char))
    (cursor : Cursor) (hbefore : ∀ place ∈ before, ¬ cursor ≤ place.1) :
    blankOut (before ++ Segment.rejectedFrom cursor pieces) cursor
      (pieces.flatMap Segment.chars) = (pieces.map Segment.spared).flatMap Segment.chars := by
  induction pieces generalizing before cursor with
  | nil => rfl
  | cons piece pieces ih =>
    -- Behind the piece its own place counts among those before.
    have hrest := ih hsingle.tail _ _ (not_le_of_mem_before hbefore hsingle)
    rw [List.append_assoc, ← Segment.rejectedFrom_cons] at hrest
    rw [List.flatMap_cons, List.map_cons, List.flatMap_cons, blankOut_append,
      blankOut_chars hbefore hsingle, hrest]

/-! ## Tokens and errors -/

namespace Segment

variable (lastLine : Nat)

theorem advanceOver_spared {piece : Segment} (hsingle : SingleStrays (piece :: pieces))
    (cursor : Cursor) : cursor.advanceOver piece.spared.chars = cursor.advanceOver piece.chars := by
  rcases hsingle.head with ⟨c, rfl, hblank⟩ | hother
  · have hfeed : c ≠ '\n' := fun hc => not_isBreak_of_not_blank hblank (Or.inr hc)
    exact SameBreaks.advanceOver_eq (by simpa [SameBreaks, spared, chars] using hfeed) cursor
  · rw [spared_eq_self hother]

theorem results_spared (hsingle : SingleStrays pieces) (cursor : Cursor) :
    valuesOf (resultsFrom lastLine cursor (pieces.map spared)) =
        valuesOf (resultsFrom lastLine cursor pieces) ∧
      errorsOf (resultsFrom lastLine cursor (pieces.map spared)) =
        (errorsOf (resultsFrom lastLine cursor pieces)).filter LexError.isUnterminated := by
  induction pieces generalizing cursor with
  | nil => exact ⟨rfl, rfl⟩
  | cons piece pieces ih =>
    obtain ⟨hvalues, herrors⟩ := ih hsingle.tail (cursor.advanceOver piece.chars)
    rw [List.map_cons, resultsFrom_cons, resultsFrom_cons, advanceOver_spared hsingle,
      valuesOf_append, valuesOf_append, errorsOf_append, errorsOf_append, List.filter_append,
      hvalues, herrors]
    cases piece <;> exact ⟨rfl, rfl⟩

theorem map_rejectedFrom (hsingle : SingleStrays pieces) (cursor : Cursor) :
    ((rejectedFrom cursor pieces).map fun place =>
        LexError.unexpectedCharacter place.1.displayLine (String.singleton place.2)) =
      (errorsOf (resultsFrom lastLine cursor pieces)).filter fun error => !error.isUnterminated := by
  induction pieces generalizing cursor with
  | nil => rfl
  | cons piece pieces ih =>
    rw [rejectedFrom_cons, resultsFrom_cons, List.map_append, errorsOf_append, List.filter_append,
      ih hsingle.tail]
    congr 1
    rcases hsingle.head with ⟨c, rfl, -⟩ | hother
    · show [LexError.unexpectedCharacter cursor.displayLine (String.singleton c)] = _
      rw [String.singleton_eq_ofList]
      rfl
    · rw [rejected?_eq_none hother]
      cases piece with
      | stray lexeme => exact absurd rfl (hother lexeme)
      | _ => rfl

end Segment

/-- Up to the first stray piece the characters are the same, and there a space comes first. -/
theorem spared_cases (hsingle : SingleStrays pieces) :
    (pieces.map Segment.spared).flatMap Segment.chars = pieces.flatMap Segment.chars ∨
    ∃ common c tail tail', pieces.flatMap Segment.chars = common ++ c :: tail ∧
      (pieces.map Segment.spared).flatMap Segment.chars = common ++ ' ' :: tail' := by
  induction pieces with
  | nil => exact Or.inl rfl
  | cons piece pieces ih =>
    rw [List.map_cons, List.flatMap_cons, List.flatMap_cons]
    rcases hsingle.head with ⟨c, rfl, -⟩ | hother
    · exact Or.inr ⟨[], c, _, _, rfl, rfl⟩
    · rw [Segment.spared_eq_self hother]
      rcases ih hsingle.tail with hsame | ⟨common, c, tail, tail', hchars, hspared⟩
      · exact Or.inl (congrArg _ hsame)
      · refine Or.inr ⟨piece.chars ++ common, c, tail, tail', ?_, ?_⟩
        · rw [hchars, List.append_assoc]
        · rw [hspared, List.append_assoc]

section

variable [IdentifierClasses]

/-! ## The pieces of the text with spaces -/

theorem Cut.singleStrays (h : Cut Automaton.standard stream pieces rest) : SingleStrays pieces := by
  induction h with
  | stop =>
    intro lexeme hmem
    cases hmem
  | piece hnext _ ih =>
    intro lexeme hmem
    rcases List.mem_cons.mp hmem with rfl | hlater
    · obtain ⟨hlayout, hsolid⟩ := solid_of_next? hnext (by simp) (by simp)
      obtain ⟨c, hlexeme, hnothing⟩ := startsNothing_of_stray hsolid hlayout
      exact ⟨c, hlexeme, hnothing.not_blank⟩
    · exact ih lexeme hlater

theorem Cut.spared (h : Cut Automaton.standard stream pieces []) :
    Cut Automaton.standard ((pieces.map Segment.spared).flatMap Segment.chars)
      (pieces.map Segment.spared) [] := by
  have hsingle := h.singleStrays
  generalize hrest : ([] : List Char) = rest at h
  induction h with
  | stop hnone =>
    subst hrest
    exact .stop hnone
  | @piece stream piece pieces rest hnext hmore ih =>
    subst hrest
    have hspared := ih hsingle.tail rfl
    rw [List.map_cons, List.flatMap_cons]
    rcases hsingle.head with ⟨c, rfl, -⟩ | hother
    · exact .piece (Segment.next?_blank _ (by decide) _) hspared
    · have hstarts := Segment.starts_of_next? hnext
      have hflatten := hmore.flatten
      rw [List.append_nil] at hflatten
      rw [← hstarts.2, hflatten] at hnext
      rw [Segment.spared_eq_self hother]
      refine .piece ?_ (by rwa [Segment.length, List.drop_left])
      -- Behind the piece nothing changes, or the first change puts a space there.
      rcases spared_cases hsingle.tail with hsame | ⟨common, c, tail, tail', hchars, hspaces⟩
      · rw [hsame]
        exact hnext
      · rw [hchars, ← List.append_assoc] at hnext
        rw [hspaces, ← List.append_assoc]
        refine Segment.next?_replaced (by simp) hnext ?_ ?_
        · rw [List.length_append]
          exact Nat.le_add_right _ _
        · simp [AtDelimiter, IsDelimiter, isBlank]

/-! ## The text with spaces -/

variable {text : String}

theorem rejected_eq (h : Cut Automaton.standard (streamOfText text) pieces rest) :
    rejected text = Segment.rejectedFrom Cursor.start pieces := by
  obtain ⟨_, hcut⟩ := cut_ofStream Automaton.standard (streamOfText text)
  rw [rejected, (hcut.unique h).1]

theorem not_isBreak_of_mem_rejected : ∀ place ∈ rejected text, ¬ IsBreak place.2 := by
  intro place hmem
  obtain ⟨pieces, hcut⟩ := exists_cut text
  rw [rejected_eq hcut] at hmem
  obtain ⟨c, hc, hblank⟩ := hcut.singleStrays _ (Segment.exists_stray_of_mem_rejectedFrom hmem).2
  exact not_isBreak_of_not_blank (List.singleton_inj.mp hc ▸ hblank)

/-- The spaces in the text are spaces at the same places of its stream. -/
theorem streamOfText_withoutRejected (text : String) :
    streamOfText (withoutRejected text) =
      blankOut (rejected text) Cursor.start (streamOfText text) := by
  have hplaces : ∀ place ∈ rejected text, ¬ IsBreak place.2 := not_isBreak_of_mem_rejected
  have hlast := (sameBreaks_blankOut hplaces Cursor.start text.toList).lastBreak_eq
  rw [streamOfText, streamOfText, streamOf_linesOf_eq, streamOf_linesOf_eq, withoutRejected,
    String.toList_ofList, plainBreaks_blankOut hplaces, hlast, blankOut_append,
    blankOut_breaks hplaces fun _ => isBreak_of_mem_lastBreak]

theorem sameBreaks_withoutRejected (text : String) :
    SameBreaks (streamOfText (withoutRejected text)) (streamOfText text) := by
  rw [streamOfText_withoutRejected]
  exact sameBreaks_blankOut not_isBreak_of_mem_rejected Cursor.start _

theorem Cut.withoutRejected (h : Cut Automaton.standard (streamOfText text) pieces []) :
    Cut Automaton.standard (streamOfText (withoutRejected text)) (pieces.map Segment.spared) [] := by
  have hblank := blankOut_flatMap h.singleStrays [] Cursor.start (by simp)
  have hflatten := h.flatten
  rw [List.append_nil] at hflatten
  rw [List.nil_append, ← rejected_eq h, ← hflatten, ← streamOfText_withoutRejected] at hblank
  exact hblank ▸ h.spared

/-- What a scan rejects are single characters, each reported once and in order; with a space for
each of them the tokens are the same, and only an open string is left to report. -/
theorem scan_withoutRejected (text : String) :
    ((rejected text).map fun place =>
        .unexpectedCharacter place.1.displayLine (String.singleton place.2)) =
      (scan text).errors.filter (fun error => !error.isUnterminated) ∧
    scan (withoutRejected text) =
      ⟨(scan text).tokens, (scan text).errors.filter LexError.isUnterminated⟩ := by
  obtain ⟨pieces, hcut⟩ := exists_cut text
  have hscan : scan text = _ := hcut.scanWith_eq
  have hspared : scan (withoutRejected text) = _ := hcut.withoutRejected.scanWith_eq
  have hsame := sameBreaks_withoutRejected text
  have hsingle := hcut.singleStrays
  let lastLine := (Source.ofText text).lastLine
  obtain ⟨hvalues, herrors⟩ := Segment.results_spared lastLine hsingle Cursor.start
  constructor
  · rw [rejected_eq hcut, Segment.map_rejectedFrom lastLine hsingle, hscan]
  · rw [hspared, hscan, Source.lastLine_congr hsame, Source.endPosition_congr hsame, hvalues,
      herrors]

end

/-- Nothing is rejected in a comment or in a string. -/
example : withoutRejected "=#=1#.5 //#\r\n@\"#" = "= =1 .5 //#\r\n \"#" := by decide +kernel

end ExprLang
