import ExprLang.Proofs.Scan.LineBreaks
import ExprLang.Text.IdentifierTables

/-!
A text above another one. Both are scanned as if each stood alone, as long as no string of the upper
one is left open: its pieces end at its last line break at the latest, where the scan of the lower
text starts afresh. What differs is the end of the last line of the upper text, which alone gives
layout and no more, and the number of lines by which the lower text is moved down.
-/
set_option autoImplicit false

namespace ExprLang

/-- The position some lines further down. -/
def Cursor.down (count : Nat) (cursor : Cursor) : Cursor :=
  { cursor with line := cursor.line + count }

/-- The token some lines further down. -/
def Token.down (count : Nat) (token : Token) : Token := { token with line := token.line + count }

/-- The error some lines further down. -/
def LexError.down (count : Nat) : LexError → LexError
  | .unexpectedCharacter line lexeme => .unexpectedCharacter (line + count) lexeme
  | .unterminatedString line => .unterminatedString (line + count)

/-- What a piece gives, some lines further down. -/
def resultDown (count : Nat) : Except LexError Token → Except LexError Token
  | .ok token => .ok (token.down count)
  | .error error => .error (error.down count)

/-- What pieces give, the first of them standing at the cursor. -/
def Segment.resultsFrom (lastLine : Nat) (cursor : Cursor) (pieces : List Segment) :
    List (Except LexError Token) :=
  (located cursor pieces).filterMap fun (cursor, piece) => piece.result? lastLine cursor

/-! ## Moving down -/

theorem Cursor.displayLine_down (count : Nat) (cursor : Cursor) :
    (cursor.down count).displayLine = cursor.displayLine + count := Nat.add_right_comm _ _ _

theorem Token.startingAt_down (kind : Kind) (lexeme : String) (literal : Option Literal)
    (count : Nat) (cursor : Cursor) :
    startingAt kind lexeme literal (cursor.down count) =
      (startingAt kind lexeme literal cursor).down count := by
  rw [startingAt, Cursor.displayLine_down]
  rfl

theorem Cursor.advanceOver_down (count : Nat) (run : List Char) (cursor : Cursor) :
    (cursor.down count).advanceOver run = (cursor.advanceOver run).down count := by
  induction run generalizing cursor with
  | nil => rfl
  | cons symbol run ih =>
    have hstep : (cursor.down count).advance symbol = (cursor.advance symbol).down count := by
      unfold advance
      split
      · simp only [down, Nat.add_right_comm]
      · rfl
    rw [advanceOver_cons, advanceOver_cons, hstep, ih]

theorem valuesOf_map_resultDown (count : Nat) (results : List (Except LexError Token)) :
    valuesOf (results.map (resultDown count)) = (valuesOf results).map (Token.down count) :=
  valuesOf_map (resultDown count) (fun _ => rfl) (fun _ => rfl) results

theorem errorsOf_map_resultDown (count : Nat) (results : List (Except LexError Token)) :
    errorsOf (results.map (resultDown count)) = (errorsOf results).map (LexError.down count) :=
  errorsOf_map (resultDown count) (fun _ => rfl) (fun _ => rfl) results

/-! ## Results of pieces -/

namespace Segment

variable (lastLine : Nat) (cursor : Cursor)

theorem resultsFrom_cons (piece : Segment) (pieces : List Segment) :
    resultsFrom lastLine cursor (piece :: pieces) = (piece.result? lastLine cursor).toList ++
      resultsFrom lastLine (cursor.advanceOver piece.chars) pieces := by
  rw [resultsFrom, located, List.filterMap_cons]
  cases hresult : piece.result? lastLine cursor with
  | none =>
    simp only [hresult]
    rfl
  | some result =>
    simp only [hresult]
    rfl

theorem resultsFrom_append (first second : List Segment) :
    resultsFrom lastLine cursor (first ++ second) = resultsFrom lastLine cursor first ++
      resultsFrom lastLine (cursor.advanceOver (first.flatMap chars)) second := by
  induction first generalizing cursor with
  | nil => rfl
  | cons piece first ih =>
    rw [List.cons_append, resultsFrom_cons, resultsFrom_cons, ih, List.flatMap_cons,
      Cursor.advanceOver_append, List.append_assoc]

theorem result?_down (count : Nat) (piece : Segment) :
    piece.result? (lastLine + count) (cursor.down count) =
      (piece.result? lastLine cursor).map (resultDown count) := by
  cases piece with
  | blank => rfl
  | comment => rfl
  | token kind lexeme literal =>
    rw [result?, Token.startingAt_down]
    rfl
  | stray lexeme =>
    rw [result?, Cursor.displayLine_down]
    rfl
  | unclosed => rfl

theorem resultsFrom_down (count : Nat) (pieces : List Segment) :
    resultsFrom (lastLine + count) (cursor.down count) pieces =
      (resultsFrom lastLine cursor pieces).map (resultDown count) := by
  induction pieces generalizing cursor with
  | nil => rfl
  | cons piece pieces ih =>
    rw [resultsFrom_cons, resultsFrom_cons, Cursor.advanceOver_down, ih, result?_down,
      List.map_append, Option.toList_map]

variable {lastLine cursor}

theorem result?_of_closed {piece : Segment} (h : ∀ text, piece ≠ .unclosed text) (other : Nat) :
    piece.result? lastLine cursor = piece.result? other cursor := by
  cases piece with
  | unclosed text => exact absurd rfl (h text)
  | _ => rfl

theorem resultsFrom_of_closed {pieces : List Segment} (h : ∀ text, .unclosed text ∉ pieces)
    (other : Nat) : resultsFrom lastLine cursor pieces = resultsFrom other cursor pieces := by
  induction pieces generalizing cursor with
  | nil => rfl
  | cons piece pieces ih =>
    have hpiece : ∀ text, piece ≠ .unclosed text := by
      rintro text rfl
      exact h text List.mem_cons_self
    rw [resultsFrom_cons, resultsFrom_cons, result?_of_closed hpiece other,
      ih fun text hmem => h text (List.mem_cons_of_mem piece hmem)]

theorem unterminatedString_of_unclosed {pieces : List Segment} {text : List Char}
    (h : .unclosed text ∈ pieces) :
    .unterminatedString lastLine ∈ errorsOf (resultsFrom lastLine cursor pieces) := by
  obtain ⟨front, back, rfl⟩ := List.append_of_mem h
  rw [resultsFrom_append, resultsFrom_cons, errorsOf_append, errorsOf_append]
  exact List.mem_append_right _ (List.mem_append_left _ List.mem_cons_self)

end Segment

/-! ## One text above another -/

variable (above below : String)

theorem linesOf_joined : linesOf (above ++ "\n" ++ below).toList =
    linesOf (above.toList ++ ['\n']) ++ linesOf below.toList := by
  rw [String.toList_append, String.toList_append, List.append_assoc]
  exact linesOf_append_break above.toList below.toList

theorem endPosition_joined (hbelow : below ≠ "") :
    (Source.ofText (above ++ "\n" ++ below)).endPosition =
      (Source.ofText below).endPosition.down (above.toList.count '\n' + 1) := by
  have hne : linesOf below.toList ≠ [] := linesOf_ne_nil (by simpa using hbelow)
  have hpos := List.length_pos_iff.mpr hne
  have hlast : (linesOf (above.toList ++ ['\n']) ++ linesOf below.toList).getLast? =
      some ((linesOf below.toList).getLast hne) := by
    rw [List.getLast?_append, List.getLast?_eq_some_getLast hne, Option.some_or]
  simp only [Source.endPosition, Source.ofText, linesOf_joined, hlast,
    List.getLast?_eq_some_getLast hne, List.length_append, length_linesOf_break, Cursor.down,
    Cursor.mk.injEq, and_true]
  omega

theorem lastLine_joined (hbelow : below ≠ "") :
    (Source.ofText (above ++ "\n" ++ below)).lastLine =
      (Source.ofText below).lastLine + (above.toList.count '\n' + 1) := by
  rw [Source.lastLine, endPosition_joined above below hbelow, Cursor.displayLine_down]
  rfl

theorem advanceOver_lines : Cursor.start.advanceOver (streamOf (linesOf (above.toList ++ ['\n']))) =
    Cursor.start.down (above.toList.count '\n' + 1) := by
  have hbehind := Cursor.advanceOver_behind [] (streamOf (linesOf (above.toList ++ ['\n'])))
  rw [List.nil_append, behind_streamOf (not_mem_of_mem_linesOf _), length_linesOf_break] at hbehind
  rw [Cursor.down, Cursor.start, Nat.zero_add]
  exact hbehind

section

/-! ## The pieces of the upper text -/

variable [IdentifierClasses]

/-- In front of a line feed some characters are cut into the kept pieces, whatever stands below, and
these give what the other pieces do. -/
structure KeptAbove (front : List Char) (pieces kept : List Segment) : Prop where
  results : ∀ lastLine other cursor,
    Segment.resultsFrom lastLine cursor kept = Segment.resultsFrom other cursor pieces
  cut : ∀ {below : List Char} {more : List Segment}, Cut Automaton.standard below more [] →
    Cut Automaton.standard (front ++ '\n' :: below) (kept ++ more) []

variable {stream front ending rest : List Char} {pieces : List Segment}

namespace Cut

/-- The catalog of the language has no lexeme for the end. -/
theorem rest_eq_nil (h : Cut Automaton.standard stream pieces rest) : rest = [] := by
  rcases (Segment.next?_eq_none_iff.mp h.stops).2 with hnil | ⟨entry, hlongest, hkind⟩
  · exact hnil
  · have hfixed := Catalog.mem_standard_iff.mp hlongest.mem
    rw [hkind] at hfixed
    cases hfixed

theorem results_of_breaks (h : Cut Automaton.standard stream pieces rest)
    (hbreaks : ∀ c ∈ stream, IsBreak c) (lastLine : Nat) :
    ∀ cursor, Segment.resultsFrom lastLine cursor pieces = [] := by
  induction h with
  | stop => exact fun _ => rfl
  | @piece stream piece pieces rest hnext _ ih =>
    intro cursor
    cases stream with
    | nil => cases hnext
    | cons c stream =>
      have hblank := isBlank_of_isBreak (hbreaks c List.mem_cons_self)
      rw [Segment.next?_blank _ hblank] at hnext
      cases hnext
      rw [Segment.resultsFrom_cons]
      exact ih (fun other hother => hbreaks other (List.mem_cons_of_mem c hother)) _

/-- The rest of a line, alone with its ending, gives nothing. -/
theorem results_of_restOfLine (h : Cut Automaton.standard (front ++ ending) pieces rest)
    (hfront : RestOfLine front) (hending : ∀ c ∈ ending, IsBreak c) (lastLine : Nat)
    (cursor : Cursor) : Segment.resultsFrom lastLine cursor pieces = [] := by
  rcases hfront with rfl | ⟨body, hbody, rfl⟩
  · exact h.results_of_breaks hending lastLine cursor
  · rw [List.cons_append, List.cons_append] at h
    cases h with
    | stop hnone => cases hnone
    | piece hnext hrest =>
      rw [Segment.next?_comment, throughBreak_of_not_mem hbody] at hnext
      cases hnext
      have hdrop : ('/' :: '/' :: (body ++ ending)).drop
          ('/' :: '/' :: (body ++ throughBreak ending)).length =
            ending.drop (throughBreak ending).length := by
        rw [List.length_cons, List.length_cons, List.length_append, List.drop_succ_cons,
          List.drop_succ_cons, List.drop_length_add_append]
      rw [Segment.length, Segment.chars, hdrop] at hrest
      rw [Segment.resultsFrom_cons]
      exact hrest.results_of_breaks (fun c hc => hending c (List.mem_of_mem_drop hc)) lastLine _

theorem kept_of_restOfLine (h : Cut Automaton.standard (front ++ ending) pieces rest)
    (hfront : RestOfLine front) (hending : ∀ c ∈ ending, IsBreak c) :
    ∃ kept, KeptAbove front pieces kept := by
  have hnothing := h.results_of_restOfLine hfront hending
  rcases hfront with rfl | ⟨body, hbody, rfl⟩
  · refine ⟨[.blank '\n'], fun _ other cursor => (hnothing other cursor).symm, ?_⟩
    intro below more hbelow
    exact .piece (Segment.next?_blank _ (by decide) below) hbelow
  · let comment := '/' :: '/' :: (body ++ ['\n'])
    refine ⟨[.comment comment], fun _ other cursor => (hnothing other cursor).symm, ?_⟩
    intro below more hbelow
    have hsplit : '/' :: '/' :: body ++ '\n' :: below = comment ++ below := by simp [comment]
    have hnext := Segment.next?_comment Automaton.standard (body ++ '\n' :: below)
    rw [throughBreak_append hbody] at hnext
    refine .piece hnext ?_
    rw [hsplit, Segment.length, Segment.chars, List.drop_left]
    exact hbelow

end Cut

theorem KeptAbove.cons {piece : Segment} {kept : List Segment}
    (h : KeptAbove (front.drop piece.length) pieces kept) (hfront : ¬ RestOfLine front)
    (hquote : ClosesQuote front) (hclosed : ∀ text, piece ≠ .unclosed text)
    (hnext : Segment.next? Automaton.standard front = some piece) :
    KeptAbove front (piece :: pieces) (piece :: kept) := by
  refine ⟨fun lastLine other cursor => ?_, fun {below more} hbelow => ?_⟩
  · rw [Segment.resultsFrom_cons, Segment.resultsFrom_cons, h.results lastLine other,
      Segment.result?_of_closed hclosed other]
  · have hle := Segment.Starts.length_le (Segment.starts_of_next? hnext)
    have hbreak := (atBreak_cons below).atDelimiter
    refine .piece ((Segment.next?_append hfront hquote hbreak).trans hnext) ?_
    rw [List.drop_append_of_le_length hle]
    exact h.cut hbelow

theorem KeptAbove.chars_eq {kept : List Segment} (h : KeptAbove front pieces kept) :
    kept.flatMap Segment.chars = front ++ ['\n'] := by
  have hflatten := (h.cut (.stop rfl)).flatten
  rwa [List.append_nil, List.append_nil, eq_comm] at hflatten

/-- A line feed behind some characters ends their last line as its own ending did. -/
theorem Cut.exists_kept (h : Cut Automaton.standard stream pieces rest)
    (hclosed : ∀ text, .unclosed text ∉ pieces) (hending : ∀ c ∈ ending, IsBreak c)
    (hstream : stream = front ++ ending) : ∃ kept, KeptAbove front pieces kept := by
  -- Along the cutting, as long as the next piece ends in front of the ending of the last line.
  induction h generalizing front with
  | stop hnone =>
    subst hstream
    have hnil := (Cut.stop hnone).rest_eq_nil
    exact (Cut.stop hnone).kept_of_restOfLine (Or.inl (List.append_eq_nil_iff.mp hnil).1) hending
  | @piece stream piece pieces rest hnext hrest ih =>
    subst hstream
    by_cases hfront : RestOfLine front
    · exact (Cut.piece hnext hrest).kept_of_restOfLine hfront hending
    · have hpiece : ∀ text, piece ≠ .unclosed text := by
        rintro text rfl
        exact hclosed text List.mem_cons_self
      have hquote := Segment.closesQuote_of_next? hending hpiece hnext
      rw [Segment.next?_append hfront hquote (atBreak_of_breaks hending).atDelimiter] at hnext
      have hle := Segment.Starts.length_le (Segment.starts_of_next? hnext)
      obtain ⟨kept, hkept⟩ := ih (fun text hin => hclosed text (List.mem_cons_of_mem piece hin))
        (List.drop_append_of_le_length hle)
      exact ⟨piece :: kept, hkept.cons hfront hquote hpiece hnext⟩

/-! ## The joined text -/

theorem Cut.scanWith_eq {machine : Automaton} {text : String}
    (h : Cut machine (streamOfText text) pieces rest) :
    scanWith machine text =
      ⟨valuesOf (Segment.resultsFrom (Source.ofText text).lastLine Cursor.start pieces) ++
          [Token.eof (Source.ofText text).endPosition],
        errorsOf (Segment.resultsFrom (Source.ofText text).lastLine Cursor.start pieces)⟩ := by
  obtain ⟨_, hcut⟩ := cut_ofStream machine (streamOfText text)
  rw [(h.unique hcut).1]
  rfl

theorem exists_pieces (stream : List Char) : ∃ pieces, Cut Automaton.standard stream pieces [] := by
  obtain ⟨rest, hcut⟩ := cut_ofStream Automaton.standard stream
  have hrest : rest = [] := hcut.rest_eq_nil
  exact ⟨_, hrest ▸ hcut⟩

theorem exists_cut (text : String) :
    ∃ pieces, Cut Automaton.standard (streamOfText text) pieces [] := exists_pieces _

/-- The kept pieces give what the upper text does, the others what the lower does, moved down. -/
theorem KeptAbove.results_joined {upper kept lower : List Segment} (h : KeptAbove front upper kept)
    (hfront : streamOf (linesOf (above.toList ++ ['\n'])) = front ++ ['\n']) (hbelow : below ≠ "") :
    Segment.resultsFrom (Source.ofText (above ++ "\n" ++ below)).lastLine Cursor.start
        (kept ++ lower) =
      Segment.resultsFrom (Source.ofText above).lastLine Cursor.start upper ++
        (Segment.resultsFrom (Source.ofText below).lastLine Cursor.start lower).map
          (resultDown (above.toList.count '\n' + 1)) := by
  rw [Segment.resultsFrom_append, h.chars_eq, ← hfront, advanceOver_lines,
    lastLine_joined above below hbelow, Segment.resultsFrom_down,
    h.results _ (Source.ofText above).lastLine]

/-- A text in which no string is left open, a line feed, and another text: the scan of the first
without its closing token, then that of the second, as many lines further down as stand above. -/
theorem scan_joined (hclosed : ∀ line, .unterminatedString line ∉ (scan above).errors)
    (hbelow : below ≠ "") :
    let count := above.toList.count '\n' + 1
    scan (above ++ "\n" ++ below) =
      ⟨(scan above).tokens.dropLast ++ (scan below).tokens.map (Token.down count),
        (scan above).errors ++ (scan below).errors.map (LexError.down count)⟩ := by
  intro count
  obtain ⟨front, ending, hending, habove, hbreak⟩ := streamOf_linesOf_break above.toList
  obtain ⟨upper, hupper⟩ := exists_cut above
  obtain ⟨lower, hlower⟩ := exists_cut below
  have hscan : scan above = _ := hupper.scanWith_eq
  have hscan' : scan below = _ := hlower.scanWith_eq
  have hstrings : ∀ text, .unclosed text ∉ upper := by
    intro text hmem
    rw [hscan] at hclosed
    exact hclosed _ (Segment.unterminatedString_of_unclosed hmem)
  obtain ⟨kept, hkept⟩ := hupper.exists_kept hstrings hending habove
  have hstream : streamOfText (above ++ "\n" ++ below) = front ++ '\n' :: streamOfText below := by
    rw [streamOfText, linesOf_joined, streamOf_append, hbreak, List.append_assoc]
    rfl
  have hcut : Cut Automaton.standard (streamOfText (above ++ "\n" ++ below)) (kept ++ lower) [] :=
    hstream ▸ hkept.cut hlower
  have hall : scan (above ++ "\n" ++ below) = _ := hcut.scanWith_eq
  have heof : Token.eof (Source.ofText (above ++ "\n" ++ below)).endPosition =
      (Token.eof (Source.ofText below).endPosition).down count := by
    rw [endPosition_joined above below hbelow]
    exact Token.startingAt_down _ _ _ _ _
  rw [hall, hkept.results_joined above below hbreak hbelow, heof, hscan, hscan', valuesOf_append,
    valuesOf_map_resultDown, errorsOf_append, errorsOf_map_resultDown, List.dropLast_concat,
    List.map_append, List.append_assoc]
  rfl

end

/-- A comment above does not reach the line below it, nor does its carriage return count. -/
theorem commentAbove_openString :
    (∀ line, .unterminatedString line ∉ (scan "( // a\r").errors) ∧ "@\n\"b" ≠ "" ∧
      scan ("( // a\r" ++ "\n" ++ "@\n\"b") =
        ⟨[⟨.leftParen, "(", none, 1, 1⟩, ⟨.eof, "", none, 3, 3⟩],
          [.unexpectedCharacter 2 "@", .unterminatedString 3]⟩ := by
  have hnone : (scan "( // a\r").errors = [] := by decide +kernel
  have hclosed : ∀ line, .unterminatedString line ∉ (scan "( // a\r").errors := by
    intro line hmem
    rw [hnone] at hmem
    cases hmem
  have hbelow : "@\n\"b" ≠ "" := by decide
  refine ⟨hclosed, hbelow, ?_⟩
  rw [scan_joined _ _ hclosed hbelow]
  decide +kernel

end ExprLang
