import ExprLang.Proofs.Positions
import ExprLang.Proofs.Scan.Lookahead
import ExprLang.Text.IdentifierTables

/-!
The content of a string. Where a quote opens a string, everything up to the next quote is its
content, whatever that looks like outside of one. So the pieces in front of the string and those
behind it are the same for every content; and with as many characters and the same line feeds in the
content, what stands behind keeps its positions. Two texts that differ in the content of one string
alone give scans that differ in that one token alone.
-/
set_option autoImplicit false

namespace ExprLang

/-- A quote behind the text opens a string. -/
structure OpensString [IdentifierClasses] (above : String) : Prop where
  closed : ∀ line, .unterminatedString line ∉ (scan above).errors
  opens : ∃ line, .unterminatedString line ∈ (scan (above ++ "\"")).errors

/-- The content can stand in a string as it is: it neither ends the string nor loses a character
in front of a line feed. -/
structure StringContent (content : String) : Prop where
  no_quote : '"' ∉ content.toList
  no_return : '\r' ∉ content.toList

/-- Two texts with a string between them. -/
def withString (above below content : String) : String :=
  above ++ "\"" ++ content ++ "\"" ++ below

/-- The token of a string right behind a text. -/
def Token.stringBehind (above content : String) : Token :=
  startingAt .string ("\"" ++ content ++ "\"") (some (.string content)) (Cursor.behind above.toList)

/-- The piece of a string with its quotes. -/
def Segment.quoted (content : List Char) : Segment :=
  .token .string ('"' :: content ++ ['"']) (some (.string (String.ofList content)))

variable {above below content : String} {upper lower : List Segment}

/-! ## The string in its stream -/

theorem streamOfText_quoted (hcontent : StringContent content) :
    streamOfText (withString above below content) =
      plainBreaks above.toList ++ ((Segment.quoted content.toList).chars ++
        (plainBreaks below.toList ++ lastBreak ('"' :: below.toList))) := by
  have htext : (withString above below content).toList =
      above.toList ++ '"' :: (content.toList ++ '"' :: below.toList) := by simp [withString]
  have hlast : lastBreak (above.toList ++ '"' :: (content.toList ++ '"' :: below.toList)) =
      lastBreak ('"' :: below.toList) := by
    rw [← List.cons_append, ← List.append_assoc]
    exact lastBreak_append _ (by simp)
  have hquote : ∀ rest, plainBreaks ('"' :: rest) = '"' :: plainBreaks rest :=
    fun _ => plainBreaks_cons (by simp)
  have hplain : plainBreaks content.toList = content.toList :=
    plainBreaks_eq_self fun hinside => hcontent.no_return (hinside.subset (by simp))
  rw [streamOfText, streamOf_linesOf_eq, htext, hlast, plainBreaks_append (by simp), hquote,
    plainBreaks_append (by simp), hquote, hplain]
  simp [Segment.quoted, Segment.chars]

theorem Segment.result?_quoted (above content : String) (lastLine : Nat) :
    (quoted content.toList).result? lastLine (Cursor.start.advanceOver above.toList) =
      some (.ok (Token.stringBehind above content)) := by
  have hlexeme : String.ofList ('"' :: content.toList ++ ['"']) = "\"" ++ content ++ "\"" := by
    rw [← String.toList_inj]
    simp
  rw [quoted, result?, hlexeme, String.ofList_toList, ← Cursor.behind_eq]
  rfl

theorem SameBreaks.quoted {first second : List Char} (h : SameBreaks first second) :
    SameBreaks (Segment.quoted first).chars (Segment.quoted second).chars :=
  ((SameBreaks.refl ['"']).append h).append (SameBreaks.refl ['"'])

section

variable [IdentifierClasses]

/-! ## Above the string -/

theorem OpensString.inFront (h : OpensString above) :
    ∃ upper, CutInFront (plainBreaks above.toList) upper := by
  obtain ⟨line, hopen⟩ := h.opens
  obtain ⟨front, behind, upper, htext, hbehind, hupper⟩ := exists_inFront_of_open hopen
  have hfront : above.toList = front :=
    eq_of_last_quote (by simpa using htext) List.not_mem_nil hbehind
  exact ⟨upper, hfront ▸ hupper⟩

/-- The pieces in front of what follows are those of the text by itself, but for its last break. -/
theorem CutInFront.scan_eq (h : CutInFront (plainBreaks above.toList) upper) (lastLine : Nat) :
    (scan above).tokens.dropLast = valuesOf (Segment.resultsFrom lastLine Cursor.start upper) ∧
      (scan above).errors = errorsOf (Segment.resultsFrom lastLine Cursor.start upper) := by
  have hbreaks : ∀ c ∈ lastBreak above.toList, IsBreak c := fun _ => isBreak_of_mem_lastBreak
  obtain ⟨last, hlast⟩ := exists_pieces (lastBreak above.toList)
  have hcut := h.cut (atBreak_of_breaks hbreaks).atDelimiter hlast
  rw [← streamOf_linesOf_eq] at hcut
  have hscan : scan above = _ := hcut.scanWith_eq
  rw [hscan, Segment.resultsFrom_append, hlast.results_of_breaks hbreaks, List.append_nil,
    List.dropLast_concat, Segment.resultsFrom_of_closed h.closed lastLine]
  exact ⟨rfl, rfl⟩

/-! ## The string -/

theorem CutInFront.cut_quoted (h : CutInFront (plainBreaks above.toList) upper)
    (hcontent : StringContent content) {behind : List Char}
    (hlower : Cut Automaton.standard behind lower []) :
    Cut Automaton.standard
      (plainBreaks above.toList ++ ((Segment.quoted content.toList).chars ++ behind))
      (upper ++ Segment.quoted content.toList :: lower) [] := by
  have hstring : (Segment.quoted content.toList).chars ++ behind =
      '"' :: (content.toList ++ '"' :: behind) := by simp [Segment.quoted, Segment.chars]
  have hnext : Segment.next? Automaton.standard
      ((Segment.quoted content.toList).chars ++ behind) = some (Segment.quoted content.toList) := by
    rw [hstring, Segment.next?_quote, Segment.string_eq hcontent.no_quote]
    rfl
  refine h.cut (hstring ▸ atDelimiter_quote _) (.piece hnext ?_)
  rw [Segment.length, List.drop_left]
  exact hlower

/-- What stands above the string gives what it gives by itself, and what stands below is read from
the closing quote on. -/
theorem CutInFront.scan_quoted (h : CutInFront (plainBreaks above.toList) upper)
    (hcontent : StringContent content)
    (hlower : Cut Automaton.standard
      (plainBreaks below.toList ++ lastBreak ('"' :: below.toList)) lower []) :
    let source := Source.ofText (withString above below content)
    let opening := Cursor.start.advanceOver above.toList
    let results := Segment.resultsFrom source.lastLine
      (opening.advanceOver (Segment.quoted content.toList).chars) lower
    scan (withString above below content) =
      ⟨(scan above).tokens.dropLast ++ Token.stringBehind above content ::
          (valuesOf results ++ [Token.eof source.endPosition]),
        (scan above).errors ++ errorsOf results⟩ := by
  intro source opening results
  obtain ⟨hvalues, herrors⟩ := h.scan_eq source.lastLine
  have hcut := h.cut_quoted hcontent hlower
  rw [← streamOfText_quoted hcontent] at hcut
  have hscan : scan (withString above below content) = _ := hcut.scanWith_eq
  rw [hscan, Segment.resultsFrom_append, h.chars_eq, Cursor.advanceOver_plainBreaks,
    Segment.resultsFrom_cons, Segment.result?_quoted, Option.toList_some, valuesOf_append,
    errorsOf_append, hvalues, herrors, List.append_assoc]
  rfl

/-! ## Two contents -/

/-- The content of a string shows in its token and nowhere else in the scan, as long as it has as
many characters and the same line feeds. -/
theorem scan_string_content (above below : String) (habove : OpensString above)
    {content other : String} (hcontent : StringContent content) (hother : StringContent other)
    (hsame : SameBreaks content.toList other.toList) :
    ∃ after later,
      scan (withString above below content) = ⟨(scan above).tokens.dropLast ++
        Token.stringBehind above content :: after, (scan above).errors ++ later⟩ ∧
      scan (withString above below other) = ⟨(scan above).tokens.dropLast ++
        Token.stringBehind above other :: after, (scan above).errors ++ later⟩ := by
  obtain ⟨upper, hupper⟩ := habove.inFront
  obtain ⟨lower, hlower⟩ :=
    exists_pieces (plainBreaks below.toList ++ lastBreak ('"' :: below.toList))
  have hfirst := hupper.scan_quoted hcontent hlower
  have hsecond := hupper.scan_quoted hother hlower
  have hstreams : SameBreaks (streamOfText (withString above below content))
      (streamOfText (withString above below other)) := by
    rw [streamOfText_quoted hcontent, streamOfText_quoted hother]
    exact (SameBreaks.refl _).append (hsame.quoted.append (SameBreaks.refl _))
  -- The lower pieces stand at the same positions, and the text ends at the same one.
  dsimp only at hsecond
  rw [← Source.lastLine_congr hstreams, ← Source.endPosition_congr hstreams,
    ← hsame.quoted.advanceOver_eq] at hsecond
  exact ⟨_, _, hfirst, hsecond⟩

end

/-- Behind a quote in a comment and a closed string, what would be a comment or a stray character
elsewhere is a character of the string. -/
theorem slashesInString_swapped :
    OpensString "\"a\"//\"\n" ∧ StringContent "//\n1" ∧ StringContent "@)\n." ∧
      SameBreaks "//\n1".toList "@)\n.".toList ∧
      ∃ after later,
        scan (withString "\"a\"//\"\n" "#\"b" "//\n1") =
          ⟨(scan "\"a\"//\"\n").tokens.dropLast ++
            Token.stringBehind "\"a\"//\"\n" "//\n1" :: after,
            (scan "\"a\"//\"\n").errors ++ later⟩ ∧
        scan (withString "\"a\"//\"\n" "#\"b" "@)\n.") =
          ⟨(scan "\"a\"//\"\n").tokens.dropLast ++
            Token.stringBehind "\"a\"//\"\n" "@)\n." :: after,
            (scan "\"a\"//\"\n").errors ++ later⟩ := by
  have hnone : (scan "\"a\"//\"\n").errors = [] := by decide +kernel
  have hopen : (scan ("\"a\"//\"\n" ++ "\"")).errors = [.unterminatedString 2] := by
    decide +kernel
  have habove : OpensString "\"a\"//\"\n" := by
    refine ⟨fun line hmem => ?_, 2, ?_⟩
    · rw [hnone] at hmem
      cases hmem
    · rw [hopen]
      exact List.mem_cons_self
  have hcontent : StringContent "//\n1" := ⟨by decide, by decide⟩
  have hother : StringContent "@)\n." := ⟨by decide, by decide⟩
  have hsame : SameBreaks "//\n1".toList "@)\n.".toList := by decide
  exact ⟨habove, hcontent, hother, hsame,
    scan_string_content _ "#\"b" habove hcontent hother hsame⟩

end ExprLang
