import ExprLang.Proofs.Findings
import ExprLang.Text.IdentifierTables

/-!
Programs one above another. Where the upper one runs without a finding, no string of it is left open
and its last statement is ended, so the lower one is scanned, read and executed as if it stood
alone, only further down. What both report together is therefore what the lower one reports, with
the line of every finding as many lines further down as stand above.
-/
set_option autoImplicit false

namespace ExprLang

/-- What the pieces of a text give. -/
def resultsOf [IdentifierClasses] (text : String) : List (Except LexError Token) :=
  Segment.resultsFrom (Source.ofText text).lastLine Cursor.start
    (Segment.ofStream Automaton.standard (streamOfText text))

variable {above below : String}

/-! ## Reading -/

namespace Parser

theorem program_eof (token : Token) (h : token.isEof = true) :
    (ofTokens [token]).program.1 = [] := by
  simp [ofTokens, program, h, Statement.readAll]

/-- Tokens that are read without an error end with a semicolon, if there are any. -/
theorem ends_of_no_errors {tokens : List Token}
    (h : errorsOf (ofTokens tokens).program.1 = []) (hne : significant tokens ≠ []) :
    ∃ token ∈ (significant tokens).getLast?, token.kind = .semicolon := by
  obtain ⟨clauses, rest, hsplit, hclauses, hrest⟩ := Statement.exists_clauses (significant tokens)
  obtain ⟨results, -, hall⟩ := Statement.readAll_clauses hclauses
  have hfinished : rest = [] := by
    by_contra hopen
    obtain ⟨error, herror⟩ :=
      Statement.readAll_unfinished hopen hrest (ofTokens tokens).last
    rw [program_of_clauses hall hsplit, herror, errorsOf_append] at h
    exact absurd (List.append_eq_nil_iff.mp h).2 (by simp [errorsOf])
  rw [hfinished, List.append_nil] at hsplit
  rcases List.eq_nil_or_concat clauses with rfl | ⟨front, clause, rfl⟩
  · exact absurd hsplit hne
  · obtain ⟨body, semicolon, rfl, hkind, -⟩ := hclauses clause (by simp)
    exact ⟨semicolon, by simp [hsplit], hkind⟩

/-- Behind tokens that are read without an error up to their closing token, others are read as they
are alone. -/
theorem program_behind {tokens : List Token} {closing : Token} (hclosing : closing.isEof = true)
    (hopen : ∀ token ∈ tokens, token.isEof = false)
    (h : errorsOf (ofTokens (tokens ++ [closing])).program.1 = []) (more : List Token) :
    (ofTokens (tokens ++ more)).program.1 =
      (ofTokens (tokens ++ [closing])).program.1 ++ (ofTokens more).program.1 := by
  by_cases hne : tokens = []
  · rw [hne, List.nil_append, List.nil_append, program_eof closing hclosing, List.nil_append]
  · have hsignificant := significant_closed hopen hclosing
    have hends := ends_of_no_errors h (by rwa [hsignificant])
    rw [hsignificant] at hends
    rw [program_append hopen hends, program_append hopen hends, program_eof closing hclosing,
      List.append_nil]

end Parser

section

variable [IdentifierClasses]

/-! ## Scanning -/

theorem scan_eq_resultsOf (text : String) : scan text =
    ⟨valuesOf (resultsOf text) ++ [Token.eof (Source.ofText text).endPosition],
      errorsOf (resultsOf text)⟩ := rfl

theorem resultsOf_eq {text : String} {pieces : List Segment} {rest : List Char}
    (h : Cut Automaton.standard (streamOfText text) pieces rest) :
    resultsOf text =
      Segment.resultsFrom (Source.ofText text).lastLine Cursor.start pieces := by
  obtain ⟨_, hcut⟩ := cut_ofStream Automaton.standard (streamOfText text)
  rw [resultsOf, (hcut.unique h).1]

theorem not_eof_of_mem_values {text : String} :
    ∀ token ∈ valuesOf (resultsOf text), token.isEof = false := by
  intro token htoken
  have hmem : token ∈ (scan text).tokens.dropLast := by
    rw [scan_eq_resultsOf, List.dropLast_concat]
    exact htoken
  exact not_eof_of_mem hmem

/-- The texts are scanned one after the other, also where there is none below. -/
theorem resultsOf_joined (hclosed : ∀ line, .unterminatedString line ∉ (scan above).errors) :
    resultsOf (above ++ "\n" ++ below) =
      resultsOf above ++ (resultsOf below).map (resultDown (above.toList.count '\n' + 1)) := by
  obtain ⟨front, ending, hending, habove, hbreak⟩ := streamOf_linesOf_break above.toList
  obtain ⟨upper, hupper⟩ := exists_cut above
  obtain ⟨lower, hlower⟩ := exists_cut below
  have hstrings : ∀ text, .unclosed text ∉ upper := by
    intro text hmem
    rw [scan_eq_resultsOf, resultsOf_eq hupper] at hclosed
    exact hclosed _ (Segment.unterminatedString_of_unclosed hmem)
  obtain ⟨kept, hkept⟩ := hupper.exists_kept hstrings hending habove
  have hstream : streamOfText (above ++ "\n" ++ below) = front ++ '\n' :: streamOfText below := by
    rw [streamOfText, linesOf_joined, streamOf_append, hbreak, List.append_assoc]
    rfl
  have hcut : Cut Automaton.standard (streamOfText (above ++ "\n" ++ below)) (kept ++ lower) [] :=
    hstream ▸ hkept.cut hlower
  rw [resultsOf_eq hcut, resultsOf_eq hupper, resultsOf_eq hlower]
  by_cases hbelow : below = ""
  · -- Without lines below there is no piece to report on the last of them.
    subst hbelow
    have hnone : lower = [] := hlower.nil.1
    rw [hnone, List.append_nil, hkept.results _ (Source.ofText above).lastLine]
    exact (List.append_nil _).symm
  · exact hkept.results_joined above below hbreak hbelow

/-! ## Statements of both texts -/

theorem program_below (count : Nat) {closing : Token} (hclosing : closing.isEof = true)
    (hbelow : below ≠ "" → closing = (Token.eof (Source.ofText below).endPosition).down count) :
    (Parser.ofTokens ((valuesOf (resultsOf below)).map (Token.down count) ++ [closing])).program.1 =
      (scan below).items.map (itemDown count) := by
  rw [Scan.items, scan_eq_resultsOf]
  by_cases hnone : below = ""
  · have hstop : Cut Automaton.standard (streamOfText "") [] (streamOfText "") := .stop rfl
    have hresults : resultsOf below = [] := hnone ▸ resultsOf_eq hstop
    rw [hresults]
    show (Parser.ofTokens [closing]).program.1 =
      (Parser.ofTokens [Token.eof (Source.ofText below).endPosition]).program.1.map (itemDown count)
    rw [Parser.program_eof _ hclosing, Parser.program_eof _ rfl]
    rfl
  · rw [hbelow hnone, ← List.map_singleton, ← List.map_append]
    exact Parser.program_down count (by simp)

/-- Clauses of the upper text, if there is no error among them, and then those of the lower one. -/
theorem items_joined (hclosed : ∀ line, .unterminatedString line ∉ (scan above).errors)
    (h : errorsOf (scan above).items = []) :
    (scan (above ++ "\n" ++ below)).items =
      (scan above).items ++
        (scan below).items.map (itemDown (above.toList.count '\n' + 1)) := by
  have hbehind := Parser.program_behind rfl not_eof_of_mem_values h
  rw [Scan.items, scan_eq_resultsOf, resultsOf_joined hclosed, valuesOf_append,
    valuesOf_map_resultDown, List.append_assoc, hbehind]
  refine congrArg _ (program_below _ rfl fun hbelow => ?_)
  rw [endPosition_joined above below hbelow]
  exact Token.startingAt_down _ _ _ _ _

/-! ## Running -/

/-- A program that exits with 0, a line feed, and another program: together they exit as the second
one does and report what it reports, every line larger by the number of lines above. -/
theorem run_joined (above below : String)
    (h : (execute Automaton.standard .run above).exitCode = 0) :
    let count := above.toList.count '\n' + 1
    let alone := execute Automaton.standard .run below
    let joined := execute Automaton.standard .run (above ++ "\n" ++ below)
    joined.exitCode = alone.exitCode ∧
      alone.diagnostics = (scan below).findings.map Finding.diagnostic ∧
      joined.diagnostics =
        (scan below).findings.map fun finding => (finding.down count).diagnostic := by
  intro count alone joined
  have hrun : ∀ text, (execute Automaton.standard .run text).diagnostics =
      (scan text).findings.map Finding.diagnostic := fun text => (scan text).run_diagnostics
  have hcode : ∀ text, (execute Automaton.standard .run text).exitCode =
      Report.exitCode ((scan text).findings.map Finding.diagnostic) := by
    intro text
    rw [Outcome.exitCode, hrun]
  rw [hcode, Finding.exitCode_eq_zero_iff, Scan.findings, findingsOf_eq_nil_iff] at h
  obtain ⟨herrors, hitems, hnone⟩ := h
  have hclosed : ∀ line, .unterminatedString line ∉ (scan above).errors := by simp [herrors]
  have hlexical : (scan (above ++ "\n" ++ below)).errors =
      (scan below).errors.map (LexError.down count) := by
    have hresults : errorsOf (resultsOf above) = [] := herrors
    rw [scan_eq_resultsOf, resultsOf_joined hclosed, errorsOf_append, hresults,
      errorsOf_map_resultDown]
    rfl
  have hfindings : (scan (above ++ "\n" ++ below)).findings =
      (scan below).findings.map (Finding.down count) := by
    rw [Scan.findings, hlexical, items_joined hclosed hitems, findingsOf_append hitems hnone,
      findingsOf_down]
    rfl
  refine ⟨?_, hrun below, ?_⟩
  · rw [hcode, hcode, hfindings, Finding.exitCode_down]
  · rw [hrun, hfindings, List.map_map]
    rfl

end

/-- A string over two lines and a comment stand above a stray character and an open statement. -/
theorem stringAbove_faultsBelow :
    (execute Automaton.standard .run "\"a\nb\" == nil; // c\r").exitCode = 0 ∧
      (execute Automaton.standard .run ("\"a\nb\" == nil; // c\r" ++ "\n" ++ "@\n(nil")).exitCode =
        (execute Automaton.standard .run "@\n(nil").exitCode ∧
      (execute Automaton.standard .run "@\n(nil").diagnostics =
        [⟨.lexical, "[line 1] Error: Unexpected character: @"⟩,
          ⟨.syntactic, "[line 2] Error at end: Expect ')' after expression."⟩] ∧
      (execute Automaton.standard .run
        ("\"a\nb\" == nil; // c\r" ++ "\n" ++ "@\n(nil")).diagnostics =
        [⟨.lexical, "[line 3] Error: Unexpected character: @"⟩,
          ⟨.syntactic, "[line 4] Error at end: Expect ')' after expression."⟩] := by
  have hsuccess : (execute Automaton.standard .run "\"a\nb\" == nil; // c\r").exitCode = 0 := by
    decide +kernel
  obtain ⟨hcode, halone, hjoined⟩ := run_joined _ "@\n(nil" hsuccess
  have hfindings : (scan "@\n(nil").findings =
      [⟨.lexical, 1, ": Unexpected character: @"⟩,
        ⟨.syntactic, 2, " at end: Expect ')' after expression."⟩] := by decide +kernel
  rw [hfindings] at halone hjoined
  exact ⟨hsuccess, hcode, halone.trans (by decide +kernel), hjoined.trans (by decide +kernel)⟩

end ExprLang
