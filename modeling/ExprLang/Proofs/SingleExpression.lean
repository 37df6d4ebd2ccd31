import ExprLang.Proofs.Outcome
import ExprLang.Proofs.Programs
import ExprLang.Proofs.Scan.Lookahead
import ExprLang.Text.IdentifierTables

/-!
One expression, evaluated or run. A text without a semicolon is an expression or it is not; with a
semicolon on a line of its own below it, it is a program of one clause, which is that expression, or
one error. So evaluating the text and running it with the semicolon report the same lexical errors,
both a syntax error or neither, and the same failure; and where a string is left open, it takes the
semicolon in, and both fail for the string.
-/
set_option autoImplicit false

namespace ExprLang

/-- The diagnostics of one phase. -/
def Report.ofPhase (report : Report) (phase : Phase) : Report := report.filter (·.phase = phase)

/-- The outcomes exit alike and tell the same, but for the words of a syntax error. -/
structure Outcome.Alike (first second : Outcome) : Prop where
  exitCode_eq : first.exitCode = second.exitCode
  lexical_eq : first.diagnostics.ofPhase .lexical = second.diagnostics.ofPhase .lexical
  syntactic_eq : (first.diagnostics.ofPhase .syntactic).length =
    (second.diagnostics.ofPhase .syntactic).length
  syntactic_le_one : (first.diagnostics.ofPhase .syntactic).length ≤ 1
  runtime_eq : first.diagnostics.ofPhase .runtime = second.diagnostics.ofPhase .runtime

/-- What is reported where the syntax is right: lexical errors, or else the failure of a tree. -/
def Scan.treeReport (scan : Scan) (e : Expr) : Report :=
  if scan.report = [] then
    (Statement.executeAll [⟨e⟩]).2.toList.map Diagnostic.ofRuntimeError
  else scan.report

/-! ## Reading -/

namespace Parser

variable {tokens clause : List Token} {semicolon closing : Token}

theorem program_of_yields {result : Except SyntaxError Statement}
    (hopen : ∀ token ∈ clause, token.isEof = false) (hclosing : closing.isEof = true)
    (h : Statement.Yields clause result) : (ofTokens (clause ++ [closing])).program.1 = [result] := by
  have hall := h.readAll_append (ofTokens (clause ++ [closing])).last []
  rw [List.append_nil, Statement.readAll] at hall
  show Statement.readAll _ (significant (clause ++ [closing])) = [result]
  rw [significant_closed hopen hclosing, hall]

theorem parse_closed_eq_ok_iff (hopen : ∀ token ∈ tokens, token.isEof = false)
    (hclosing : closing.isEof = true) (e : Expr) :
    (ofTokens (tokens ++ [closing])).parse.1 = .ok e ↔ Expr.read tokens = (.ok e, []) := by
  rw [parse_eq_ok_iff, significant_closed hopen hclosing, Expr.read_eq_ok_iff]

/-- An expression in front of a semicolon is a program of one statement, and what is none is one
error. -/
theorem program_of_parse {closing' : Token} (hopen : ∀ token ∈ tokens, token.isEof = false)
    (hclosing : closing.isEof = true) (hclosing' : closing'.isEof = true)
    (hkind : semicolon.kind = .semicolon) (hbody : ∀ token ∈ tokens, token.kind ≠ .semicolon) :
    (∃ e, (ofTokens (tokens ++ [closing])).parse.1 = .ok e ∧
      (ofTokens (tokens ++ [semicolon] ++ [closing'])).program.1 = [.ok ⟨e⟩]) ∨
    ∃ error error', (ofTokens (tokens ++ [closing])).parse.1 = .error error ∧
      (ofTokens (tokens ++ [semicolon] ++ [closing'])).program.1 = [.error error'] := by
  have hfront : ∀ token ∈ tokens ++ [semicolon], token.isEof = false := by
    intro token hmem
    rcases List.mem_append.mp hmem with hin | hin
    · exact hopen token hin
    · rw [List.mem_singleton.mp hin]
      simp [Token.isEof, hkind]
  have hparse := parse_closed_eq_ok_iff hopen hclosing
  rcases Statement.yields_of_body hkind hbody with ⟨e, hread, hyields⟩ | ⟨hnone, error, hyields⟩
  · exact Or.inl ⟨e, (hparse e).mpr hread, program_of_yields hfront hclosing' hyields⟩
  · cases hresult : (ofTokens (tokens ++ [closing])).parse.1 with
    | ok e => exact absurd ((hparse e).mp hresult) (hnone e)
    | error found => exact Or.inr ⟨found, error, rfl, program_of_yields hfront hclosing' hyields⟩

end Parser

/-! ## Reports -/

namespace Scan

variable {scan : Scan} {e : Expr} {error : SyntaxError}

theorem evaluate_of_tree (h : (Parser.ofTokens scan.tokens).parse.1 = .ok e) :
    scan.evaluate.diagnostics = scan.treeReport e := by
  simp only [evaluate, h, treeReport]
  by_cases hreport : scan.report = []
  · rw [if_pos hreport, if_pos hreport]
    cases hvalue : e.evaluate with
    | ok value => simp [Statement.executeAll, hvalue]
    | error failure => simp [Statement.executeAll, hvalue]
  · rw [if_neg hreport, if_neg hreport]

theorem run_of_statement (h : (Parser.ofTokens scan.tokens).program.1 = [.ok ⟨e⟩]) :
    scan.run.diagnostics = scan.treeReport e := by
  have hfaults : scan.report ++
      (errorsOf [(.ok ⟨e⟩ : Except SyntaxError Statement)]).map Diagnostic.ofSyntaxError =
        scan.report := List.append_nil _
  simp only [run, h, hfaults, treeReport]
  by_cases hreport : scan.report = []
  · rw [if_pos hreport, if_pos hreport]
    rfl
  · rw [if_neg hreport, if_neg hreport]

theorem evaluate_of_error (h : (Parser.ofTokens scan.tokens).parse.1 = .error error) :
    scan.evaluate.diagnostics = scan.report ++ [Diagnostic.ofSyntaxError error] := by
  rw [evaluate, h]

theorem run_of_error (h : (Parser.ofTokens scan.tokens).program.1 = [.error error]) :
    scan.run.diagnostics = scan.report ++ [Diagnostic.ofSyntaxError error] := by
  have hfaults : scan.report ++
      (errorsOf [(.error error : Except SyntaxError Statement)]).map Diagnostic.ofSyntaxError =
        scan.report ++ [Diagnostic.ofSyntaxError error] := rfl
  simp only [run, h, hfaults]
  rw [if_neg (by simp)]

theorem ofPhase_report (scan : Scan) {phase : Phase} (h : phase ≠ .lexical) :
    scan.report.ofPhase phase = [] := by
  refine List.filter_eq_nil_iff.mpr fun diagnostic hmem => ?_
  obtain ⟨error, -, rfl⟩ := List.mem_map.mp hmem
  rw [decide_eq_true_iff]
  exact h.symm

theorem ofPhase_treeReport (scan : Scan) (e : Expr) :
    (scan.treeReport e).ofPhase .syntactic = [] := by
  rw [treeReport]
  split
  · cases (Statement.executeAll [⟨e⟩]).2 <;> rfl
  · exact scan.ofPhase_report (by decide)

/-- Where there is a lexical error, every command exits as for a faulty text. -/
theorem exitCode_of_errors (command : Command) (h : scan.errors ≠ []) :
    (scan.outcome command).exitCode = 65 := by
  have hfaults : scan.faults command ≠ [] := by simp [faults, report, h]
  rcases scan.diagnostics_cases command with hdiagnostics | ⟨-, hnone, -⟩
  · rw [Outcome.exitCode, hdiagnostics,
      Report.exitCode_of_faults (scan.phase_of_mem_faults command), if_neg hfaults]
  · exact absurd hnone hfaults

end Scan

namespace Outcome.Alike

variable {first second : Outcome}

theorem of_diagnostics_eq (h : first.diagnostics = second.diagnostics)
    (hright : first.diagnostics.ofPhase .syntactic = []) : Alike first second := by
  refine ⟨?_, ?_, ?_, ?_, ?_⟩
  · rw [exitCode, exitCode, h]
  · rw [h]
  · rw [h]
  · rw [hright]
    exact Nat.zero_le 1
  · rw [h]

/-- Behind the same lexical errors there is one syntax error each. -/
theorem of_syntaxErrors {scan : Scan} {error error' : SyntaxError}
    (h : first.diagnostics = scan.report ++ [Diagnostic.ofSyntaxError error])
    (h' : second.diagnostics = scan.report ++ [Diagnostic.ofSyntaxError error']) :
    Alike first second := by
  have hphase : ∀ (phase : Phase) (error : SyntaxError),
      Report.ofPhase (scan.report ++ [Diagnostic.ofSyntaxError error]) phase =
        scan.report.ofPhase phase ++ Report.ofPhase [Diagnostic.ofSyntaxError error] phase :=
    fun _ _ => List.filter_append _ _
  have hnone : scan.report.ofPhase .syntactic = [] := scan.ofPhase_report (by decide)
  refine ⟨?_, ?_, ?_, ?_, ?_⟩
  · rw [exitCode, exitCode, h, h']
    cases scan.report <;> rfl
  · rw [h, h', hphase, hphase]
    rfl
  · rw [h, h', hphase, hphase, hnone]
    rfl
  · rw [h, hphase, hnone]
    exact Nat.le_refl 1
  · rw [h, h', hphase, hphase]
    rfl

end Outcome.Alike

section

variable [IdentifierClasses]

/-! ## Evaluating and running -/

theorem cut_semicolon : Cut Automaton.standard (streamOfText ";")
    [.token .semicolon [';'] none, .blank '\n'] [] := by
  have hfound : Automaton.standard.longest? [';', '\n'] = some ⟨.semicolon, 1⟩ := by
    decide +kernel
  have hnext : Segment.next? Automaton.standard [';', '\n'] =
      some (.token .semicolon [';'] none) := by
    simp [Segment.next?, Segment.layout?, Segment.solid?, isBlank, hfound]
  exact .piece hnext (.piece (Segment.next?_blank _ (by decide) []) (.stop rfl))

/-- A semicolon on a line of its own below a text in which no string is left open. -/
theorem resultsOf_semicolon {source : String}
    (hclosed : ∀ line, .unterminatedString line ∉ (scan source).errors) :
    ∃ semicolon, semicolon.kind = .semicolon ∧
      resultsOf (source ++ "\n;") = resultsOf source ++ [.ok semicolon] := by
  have hjoined : resultsOf (source ++ "\n" ++ ";") = _ := resultsOf_joined hclosed
  have hbelow : resultsOf ";" = [.ok ⟨.semicolon, ";", none, 1, 1⟩] := resultsOf_eq cut_semicolon
  rw [hbelow, String.append_assoc] at hjoined
  exact ⟨_, rfl, hjoined⟩

theorem alike_of_closed {source : String}
    (hnone : ∀ token ∈ (scan source).tokens, token.kind ≠ .semicolon)
    (hclosed : ∀ line, .unterminatedString line ∉ (scan source).errors) :
    Outcome.Alike (scan (source ++ "\n;")).run (scan source).evaluate := by
  obtain ⟨semicolon, hkind, hresults⟩ := resultsOf_semicolon hclosed
  have htokens : (scan source).tokens = valuesOf (resultsOf source) ++
      [Token.eof (Source.ofText source).endPosition] := rfl
  have hended : (scan (source ++ "\n;")).tokens = valuesOf (resultsOf source) ++ [semicolon] ++
      [Token.eof (Source.ofText (source ++ "\n;")).endPosition] := by
    rw [scan_eq_resultsOf, hresults, valuesOf_append]
    rfl
  have hreport : (scan (source ++ "\n;")).report = (scan source).report := by
    rw [Scan.report, Scan.report, scan_eq_resultsOf, scan_eq_resultsOf, hresults, errorsOf_append]
    exact congrArg _ (List.append_nil _)
  have hbody : ∀ token ∈ valuesOf (resultsOf source), token.kind ≠ .semicolon :=
    fun token hmem => hnone token (htokens ▸ List.mem_append_left _ hmem)
  have heof : ∀ cursor, (Token.eof cursor).isEof = true := fun _ => rfl
  rcases Parser.program_of_parse not_eof_of_mem_values (heof _) (heof _) hkind hbody with
    ⟨e, hparse, hprogram⟩ | ⟨error, error', hparse, hprogram⟩
  · have hrun := Scan.run_of_statement (hended ▸ hprogram)
    have hevaluate := Scan.evaluate_of_tree (htokens ▸ hparse)
    refine .of_diagnostics_eq ?_ ?_
    · rw [hrun, hevaluate, Scan.treeReport, Scan.treeReport, hreport]
    · rw [hrun]
      exact Scan.ofPhase_treeReport _ e
  · have hrun := Scan.run_of_error (hended ▸ hprogram)
    rw [hreport] at hrun
    exact .of_syntaxErrors hrun (Scan.evaluate_of_error (htokens ▸ hparse))

/-- A text without a semicolon, evaluated, and with one below it, run: they exit alike, and tell the
same unless an open string takes the semicolon in. -/
theorem execute_single_expression (source : String)
    (hnone : ∀ token ∈ (scan source).tokens, token.kind ≠ .semicolon) :
    let alone := execute Automaton.standard .evaluate source
    let ended := execute Automaton.standard .run (source ++ "\n;")
    ended.exitCode = alone.exitCode ∧
      ((∀ line, .unterminatedString line ∉ (scan source).errors) → ended.Alike alone) := by
  intro alone ended
  refine ⟨?_, fun hclosed => alike_of_closed hnone hclosed⟩
  by_cases hopen : ∃ line, .unterminatedString line ∈ (scan source).errors
  · -- The string takes the semicolon in, so both texts are faulty.
    obtain ⟨line, hopen⟩ := hopen
    obtain ⟨line', hopen'⟩ : ∃ line, .unterminatedString line ∈ (scan (source ++ "\n;")).errors :=
      unterminatedString_append hopen (by decide)
    have halone := Scan.exitCode_of_errors .evaluate (List.ne_nil_of_mem hopen)
    have hended := Scan.exitCode_of_errors .run (List.ne_nil_of_mem hopen')
    exact hended.trans halone.symm
  · exact (alike_of_closed hnone fun line hmem => hopen ⟨line, hmem⟩).exitCode_eq

end

/-- The semicolon is read behind a comment in the last line, and the operator fails where it did. -/
theorem negatedString_ended :
    (∀ token ∈ (scan "-\"a\" // b").tokens, token.kind ≠ .semicolon) ∧
      (∀ line, .unterminatedString line ∉ (scan "-\"a\" // b").errors) ∧
      (execute Automaton.standard .run ("-\"a\" // b" ++ "\n;")).exitCode =
        (execute Automaton.standard .evaluate "-\"a\" // b").exitCode ∧
      (execute Automaton.standard .run ("-\"a\" // b" ++ "\n;")).Alike
        (execute Automaton.standard .evaluate "-\"a\" // b") := by
  have hnone : ∀ token ∈ (scan "-\"a\" // b").tokens, token.kind ≠ .semicolon := by decide +kernel
  have herrors : (scan "-\"a\" // b").errors = [] := by decide +kernel
  have hclosed : ∀ line, .unterminatedString line ∉ (scan "-\"a\" // b").errors := by
    simp [herrors]
  obtain ⟨hcode, halike⟩ := execute_single_expression _ hnone
  exact ⟨hnone, hclosed, hcode, halike hclosed⟩

end ExprLang
