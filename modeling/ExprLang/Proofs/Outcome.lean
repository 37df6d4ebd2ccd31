import ExprLang.Pipeline
import ExprLang.Proofs.Parser.Acceptance

/-!
Outcomes. A command reports the errors of its phases in the order of the phases, and evaluates only
where there is nothing to report. So the report of a command holds faults of the text alone, lexical
ones first, or nothing but one failure, and its first diagnostic is enough to tell which; that is
why the exit code can be read off it. What is printed depends on the same: the tokens always, the
tree if the syntax is right, the value if all is.
-/
set_option autoImplicit false

namespace ExprLang

namespace Scan

/-- The syntax errors that a command meets; listing tokens meets none. -/
def syntaxErrors (scan : Scan) : Command → List SyntaxError
  | .tokenize => []
  | .parse => ((Parser.ofTokens scan.tokens).ask .expression).2.1
  | .evaluate => ((Parser.ofTokens scan.tokens).ask .expression).2.1
  | .run => ((Parser.ofTokens scan.tokens).ask .program).2.1

/-- What is wrong with the text for a command, before anything is evaluated. -/
def faults (scan : Scan) (command : Command) : Report :=
  scan.report ++ (scan.syntaxErrors command).map Diagnostic.ofSyntaxError

end Scan

/-- What a command reports on a scan, phase by phase, and the exit code of that; the failures are
those of the evaluation. -/
structure Outcome.Reports (outcome : Outcome) (scan : Scan) (command : Command)
    (failures : List RuntimeError) : Prop where
  diagnostics_eq : outcome.diagnostics = scan.errors.map Diagnostic.ofLexError ++
    (scan.syntaxErrors command).map Diagnostic.ofSyntaxError ++
    failures.map Diagnostic.ofRuntimeError
  tokenize_syntax : command = .tokenize → scan.syntaxErrors command = []
  expression_syntax : command = .parse ∨ command = .evaluate →
    (scan.syntaxErrors command).length ≤ 1
  failures_le_one : failures.length ≤ 1
  runtime_alone : ∀ diagnostic ∈ outcome.diagnostics, diagnostic.phase = .runtime →
    (command = .evaluate ∨ command = .run) ∧ outcome.diagnostics = [diagnostic]
  exitCode_zero : outcome.exitCode = 0 ↔ outcome.diagnostics = []
  exitCode_runtime : outcome.exitCode = 70 ↔
    ∃ diagnostic, outcome.diagnostics = [diagnostic] ∧ diagnostic.phase = .runtime
  exitCode_other : outcome.exitCode ≠ 0 → outcome.exitCode ≠ 70 → outcome.exitCode = 65

/-- What a command prints on a scan. -/
structure Outcome.Prints (outcome : Outcome) (scan : Scan) (command : Command) : Prop where
  tokenize_eq : command = .tokenize → outcome.stdout = scan.tokens.map Token.text
  parse_length : command = .parse →
    outcome.stdout.length = if scan.syntaxErrors command = [] then 1 else 0
  evaluate_length : command = .evaluate →
    outcome.stdout.length = if outcome.exitCode = 0 then 1 else 0
  run_eq : command = .run → outcome.stdout = []

namespace Scan

variable (scan : Scan) (command : Command)

/-! ## Faults -/

theorem phase_of_mem_faults : ∀ diagnostic ∈ scan.faults command, diagnostic.phase ≠ .runtime := by
  intro diagnostic hin
  simp only [faults, report, List.mem_append, List.mem_map] at hin
  rcases hin with ⟨error, _, rfl⟩ | ⟨error, _, rfl⟩
  · exact Phase.noConfusion
  · exact Phase.noConfusion

/-- An expression is read with one syntax error at most, and with none if there is a tree. -/
theorem expression_syntaxErrors :
    (∃ e, (Parser.ofTokens scan.tokens).parse.1 = .ok e ∧
      ((Parser.ofTokens scan.tokens).ask .expression).2.1 = []) ∨
    ∃ error, (Parser.ofTokens scan.tokens).parse.1 = .error error ∧
      ((Parser.ofTokens scan.tokens).ask .expression).2.1 = [error] := by
  have hask := Parser.ask_expression (Parser.ofTokens scan.tokens)
  cases hparse : (Parser.ofTokens scan.tokens).parse.1 with
  | ok e =>
    rw [hparse] at hask
    exact Or.inl ⟨e, rfl, hask.2⟩
  | error error =>
    rw [hparse] at hask
    exact Or.inr ⟨error, rfl, hask.2⟩

/-! ## The commands -/

theorem parse_cases :
    (scan.syntaxErrors .parse = [] ∧ ∃ line, scan.parse = ⟨[line], scan.faults .parse⟩) ∨
    scan.syntaxErrors .parse ≠ [] ∧ scan.parse = ⟨[], scan.faults .parse⟩ := by
  rcases scan.expression_syntaxErrors with ⟨e, hparse, hask⟩ | ⟨error, hparse, hask⟩
  · exact Or.inl ⟨hask, e.text, by simp [parse, faults, syntaxErrors, hparse, hask]⟩
  · exact Or.inr ⟨by simp [syntaxErrors, hask], by simp [parse, faults, syntaxErrors, hparse, hask]⟩

theorem evaluate_cases :
    (scan.faults .evaluate ≠ [] ∧ scan.evaluate = ⟨[], scan.faults .evaluate⟩) ∨
    scan.faults .evaluate = [] ∧ ((∃ line, scan.evaluate = ⟨[line], []⟩) ∨
      ∃ failure, scan.evaluate = ⟨[], [Diagnostic.ofRuntimeError failure]⟩) := by
  rcases scan.expression_syntaxErrors with ⟨e, hparse, hask⟩ | ⟨error, hparse, hask⟩
  · have hfaults : scan.faults .evaluate = scan.report := by simp [faults, syntaxErrors, hask]
    by_cases hreport : scan.report = []
    · refine Or.inr ⟨by rw [hfaults, hreport], ?_⟩
      cases hvalue : e.evaluate with
      | ok value => exact Or.inl ⟨value.resultText, by simp [evaluate, hparse, hreport, hvalue]⟩
      | error failure => exact Or.inr ⟨failure, by simp [evaluate, hparse, hreport, hvalue]⟩
    · exact Or.inl ⟨by rwa [hfaults], by simp [evaluate, hparse, hreport, hfaults]⟩
  · have hfaults : scan.faults .evaluate = scan.report ++ [Diagnostic.ofSyntaxError error] := by
      simp [faults, syntaxErrors, hask]
    exact Or.inl ⟨by simp [hfaults], by simp [evaluate, hparse, hfaults]⟩

theorem run_cases :
    (scan.faults .run ≠ [] ∧ scan.run = ⟨[], scan.faults .run⟩) ∨
    scan.faults .run = [] ∧ (scan.run = ⟨[], []⟩ ∨
      ∃ failure, scan.run = ⟨[], [Diagnostic.ofRuntimeError failure]⟩) := by
  have hreport : scan.faults .run = scan.report ++
      (errorsOf (Parser.ofTokens scan.tokens).program.1).map Diagnostic.ofSyntaxError := rfl
  by_cases hfaults : scan.faults .run = []
  · refine Or.inr ⟨hfaults, ?_⟩
    rw [run, ← hreport, if_pos hfaults]
    rcases Interpreter.new.execute (valuesOf (Parser.ofTokens scan.tokens).program.1) with
      ⟨_ | failure, _⟩
    · exact Or.inl rfl
    · exact Or.inr ⟨failure, rfl⟩
  · exact Or.inl ⟨hfaults, by rw [run, ← hreport, if_neg hfaults]⟩

/-- A command reports the faults of the text, or one failure where there are none. -/
theorem diagnostics_cases :
    (scan.outcome command).diagnostics = scan.faults command ∨
    (command = .evaluate ∨ command = .run) ∧ scan.faults command = [] ∧
      ∃ failure, (scan.outcome command).diagnostics = [Diagnostic.ofRuntimeError failure] := by
  cases command with
  | tokenize => exact Or.inl (List.append_nil _).symm
  | parse =>
    rcases scan.parse_cases with ⟨_, line, hparse⟩ | ⟨_, hparse⟩
    · exact Or.inl (congrArg Outcome.diagnostics hparse)
    · exact Or.inl (congrArg Outcome.diagnostics hparse)
  | evaluate =>
    rcases scan.evaluate_cases with ⟨_, hvalue⟩ | ⟨hnone, ⟨line, hvalue⟩ | ⟨failure, hvalue⟩⟩
    · exact Or.inl (congrArg Outcome.diagnostics hvalue)
    · exact Or.inl ((congrArg Outcome.diagnostics hvalue).trans hnone.symm)
    · exact Or.inr ⟨Or.inl rfl, hnone, failure, congrArg Outcome.diagnostics hvalue⟩
  | run =>
    rcases scan.run_cases with ⟨_, hrun⟩ | ⟨hnone, hrun | ⟨failure, hrun⟩⟩
    · exact Or.inl (congrArg Outcome.diagnostics hrun)
    · exact Or.inl ((congrArg Outcome.diagnostics hrun).trans hnone.symm)
    · exact Or.inr ⟨Or.inr rfl, hnone, failure, congrArg Outcome.diagnostics hrun⟩

end Scan

/-! ## Exit codes -/

theorem Report.exitCode_of_faults {report : Report}
    (h : ∀ diagnostic ∈ report, diagnostic.phase ≠ .runtime) :
    report.exitCode = if report = [] then 0 else 65 := by
  cases report with
  | nil => rfl
  | cons diagnostic rest =>
    have hphase := h diagnostic List.mem_cons_self
    cases hname : diagnostic.phase with
    | lexical => simp [exitCode, Diagnostic.exitCode, hname, Phase.exitCode]
    | syntactic => simp [exitCode, Diagnostic.exitCode, hname, Phase.exitCode]
    | runtime => exact absurd hname hphase

/-- The exit code of faults, or of a failure that stands alone, tells which of them it is. -/
theorem Report.exitCode_cases {report : Report}
    (h : (∀ diagnostic ∈ report, diagnostic.phase ≠ .runtime) ∨
      ∃ failure, report = [Diagnostic.ofRuntimeError failure]) :
    (report.exitCode = 0 ↔ report = []) ∧
    (report.exitCode = 70 ↔ ∃ diagnostic, report = [diagnostic] ∧ diagnostic.phase = .runtime) ∧
    (report.exitCode ≠ 0 → report.exitCode ≠ 70 → report.exitCode = 65) := by
  rcases h with hfaults | ⟨failure, rfl⟩
  · have hnone : ¬ ∃ diagnostic, report = [diagnostic] ∧ diagnostic.phase = .runtime := by
      rintro ⟨diagnostic, rfl, hruntime⟩
      exact hfaults diagnostic List.mem_cons_self hruntime
    rw [exitCode_of_faults hfaults]
    by_cases hreport : report = []
    · simp [hreport]
    · simp [hreport, hnone]
  · have hcode : exitCode [Diagnostic.ofRuntimeError failure] = 70 := rfl
    rw [hcode]
    exact ⟨by simp, iff_of_true rfl ⟨_, rfl, rfl⟩, fun _ hother => absurd rfl hother⟩

theorem Scan.syntaxErrors_le_one (scan : Scan) {command : Command}
    (h : command = .parse ∨ command = .evaluate) : (scan.syntaxErrors command).length ≤ 1 := by
  have hlength : ((Parser.ofTokens scan.tokens).ask .expression).2.1.length ≤ 1 := by
    rcases scan.expression_syntaxErrors with ⟨_, _, hask⟩ | ⟨_, _, hask⟩ <;> simp [hask]
  rcases h with rfl | rfl
  · exact hlength
  · exact hlength

theorem Scan.outcome_reports (scan : Scan) (command : Command) :
    ∃ failures, (scan.outcome command).Reports scan command failures := by
  have htokenize : command = .tokenize → scan.syntaxErrors command = [] := by
    rintro rfl
    rfl
  have hphase := scan.phase_of_mem_faults command
  rcases scan.diagnostics_cases command with hfaults | ⟨hcommand, hnone, failure, hfailure⟩
  · rw [← hfaults] at hphase
    obtain ⟨hzero, hruntime, hother⟩ := Report.exitCode_cases (Or.inl hphase)
    refine ⟨[], ?_, htokenize, scan.syntaxErrors_le_one, Nat.zero_le _, ?_, hzero, hruntime, hother⟩
    · exact hfaults.trans (List.append_nil _).symm
    · exact fun diagnostic hin hruntime => absurd hruntime (hphase diagnostic hin)
  · obtain ⟨hzero, hruntime, hother⟩ := Report.exitCode_cases (Or.inr ⟨failure, hfailure⟩)
    refine ⟨[failure], ?_, htokenize, scan.syntaxErrors_le_one, Nat.le_refl _, ?_, hzero, hruntime,
      hother⟩
    · rw [hfailure]
      exact congrArg (· ++ [Diagnostic.ofRuntimeError failure]) hnone.symm
    · intro diagnostic hin _
      rw [hfailure, List.mem_singleton] at hin
      exact ⟨hcommand, by rw [hfailure, hin]⟩

theorem Scan.isSuccess_outcome (scan : Scan) (command : Command) :
    (scan.outcome command).isSuccess = true ↔ (scan.outcome command).diagnostics = [] := by
  obtain ⟨failures, hreports⟩ := scan.outcome_reports command
  rw [Outcome.isSuccess, beq_iff_eq, hreports.exitCode_zero]

theorem Scan.outcome_prints (scan : Scan) (command : Command) :
    (scan.outcome command).Prints scan command := by
  refine ⟨?_, ?_, ?_, ?_⟩
  · rintro rfl
    rfl
  · rintro rfl
    rcases scan.parse_cases with ⟨hfaulty, line, hparse⟩ | ⟨hfaulty, hparse⟩
    · simp [outcome, hparse, hfaulty]
    · simp [outcome, hparse, hfaulty]
  · rintro rfl
    rcases scan.evaluate_cases with ⟨hfaults, h⟩ | ⟨hfaults, ⟨line, h⟩ | ⟨failure, h⟩⟩
    · have hcode := Report.exitCode_of_faults (scan.phase_of_mem_faults .evaluate)
      simp [outcome, h, Outcome.exitCode, hcode, hfaults]
    · simp [outcome, h, Outcome.exitCode, Report.exitCode]
    · rw [outcome, h]
      rfl
  · rintro rfl
    rcases scan.run_cases with ⟨_, h⟩ | ⟨_, h | ⟨failure, h⟩⟩ <;> rw [outcome, h]

/-- Whatever the text, the catalog and the command, the outcome reports the errors of the phases in
their order and prints by them. The tokens that are listed end with the end of the input. -/
theorem execute_reports_and_prints [IdentifierClasses] (catalog : Catalog) (command : Command)
    (text : String) :
    let scan := scanWith (Automaton.ofCatalog catalog) text
    let outcome := execute (Automaton.ofCatalog catalog) command text
    (∃ failures, outcome.Reports scan command failures) ∧ outcome.Prints scan command ∧
      scan.tokens.getLast? = some (Token.eof (Source.ofText text).endPosition) := by
  intro scan outcome
  refine ⟨scan.outcome_reports command, scan.outcome_prints command, ?_⟩
  simp [scan, scanWith]

end ExprLang
