import ExprLang.Pipeline
import ExprLang.Proofs.Parser.MovedDown

/-!
Findings: what a run reports, with the line of each diagnostic apart from its words. Every diagnostic
names one line, a failure behind its words and a fault of the text in front of them; moving a program
down changes that line and nothing else. A program without findings in front of another one adds
none.
-/
set_option autoImplicit false

namespace ExprLang

/-- A diagnostic with its line apart from its words. -/
structure Finding where
  phase : Phase
  line : Nat
  words : String
deriving DecidableEq, Repr

namespace Finding

def message (finding : Finding) : String :=
  match finding.phase with
  | .runtime => finding.words ++ "\n[line " ++ toString finding.line ++ "]"
  | _ => "[line " ++ toString finding.line ++ "] Error" ++ finding.words

def diagnostic (finding : Finding) : Diagnostic := ⟨finding.phase, finding.message⟩

def down (count : Nat) (finding : Finding) : Finding :=
  { finding with line := finding.line + count }

def ofLexError : LexError → Finding
  | .unexpectedCharacter line lexeme => ⟨.lexical, line, ": Unexpected character: " ++ lexeme⟩
  | .unterminatedString line => ⟨.lexical, line, ": Unterminated string."⟩

def ofSyntaxError (error : SyntaxError) : Finding :=
  let place := if error.token.isEof then "end" else "'" ++ error.token.lexeme ++ "'"
  ⟨.syntactic, error.token.line, " at " ++ place ++ ": " ++ error.expected.text⟩

def ofRuntimeError (error : RuntimeError) : Finding := ⟨.runtime, error.line, error.message⟩

/-! ## Diagnostics -/

theorem diagnostic_ofLexError (error : LexError) :
    (ofLexError error).diagnostic = Diagnostic.ofLexError error := by
  cases error with
  | unexpectedCharacter line lexeme =>
    have hwords : "] Error" ++ (": Unexpected character: " ++ lexeme) =
        "] Error: Unexpected character: " ++ lexeme := by
      rw [← String.append_assoc]
      rfl
    simp only [ofLexError, diagnostic, message, Diagnostic.ofLexError, LexError.message,
      String.append_assoc, hwords]
  | unterminatedString line =>
    have hwords : "] Error" ++ ": Unterminated string." = "] Error: Unterminated string." := rfl
    simp only [ofLexError, diagnostic, message, Diagnostic.ofLexError, LexError.message,
      String.append_assoc, hwords]

theorem diagnostic_ofSyntaxError (error : SyntaxError) :
    (ofSyntaxError error).diagnostic = Diagnostic.ofSyntaxError error := by
  have hwords : ∀ rest, "] Error" ++ (" at " ++ rest) = "] Error at " ++ rest := by
    intro rest
    rw [← String.append_assoc]
    rfl
  simp only [ofSyntaxError, diagnostic, message, Diagnostic.ofSyntaxError, Diagnostic.atToken,
    Token.complaint, String.append_assoc, hwords]

theorem diagnostic_ofRuntimeError (error : RuntimeError) :
    (ofRuntimeError error).diagnostic = Diagnostic.ofRuntimeError error := by
  simp only [ofRuntimeError, diagnostic, message, Diagnostic.ofRuntimeError, Diagnostic.atOperator,
    Token.operatorComplaint, RuntimeError.line]

/-! ## Moving down -/

variable (count : Nat)

theorem ofLexError_down (error : LexError) :
    ofLexError (error.down count) = (ofLexError error).down count := by
  cases error <;> rfl

theorem ofSyntaxError_down (error : SyntaxError) :
    ofSyntaxError (error.down count) = (ofSyntaxError error).down count := rfl

theorem ofRuntimeError_down (error : RuntimeError) :
    ofRuntimeError (error.down count) = (ofRuntimeError error).down count := rfl

/-! ## Exit codes -/

theorem exitCode_down (findings : List Finding) :
    Report.exitCode ((findings.map (down count)).map diagnostic) =
      Report.exitCode (findings.map diagnostic) := by
  cases findings <;> rfl

theorem exitCode_eq_zero_iff {findings : List Finding} :
    Report.exitCode (findings.map diagnostic) = 0 ↔ findings = [] := by
  cases findings with
  | nil => exact iff_of_true rfl rfl
  | cons finding rest =>
    obtain ⟨phase, line, words⟩ := finding
    have hcode : Report.exitCode ((⟨phase, line, words⟩ :: rest : List Finding).map diagnostic) =
      phase.exitCode := rfl
    rw [hcode]
    cases phase <;> simp [Phase.exitCode]

end Finding

/-! ## The findings of a run -/

/-- The faults of a program, or its failure if there are none. -/
def findingsOf (errors : List LexError) (items : List (Except SyntaxError Statement)) :
    List Finding :=
  let faults := errors.map Finding.ofLexError ++ (errorsOf items).map Finding.ofSyntaxError
  if faults = [] then
    (Statement.executeAll (valuesOf items)).2.toList.map Finding.ofRuntimeError
  else faults

/-- What the clauses of a scan give. -/
def Scan.items (scan : Scan) : List (Except SyntaxError Statement) :=
  (Parser.ofTokens scan.tokens).program.1

def Scan.findings (scan : Scan) : List Finding := findingsOf scan.errors scan.items

variable {errors : List LexError} {items first : List (Except SyntaxError Statement)}

theorem findingsOf_eq_nil_iff : findingsOf errors items = [] ↔
    errors = [] ∧ errorsOf items = [] ∧ (Statement.executeAll (valuesOf items)).2 = none := by
  unfold findingsOf
  by_cases herrors : errors = [] <;> by_cases hitems : errorsOf items = [] <;>
    simp [herrors, hitems]

theorem findingsOf_down (count : Nat) (errors : List LexError)
    (items : List (Except SyntaxError Statement)) :
    findingsOf (errors.map (LexError.down count)) (items.map (itemDown count)) =
      (findingsOf errors items).map (Finding.down count) := by
  have hfaults : (errors.map (LexError.down count)).map Finding.ofLexError ++
      (errorsOf (items.map (itemDown count))).map Finding.ofSyntaxError =
        (errors.map Finding.ofLexError ++ (errorsOf items).map Finding.ofSyntaxError).map
          (Finding.down count) := by
    rw [errorsOf_map_itemDown]
    simp [Function.comp_def, Finding.ofLexError_down, Finding.ofSyntaxError_down]
  have hfailure : (Statement.executeAll (valuesOf (items.map (itemDown count)))).2 =
      (Statement.executeAll (valuesOf items)).2.map (RuntimeError.down count) := by
    rw [valuesOf_map_itemDown, Statement.executeAll_down]
  unfold findingsOf
  simp only [hfaults, hfailure, List.map_eq_nil_iff]
  by_cases hnone : errors.map Finding.ofLexError ++ (errorsOf items).map Finding.ofSyntaxError = []
  · rw [if_pos hnone, if_pos hnone]
    cases (Statement.executeAll (valuesOf items)).2 with
    | none => rfl
    | some failure => simp [Finding.ofRuntimeError_down]
  · rw [if_neg hnone, if_neg hnone]

/-- Statements that do not fail in front of others add no findings. -/
theorem findingsOf_append (herrors : errorsOf first = [])
    (hrun : (Statement.executeAll (valuesOf first)).2 = none) (errors : List LexError)
    (items : List (Except SyntaxError Statement)) :
    findingsOf errors (first ++ items) = findingsOf errors items := by
  rw [findingsOf, findingsOf, errorsOf_append, herrors, List.nil_append, valuesOf_append,
    Statement.executeAll_append hrun]

/-- A run reports its findings. -/
theorem Scan.run_diagnostics (scan : Scan) :
    scan.run.diagnostics = scan.findings.map Finding.diagnostic := by
  have hreport : scan.report ++ (errorsOf scan.items).map Diagnostic.ofSyntaxError =
      (scan.errors.map Finding.ofLexError ++ (errorsOf scan.items).map Finding.ofSyntaxError).map
        Finding.diagnostic := by
    simp [report, Function.comp_def, Finding.diagnostic_ofLexError, Finding.diagnostic_ofSyntaxError]
  have hrun : scan.run =
      if scan.report ++ (errorsOf scan.items).map Diagnostic.ofSyntaxError = [] then
        ⟨[], (Statement.executeAll (valuesOf scan.items)).2.toList.map Diagnostic.ofRuntimeError⟩
      else ⟨[], scan.report ++ (errorsOf scan.items).map Diagnostic.ofSyntaxError⟩ := rfl
  rw [hrun, findings, findingsOf, hreport]
  simp only [List.map_eq_nil_iff]
  split
  · cases (Statement.executeAll (valuesOf scan.items)).2 with
    | none => rfl
    | some failure => exact congrArg (fun d => [d]) (Finding.diagnostic_ofRuntimeError failure).symm
  · rfl

end ExprLang
