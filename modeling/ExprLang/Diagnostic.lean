import ExprLang.Evaluation
import ExprLang.Parser.Session
import ExprLang.Scan

/-!
Diagnostics: errors as the user sees them, each with the phase that found it. A report is the list
of diagnostics in the order in which they were found, and the first one decides the exit code.
-/
set_option autoImplicit false

namespace ExprLang

/-- The phase that found an error. -/
inductive Phase
  | lexical
  | syntactic
  | runtime
deriving DecidableEq, Repr

namespace Phase

/-- The name of a phase. -/
def name : Phase → String
  | .lexical => "lexical"
  | .syntactic => "syntax"
  | .runtime => "runtime"

/-- The phase of a given name. -/
def ofName? (text : String) : Option Phase :=
  [lexical, syntactic, runtime].find? (·.name == text)

/-- The exit code for an error: 65 for a faulty program, 70 for one that fails when it runs. -/
def exitCode : Phase → Nat
  | .lexical => 65
  | .syntactic => 65
  | .runtime => 70

end Phase

/-- An error in words, with its phase. -/
structure Diagnostic where
  phase : Phase
  message : String
deriving DecidableEq, Repr

namespace Diagnostic

/-- The exit code for this diagnostic. -/
def exitCode (diagnostic : Diagnostic) : Nat := diagnostic.phase.exitCode

/-- The diagnostic of a lexical error. -/
def ofLexError (error : LexError) : Diagnostic := ⟨.lexical, error.message⟩

/-- A complaint of the parser about a token. -/
def atToken (token : Token) (words : String) : Diagnostic := ⟨.syntactic, token.complaint words⟩

/-- A complaint of the evaluation about an operator. -/
def atOperator (operator : Token) (words : String) : Diagnostic :=
  ⟨.runtime, operator.operatorComplaint words⟩

/-- The diagnostic of a syntax error. -/
def ofSyntaxError (error : SyntaxError) : Diagnostic := atToken error.token error.expected.text

/-- The diagnostic of a failure during evaluation. -/
def ofRuntimeError (error : RuntimeError) : Diagnostic := atOperator error.operator error.message

end Diagnostic

/-- Diagnostics in the order in which they were found. -/
abbrev Report := List Diagnostic

/-- The exit code of the first diagnostic, and 0 if there is none. -/
def Report.exitCode (report : Report) : Nat :=
  (report.head?.map Diagnostic.exitCode).getD 0

end ExprLang
