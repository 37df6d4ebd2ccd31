import ExprLang.Diagnostic

/-!
From a text to its outcome. Each command takes the text through the phases it needs, and every error
of a phase is reported before those of the next. Tokens are listed whatever the errors; a tree is
printed if one could be built; nothing is evaluated once anything was reported.
-/
set_option autoImplicit false

namespace ExprLang

variable [IdentifierClasses]

/-- How far a text is taken. -/
inductive Command
  | tokenize
  | parse
  | evaluate
  | run
deriving DecidableEq, Repr

namespace Command

/-- The word for a command. -/
def name : Command → String
  | .tokenize => "tokenize"
  | .parse => "parse"
  | .evaluate => "evaluate"
  | .run => "run"

/-- The command of a given name. -/
def ofName? (text : String) : Option Command :=
  [tokenize, parse, evaluate, run].find? (·.name == text)

end Command

/-- What a command prints, line by line, and what it reports. -/
structure Outcome where
  stdout : List String
  diagnostics : Report
deriving DecidableEq, Repr

namespace Outcome

/-- The exit code of the report. -/
def exitCode (outcome : Outcome) : Nat := outcome.diagnostics.exitCode

/-- Nothing went wrong. -/
def isSuccess (outcome : Outcome) : Bool := outcome.exitCode == 0

end Outcome

namespace Scan

/-- The lexical errors of a scan. -/
def report (scan : Scan) : Report := scan.errors.map Diagnostic.ofLexError

/-- Lists the tokens. -/
def tokenize (scan : Scan) : Outcome :=
  ⟨scan.tokens.map Token.text, scan.report⟩

/-- Prints the tree. -/
def parse (scan : Scan) : Outcome :=
  match (Parser.ofTokens scan.tokens).parse.1 with
  | .ok e => ⟨[e.text], scan.report⟩
  | .error error => ⟨[], scan.report ++ [Diagnostic.ofSyntaxError error]⟩

/-- Prints the value of the expression, if nothing was reported before. -/
def evaluate (scan : Scan) : Outcome :=
  match (Parser.ofTokens scan.tokens).parse.1 with
  | .error error => ⟨[], scan.report ++ [Diagnostic.ofSyntaxError error]⟩
  | .ok e =>
    if scan.report = [] then
      match e.evaluate with
      | .ok value => ⟨[value.resultText], []⟩
      | .error error => ⟨[], [Diagnostic.ofRuntimeError error]⟩
    else ⟨[], scan.report⟩

/-- Executes the program, if nothing was reported before. -/
def run (scan : Scan) : Outcome :=
  let items := (Parser.ofTokens scan.tokens).program.1
  let report := scan.report ++ (errorsOf items).map Diagnostic.ofSyntaxError
  if report = [] then
    let (failure, _) := Interpreter.new.execute (valuesOf items)
    ⟨[], failure.toList.map Diagnostic.ofRuntimeError⟩
  else ⟨[], report⟩

/-- The outcome of a command on the tokens and errors of a text. -/
def outcome (scan : Scan) : Command → Outcome
  | .tokenize => scan.tokenize
  | .parse => scan.parse
  | .evaluate => scan.evaluate
  | .run => scan.run

end Scan

/-- The outcome of a command on a text, scanned by a given automaton. -/
def execute (machine : Automaton) (command : Command) (text : String) : Outcome :=
  (scanWith machine text).outcome command

end ExprLang
