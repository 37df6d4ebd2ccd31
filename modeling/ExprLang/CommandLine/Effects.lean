import ExprLang.CommandLine.Folder
import ExprLang.CommandLine.Help
import ExprLang.CommandLine.Request
import ExprLang.CommandLine.TokenDump
import ExprLang.Text.IdentifierTables

/-!
What a run of the program does: the text it writes to each of its two streams, and its exit code.
The lines a command prints go to standard output. Standard error takes the token dump if it was
asked for, then one line for each diagnostic. A file that cannot be read, or whose bytes are not
text, ends the run before the command is looked at. Names are made of the characters that Unicode 16
has for them, unless a run is given other classes.

The environment is no part of a run. `RUST_LOG` is not set: it comes before `-v` in deciding which
log lines go to standard error, and log lines, which only these two ask for, are no part of the
effects. No variable asks for colours either and standard output is not a terminal, so the choice
`auto` colours nothing.
-/
set_option autoImplicit false

namespace ExprLang.CommandLine

variable [IdentifierClasses]

/-- The visible effects of a run. -/
structure Effects where
  stdout : String
  stderr : String
  exitCode : Nat
deriving DecidableEq, Repr

namespace Job

/-- The word for an error, in bold red if colour was asked for. -/
def errorWord (job : Job) : String :=
  if job.settings.color = some .always then "\x1b[1;31merror\x1b[0m" else "error"

/-- The effects of a job on a text. -/
def onText (job : Job) (text : String) : Effects :=
  let scan := scanWith Automaton.standard text
  let outcome := scan.outcome job.command
  let dump := if job.settings.dumpTokens then dumpLines scan.tokens else []
  { stdout := unlines outcome.stdout
    stderr := unlines (dump ++ outcome.diagnostics.map Diagnostic.message)
    exitCode := outcome.exitCode }

/-- The effects of a job whose file cannot be read. -/
def onReadError (job : Job) (error : ReadError) : Effects where
  stdout := ""
  stderr := job.errorWord ++ ": could not read file '" ++ job.file ++ "': " ++ error.message ++ "\n"
  exitCode := 65

/-- The effects of a job, given the bytes of its file. -/
def effects (job : Job) (content : Except ReadError ByteArray) : Effects :=
  match content with
  | .error error => job.onReadError error
  | .ok bytes =>
    match String.fromUTF8? bytes with
    | none => job.onReadError .notText
    | some text => job.onText text

end Job

/-- The effects of arguments that make no sense. -/
def onUsageError (error : UsageError) : Effects where
  stdout := ""
  stderr := "error: " ++ error.message ++ "\n\nFor more information, try '--help'.\n"
  exitCode := 64

/-- The effects of a request, given how files are read. -/
def Request.effects (read : String → Except ReadError ByteArray) : Request → Effects
  | .job task => task.effects (read task.file)
  | .version => ⟨"loxscan 0.1.0\n", "", 0⟩
  | .help topic => ⟨helpText topic, "", 0⟩

/-- A run of the program with some arguments, without `RUST_LOG`, given how files are read. -/
def run (read : String → Except ReadError ByteArray) (arguments : List String) : Effects :=
  match Request.ofArguments arguments with
  | .error error => onUsageError error
  | .ok request => request.effects read

end ExprLang.CommandLine
