import ExprLang.CommandLine.Argument

/-!
What the arguments ask for. The command comes before its file, and options may stand on either side
of the command; on each side `--color` and `--dump-tokens` are accepted once, and a choice of colour
behind the command counts more than one in front of it. Verbosity may be asked for any number of
times and changes nothing here, since no log is kept. The items are taken in their order, and the
first that is a fault, or asks for help or the version, decides. The version is only told in front
of a command. In the place of a command the word `help` asks for help too, on the command named
behind it if there is one; nothing else may stand there, neither options nor the end of the options.
-/
set_option autoImplicit false

namespace ExprLang.CommandLine

/-- The options of one side of the command. -/
structure Settings where
  color : Option ColorChoice
  dumpTokens : Bool
deriving DecidableEq, Repr

namespace Settings

/-- No option was given. -/
def empty : Settings := ⟨none, false⟩

/-- Chooses when to colour, once. -/
def withColor (settings : Settings) (choice : ColorChoice) : Except UsageError Settings :=
  match settings.color with
  | some _ => .error (.repeatedOption "--color <COLOR>")
  | none => .ok { settings with color := some choice }

/-- Asks for the token dump, once. -/
def withDump (settings : Settings) : Except UsageError Settings :=
  if settings.dumpTokens then .error (.repeatedOption "--dump-tokens")
  else .ok { settings with dumpTokens := true }

/-- The options of both sides; those behind the command go first. -/
def merge (front back : Settings) : Settings where
  color := back.color.or front.color
  dumpTokens := back.dumpTokens || front.dumpTokens

end Settings

/-- A command, the file it is for, and the options. -/
structure Job where
  command : Command
  file : String
  settings : Settings
deriving DecidableEq, Repr

/-- What the program is asked to do. -/
inductive Request
  | job (job : Job)
  | version
  | help (topic : Option Command)
deriving DecidableEq, Repr

namespace Request

/-- Reads the items behind a command, with the file if it was seen. -/
def afterCommand (command : Command) (front : Settings) (file : Option String) :
    Settings → List Item → Except UsageError Request
  | back, [] =>
    match file with
    | some file => .ok (.job ⟨command, file, front.merge back⟩)
    | none => .error .missingFile
  | back, item :: rest =>
    match item with
    | .color choice => do afterCommand command front file (← back.withColor choice) rest
    | .verbose => afterCommand command front file back rest
    | .dumpTokens => do afterCommand command front file (← back.withDump) rest
    | .help _ => .ok (.help (some command))
    | .version spelling => .error (.unknownOption spelling)
    | .endOfOptions => afterCommand command front file back rest
    | .fault error => .error error
    | .operand text _ =>
      match file with
      | some _ => .error (.unexpectedArgument text)
      | none =>
        if text = "" then .error .emptyFile
        else afterCommand command front (some text) back rest

/-- Help on the command that the items behind the word `help` name, or on the whole program. -/
def helpOn : List Item → Except UsageError Request
  | [] => .ok (.help none)
  | [.operand name false] =>
    match Command.ofName? name with
    | some command => .ok (.help (some command))
    | none => if name = "help" then .ok (.help none) else .error (.unknownCommand name)
  | _ => .error .helpTopic

/-- Reads the items in front of the command. -/
def beforeCommand : Settings → List Item → Except UsageError Request
  | _, [] => .error .missingCommand
  | front, item :: rest =>
    match item with
    | .color choice => do beforeCommand (← front.withColor choice) rest
    | .verbose => beforeCommand front rest
    | .dumpTokens => do beforeCommand (← front.withDump) rest
    | .help _ => .ok (.help none)
    | .version _ => .ok .version
    | .endOfOptions => beforeCommand front rest
    | .fault error => .error error
    | .operand text true => .error (.unexpectedArgument text)
    | .operand text false =>
      match Command.ofName? text with
      | some command => afterCommand command front none Settings.empty rest
      | none => if text = "help" then helpOn rest else .error (.unknownCommand text)

/-- The request that some arguments make. -/
def ofArguments (arguments : List String) : Except UsageError Request :=
  beforeCommand Settings.empty (Item.ofArguments arguments)

end Request

end ExprLang.CommandLine
