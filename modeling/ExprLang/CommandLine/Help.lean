import ExprLang.Pipeline
import ExprLang.Text.Lines

/-!
The help texts: one for the whole program, which lists the commands, and one for each command.
-/
set_option autoImplicit false

namespace ExprLang.CommandLine

/-- What a command is for. -/
def purpose : Command → String
  | .tokenize => "Print the token stream"
  | .parse => "Print the parsed expression tree"
  | .evaluate => "Print the value of the expression"
  | .run => "Execute `;`-terminated expression statements"

/-- The options on either side of a command. -/
def optionLines : List String :=
  ["Options:",
    "      --color <COLOR>  When to use colors in CLI messages [default: auto] " ++
      "[possible values: auto, always, never]",
    "  -v, --verbose...     Increase log verbosity",
    "      --dump-tokens    Print tokens to stderr before parsing",
    "  -h, --help           Print help"]

/-- The help on the whole program. -/
def programHelp : List String :=
  ["Scan, parse and evaluate expressions with a longest-match automaton", "",
    "Usage: loxscan [OPTIONS] <COMMAND>", "",
    "Commands:",
    "  tokenize  " ++ purpose .tokenize,
    "  parse     " ++ purpose .parse,
    "  evaluate  " ++ purpose .evaluate,
    "  run       " ++ purpose .run,
    "  help      Print this message or the help of the given subcommand(s)", ""] ++
    optionLines ++ ["  -V, --version        Print version"]

/-- The help on a command. -/
def commandHelp (command : Command) : List String :=
  [purpose command, "", "Usage: loxscan " ++ command.name ++ " [OPTIONS] <FILE>", "",
    "Arguments:", "  <FILE>  ", ""] ++ optionLines

/-- The text of the help on a command, or on the whole program. -/
def helpText (topic : Option Command) : String :=
  unlines ((topic.map commandHelp).getD programHelp)

end ExprLang.CommandLine
