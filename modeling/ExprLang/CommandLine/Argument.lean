import ExprLang.Pipeline

/-!
The arguments of the program. A first reading turns them into items one by one, whatever their
order: an option, an operand, the end of the options, or a fault. The argument of two hyphens ends
the options, and everything behind it is an operand; a lone hyphen is an operand too. Letters behind
one hyphen are options each on its own. Only `--color` takes a value, either behind an equals sign
or as the next argument.
-/
set_option autoImplicit false

namespace ExprLang.CommandLine

/-- When messages are coloured. -/
inductive ColorChoice
  | auto
  | always
  | never
deriving DecidableEq, Repr

namespace ColorChoice

/-- The word for a choice. -/
def name : ColorChoice → String
  | .auto => "auto"
  | .always => "always"
  | .never => "never"

/-- The choice of a given name. -/
def ofName? (text : String) : Option ColorChoice :=
  [auto, always, never].find? (·.name == text)

end ColorChoice

/-- What can be wrong with the arguments. -/
inductive UsageError
  | unknownOption (option : String)
  | unexpectedValue (option : String)
  | missingValue (option : String)
  | invalidValue (option value : String)
  | repeatedOption (option : String)
  | unknownCommand (name : String)
  | missingCommand
  | helpTopic
  | missingFile
  | emptyFile
  | unexpectedArgument (argument : String)
deriving DecidableEq, Repr

/-- The mistake in words. -/
def UsageError.message : UsageError → String
  | .unknownOption option => "unexpected argument '" ++ option ++ "' found"
  | .unexpectedValue option =>
    "unexpected value for '" ++ option ++ "' found; no more were expected"
  | .missingValue option => "a value is required for '" ++ option ++ "' but none was supplied"
  | .invalidValue option value => "invalid value '" ++ value ++ "' for '" ++ option ++ "'"
  | .repeatedOption option => "the argument '" ++ option ++ "' cannot be used multiple times"
  | .unknownCommand name => "unrecognized subcommand '" ++ name ++ "'"
  | .missingCommand => "a subcommand is required but one was not provided"
  | .helpTopic => "help is given on one subcommand, without any other argument"
  | .missingFile => "the following required arguments were not provided: <FILE>"
  | .emptyFile => "a value is required for '<FILE>' but none was supplied"
  | .unexpectedArgument argument => "unexpected argument '" ++ argument ++ "' found"

/-- One item of the arguments. An operand behind the end of the options is escaped. -/
inductive Item
  | color (choice : ColorChoice)
  | verbose
  | dumpTokens
  | help (spelling : String)
  | version (spelling : String)
  | operand (text : String) (escaped : Bool)
  | endOfOptions
  | fault (error : UsageError)
deriving DecidableEq, Repr

namespace Item

/-- The option of one letter. -/
def ofLetter (letter : Char) : Item :=
  let spelling := String.ofList ['-', letter]
  if letter = 'v' then .verbose
  else if letter = 'h' then .help spelling
  else if letter = 'V' then .version spelling
  else .fault (.unknownOption spelling)

/-- The value of the option `--color`. -/
def ofColor (value : String) : Item :=
  match ColorChoice.ofName? value with
  | some choice => .color choice
  | none => .fault (.invalidValue "--color <COLOR>" value)

/-- The option of a word behind two hyphens, if it stands without a value. -/
def ofWord (word : String) : Item :=
  let spelling := "--" ++ word
  if word = "verbose" then .verbose
  else if word = "dump-tokens" then .dumpTokens
  else if word = "help" then .help spelling
  else if word = "version" then .version spelling
  else .fault (.unknownOption spelling)

/-- The option of a word with a value behind an equals sign. -/
def ofWordWith (word value : String) : Item :=
  if word = "color" then ofColor value
  else
    match ofWord word with
    | .fault error => .fault error
    | _ => .fault (.unexpectedValue ("--" ++ word))

/-- The argument can be the value of an option: it does not look like an option itself. -/
def isValue (argument : String) : Bool :=
  match argument.toList with
  | '-' :: _ :: _ => false
  | _ => true

/-- The items of some arguments. -/
def ofArguments : List String → List Item
  | [] => []
  | argument :: rest =>
    match argument.toList with
    | ['-', '-'] => .endOfOptions :: rest.map (.operand · true)
    | '-' :: '-' :: letters =>
      let word := String.ofList (letters.takeWhile (· ≠ '='))
      match letters.dropWhile (· ≠ '=') with
      | _ :: value => ofWordWith word (String.ofList value) :: ofArguments rest
      | [] =>
        if word = "color" then
          match rest with
          | value :: rest =>
            if isValue value then ofColor value :: ofArguments rest
            else [.fault (.missingValue "--color <COLOR>")]
          | [] => [.fault (.missingValue "--color <COLOR>")]
        else ofWord word :: ofArguments rest
    | '-' :: letter :: letters => (letter :: letters).map ofLetter ++ ofArguments rest
    | _ => .operand argument false :: ofArguments rest

end Item

end ExprLang.CommandLine
