import ExprLang.Results
import ExprLang.Segment.Stream
import ExprLang.Source

/-!
Scanning a text. The segments of its stream that are tokens become the token list, closed by a token
for the end of the input, and the stray and unclosed ones become the errors; both lists keep the
order of the stream, and neither stops the other. A source can also be read one lexeme or one
literal at a time. Either way, a source that was moved anywhere gives the tokens that stand there.
-/
set_option autoImplicit false

namespace ExprLang

variable [IdentifierClasses]

/-- What scanning can complain about. -/
inductive LexError
  | unexpectedCharacter (line : Nat) (lexeme : String)
  | unterminatedString (line : Nat)
deriving DecidableEq, Repr

namespace LexError

/-- The line an error is reported for. -/
def line : LexError → Nat
  | .unexpectedCharacter line _ => line
  | .unterminatedString line => line

/-- The complaint in words. -/
def message : LexError → String
  | .unexpectedCharacter line lexeme =>
    "[line " ++ toString line ++ "] Error: Unexpected character: " ++ lexeme
  | .unterminatedString line => "[line " ++ toString line ++ "] Error: Unterminated string."

end LexError

/-- What a segment at a position contributes: a token, an error, or nothing. An unclosed string is
reported for the line given as the last one. -/
def Segment.result? (lastLine : Nat) (cursor : Cursor) : Segment → Option (Except LexError Token)
  | .blank _ => none
  | .comment _ => none
  | .token kind lexeme literal =>
    some (.ok (Token.startingAt kind (String.ofList lexeme) literal cursor))
  | .stray lexeme =>
    some (.error (.unexpectedCharacter cursor.displayLine (String.ofList lexeme)))
  | .unclosed _ => some (.error (.unterminatedString lastLine))

namespace Source

/-! ## One lexeme at a time -/

/-- The last line, as it is shown. -/
def lastLine (source : Source) : Nat := source.endPosition.displayLine

/-- Moves over blanks and comments. -/
def skipLayout (source : Source) : Source :=
  source.advanceBy (Segment.layoutLength source.rest)

/-- The next lexeme of the catalog behind the layout, and the source behind it: a token of kind
`unexpected` with one character where there is no such lexeme, the closing token at the end. -/
def nextMatch (machine : Automaton) (source : Source) : Token × Source :=
  let source := source.skipLayout
  match source.rest with
  | [] => (Token.eof source.endPosition, source)
  | first :: _ =>
    match machine.longest? source.rest with
    | some found =>
      let lexeme := String.ofList (source.rest.take found.length)
      (Token.startingAt found.kind lexeme none source.cursor, source.advanceBy found.length)
    | none =>
      (Token.startingAt .unexpected (String.singleton first) none source.cursor, source.advance)

/-- The number, string or word right at the head, and the source behind it. -/
def nextLiteral? (source : Source) : Option (Except LexError Token × Source) :=
  (Segment.literal? source.rest).bind fun piece =>
    (piece.result? source.lastLine source.cursor).map fun result =>
      (result, source.advanceBy piece.length)

end Source

/-! ## A whole text -/

/-- The tokens and the errors of a text. -/
structure Scan where
  tokens : List Token
  errors : List LexError
deriving DecidableEq, Repr

/-- The tokens and errors of a text under a given automaton. -/
def scanWith (machine : Automaton) (text : String) : Scan :=
  let source := Source.ofText text
  let lastLine := source.lastLine
  let pieces := Segment.located Cursor.start (Segment.ofStream machine source.rest)
  let results := pieces.filterMap fun (cursor, piece) => piece.result? lastLine cursor
  { tokens := valuesOf results ++ [Token.eof source.endPosition]
    errors := errorsOf results }

/-- The tokens and errors of a text of the language. -/
def scan (text : String) : Scan := scanWith Automaton.standard text

/-! ## Scanning once -/

/-- A scanner has a text and, once it has been used, what scanning gave. -/
structure Scanner where
  machine : Automaton
  text : String
  outcome : Option Scan

/-- How a scanner can be misused. -/
inductive ScannerError
  | alreadyScanned
deriving DecidableEq, Repr

/-- The misuse in words. -/
def ScannerError.message : ScannerError → String
  | .alreadyScanned => "a scanner can only scan its source once"

namespace Scanner

/-- A scanner that has not been used. -/
def create (machine : Automaton) (text : String) : Scanner := ⟨machine, text, none⟩

/-- What has been found so far; nothing before the scan. -/
def parts (scanner : Scanner) : Scan := scanner.outcome.getD ⟨[], []⟩

/-- Some error has been found. -/
def hasErrors (scanner : Scanner) : Bool := !scanner.parts.errors.isEmpty

/-- Scans the text, unless that happened before. -/
def scan (scanner : Scanner) : Except ScannerError Scanner :=
  match scanner.outcome with
  | some _ => .error .alreadyScanned
  | none => .ok { scanner with outcome := some (scanWith scanner.machine scanner.text) }

/-- What scanning gives, whether it happened already or not. -/
def finish (scanner : Scanner) : Scan :=
  scanner.outcome.getD (scanWith scanner.machine scanner.text)

/-- A scanner scans once, and then has what finishing gives. -/
theorem scan_eq_ok_iff {scanner scanned : Scanner} : scanner.scan = .ok scanned ↔
    scanner.outcome = none ∧ scanned = { scanner with outcome := some scanner.finish } := by
  obtain ⟨machine, text, _ | found⟩ := scanner
  · simp [scan, finish, eq_comm]
  · simp [scan]

theorem hasErrors_of_scan {scanner scanned : Scanner} (h : scanner.scan = .ok scanned) :
    scanner.hasErrors = false ∧ (scanned.hasErrors = true ↔ scanner.finish.errors ≠ []) := by
  obtain ⟨hnone, rfl⟩ := scan_eq_ok_iff.mp h
  exact ⟨by simp [hasErrors, parts, hnone], by simp [hasErrors, parts]⟩

end Scanner

end ExprLang
