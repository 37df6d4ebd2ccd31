import ExprLang.Cursor
import ExprLang.Text.Layout
import ExprLang.Text.Lines

/-!
A text under a reading head. The head is a cursor, and with it goes the part of the stream that is
still to be read, so that looking at the next characters and moving on cost nothing. Moving forward
takes characters off that part; seeking looks the part up in the lines again, and accepts any
cursor: a column past the end of its line stands for the line break, a line past the last one for
the end.
-/
set_option autoImplicit false

namespace ExprLang

/-- The lines of a text, a position in it, and the stream from there on. -/
structure Source where
  lines : List (List Char)
  cursor : Cursor
  rest : List Char
deriving DecidableEq, Repr

namespace Source

/-- The stream of some lines from a cursor on. -/
def streamFrom : List (List Char) → Cursor → List Char
  | [], _ => []
  | line :: lines, ⟨0, column⟩ => line.drop column ++ '\n' :: streamOf lines
  | _ :: lines, ⟨number + 1, column⟩ => streamFrom lines ⟨number, column⟩

/-- A source at the start of a text. -/
def ofText (text : String) : Source :=
  let lines := linesOf text.toList
  ⟨lines, Cursor.start, streamOf lines⟩

/-- How many lines the text has. -/
def lineCount (source : Source) : Nat := source.lines.length

/-- The position behind the last character of the last line. -/
def endPosition (source : Source) : Cursor :=
  match source.lines.getLast? with
  | none => Cursor.start
  | some line => ⟨source.lines.length - 1, line.length⟩

/-! ## Looking -/

/-- Everything is read. -/
def atEnd (source : Source) : Bool := source.rest.isEmpty

/-- The next character, NUL at the end. -/
def peek (source : Source) : Char := source.rest.headD '\x00'

/-- The character behind the next one, NUL where there is none. -/
def peekNext (source : Source) : Char := source.rest.tail.headD '\x00'

/-! ## Moving -/

/-- Moves over `count` characters, or to the end. -/
def advanceBy (source : Source) (count : Nat) : Source :=
  { source with
    cursor := source.cursor.advanceOver (source.rest.take count)
    rest := source.rest.drop count }

/-- Moves over one character, if there is one. -/
def advance (source : Source) : Source := source.advanceBy 1

/-- The next character, and the source behind it. -/
def consume (source : Source) : Char × Source := (source.peek, source.advance)

/-- Moves to the next character that is not blank. -/
def skipBlanks (source : Source) : Source :=
  source.advanceBy (source.rest.takeWhile isBlank).length

/-- Moves behind the next line break. -/
def skipLine (source : Source) : Source :=
  source.advanceBy (throughBreak source.rest).length

/-- Moves to a cursor, which is kept as it is even outside the text. -/
def seek (source : Source) (cursor : Cursor) : Source :=
  { source with cursor, rest := streamFrom source.lines cursor }

/-- A way of moving the head. -/
inductive Move
  | advance
  | advanceBy (count : Nat)
  | skipBlanks
  | skipLine
  | seek (cursor : Cursor)
deriving DecidableEq, Repr

/-- The source behind a move. -/
def move (source : Source) : Move → Source
  | .advance => source.advance
  | .advanceBy count => source.advanceBy count
  | .skipBlanks => source.skipBlanks
  | .skipLine => source.skipLine
  | .seek cursor => source.seek cursor

end Source

end ExprLang
