/-!
Lines of a text. A line feed ends a line, and a carriage return that stands right before it belongs
to the line ending; any other carriage return is a character of its line. A text that ends with a
line feed has no further, empty line. The stream of some lines is what a scanner reads: every line
followed by one line feed, the last one too.
-/
set_option autoImplicit false

namespace ExprLang

/-- The lines of a text, without their endings. -/
def linesOf : List Char → List (List Char)
  | [] => []
  | '\n' :: rest => [] :: linesOf rest
  | '\r' :: '\n' :: rest => [] :: linesOf rest
  | c :: rest =>
    match linesOf rest with
    | [] => [[c]]
    | line :: lines => (c :: line) :: lines

/-- Every line followed by one line feed. -/
def streamOf (lines : List (List Char)) : List Char :=
  lines.flatMap (· ++ ['\n'])

@[simp] theorem streamOf_nil : streamOf [] = [] := rfl

@[simp] theorem streamOf_cons (line : List Char) (lines : List (List Char)) :
    streamOf (line :: lines) = line ++ '\n' :: streamOf lines := by
  simp [streamOf]

/-- The text that has these lines, each followed by a line feed. -/
def unlines (lines : List String) : String :=
  String.join (lines.map (· ++ "\n"))

end ExprLang
