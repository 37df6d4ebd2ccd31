/-!
The characters between tokens: blanks, and what a comment takes with it.
-/
set_option autoImplicit false

namespace ExprLang

/-- The four blanks of the language: space, tab, carriage return and line feed. -/
def isBlank (c : Char) : Bool :=
  c == ' ' || c == '\t' || c == '\r' || c == '\n'

/-- The rest of the current line with its line break. -/
def throughBreak : List Char → List Char
  | [] => []
  | c :: rest => if c = '\n' then [c] else c :: throughBreak rest

theorem throughBreak_append_drop (stream : List Char) :
    throughBreak stream ++ stream.drop (throughBreak stream).length = stream := by
  induction stream with
  | nil => rfl
  | cons c rest ih => by_cases h : c = '\n' <;> simp [throughBreak, h, ih]

end ExprLang
