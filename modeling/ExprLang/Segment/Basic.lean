import ExprLang.Text.Layout
import ExprLang.Token.Basic

/-!
Segments: the pieces into which scanning cuts a stream. Blanks and comments lie between the tokens;
a stray piece starts no token, and an unclosed piece is a string that has no closing quote. A
segment holds exactly the characters it takes off the stream, so a stream is the text of its
segments.
-/
set_option autoImplicit false

namespace ExprLang

/-- One piece of a stream. -/
inductive Segment
  | blank (symbol : Char)
  | comment (text : List Char)
  | token (kind : Kind) (lexeme : List Char) (literal : Option Literal)
  | stray (lexeme : List Char)
  | unclosed (text : List Char)
deriving DecidableEq, Repr

namespace Segment

/-- The characters of a segment. -/
def chars : Segment → List Char
  | .blank symbol => [symbol]
  | .comment text => text
  | .token _ lexeme _ => lexeme
  | .stray lexeme => lexeme
  | .unclosed text => text

/-- The number of characters of a segment. -/
def length (piece : Segment) : Nat := piece.chars.length

/-- The piece is not empty and stands at the start of the stream. -/
def Starts (piece : Segment) (stream : List Char) : Prop :=
  piece.chars ≠ [] ∧ piece.chars ++ stream.drop piece.length = stream

theorem Starts.drop_lt {piece : Segment} {stream : List Char} (h : piece.Starts stream) :
    (stream.drop piece.length).length < stream.length := by
  have hpos : 0 < piece.length := List.length_pos_iff.2 h.1
  have := congrArg List.length h.2
  simp only [List.length_append, List.length_drop] at this
  rw [List.length_drop]
  simp only [length] at *
  omega

/-! ## Layout -/

/-- The blank or the comment at the start of a stream. -/
def layout? : List Char → Option Segment
  | '/' :: '/' :: rest => some (.comment ('/' :: '/' :: throughBreak rest))
  | symbol :: _ => if isBlank symbol then some (.blank symbol) else none
  | [] => none

theorem starts_of_layout? {stream : List Char} {piece : Segment} (h : layout? stream = some piece) :
    piece.Starts stream := by
  unfold layout? at h
  split at h
  · cases h
    exact ⟨by simp [chars], by simp [chars, length, throughBreak_append_drop]⟩
  · split at h
    · cases h
      exact ⟨by simp [chars], by simp [chars, length]⟩
    · cases h
  · cases h

/-- How many characters of blanks and comments a stream starts with. -/
def layoutLength (stream : List Char) : Nat :=
  match _h : layout? stream with
  | none => 0
  | some piece => piece.length + layoutLength (stream.drop piece.length)
termination_by stream.length
decreasing_by exact (starts_of_layout? _h).drop_lt

end Segment

end ExprLang
