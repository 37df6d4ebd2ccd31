import ExprLang.Automaton
import ExprLang.Segment.Literal

/-!
Cutting a stream into segments. Layout goes first; what is no layout is matched against the catalog,
and where the catalog has no lexeme, or has one of kind `unexpected`, a number, a string or a word
is looked for at the same place. If there is none either, the piece is stray: the lexeme of the
catalog if one was found, a single character otherwise. A lexeme of kind `eof` ends the cutting
before it. Every piece stands at the start of what is left of the stream, so the cutting ends.
-/
set_option autoImplicit false

namespace ExprLang.Segment

theorem starts_take {piece : Segment} {stream : List Char} {length : Nat}
    (hchars : piece.chars = stream.take length) (hpos : 0 < length) (hstream : stream ≠ []) :
    piece.Starts stream := by
  refine ⟨?_, ?_⟩
  · rw [hchars, ne_eq, List.take_eq_nil_iff]
    exact not_or.2 ⟨Nat.pos_iff_ne_zero.1 hpos, hstream⟩
  · rw [Segment.length, hchars, List.length_take]
    rcases Nat.le_total length stream.length with hle | hle
    · rw [Nat.min_eq_left hle]
      exact List.take_append_drop _ _
    · rw [Nat.min_eq_right hle, List.take_of_length_le hle, List.drop_length, List.append_nil]

variable [IdentifierClasses]

/-- The literal at the start of a stream, or else a stray piece of the given length. -/
def literalOrStray (stream : List Char) (length : Nat) : Segment :=
  (literal? stream).getD (.stray (stream.take length))

/-- The segment at the start of a stream that starts with no layout. -/
def solid? (machine : Automaton) (stream : List Char) : Option Segment :=
  match machine.longest? stream with
  | none => if stream = [] then none else some (literalOrStray stream 1)
  | some found =>
    match found.kind with
    | .eof => none
    | .unexpected => some (literalOrStray stream found.length)
    | kind => some (.token kind (stream.take found.length) none)

/-- The segment at the start of a stream; none at its end and before a lexeme of kind `eof`. -/
def next? (machine : Automaton) (stream : List Char) : Option Segment :=
  match layout? stream with
  | some piece => some piece
  | none => solid? machine stream

theorem starts_literalOrStray {stream : List Char} {length : Nat} (hpos : 0 < length)
    (hstream : stream ≠ []) : (literalOrStray stream length).Starts stream := by
  unfold literalOrStray
  cases h : literal? stream with
  | some piece => exact starts_of_literal? h
  | none => exact starts_take rfl hpos hstream

theorem starts_of_solid? {machine : Automaton} {stream : List Char} {piece : Segment}
    (h : solid? machine stream = some piece) : piece.Starts stream := by
  unfold solid? at h
  split at h
  · split at h
    · cases h
    · rename_i hne
      cases h
      exact starts_literalOrStray Nat.one_pos hne
  · rename_i found hfound
    have bounds := Automaton.longest?_bounds hfound
    have hne : stream ≠ [] := List.length_pos_iff.1 (Nat.lt_of_lt_of_le bounds.1 bounds.2)
    split at h
    · cases h
    · cases h
      exact starts_literalOrStray bounds.1 hne
    · cases h
      exact starts_take rfl bounds.1 hne

theorem starts_of_next? {machine : Automaton} {stream : List Char} {piece : Segment}
    (h : next? machine stream = some piece) : piece.Starts stream := by
  unfold next? at h
  split at h
  · rename_i found hlayout
    cases h
    exact starts_of_layout? hlayout
  · exact starts_of_solid? h

/-- The segments of a stream. -/
def ofStream (machine : Automaton) (stream : List Char) : List Segment :=
  match _h : next? machine stream with
  | none => []
  | some piece => piece :: ofStream machine (stream.drop piece.length)
termination_by stream.length
decreasing_by exact (starts_of_next? _h).drop_lt

/-- Each segment with the position of its first character. -/
def located : Cursor → List Segment → List (Cursor × Segment)
  | _, [] => []
  | cursor, piece :: rest => (cursor, piece) :: located (cursor.advanceOver piece.chars) rest

end ExprLang.Segment
