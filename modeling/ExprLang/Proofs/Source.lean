import ExprLang.Proofs.Stream

/-!
Sources on a stream. A source reads the lines of its text, and where it stands is the offset of its
cursor; what it has still to read is the stream from there on. Moving over characters that are there
moves the offset by their number, from any cursor, also from one outside the lines.
-/
set_option autoImplicit false

namespace ExprLang

/-- The stream of a text: its lines, each followed by one line feed. -/
def streamOfText (text : String) : List Char := streamOf (linesOf text.toList)

/-- The source reads the text, and its cursor stands for the offset. -/
structure Source.StandsAt (source : Source) (text : String) (offset : Nat) : Prop where
  eq_seek : source = (Source.ofText text).seek source.cursor
  offset_eq : offsetOf (linesOf text.toList) source.cursor = offset

theorem endsLine_drop (text : String) (offset : Nat) :
    EndsLine ((streamOfText text).drop offset) :=
  (endsLine_streamOf _).drop offset

theorem offsetOf_start (lines : List (List Char)) : offsetOf lines Cursor.start = 0 := by
  simp [offsetOf, Cursor.start]

theorem offsetOf_le (lines : List (List Char)) :
    ∀ cursor, offsetOf lines cursor ≤ (streamOf lines).length := by
  induction lines with
  | nil => intro cursor; simp [offsetOf]
  | cons line lines ih =>
    rintro ⟨number, column⟩
    rw [streamOf_cons, List.length_append, List.length_cons]
    cases number with
    | zero =>
      rw [offsetOf_first]
      omega
    | succ number =>
      have hle := ih ⟨number, column⟩
      rw [offsetOf_later]
      omega

namespace Source

variable {source : Source} {text : String} {offset : Nat}

theorem seek_standsAt (text : String) (cursor : Cursor) :
    ((ofText text).seek cursor).StandsAt text (offsetOf (linesOf text.toList) cursor) :=
  ⟨rfl, rfl⟩

theorem ofText_eq_seek (text : String) : ofText text = (ofText text).seek Cursor.start := by
  have hrest : streamFrom (linesOf text.toList) Cursor.start = streamOf (linesOf text.toList) := by
    rw [streamFrom_eq_drop, offsetOf_start, List.drop_zero]
  rw [seek, ofText, hrest]

theorem ofText_standsAt (text : String) : (ofText text).StandsAt text 0 :=
  ⟨ofText_eq_seek text, offsetOf_start _⟩

theorem StandsAt.lines_eq (h : source.StandsAt text offset) :
    source.lines = linesOf text.toList := by
  rw [h.eq_seek]
  rfl

theorem StandsAt.rest_eq (h : source.StandsAt text offset) :
    source.rest = (streamOfText text).drop offset := by
  rw [h.eq_seek, ← h.offset_eq]
  exact streamFrom_eq_drop _ _

theorem StandsAt.streamFrom_eq (h : source.StandsAt text offset) :
    streamFrom (linesOf text.toList) source.cursor = source.rest := by
  conv_rhs => rw [h.eq_seek]
  rfl

theorem StandsAt.offset_le (h : source.StandsAt text offset) :
    offset ≤ (streamOfText text).length :=
  h.offset_eq ▸ offsetOf_le _ _

/-- In front of a character of a line the cursor is the one that the offset has by counting. -/
theorem StandsAt.cursor_eq (h : source.StandsAt text offset) {symbol : Char} {rest : List Char}
    (hrest : source.rest = symbol :: rest) (hsymbol : symbol ≠ '\n') :
    source.cursor = cursorAt (streamOfText text) offset := by
  rw [← h.offset_eq]
  exact eq_cursorAt (not_mem_of_mem_linesOf _) (h.streamFrom_eq.trans hrest) hsymbol

theorem StandsAt.advanceOver_eq (h : source.StandsAt text offset) {run rest : List Char}
    (hrest : source.rest = run ++ rest) (hrun : run ≠ []) :
    source.cursor.advanceOver run = cursorAt (streamOfText text) (offset + run.length) := by
  rw [← h.offset_eq]
  exact advanceOver_eq_cursorAt (not_mem_of_mem_linesOf _) (h.streamFrom_eq.trans hrest) hrun

/-- Moving over characters that are there moves the offset by their number. -/
theorem StandsAt.advanceBy (h : source.StandsAt text offset) {count : Nat}
    (hcount : count ≤ source.rest.length) :
    (source.advanceBy count).StandsAt text (offset + count) := by
  have hrest := h.rest_eq
  have hsplit : source.rest = source.rest.take count ++ source.rest.drop count :=
    (List.take_append_drop _ _).symm
  have hlength : (source.rest.take count).length = count := by
    rw [List.length_take, Nat.min_eq_left hcount]
  have hwithin : offset + count ≤ (streamOfText text).length := by
    have hle := h.offset_le
    rw [hrest, List.length_drop] at hcount
    omega
  have hoffset : offsetOf (linesOf text.toList)
      (source.cursor.advanceOver (source.rest.take count)) = offset + count := by
    by_cases hrun : source.rest.take count = []
    · have hzero : count = 0 := by rw [← hlength, hrun, List.length_nil]
      rw [hrun, Cursor.advanceOver_nil, h.offset_eq, hzero, Nat.add_zero]
    · rw [h.advanceOver_eq hsplit hrun, hlength]
      exact offsetOf_cursorAt (not_mem_of_mem_linesOf _) _ hwithin
  refine ⟨?_, hoffset⟩
  have hbehind : source.rest.drop count = streamFrom (linesOf text.toList)
      (source.cursor.advanceOver (source.rest.take count)) := by
    rw [streamFrom_eq_drop, hoffset, hrest, List.drop_drop]
    rfl
  rw [Source.advanceBy, hbehind, h.lines_eq]
  rfl

end Source

end ExprLang
