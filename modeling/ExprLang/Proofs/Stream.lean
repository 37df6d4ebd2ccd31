import ExprLang.Source
import Mathlib.Algebra.GroupWithZero.Nat
import Mathlib.Data.List.Induction
import Mathlib.Data.List.TakeWhile
import Mathlib.Data.List.Basic

/-!
Offsets in a stream. A stream is what a scanner reads of some lines: every line followed by one line
feed, so the line of an offset is the number of line feeds in front of it, and its column the number
of characters since the last of them. A cursor stands for an offset as well, whether it lies inside
the text or not, and reading from a cursor is reading the stream from that offset. Moving over any
run of the stream leads to the cursor that its end has by this count.
-/
set_option autoImplicit false

namespace ExprLang

/-- The position behind some characters: the line feeds among them, and what follows the last. -/
def Cursor.behind (front : List Char) : Cursor :=
  ⟨front.count '\n', (front.reverse.takeWhile (· ≠ '\n')).length⟩

/-- The position of an offset of a stream. -/
def cursorAt (stream : List Char) (offset : Nat) : Cursor := Cursor.behind (stream.take offset)

/-- The offset that a cursor stands for: a column past the end of its line stands for the line
break, a line past the last one for the end. -/
def offsetOf (lines : List (List Char)) (cursor : Cursor) : Nat :=
  ((lines.take cursor.line).map (·.length + 1)).sum +
    min cursor.column ((lines[cursor.line]?.map List.length).getD 0)

/-- The stream is empty or ends with a line feed. -/
def EndsLine (stream : List Char) : Prop := stream ≠ [] → stream.getLast? = some '\n'

/-! ## Counting positions -/

namespace Cursor

theorem advance_behind (front : List Char) (symbol : Char) :
    (behind front).advance symbol = behind (front ++ [symbol]) := by
  by_cases h : symbol = '\n'
  · simp [behind, advance, h]
  · simp [behind, advance, h]

theorem advanceOver_behind (front run : List Char) :
    (behind front).advanceOver run = behind (front ++ run) := by
  induction run generalizing front with
  | nil => rw [advanceOver_nil, List.append_nil]
  | cons symbol run ih =>
    rw [advanceOver_cons, advance_behind, ih, List.append_assoc, List.singleton_append]

theorem behind_of_not_mem {front : List Char} (h : '\n' ∉ front) :
    behind front = ⟨0, front.length⟩ := by
  have hall : front.reverse.takeWhile (· ≠ '\n') = front.reverse := by
    refine List.takeWhile_eq_self_iff.mpr fun c hc => ?_
    have hc' := List.mem_reverse.mp hc
    simpa using ne_of_mem_of_not_mem hc' h
  rw [behind, List.count_eq_zero_of_not_mem h, hall, List.length_reverse]

/-- What stands behind a line break counts its columns from there. -/
theorem behind_line {line : List Char} (h : '\n' ∉ line) (rest : List Char) :
    behind (line ++ '\n' :: rest) = ⟨(behind rest).line + 1, (behind rest).column⟩ := by
  induction rest using List.reverseRecOn with
  | nil => simp [behind, List.count_eq_zero_of_not_mem h]
  | append_singleton rest symbol ih =>
    rw [show line ++ '\n' :: (rest ++ [symbol]) = line ++ '\n' :: rest ++ [symbol] by simp,
      ← advance_behind, ih, ← advance_behind]
    unfold advance
    split <;> rfl

end Cursor

theorem cursorAt_zero (stream : List Char) : cursorAt stream 0 = Cursor.start := rfl

theorem cursorAt_advanceOver {stream run rest : List Char} {offset : Nat}
    (h : stream.drop offset = run ++ rest) :
    (cursorAt stream offset).advanceOver run = cursorAt stream (offset + run.length) := by
  rw [cursorAt, cursorAt, Cursor.advanceOver_behind, List.take_add, h, List.take_left]

/-! ## Lines and their stream -/

theorem not_mem_of_mem_linesOf (text : List Char) : ∀ line ∈ linesOf text, '\n' ∉ line := by
  induction text using linesOf.induct with
  | case1 => simp [linesOf]
  | case2 rest ih =>
    rw [linesOf]
    simpa using ih
  | case3 rest ih =>
    rw [linesOf]
    simpa using ih
  | case4 c rest hbreak hreturn hnil =>
    rw [linesOf, hnil]
    · simpa using fun h => hbreak h.symm
    · exact hbreak
    · exact hreturn
  | case5 c rest hbreak hreturn line lines hcons ih =>
    rw [linesOf, hcons]
    · rw [hcons] at ih
      intro other hother
      rcases List.mem_cons.mp hother with rfl | hin
      · have hline := ih line List.mem_cons_self
        simpa using ⟨fun h => hbreak h.symm, hline⟩
      · exact ih other (List.mem_cons_of_mem _ hin)
    · exact hbreak
    · exact hreturn

theorem EndsLine.of_append {front rest : List Char} (h : EndsLine (front ++ rest)) :
    EndsLine rest := by
  intro hne
  have hlast := h (List.append_ne_nil_of_right_ne_nil front hne)
  rwa [List.getLast?_append, List.getLast?_eq_some_getLast hne, Option.some_or,
    ← List.getLast?_eq_some_getLast hne] at hlast

theorem EndsLine.drop {stream : List Char} (h : EndsLine stream) (count : Nat) :
    EndsLine (stream.drop count) := by
  rw [← List.take_append_drop count stream] at h
  exact h.of_append

theorem EndsLine.mem_of_cons_cons {first second : Char} {rest : List Char}
    (h : EndsLine (first :: second :: rest)) (hsecond : second ≠ '\n') : '\n' ∈ rest := by
  have hlast := h (by simp)
  cases rest with
  | nil => simp [hsecond] at hlast
  | cons third rest =>
    rw [List.getLast?_cons_cons, List.getLast?_cons_cons] at hlast
    exact List.mem_of_getLast? hlast

theorem endsLine_streamOf (lines : List (List Char)) : EndsLine (streamOf lines) := by
  intro hne
  induction lines using List.reverseRecOn with
  | nil => exact absurd streamOf_nil hne
  | append_singleton lines line _ => simp [streamOf]

/-! ## Cursors and offsets -/

theorem cursorAt_within {line : List Char} (h : '\n' ∉ line) (rest : List Char) {offset : Nat}
    (hle : offset ≤ line.length) : cursorAt (line ++ '\n' :: rest) offset = ⟨0, offset⟩ := by
  have hfront : '\n' ∉ line.take offset := fun hin => h (List.mem_of_mem_take hin)
  rw [cursorAt, List.take_append_of_le_length hle, Cursor.behind_of_not_mem hfront,
    List.length_take, Nat.min_eq_left hle]

theorem cursorAt_beyond {line : List Char} (h : '\n' ∉ line) (rest : List Char) (offset : Nat) :
    cursorAt (line ++ '\n' :: rest) (line.length + 1 + offset) =
      ⟨(cursorAt rest offset).line + 1, (cursorAt rest offset).column⟩ := by
  have hfront : (line ++ '\n' :: rest).take (line.length + 1 + offset) =
      line ++ '\n' :: rest.take offset := by
    rw [List.take_append, List.take_of_length_le (by omega),
      show line.length + 1 + offset - line.length = offset + 1 by omega, List.take_succ_cons]
  rw [cursorAt, hfront, Cursor.behind_line h]
  rfl

theorem offsetOf_first (line : List Char) (lines : List (List Char)) (column : Nat) :
    offsetOf (line :: lines) ⟨0, column⟩ = min column line.length := by
  simp [offsetOf]

theorem offsetOf_later (line : List Char) (lines : List (List Char)) (number column : Nat) :
    offsetOf (line :: lines) ⟨number + 1, column⟩ =
      line.length + 1 + offsetOf lines ⟨number, column⟩ := by
  simp [offsetOf, Nat.add_assoc]

/-- Reading from a cursor is reading the stream from the offset of the cursor. -/
theorem streamFrom_eq_drop (lines : List (List Char)) :
    ∀ cursor : Cursor,
      Source.streamFrom lines cursor = (streamOf lines).drop (offsetOf lines cursor) := by
  induction lines with
  | nil => intro cursor; simp [Source.streamFrom]
  | cons line lines ih =>
    rintro ⟨number, column⟩
    cases number with
    | zero =>
      rw [Source.streamFrom, offsetOf_first, streamOf_cons,
        List.drop_append_of_le_length (Nat.min_le_right _ _)]
      rcases Nat.le_total column line.length with hle | hle
      · rw [Nat.min_eq_left hle]
      · rw [Nat.min_eq_right hle, List.drop_length, List.drop_of_length_le hle]
    | succ number =>
      have hfront : (line ++ '\n' :: streamOf lines).drop (line.length + 1) = streamOf lines := by
        rw [← List.drop_drop, List.drop_left, List.drop_succ_cons, List.drop_zero]
      rw [Source.streamFrom, offsetOf_later, streamOf_cons, ih, ← List.drop_drop, hfront]

/-- Every offset has a cursor that stands for it. -/
theorem offsetOf_cursorAt {lines : List (List Char)} (hlines : ∀ line ∈ lines, '\n' ∉ line) :
    ∀ offset ≤ (streamOf lines).length, offsetOf lines (cursorAt (streamOf lines) offset) = offset := by
  induction lines with
  | nil =>
    intro offset hle
    have hzero : offset = 0 := Nat.le_zero.mp hle
    subst hzero
    rfl
  | cons line lines ih =>
    intro offset hle
    have hline := hlines line List.mem_cons_self
    have hrest := ih fun other hother => hlines other (List.mem_cons_of_mem _ hother)
    rw [streamOf_cons] at hle ⊢
    by_cases hwithin : offset ≤ line.length
    · rw [cursorAt_within hline _ hwithin, offsetOf_first, Nat.min_eq_left hwithin]
    · obtain ⟨further, rfl⟩ : ∃ further, offset = line.length + 1 + further :=
        ⟨offset - (line.length + 1), by omega⟩
      rw [List.length_append, List.length_cons] at hle
      rw [cursorAt_beyond hline, offsetOf_later, hrest further (by omega)]

/-- A cursor in front of a character of a line is the one that its offset has by counting. -/
theorem eq_cursorAt {lines : List (List Char)} (hlines : ∀ line ∈ lines, '\n' ∉ line) :
    ∀ {cursor : Cursor} {symbol : Char} {rest : List Char},
      Source.streamFrom lines cursor = symbol :: rest → symbol ≠ '\n' →
      cursor = cursorAt (streamOf lines) (offsetOf lines cursor) := by
  induction lines with
  | nil =>
    intro cursor symbol rest h
    cases h
  | cons line lines ih =>
    rintro ⟨number, column⟩ symbol rest h hsymbol
    have hline := hlines line List.mem_cons_self
    rw [streamOf_cons]
    cases number with
    | zero =>
      have hlt : column < line.length := by
        by_contra hge
        rw [Source.streamFrom, List.drop_of_length_le (Nat.le_of_not_lt hge)] at h
        exact hsymbol (List.cons.inj h).1.symm
      rw [offsetOf_first, Nat.min_eq_left (Nat.le_of_lt hlt),
        cursorAt_within hline _ (Nat.le_of_lt hlt)]
    | succ number =>
      rw [Source.streamFrom] at h
      have hrest := ih (fun other hother => hlines other (List.mem_cons_of_mem _ hother)) h hsymbol
      rw [offsetOf_later, cursorAt_beyond hline, ← hrest]

/-- Behind a line break a cursor is the one that its offset has by counting. -/
theorem advance_break_eq_cursorAt {lines : List (List Char)}
    (hlines : ∀ line ∈ lines, '\n' ∉ line) :
    ∀ {cursor : Cursor} {rest : List Char},
      Source.streamFrom lines cursor = '\n' :: rest →
      (⟨cursor.line + 1, 0⟩ : Cursor) = cursorAt (streamOf lines) (offsetOf lines cursor + 1) := by
  induction lines with
  | nil =>
    intro cursor rest h
    cases h
  | cons line lines ih =>
    rintro ⟨number, column⟩ rest h
    have hline := hlines line List.mem_cons_self
    rw [streamOf_cons]
    cases number with
    | zero =>
      have hge : line.length ≤ column := by
        by_contra hlt
        rw [Source.streamFrom, List.drop_eq_getElem_cons (by omega), List.cons_append] at h
        exact hline ((List.cons.inj h).1 ▸ List.getElem_mem _)
      have hbeyond := cursorAt_beyond hline (streamOf lines) 0
      rw [cursorAt_zero, Nat.add_zero] at hbeyond
      rw [offsetOf_first, Nat.min_eq_right hge, hbeyond]
      rfl
    | succ number =>
      rw [Source.streamFrom] at h
      have hrest := ih (fun other hother => hlines other (List.mem_cons_of_mem _ hother)) h
      rw [offsetOf_later, Nat.add_assoc (line.length + 1), cursorAt_beyond hline, ← hrest]

theorem advance_eq_cursorAt {lines : List (List Char)} (hlines : ∀ line ∈ lines, '\n' ∉ line)
    {cursor : Cursor} {symbol : Char} {rest : List Char}
    (h : Source.streamFrom lines cursor = symbol :: rest) :
    cursor.advance symbol = cursorAt (streamOf lines) (offsetOf lines cursor + 1) := by
  by_cases hsymbol : symbol = '\n'
  · subst hsymbol
    rw [← advance_break_eq_cursorAt hlines h]
    rfl
  · have hcursor := eq_cursorAt hlines h hsymbol
    have hfront : (streamOf lines).drop (offsetOf lines cursor) = [symbol] ++ rest := by
      rw [← streamFrom_eq_drop, h, List.singleton_append]
    rw [← List.length_singleton, ← cursorAt_advanceOver hfront, ← hcursor]
    rfl

/-- Moving over some characters of the stream leads to the cursor of the offset behind them. -/
theorem advanceOver_eq_cursorAt {lines : List (List Char)} (hlines : ∀ line ∈ lines, '\n' ∉ line)
    {cursor : Cursor} {run rest : List Char} (h : Source.streamFrom lines cursor = run ++ rest)
    (hrun : run ≠ []) :
    cursor.advanceOver run = cursorAt (streamOf lines) (offsetOf lines cursor + run.length) := by
  obtain ⟨symbol, tail, rfl⟩ := List.exists_cons_of_ne_nil hrun
  have hbehind : (streamOf lines).drop (offsetOf lines cursor + 1) = tail ++ rest := by
    rw [← List.drop_drop, ← streamFrom_eq_drop, h, List.cons_append, List.drop_succ_cons,
      List.drop_zero]
  rw [Cursor.advanceOver_cons, advance_eq_cursorAt hlines h, cursorAt_advanceOver hbehind,
    List.length_cons, Nat.add_assoc, Nat.add_comm 1]

end ExprLang
