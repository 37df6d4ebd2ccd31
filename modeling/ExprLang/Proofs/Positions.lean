import ExprLang.Scan
import ExprLang.Proofs.LineEndings
import ExprLang.Proofs.Source

/-!
Positions depend on line feeds alone. Two streams of the same length with their line feeds at the
same places lead a cursor to the same positions, to the same end and so to the same last line; and a
text leads to the same positions as its stream, since only a carriage return in front of a line feed
is missing there.
-/
set_option autoImplicit false

namespace ExprLang

/-- As many characters, and line feeds at the same places. -/
def SameBreaks (first second : List Char) : Prop :=
  first.map (· == '\n') = second.map (· == '\n')

instance (first second : List Char) : Decidable (SameBreaks first second) :=
  inferInstanceAs (Decidable (_ = _))

/-! ## Moving over streams -/

namespace SameBreaks

variable {first second : List Char}

theorem refl (stream : List Char) : SameBreaks stream stream := rfl

theorem append {first' second' : List Char} (h : SameBreaks first second)
    (h' : SameBreaks first' second') : SameBreaks (first ++ first') (second ++ second') := by
  unfold SameBreaks at *
  rw [List.map_append, List.map_append, h, h']

theorem dropLast (h : SameBreaks first second) : SameBreaks first.dropLast second.dropLast := by
  unfold SameBreaks at *
  rw [List.map_dropLast, List.map_dropLast, h]

theorem lastBreak_eq (h : SameBreaks first second) : lastBreak first = lastBreak second := by
  have hlast : first.getLast?.map (· == '\n') = second.getLast?.map (· == '\n') := by
    rw [← List.getLast?_map, ← List.getLast?_map, h]
  have hbreak : ∀ last : Option Char,
      last.getD '\n' = '\n' ↔ (last.map (· == '\n')).getD true = true := by
    intro last
    cases last <;> simp
  simp only [lastBreak, hbreak, hlast]

theorem advanceOver_eq (h : SameBreaks first second) (cursor : Cursor) :
    cursor.advanceOver first = cursor.advanceOver second := by
  induction first generalizing second cursor with
  | nil =>
    obtain rfl : second = [] := List.map_eq_nil_iff.mp h.symm
    rfl
  | cons c first ih =>
    cases second with
    | nil => cases h
    | cons d second =>
      obtain ⟨hsymbol, hrest⟩ := List.cons.inj h
      have hadvance : cursor.advance c = cursor.advance d := by
        have hbreak : c = '\n' ↔ d = '\n' := by simpa using congrArg (· = true) hsymbol
        simp only [Cursor.advance, hbreak]
      rw [Cursor.advanceOver_cons, Cursor.advanceOver_cons, hadvance]
      exact ih hrest _

end SameBreaks

namespace Cursor

theorem le_advance (cursor : Cursor) (c : Char) : cursor ≤ cursor.advance c := by
  rw [le_iff, advance]
  split <;> simp

theorem not_advance_le (cursor : Cursor) (c : Char) : ¬ cursor.advance c ≤ cursor := by
  rw [le_iff, advance]
  split <;> simp

theorem le_advanceOver (run : List Char) (cursor : Cursor) : cursor ≤ cursor.advanceOver run := by
  induction run generalizing cursor with
  | nil => exact le_refl cursor
  | cons c run ih => exact le_trans (le_advance cursor c) (ih _)

theorem not_advanceOver_le {run : List Char} (h : run ≠ []) (cursor : Cursor) :
    ¬ cursor.advanceOver run ≤ cursor := by
  obtain ⟨c, run, rfl⟩ := List.exists_cons_of_ne_nil h
  intro hle
  exact not_advance_le cursor c (le_trans (le_advanceOver run _) hle)

theorem behind_eq (front : List Char) : behind front = start.advanceOver front :=
  (advanceOver_behind [] front).symm

theorem advanceOver_line {line : List Char} (h : '\n' ∉ line) (cursor : Cursor) :
    cursor.advanceOver line = ⟨cursor.line, cursor.column + line.length⟩ := by
  induction line generalizing cursor with
  | nil => rfl
  | cons c line ih =>
    rw [List.mem_cons, not_or] at h
    rw [advanceOver_cons, ih h.2, advance, if_neg (Ne.symm h.1), List.length_cons]
    simp only [mk.injEq, true_and]
    omega

/-- The carriage return of a break moves to a column that the line feed leaves again. -/
theorem advanceOver_plainBreaks (text : List Char) (cursor : Cursor) :
    cursor.advanceOver (plainBreaks text) = cursor.advanceOver text := by
  induction text using plainBreaks.induct generalizing cursor with
  | case1 => rfl
  | case2 rest ih =>
    rw [plainBreaks_break, advanceOver_cons, advanceOver_cons, advanceOver_cons, ih]
    rfl
  | case3 c rest hbreak ih =>
    rw [plainBreaks, advanceOver_cons, advanceOver_cons, ih]
    exact hbreak

end Cursor

/-! ## The end of a text -/

namespace Source

/-- The end of a text is the last line feed of its stream. -/
theorem endPosition_eq_behind (text : String) :
    (ofText text).endPosition = Cursor.behind (streamOfText text).dropLast := by
  rw [streamOfText, endPosition, ofText]
  have hlines := not_mem_of_mem_linesOf text.toList
  generalize linesOf text.toList = lines at hlines
  induction lines using List.reverseRecOn with
  | nil => rfl
  | append_singleton lines line _ =>
    have hfront : (streamOf (lines ++ [line])).dropLast = streamOf lines ++ line := by
      rw [streamOf_append, streamOf_cons, streamOf_nil, ← List.append_assoc, List.dropLast_concat]
    have hcursor : Cursor.behind (streamOf lines) = ⟨lines.length, 0⟩ :=
      behind_streamOf fun other hother => hlines other (List.mem_append_left _ hother)
    have hline := hlines line (by simp)
    rw [hfront, ← Cursor.advanceOver_behind, hcursor, Cursor.advanceOver_line hline]
    simp

theorem endPosition_congr {first second : String}
    (h : SameBreaks (streamOfText first) (streamOfText second)) :
    (ofText first).endPosition = (ofText second).endPosition := by
  rw [endPosition_eq_behind, endPosition_eq_behind, Cursor.behind_eq, Cursor.behind_eq,
    h.dropLast.advanceOver_eq]

theorem lastLine_congr {first second : String}
    (h : SameBreaks (streamOfText first) (streamOfText second)) :
    (ofText first).lastLine = (ofText second).lastLine :=
  congrArg Cursor.displayLine (endPosition_congr h)

end Source

end ExprLang
