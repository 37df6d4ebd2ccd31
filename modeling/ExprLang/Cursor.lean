/-!
Positions in a text. A cursor counts lines and columns from zero, is shown counting from one, and
moves over the characters of a stream: a line break takes it to the start of the next line, any
other character one column on. Cursors are ordered by line, then by column.
-/
set_option autoImplicit false

namespace ExprLang

/-- A line and a column, both counted from zero. -/
structure Cursor where
  line : Nat
  column : Nat
deriving DecidableEq, Repr

namespace Cursor

/-- The start of a text. -/
def start : Cursor := ⟨0, 0⟩

/-- The line as it is shown. -/
def displayLine (c : Cursor) : Nat := c.line + 1

/-- The column as it is shown. -/
def displayColumn (c : Cursor) : Nat := c.column + 1

/-- Line and column as they are shown, with a colon between. -/
def text (c : Cursor) : String :=
  toString c.displayLine ++ ":" ++ toString c.displayColumn

instance : LE Cursor :=
  ⟨fun a b => a.line < b.line ∨ a.line = b.line ∧ a.column ≤ b.column⟩

instance (a b : Cursor) : Decidable (a ≤ b) :=
  inferInstanceAs (Decidable (a.line < b.line ∨ a.line = b.line ∧ a.column ≤ b.column))

/-- Cursors in ascending order. -/
def sorted (cursors : List Cursor) : List Cursor :=
  cursors.mergeSort fun a b => decide (a ≤ b)

/-! ## Order -/

theorem le_iff {first second : Cursor} : first ≤ second ↔
    first.line < second.line ∨ first.line = second.line ∧ first.column ≤ second.column := Iff.rfl

theorem le_refl (cursor : Cursor) : cursor ≤ cursor := Or.inr ⟨rfl, Nat.le_refl _⟩

theorem le_trans {first second third : Cursor} (h : first ≤ second) (h' : second ≤ third) :
    first ≤ third := by
  rw [le_iff] at *
  omega

theorem le_antisymm {first second : Cursor} (h : first ≤ second) (h' : second ≤ first) :
    first = second := by
  cases first
  cases second
  simp only [le_iff] at h h'
  rw [mk.injEq]
  omega

theorem le_total (first second : Cursor) : first ≤ second ∨ second ≤ first := by
  rw [le_iff, le_iff]
  omega

theorem sorted_perm (cursors : List Cursor) : (sorted cursors).Perm cursors :=
  List.mergeSort_perm _ _

theorem sorted_ordered (cursors : List Cursor) : (sorted cursors).Pairwise (· ≤ ·) := by
  have hsorted : (sorted cursors).Pairwise fun a b => decide (a ≤ b) = true := by
    refine List.pairwise_mergeSort (fun a b c h h' => ?_) (fun a b => ?_) cursors
    · exact decide_eq_true (le_trans (of_decide_eq_true h) (of_decide_eq_true h'))
    · simpa using le_total a b
  exact hsorted.imp of_decide_eq_true

/-- There is one way only to put cursors in order. -/
theorem sorted_eq_iff {cursors ordered : List Cursor} :
    sorted cursors = ordered ↔ ordered.Perm cursors ∧ ordered.Pairwise (· ≤ ·) := by
  constructor
  · rintro rfl
    exact ⟨sorted_perm cursors, sorted_ordered cursors⟩
  · rintro ⟨hperm, hordered⟩
    exact ((sorted_perm cursors).trans hperm.symm).eq_of_pairwise
      (fun _ _ _ _ => le_antisymm) (sorted_ordered cursors) hordered

/-! ## Moving -/

/-- The position behind one character. -/
def advance (c : Cursor) (symbol : Char) : Cursor :=
  if symbol = '\n' then ⟨c.line + 1, 0⟩ else ⟨c.line, c.column + 1⟩

/-- The position behind a run of characters. -/
def advanceOver (c : Cursor) (run : List Char) : Cursor :=
  run.foldl advance c

@[simp] theorem advanceOver_nil (c : Cursor) : c.advanceOver [] = c := rfl

@[simp] theorem advanceOver_cons (c : Cursor) (symbol : Char) (run : List Char) :
    c.advanceOver (symbol :: run) = (c.advance symbol).advanceOver run := rfl

theorem advanceOver_append (c : Cursor) (first second : List Char) :
    c.advanceOver (first ++ second) = (c.advanceOver first).advanceOver second :=
  List.foldl_append

end Cursor

end ExprLang
