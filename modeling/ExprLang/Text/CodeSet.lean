/-!
Sets of characters, written as the closed ranges of code points that make them up. A set is read in
one way only: a character belongs to it when one of its ranges holds the character's code point.
Inclusion of one set in another is decided on the ranges, so that a law about two properties of
characters is settled by looking at two tables.
-/
set_option autoImplicit false

namespace ExprLang

/-- A set of characters, each pair being the first and the last code point of one range. -/
structure CodeSet where
  ranges : List (Nat × Nat)
deriving DecidableEq, Repr

namespace CodeSet

/-- Membership: some range holds the code point of the character. -/
def contains (set : CodeSet) (c : Char) : Bool :=
  set.ranges.any fun range => range.1 ≤ c.toNat && c.toNat ≤ range.2

theorem contains_iff (set : CodeSet) (c : Char) :
    set.contains c = true ↔ ∃ range ∈ set.ranges, range.1 ≤ c.toNat ∧ c.toNat ≤ range.2 := by
  simp [contains]

/-- Each range in turn takes the ranges that lie inside it off the front of the second list; none is
left in the end. -/
def covers : List (Nat × Nat) → List (Nat × Nat) → Bool
  | [], inner => inner.isEmpty
  | big :: outer, inner =>
    covers outer (inner.dropWhile fun small => big.1 ≤ small.1 && small.2 ≤ big.2)

/-- Every range of the first set lies inside a range of the second, both being in order. -/
def within (inner outer : CodeSet) : Bool := covers outer.ranges inner.ranges

theorem exists_of_covers (outer : List (Nat × Nat)) :
    ∀ inner : List (Nat × Nat), covers outer inner = true →
      ∀ small ∈ inner, ∃ big ∈ outer, big.1 ≤ small.1 ∧ small.2 ≤ big.2 := by
  induction outer with
  | nil =>
    intro inner h small hsmall
    rw [covers, List.isEmpty_iff] at h
    rw [h] at hsmall
    cases hsmall
  | cons big outer ih =>
    intro inner h small hsmall
    rw [covers] at h
    rw [← List.takeWhile_append_dropWhile
      (p := fun small => decide (big.1 ≤ small.1) && decide (small.2 ≤ big.2)) (l := inner),
      List.mem_append] at hsmall
    rcases hsmall with htaken | hleft
    · have hinside := List.all_eq_true.1 List.all_takeWhile small htaken
      rw [Bool.and_eq_true, decide_eq_true_eq, decide_eq_true_eq] at hinside
      exact ⟨big, List.mem_cons_self, hinside⟩
    · obtain ⟨other, hother, hinside⟩ := ih _ h small hleft
      exact ⟨other, List.mem_cons_of_mem _ hother, hinside⟩

theorem contains_of_within {inner outer : CodeSet} (h : inner.within outer = true) {c : Char}
    (hc : inner.contains c = true) : outer.contains c = true := by
  rw [contains_iff] at hc ⊢
  obtain ⟨small, hsmall, hfirst, hlast⟩ := hc
  obtain ⟨big, hbig, hlow, hhigh⟩ := exists_of_covers _ _ h small hsmall
  exact ⟨big, hbig, Nat.le_trans hlow hfirst, Nat.le_trans hlast hhigh⟩

end CodeSet

end ExprLang
