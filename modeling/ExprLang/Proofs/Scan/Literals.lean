import ExprLang.Segment.Literal
import Mathlib.Data.List.TakeWhile
import Mathlib.Data.List.Basic

/-!
Numbers, strings and words by their grammar. A number is digits, or digits on both sides of a point,
and the one that is read is the longest at its place; a string goes to the next quote, and is
unclosed where there is none; a word takes all characters that continue an identifier.
-/
set_option autoImplicit false

namespace ExprLang

/-- At least one digit, and nothing else. -/
def Digits (run : List Char) : Prop := run ≠ [] ∧ ∀ c ∈ run, c.isDigit = true

/-- Digits, or digits on both sides of a point. -/
def IsNumber (lexeme : List Char) : Prop :=
  Digits lexeme ∨ ∃ whole fraction, Digits whole ∧ Digits fraction ∧ lexeme = whole ++ '.' :: fraction

/-- The pieces that stand for numbers, strings and words, each at the start of its stream. -/
inductive LiteralAt [IdentifierClasses] : List Char → Segment → Prop
  | string (body rest : List Char) (hbody : '"' ∉ body) :
      LiteralAt ('"' :: body ++ '"' :: rest)
        (.token .string ('"' :: body ++ ['"']) (some (.string (String.ofList body))))
  | unclosed (body : List Char) (hbody : '"' ∉ body) :
      LiteralAt ('"' :: body) (.unclosed ('"' :: body))
  | number (lexeme rest : List Char) (hnumber : IsNumber lexeme)
      (hlongest : ∀ other, IsNumber other → other <+: lexeme ++ rest →
        other.length ≤ lexeme.length) :
      LiteralAt (lexeme ++ rest)
        (.token .number lexeme (some (.number (Binary64.ofDecimal (Decimal.ofLexeme lexeme)))))
  | word (first : Char) (body rest : List Char) (hfirst : startsIdentifier first = true)
      (hbody : ∀ c ∈ body, continuesIdentifier c = true)
      (hrest : ∀ c ∈ rest.head?, continuesIdentifier c = false) :
      LiteralAt (first :: body ++ rest)
        (.token ((Kind.ofWord? (String.ofList (first :: body))).getD .identifier)
          (first :: body) none)

/-! ## Runs of characters -/

variable {p : Char → Bool} {run rest : List Char}

theorem takeWhile_run (hrun : ∀ c ∈ run, p c = true) (hrest : ∀ c ∈ rest.head?, p c = false) :
    (run ++ rest).takeWhile p = run ∧ (run ++ rest).dropWhile p = rest := by
  have htake : rest.takeWhile p = [] := by
    cases rest with
    | nil => rfl
    | cons c rest => rw [List.takeWhile_cons_of_neg]; simp [hrest c rfl]
  have hdrop : rest.dropWhile p = rest := by
    cases rest with
    | nil => rfl
    | cons c rest => rw [List.dropWhile_cons_of_neg]; simp [hrest c rfl]
  rw [List.takeWhile_append_of_pos hrun, List.dropWhile_append_of_pos hrun, htake, hdrop,
    List.append_nil]
  exact ⟨rfl, rfl⟩

theorem head?_dropWhile (p : Char → Bool) (stream : List Char) :
    ∀ c ∈ (stream.dropWhile p).head?, p c = false := by
  intro c hc
  have hnot := List.head?_dropWhile_not p stream
  rw [Option.mem_def.mp hc] at hnot
  simpa using hnot

theorem mem_takeWhile {stream : List Char} : ∀ c ∈ stream.takeWhile p, p c = true :=
  fun _ => List.mem_takeWhile_imp

theorem length_le_takeWhile {stream : List Char} (hrun : ∀ c ∈ run, p c = true)
    (hstarts : run <+: stream) : run.length ≤ (stream.takeWhile p).length := by
  obtain ⟨tail, rfl⟩ := hstarts
  rw [List.takeWhile_append_of_pos hrun, List.length_append]
  exact Nat.le_add_right _ _

/-! ## Numbers -/

theorem isDigit_point : Char.isDigit '.' = false := by decide

namespace Segment

theorem numberLexeme_of_point {stream fraction : List Char}
    (h : stream.dropWhile Char.isDigit = '.' :: fraction) :
    numberLexeme stream = if fraction.takeWhile Char.isDigit = [] then stream.takeWhile Char.isDigit
      else stream.takeWhile Char.isDigit ++ '.' :: fraction.takeWhile Char.isDigit := by
  simp only [numberLexeme, h]

theorem numberLexeme_of_no_point {stream : List Char}
    (h : ∀ fraction, stream.dropWhile Char.isDigit ≠ '.' :: fraction) :
    numberLexeme stream = stream.takeWhile Char.isDigit := by
  rw [numberLexeme]
  split
  · rename_i fraction heq
    exact absurd heq (h fraction)
  · rfl

theorem isNumber_numberLexeme {first : Char} (rest : List Char) (h : first.isDigit = true) :
    IsNumber (numberLexeme (first :: rest)) := by
  have hwhole : Digits ((first :: rest).takeWhile Char.isDigit) :=
    ⟨by simp [h], mem_takeWhile⟩
  by_cases hpoint : ∃ fraction, (first :: rest).dropWhile Char.isDigit = '.' :: fraction
  · obtain ⟨fraction, hpoint⟩ := hpoint
    rw [numberLexeme_of_point hpoint]
    split
    · exact Or.inl hwhole
    · rename_i hfraction
      exact Or.inr ⟨_, _, hwhole, ⟨hfraction, mem_takeWhile⟩, rfl⟩
  · rw [numberLexeme_of_no_point fun fraction heq => hpoint ⟨fraction, heq⟩]
    exact Or.inl hwhole

theorem length_takeWhile_le_numberLexeme (stream : List Char) :
    (stream.takeWhile Char.isDigit).length ≤ (numberLexeme stream).length := by
  by_cases hpoint : ∃ fraction, stream.dropWhile Char.isDigit = '.' :: fraction
  · obtain ⟨fraction, hpoint⟩ := hpoint
    rw [numberLexeme_of_point hpoint]
    split
    · exact Nat.le_refl _
    · rw [List.length_append]
      exact Nat.le_add_right _ _
  · rw [numberLexeme_of_no_point fun fraction heq => hpoint ⟨fraction, heq⟩]

/-- No longer number stands at the start of the stream. -/
theorem length_le_numberLexeme {stream other : List Char} (hnumber : IsNumber other)
    (hstarts : other <+: stream) : other.length ≤ (numberLexeme stream).length := by
  rcases hnumber with hdigits | ⟨whole, fraction, hwhole, hfraction, rfl⟩
  · exact (length_le_takeWhile hdigits.2 hstarts).trans (length_takeWhile_le_numberLexeme stream)
  · -- The digits in front of a point are all the digits at the start.
    obtain ⟨tail, rfl⟩ := hstarts
    rw [List.append_assoc, List.cons_append]
    have hpoint : ∀ c ∈ ('.' :: (fraction ++ tail)).head?, c.isDigit = false := by
      simp [isDigit_point]
    obtain ⟨htake, hdrop⟩ := takeWhile_run hwhole.2 hpoint
    have hlonger := length_le_takeWhile hfraction.2 (List.prefix_append fraction tail)
    have hne : (fraction ++ tail).takeWhile Char.isDigit ≠ [] := by
      intro hnil
      rw [hnil, List.length_nil, Nat.le_zero, List.length_eq_zero_iff] at hlonger
      exact hfraction.1 hlonger
    rw [numberLexeme_of_point hdrop, if_neg hne, htake]
    simp only [List.length_append, List.length_cons]
    omega

example : numberLexeme "1.2.3".toList = "1.2".toList := by decide

example : numberLexeme "12.".toList = "12".toList := by decide

/-! ## Strings -/

theorem string_eq {body : List Char} (hbody : '"' ∉ body) (rest : List Char) :
    string (body ++ '"' :: rest) =
      .token .string ('"' :: body ++ ['"']) (some (.string (String.ofList body))) := by
  have hinside : ∀ c ∈ body, decide (c ≠ '"') = true := by
    intro c hc
    simpa using ne_of_mem_of_not_mem hc hbody
  have hquote : ∀ c ∈ ('"' :: rest).head?, decide (c ≠ '"') = false := by simp
  have hother : ¬ body.length = (body ++ '"' :: rest).length := by simp
  rw [string, (takeWhile_run hinside hquote).1, if_neg hother]

theorem string_unclosed {body : List Char} (hbody : '"' ∉ body) :
    string body = .unclosed ('"' :: body) := by
  have hinside : ∀ c ∈ body, decide (c ≠ '"') = true := by
    intro c hc
    simpa using ne_of_mem_of_not_mem hc hbody
  rw [string, List.takeWhile_eq_self_iff.mpr hinside, if_pos rfl]

/-! ## The class of a literal -/

variable [IdentifierClasses]

theorem literalAt_number {first : Char} (rest : List Char) (h : first.isDigit = true) :
    LiteralAt (first :: rest) (number (first :: rest)) := by
  have hsplit := numberLexeme_append_drop (first :: rest)
  have hnumber := isNumber_numberLexeme rest h
  have hliteral := LiteralAt.number (numberLexeme (first :: rest))
    ((first :: rest).drop (numberLexeme (first :: rest)).length) hnumber
    fun other hother hstarts => length_le_numberLexeme hother (hsplit ▸ hstarts)
  rwa [hsplit] at hliteral

theorem literalAt_string (rest : List Char) : LiteralAt ('"' :: rest) (string rest) := by
  by_cases hquote : '"' ∈ rest
  · obtain ⟨body, behind, rfl, hbody⟩ := List.eq_append_cons_of_mem hquote
    rw [string_eq hbody]
    exact .string body behind hbody
  · rw [string_unclosed hquote]
    exact .unclosed rest hquote

theorem literalAt_word {first : Char} (rest : List Char) (h : startsIdentifier first = true) :
    LiteralAt (first :: rest) (word first rest) := by
  have hword := LiteralAt.word first (rest.takeWhile continuesIdentifier)
    (rest.dropWhile continuesIdentifier) h mem_takeWhile (head?_dropWhile _ rest)
  rwa [List.cons_append, List.takeWhile_append_dropWhile] at hword

/-- A literal is a number, a string, an unclosed string or a word. -/
theorem literalAt_of_literal? {stream : List Char} {piece : Segment}
    (h : literal? stream = some piece) : LiteralAt stream piece := by
  cases stream with
  | nil => cases h
  | cons first rest =>
    rw [literal?] at h
    by_cases hquote : first = '"'
    · rw [if_pos hquote, Option.some.injEq] at h
      rw [hquote, ← h]
      exact literalAt_string rest
    rw [if_neg hquote] at h
    by_cases hdigit : first.isDigit = true
    · rw [if_pos hdigit, Option.some.injEq] at h
      rw [← h]
      exact literalAt_number rest hdigit
    rw [if_neg hdigit] at h
    by_cases hword : startsIdentifier first = true
    · rw [if_pos hword, Option.some.injEq] at h
      rw [← h]
      exact literalAt_word rest hword
    · rw [if_neg hword] at h
      cases h

/-- Nothing else starts with a quote, a digit or the start of an identifier. -/
theorem literal?_eq_none_iff {stream : List Char} : literal? stream = none ↔
    ∀ first ∈ stream.head?,
      first ≠ '"' ∧ first.isDigit = false ∧ startsIdentifier first = false := by
  cases stream with
  | nil => simp [literal?]
  | cons first rest =>
    rw [literal?]
    by_cases hquote : first = '"' <;> by_cases hdigit : first.isDigit = true <;>
      by_cases hword : startsIdentifier first = true <;> simp [hquote, hdigit, hword]

end Segment

end ExprLang
