import ExprLang.Segment.Basic
import ExprLang.Text.IdentifierChar

/-!
The tokens that have no fixed spelling: numbers, strings and words. Their first characters are told
apart at once, a digit, a quote or the start of an identifier, and each kind then takes the longest
run that belongs to it: digits with at most one point that has digits on both sides, everything up
to the next quote, or the characters that continue an identifier. A quote that is never closed takes
the whole rest of the stream.
-/
set_option autoImplicit false

namespace ExprLang.Segment

/-- The number at the start of a stream. A point counts only with a digit behind it. -/
def numberLexeme (stream : List Char) : List Char :=
  let whole := stream.takeWhile Char.isDigit
  match stream.dropWhile Char.isDigit with
  | '.' :: rest =>
    let fraction := rest.takeWhile Char.isDigit
    if fraction = [] then whole else whole ++ '.' :: fraction
  | _ => whole

/-- The number at the start of a stream, with its value. -/
def number (stream : List Char) : Segment :=
  let lexeme := numberLexeme stream
  .token .number lexeme (some (.number (Binary64.ofDecimal (Decimal.ofLexeme lexeme))))

/-- The string behind an opening quote. -/
def string (rest : List Char) : Segment :=
  let body := rest.takeWhile (· ≠ '"')
  if body.length = rest.length then .unclosed ('"' :: rest)
  else .token .string ('"' :: body ++ ['"']) (some (.string (String.ofList body)))

/-! ## Numbers and strings are pieces of the stream -/

theorem takeWhile_append_drop_length {α : Type} (p : α → Bool) (l : List α) :
    l.takeWhile p ++ l.drop (l.takeWhile p).length = l := by
  induction l with
  | nil => rfl
  | cons x rest ih => by_cases h : p x <;> simp [h, ih]

theorem takeWhile_dropWhile_split {α : Type} (p : α → Bool) (l : List α) :
    l.dropWhile p = l.drop (l.takeWhile p).length := by
  induction l with
  | nil => rfl
  | cons x rest ih => by_cases h : p x <;> simp [h, ih]

theorem numberLexeme_append_drop (stream : List Char) :
    numberLexeme stream ++ stream.drop (numberLexeme stream).length = stream := by
  have split := takeWhile_append_drop_length Char.isDigit stream
  unfold numberLexeme
  simp only
  split
  · rename_i rest hrest
    rw [takeWhile_dropWhile_split] at hrest
    split
    · exact split
    · have tail := takeWhile_append_drop_length Char.isDigit rest
      rw [List.length_append, ← List.drop_drop, hrest]
      simp only [List.length_cons, List.drop_succ_cons, List.append_assoc, List.cons_append, tail]
      rw [← hrest]
      exact split
  · exact split

theorem starts_string (rest : List Char) : (string rest).Starts ('"' :: rest) := by
  unfold string
  simp only
  split
  · exact ⟨by simp [chars], by simp [chars, length]⟩
  · rename_i hlen
    refine ⟨by simp [chars], ?_⟩
    have split := takeWhile_append_drop_length (· ≠ '"') rest
    generalize hb : rest.takeWhile (· ≠ '"') = body at split hlen
    cases hd : rest.drop body.length with
    | nil =>
      rw [hd, List.append_nil] at split
      exact absurd (congrArg List.length split) hlen
    | cons q tail =>
      have hq : q = '"' := by
        have hdrop := takeWhile_dropWhile_split (· ≠ '"') rest
        rw [hb, hd] at hdrop
        have := List.head?_dropWhile_not (· ≠ '"') rest
        rw [hdrop] at this
        simpa using this
      subst hq
      have htail : rest.drop (body.length + 1) = tail := by
        rw [← List.drop_drop, hd]
        rfl
      simp only [chars, length, List.length_append, List.length_cons, List.length_nil,
        List.cons_append, List.append_assoc, List.nil_append, Nat.zero_add, List.drop_succ_cons,
        htail]
      rw [hd] at split
      rw [split]

theorem starts_number {first : Char} (rest : List Char) (h : first.isDigit = true) :
    (number (first :: rest)).Starts (first :: rest) := by
  refine ⟨?_, numberLexeme_append_drop (first :: rest)⟩
  simp only [number, chars, numberLexeme, List.takeWhile_cons, h]
  split
  · split <;> simp
  · simp

/-! ## Words, and literals of any kind -/

variable [IdentifierClasses]

/-- The word that starts with a given character: a reserved word or an identifier. -/
def word (first : Char) (rest : List Char) : Segment :=
  let lexeme := first :: rest.takeWhile continuesIdentifier
  .token ((Kind.ofWord? (String.ofList lexeme)).getD .identifier) lexeme none

/-- The number, string or word at the start of a stream. -/
def literal? : List Char → Option Segment
  | [] => none
  | first :: rest =>
    if first = '"' then some (string rest)
    else if first.isDigit then some (number (first :: rest))
    else if startsIdentifier first then some (word first rest)
    else none

theorem starts_word (first : Char) (rest : List Char) : (word first rest).Starts (first :: rest) :=
  ⟨by simp [word, chars], by
    simp [word, chars, length, takeWhile_append_drop_length]⟩

theorem starts_of_literal? {stream : List Char} {piece : Segment}
    (h : literal? stream = some piece) : piece.Starts stream := by
  unfold literal? at h
  split at h
  · cases h
  · split at h
    · rename_i hq
      cases h
      subst hq
      exact starts_string _
    · split at h
      · rename_i hd
        cases h
        exact starts_number _ hd
      · split at h
        · cases h
          exact starts_word _ _
        · cases h

end ExprLang.Segment
