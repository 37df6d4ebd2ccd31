import ExprLang.Proofs.Lines
import ExprLang.Proofs.Scan.TokenForms

/-!
Scanning never looks behind a delimiter, a blank or a quote, so in particular not behind a line
break. No lexeme of the language holds a delimiter, no number and no word goes on with one, and the
probe for a comment does not find its slashes there; so the next piece at the start of some
characters is the same whatever stands behind them, as long as that is nothing or begins with a
delimiter. Only a comment that has no line feed yet, and a string that has no closing quote yet,
read on.
-/
set_option autoImplicit false

namespace ExprLang

/-- The stream is at its end or at a line break. -/
def AtBreak (stream : List Char) : Prop := ∀ c ∈ stream.head?, IsBreak c

/-- The stream is at its end or at a blank. -/
def AtBlank (stream : List Char) : Prop := ∀ c ∈ stream.head?, isBlank c = true

/-- A blank, or the quote of a string. -/
def IsDelimiter (c : Char) : Prop := isBlank c = true ∨ c = '"'

/-- The stream is at its end or at a delimiter. -/
def AtDelimiter (stream : List Char) : Prop := ∀ c ∈ stream.head?, IsDelimiter c

/-- There is nothing left of the line, or nothing but a comment. -/
def RestOfLine (front : List Char) : Prop :=
  front = [] ∨ ∃ body, '\n' ∉ body ∧ front = '/' :: '/' :: body

/-- A string that starts here is closed as well. -/
def ClosesQuote (front : List Char) : Prop := ∀ tail, front = '"' :: tail → '"' ∈ tail

/-! ## Breaks, blanks and delimiters -/

theorem atBreak_cons (rest : List Char) : AtBreak ('\n' :: rest) := by simp [AtBreak, IsBreak]

theorem atBreak_of_breaks {ending : List Char} (h : ∀ c ∈ ending, IsBreak c) : AtBreak ending :=
  fun c hc => h c (List.mem_of_head? hc)

theorem isBlank_of_isBreak {c : Char} (h : IsBreak c) : isBlank c = true := by
  rcases h with rfl | rfl <;> decide

theorem AtBreak.atDelimiter {stream : List Char} (h : AtBreak stream) : AtDelimiter stream :=
  fun c hc => Or.inl (isBlank_of_isBreak (h c hc))

theorem AtBlank.atDelimiter {stream : List Char} (h : AtBlank stream) : AtDelimiter stream :=
  fun c hc => Or.inl (h c hc)

theorem atDelimiter_quote (rest : List Char) : AtDelimiter ('"' :: rest) := by
  simp [AtDelimiter, IsDelimiter]

theorem forall_blank {p : Char → Prop} (hspace : p ' ') (htab : p '\t') (hreturn : p '\r')
    (hfeed : p '\n') {c : Char} (h : isBlank c = true) : p c := by
  have hfour := isBlank_iff.mp h
  simp only [List.mem_cons, List.not_mem_nil, or_false] at hfour
  rcases hfour with rfl | rfl | rfl | rfl <;> assumption

theorem not_isDigit_of_isDelimiter {c : Char} (h : IsDelimiter c) : c.isDigit = false := by
  rcases h with hblank | rfl
  · apply forall_blank _ _ _ _ hblank <;> decide
  · decide

theorem mem_nameSeparators_of_isDelimiter {c : Char} (h : IsDelimiter c) : c ∈ nameSeparators := by
  rcases h with hblank | rfl
  · apply forall_blank _ _ _ _ hblank <;> decide
  · decide

theorem not_isDelimiter_of_fixedLexeme? {kind : Kind} {lexeme : String}
    (h : kind.fixedLexeme? = some lexeme) : ∀ c ∈ lexeme.toList, ¬ IsDelimiter c := by
  cases kind <;> simp [Kind.fixedLexeme?] at h <;> subst h <;> simp [IsDelimiter, isBlank]

variable {front rest : List Char}

/-! ## Runs of characters in front of a delimiter -/

theorem prefix_append_iff {word : List Char} (hword : ∀ c ∈ word, ¬ IsDelimiter c)
    (hrest : AtDelimiter rest) : word <+: front ++ rest ↔ word <+: front := by
  refine ⟨fun hstarts => ?_, fun hstarts => hstarts.trans (List.prefix_append front rest)⟩
  rcases List.prefix_or_prefix_of_prefix hstarts (List.prefix_append front rest) with h | h
  · exact h
  · obtain ⟨tail, rfl⟩ := h
    have htail := (List.prefix_append_right_inj front).mp hstarts
    cases tail with
    | nil => simp
    | cons c tail =>
      obtain ⟨behind, rfl⟩ := htail
      exact absurd (hrest c rfl) (hword c (by simp))

theorem takeWhile_append {p : Char → Bool} (hp : ∀ c, IsDelimiter c → p c = false)
    (front : List Char) (hrest : AtDelimiter rest) :
    (front ++ rest).takeWhile p = front.takeWhile p ∧
      (front ++ rest).dropWhile p = front.dropWhile p ++ rest := by
  induction front with
  | nil =>
    have hhead : ∀ c ∈ rest.head?, p c = false := fun c hc => hp c (hrest c hc)
    exact takeWhile_run (List.forall_mem_nil _) hhead
  | cons c front ih =>
    by_cases hc : p c = true
    · simp [hc, ih]
    · simp [hc]

/-! ## The next piece in front of a delimiter -/

namespace Segment

theorem layout?_of_no_slashes {c : Char} {tail : List Char} (h : ¬ ['/', '/'] <+: c :: tail) :
    layout? (c :: tail) = if isBlank c then some (.blank c) else none := by
  rw [layout?]
  rintro more rfl rfl
  exact h ⟨more, rfl⟩

theorem layout?_append (hfront : ¬ RestOfLine front) (hrest : AtDelimiter rest) :
    layout? (front ++ rest) = layout? front := by
  by_cases hcomment : ['/', '/'] <+: front
  · -- The comment ends within these characters, as it holds a line feed.
    obtain ⟨more, rfl⟩ := hcomment
    have hbreak : '\n' ∈ more := by
      by_contra hno
      exact hfront (Or.inr ⟨more, hno, rfl⟩)
    obtain ⟨body, tail, rfl, hbody⟩ := List.eq_append_cons_of_mem hbreak
    have hthrough := throughBreak_append hbody (tail ++ rest)
    rw [← List.cons_append, ← List.append_assoc] at hthrough
    rw [List.append_assoc, List.cons_append, List.cons_append, List.nil_append, layout?, hthrough,
      List.cons_append, List.cons_append, List.nil_append, layout?, throughBreak_append hbody]
  · have hnone : ¬ ['/', '/'] <+: front ++ rest := by
      rw [prefix_append_iff (by simp [IsDelimiter, isBlank]) hrest]
      exact hcomment
    cases front with
    | nil => exact absurd (Or.inl rfl) hfront
    | cons c front =>
      rw [List.cons_append] at hnone ⊢
      rw [layout?_of_no_slashes hnone, layout?_of_no_slashes hcomment]

theorem numberLexeme_append (hrest : AtDelimiter rest) :
    numberLexeme (front ++ rest) = numberLexeme front := by
  obtain ⟨htake, hdrop⟩ := takeWhile_append (fun _ => not_isDigit_of_isDelimiter) front hrest
  by_cases hpoint : ∃ fraction, front.dropWhile Char.isDigit = '.' :: fraction
  · obtain ⟨fraction, hpoint⟩ := hpoint
    have hfraction := (takeWhile_append (fun _ => not_isDigit_of_isDelimiter) fraction hrest).1
    rw [hpoint, List.cons_append] at hdrop
    rw [numberLexeme_of_point hdrop, numberLexeme_of_point hpoint, htake, hfraction]
  · have hno : ∀ fraction, (front ++ rest).dropWhile Char.isDigit ≠ '.' :: fraction := by
      intro fraction heq
      rw [hdrop] at heq
      cases hbehind : front.dropWhile Char.isDigit with
      | nil =>
        -- The point would be the delimiter itself.
        rw [hbehind, List.nil_append] at heq
        have hdelimiter := hrest '.' (by rw [heq]; rfl)
        simp [IsDelimiter, isBlank] at hdelimiter
      | cons c tail =>
        rw [hbehind, List.cons_append] at heq
        exact hpoint ⟨tail, by rw [hbehind, (List.cons.inj heq).1]⟩
    rw [numberLexeme_of_no_point hno, numberLexeme_of_no_point fun fraction heq =>
      hpoint ⟨fraction, heq⟩, htake]

theorem string_append (h : '"' ∈ front) (rest : List Char) :
    string (front ++ rest) = string front := by
  obtain ⟨body, tail, rfl, hbody⟩ := List.eq_append_cons_of_mem h
  rw [List.append_assoc, List.cons_append, string_eq hbody, string_eq hbody]

theorem fits_append_iff {entry : CatalogEntry} (hmem : entry ∈ Catalog.standard)
    (hrest : AtDelimiter rest) : entry.Fits (front ++ rest) ↔ entry.Fits front := by
  have hplain := not_isDelimiter_of_fixedLexeme? (Catalog.mem_standard_iff.mp hmem)
  rw [CatalogEntry.Fits, prefix_append_iff hplain hrest]
  rfl

variable [IdentifierClasses]

theorem next?_blank (machine : Automaton) {symbol : Char} (h : isBlank symbol = true)
    (rest : List Char) : next? machine (symbol :: rest) = some (.blank symbol) := by
  have hslashes : ¬ ['/', '/'] <+: symbol :: rest := by
    rintro ⟨_, heq⟩
    rw [← (List.cons.inj heq).1] at h
    exact absurd h (by decide)
  rw [next?, layout?_of_no_slashes hslashes, if_pos h]

theorem next?_comment (machine : Automaton) (rest : List Char) :
    next? machine ('/' :: '/' :: rest) = some (.comment ('/' :: '/' :: throughBreak rest)) := rfl

theorem not_continues_of_isDelimiter {c : Char} (h : IsDelimiter c) :
    continuesIdentifier c = false :=
  continuesIdentifier_eq_false (mem_nameSeparators_of_isDelimiter h)

theorem word_append (first : Char) (hrest : AtDelimiter rest) :
    word first (front ++ rest) = word first front := by
  rw [word, word, (takeWhile_append (fun _ => not_continues_of_isDelimiter) front hrest).1]

theorem literal?_append (hne : front ≠ []) (hclosed : ClosesQuote front) (hrest : AtDelimiter rest) :
    literal? (front ++ rest) = literal? front := by
  obtain ⟨first, tail, rfl⟩ := List.exists_cons_of_ne_nil hne
  rw [List.cons_append, literal?, literal?, word_append first hrest]
  by_cases hquote : first = '"'
  · subst hquote
    rw [if_pos rfl, if_pos rfl, string_append (hclosed tail rfl)]
  · rw [if_neg hquote, if_neg hquote, number, number, ← List.cons_append,
      numberLexeme_append hrest]

theorem solid?_append (hne : front ≠ []) (hclosed : ClosesQuote front) (hrest : AtDelimiter rest) :
    solid? Automaton.standard (front ++ rest) = solid? Automaton.standard front := by
  have hlongest : Automaton.standard.longest? (front ++ rest) =
      Automaton.standard.longest? front :=
    Automaton.longest?_congr fun _ hmem => fits_append_iff hmem hrest
  have htake : ∀ length ≤ front.length, (front ++ rest).take length = front.take length :=
    fun _ hle => List.take_append_of_le_length hle
  have hliteral : ∀ length ≤ front.length,
      literalOrStray (front ++ rest) length = literalOrStray front length := by
    intro length hle
    rw [literalOrStray, literal?_append hne hclosed hrest, htake length hle]
    rfl
  have hnil : ¬ front ++ rest = [] := fun heq => hne (List.append_eq_nil_iff.mp heq).1
  rw [solid?, solid?, hlongest]
  cases hfound : Automaton.standard.longest? front with
  | none =>
    simp only [if_neg hne, if_neg hnil, hliteral 1 (List.length_pos_iff.mpr hne)]
  | some found =>
    have hle := (Automaton.longest?_bounds hfound).2
    simp only [hliteral found.length hle, htake found.length hle]

/-- What stands behind a delimiter makes no difference to the next piece in front of it. -/
theorem next?_append (hfront : ¬ RestOfLine front) (hclosed : ClosesQuote front)
    (hrest : AtDelimiter rest) :
    next? Automaton.standard (front ++ rest) = next? Automaton.standard front := by
  have hne : front ≠ [] := fun hnil => hfront (Or.inl hnil)
  rw [next?, layout?_append hfront hrest, solid?_append hne hclosed hrest]
  rfl

/-- Behind a quote a string is read, whatever follows. -/
theorem next?_quote (rest : List Char) :
    next? Automaton.standard ('"' :: rest) = some (string rest) := by
  have hlayout : ¬ StartsLayout ('"' :: rest) := by
    rintro (⟨c, hc, hblank⟩ | hslashes)
    · cases hc
      exact absurd hblank (by decide)
    · obtain ⟨_, heq⟩ := hslashes
      exact absurd (List.cons.inj heq).1 (by decide)
  have hfits : ∀ entry ∈ Catalog.standard, ¬ entry.Fits ('"' :: rest) := by
    rintro entry hmem ⟨hne, hstarts⟩
    have hplain := not_isDelimiter_of_fixedLexeme? (Catalog.mem_standard_iff.mp hmem)
    obtain ⟨c, tail, hlexeme⟩ := List.exists_cons_of_ne_nil hne
    rw [hlexeme] at hstarts hplain
    exact hplain c List.mem_cons_self (Or.inr (List.cons_prefix_cons.mp hstarts).1)
  have hliteral : literal? ('"' :: rest) = some (string rest) := by rw [literal?, if_pos rfl]
  exact next?_eq_some_iff.mpr (Or.inr ⟨hlayout, .literal (.none hfits) hliteral⟩)

/-- A string that closes does so in front of the ending of the last line. -/
theorem closesQuote_of_next? {ending : List Char} {piece : Segment}
    (hending : ∀ c ∈ ending, IsBreak c) (hclosed : ∀ text, piece ≠ .unclosed text)
    (hnext : next? Automaton.standard (front ++ ending) = some piece) :
    ClosesQuote front := by
  rintro tail rfl
  by_contra htail
  have hopen : '"' ∉ tail ++ ending := by
    intro hmem
    rcases List.mem_append.mp hmem with hin | hin
    · exact htail hin
    · have hbreak := hending '"' hin
      simp [IsBreak] at hbreak
  rw [List.cons_append, next?_quote, string_unclosed hopen] at hnext
  exact hclosed _ (Option.some.inj hnext).symm

end Segment

end ExprLang
