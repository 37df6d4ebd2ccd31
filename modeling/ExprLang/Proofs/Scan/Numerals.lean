import ExprLang.Proofs.Scan.Respacing

/-!
Numbers that make up a whole text. Digits with at most one point between them are one token, however
many they are, since no fixed spelling begins with a digit and a number takes all of itself; a minus
sign in front of them is a token of its own, since no longer spelling begins with it.
-/
set_option autoImplicit false

namespace ExprLang

variable {lexeme rest : List Char}

/-! ## The characters of a number -/

theorem IsNumber.exists_cons (h : IsNumber lexeme) :
    ∃ first tail, lexeme = first :: tail ∧ first.isDigit = true := by
  have hdigits : ∀ {run : List Char}, Digits run →
      ∃ first tail, run = first :: tail ∧ first.isDigit = true := by
    rintro run ⟨hne, hall⟩
    obtain ⟨first, tail, rfl⟩ := List.exists_cons_of_ne_nil hne
    exact ⟨first, tail, rfl, hall first List.mem_cons_self⟩
  rcases h with hwhole | ⟨whole, fraction, hwhole, -, rfl⟩
  · exact hdigits hwhole
  · obtain ⟨first, tail, rfl, hfirst⟩ := hdigits hwhole
    exact ⟨first, tail ++ '.' :: fraction, rfl, hfirst⟩

theorem IsNumber.mem_cases (h : IsNumber lexeme) : ∀ c ∈ lexeme, c.isDigit = true ∨ c = '.' := by
  intro c hc
  rcases h with hwhole | ⟨whole, fraction, hwhole, hfraction, rfl⟩
  · exact .inl (hwhole.2 c hc)
  · rcases List.mem_append.mp hc with hin | hin
    · exact .inl (hwhole.2 c hin)
    · rcases List.mem_cons.mp hin with rfl | hlater
      · exact .inr rfl
      · exact .inl (hfraction.2 c hlater)

theorem not_isDigit_of_fixedLexeme? {kind : Kind} {lexeme : String}
    (h : kind.fixedLexeme? = some lexeme) : ∀ c ∈ lexeme.toList, c.isDigit = false := by
  cases kind <;> simp [Kind.fixedLexeme?] at h <;> subst h <;> simp [Char.isDigit]

theorem Segment.numberLexeme_of_isNumber (h : IsNumber lexeme) : numberLexeme lexeme = lexeme := by
  have hprefix : numberLexeme lexeme <+: lexeme := ⟨_, numberLexeme_append_drop lexeme⟩
  have hle := length_le_numberLexeme h (List.prefix_refl lexeme)
  exact hprefix.eq_of_length (Nat.le_antisymm hprefix.length_le hle)

/-! ## The text of a number -/

theorem Segment.not_startsLayout_of_head {c : Char} (hblank : isBlank c = false) (hslash : c ≠ '/') :
    ¬ StartsLayout (c :: rest) := by
  rintro (⟨d, hd, hlayout⟩ | ⟨_, hcomment⟩)
  · cases hd
    rw [hblank] at hlayout
    cases hlayout
  · exact hslash (List.cons.inj hcomment).1.symm

theorem streamOfText_of_no_return {text : List Char} (h : '\r' ∉ text) :
    ∃ ending, (ending = [] ∨ ending = ['\n']) ∧
      streamOfText (String.ofList text) = text ++ ending := by
  obtain ⟨ending, hending, hstream⟩ := streamOf_linesOf text
  have hplain : plainBreaks text = text :=
    plainBreaks_eq_self fun hbreak => h (hbreak.subset List.mem_cons_self)
  rw [hplain] at hstream
  exact ⟨ending, hending, by rw [streamOfText, String.toList_ofList, hstream]⟩

/-! ## One token -/

variable [IdentifierClasses]

namespace Segment

/-- A number by itself is read as one token. -/
theorem next?_of_isNumber (h : IsNumber lexeme) : next? Automaton.standard lexeme =
    some (.token .number lexeme
      (some (.number (Binary64.ofDecimal (Decimal.ofLexeme lexeme))))) := by
  obtain ⟨first, tail, hlexeme, hdigit⟩ := h.exists_cons
  have hother : ∀ c : Char, c.isDigit = false → first ≠ c := by
    rintro c hc rfl
    rw [hdigit] at hc
    cases hc
  have hblank : isBlank first = false := by
    refine Bool.eq_false_iff.mpr fun hlayout => ?_
    exact hother first (not_isDigit_of_isDelimiter (.inl hlayout)) rfl
  have hlayout : ¬ StartsLayout (first :: tail) :=
    not_startsLayout_of_head hblank (hother '/' (by decide))
  have hfits : ∀ entry ∈ Catalog.standard, ¬ entry.Fits (first :: tail) := by
    rintro entry hmem ⟨hne, hstarts⟩
    have hplain := not_isDigit_of_fixedLexeme? (Catalog.mem_standard_iff.mp hmem)
    obtain ⟨c, more, hchars⟩ := List.exists_cons_of_ne_nil hne
    rw [hchars] at hstarts hplain
    exact hother c (hplain c List.mem_cons_self) (List.cons_prefix_cons.mp hstarts).1.symm
  have hliteral : literal? (first :: tail) = some (number (first :: tail)) := by
    rw [literal?, if_neg (hother '"' (by decide)), if_pos hdigit]
  have hnumber := numberLexeme_of_isNumber h
  rw [hlexeme] at hnumber ⊢
  rw [number, hnumber] at hliteral
  exact next?_eq_some_iff.mpr (.inr ⟨hlayout, .literal (.none hfits) hliteral⟩)

/-- A minus sign is a token, whatever follows. -/
theorem next?_minus (rest : List Char) :
    next? Automaton.standard ('-' :: rest) = some (.token .minus ['-'] none) := by
  have hlayout : ¬ StartsLayout ('-' :: rest) := not_startsLayout_of_head (by decide) (by decide)
  have hsplit : Catalog.standard =
      Catalog.standard.take 6 ++ ⟨"-", .minus⟩ :: Catalog.standard.drop 7 := by decide
  have hothers : ∀ entry ∈ Catalog.standard.take 6 ++ Catalog.standard.drop 7,
      ¬ entry.Fits ('-' :: rest) := by
    rintro entry hmem ⟨hne, hstarts⟩
    have hcatalog : ∀ entry ∈ Catalog.standard.take 6 ++ Catalog.standard.drop 7,
        entry.lexeme.toList.head? ≠ some '-' := by decide
    obtain ⟨c, more, hchars⟩ := List.exists_cons_of_ne_nil hne
    rw [hchars] at hstarts
    refine hcatalog entry hmem ?_
    rw [hchars, (List.cons_prefix_cons.mp hstarts).1]
    rfl
  have hlongest : Catalog.standard.Longest ('-' :: rest) ⟨"-", .minus⟩ := by
    refine ⟨⟨by decide, rest, rfl⟩, _, _, hsplit, fun other hmem hfits => ?_,
      fun other hmem hfits => ?_⟩
    · exact absurd hfits (hothers other (List.mem_append_left _ hmem))
    · exact absurd hfits (hothers other (List.mem_append_right _ hmem))
  exact next?_eq_some_iff.mpr (.inr ⟨hlayout, .token (.entry hlongest) (by decide) (by decide)⟩)

end Segment

/-! ## The whole text -/

theorem spells_number (h : IsNumber lexeme) {contents : List (Kind × String × Option Literal)}
    (hrest : AtBlank rest) (hspells : Spells rest contents) :
    Spells (lexeme ++ rest) ((.number, String.ofList lexeme,
      some (.number (Binary64.ofDecimal (Decimal.ofLexeme lexeme)))) :: contents) := by
  let token : Token := ⟨.number, String.ofList lexeme,
    some (.number (Binary64.ofDecimal (Decimal.ofLexeme lexeme))), 1, 1⟩
  have hlexeme : token.lexeme.toList = lexeme := String.toList_ofList
  have halone : token.StandsAlone := by
    rw [Token.StandsAlone, hlexeme]
    exact Segment.next?_of_isNumber h
  have htoken := hspells.token halone hrest
  rwa [hlexeme] at htoken

theorem spells_minus {contents : List (Kind × String × Option Literal)}
    (hspells : Spells rest contents) : Spells ('-' :: rest) ((.minus, "-", none) :: contents) := by
  let token : Token := ⟨.minus, "-", none, 1, 1⟩
  have hlexeme : token.lexeme.toList = ['-'] := by decide
  have hnext : Segment.next? Automaton.standard (token.lexeme.toList ++ rest) =
      some (.token token.kind token.lexeme.toList token.literal) := by
    rw [hlexeme]
    exact Segment.next?_minus rest
  have htoken := hspells.cons hnext
  rwa [hlexeme] at htoken

/-- A text that is a number is scanned as that number, and one with a minus sign in front of it as
the sign and the number. -/
theorem scan_number (h : IsNumber lexeme) :
    ((scan (String.ofList lexeme)).errors = [] ∧
      (scan (String.ofList lexeme)).tokens.dropLast.map Token.content =
        [(.number, String.ofList lexeme,
          some (.number (Binary64.ofDecimal (Decimal.ofLexeme lexeme))))]) ∧
    (scan (String.ofList ('-' :: lexeme))).errors = [] ∧
      (scan (String.ofList ('-' :: lexeme))).tokens.dropLast.map Token.content =
        [(.minus, "-", none), (.number, String.ofList lexeme,
          some (.number (Binary64.ofDecimal (Decimal.ofLexeme lexeme))))] := by
  have hreturn : '\r' ∉ lexeme := fun hmem => by
    rcases h.mem_cases '\r' hmem with hdigit | hpoint
    · exact absurd hdigit (by decide)
    · exact absurd hpoint (by decide)
  constructor
  · obtain ⟨ending, hending, hstream⟩ := streamOfText_of_no_return hreturn
    obtain ⟨hnothing, hblank⟩ := Spells.ending hending
    have hspells := spells_number h hblank hnothing
    rw [← hstream] at hspells
    exact hspells.scan_eq
  · have hsigned : '\r' ∉ '-' :: lexeme := by simp [hreturn]
    obtain ⟨ending, hending, hstream⟩ := streamOfText_of_no_return hsigned
    obtain ⟨hnothing, hblank⟩ := Spells.ending hending
    have hspells := spells_minus (spells_number h hblank hnothing)
    rw [← List.cons_append, ← hstream] at hspells
    exact hspells.scan_eq

end ExprLang
