import ExprLang.Proofs.Scan.Lossless

/-!
The tokens of the language. The fixed spellings come from the catalog, and what the catalog rejects
is a number, a string or a word; so every token belongs to one of four classes, and is the longest
one of its class where it stands. What no class takes is a single character that starts none of
them.
-/
set_option autoImplicit false

namespace ExprLang

/-- The tokens that can stand at the start of a stream, each the longest of its class. -/
inductive TokenForm [IdentifierClasses] (stream : List Char) :
    Kind → List Char → Option Literal → Prop
  | fixed {kind : Kind} {lexeme : String} (hfixed : kind.fixedLexeme? = some lexeme)
      (hstarts : lexeme.toList <+: stream)
      (hlongest : ∀ other longer, Kind.fixedLexeme? other = some longer →
        longer.toList <+: stream → longer.length ≤ lexeme.length) :
      TokenForm stream kind lexeme.toList none
  | number {lexeme : List Char} (hnumber : IsNumber lexeme) (hstarts : lexeme <+: stream)
      (hlongest : ∀ other, IsNumber other → other <+: stream → other.length ≤ lexeme.length) :
      TokenForm stream .number lexeme
        (some (.number (Binary64.ofDecimal (Decimal.ofLexeme lexeme))))
  | string {body : List Char} (hbody : '"' ∉ body) (hstarts : '"' :: body ++ ['"'] <+: stream) :
      TokenForm stream .string ('"' :: body ++ ['"']) (some (.string (String.ofList body)))
  | word {kind : Kind} {first : Char} {body : List Char} (hfirst : startsIdentifier first = true)
      (hbody : ∀ c ∈ body, continuesIdentifier c = true) (hstarts : first :: body <+: stream)
      (hlongest : ∀ next, first :: body ++ [next] <+: stream → continuesIdentifier next = false)
      (hkind : Kind.ofWord? (String.ofList (first :: body)) = some kind ∨
        Kind.ofWord? (String.ofList (first :: body)) = none ∧ kind = .identifier) :
      TokenForm stream kind (first :: body) none

/-- A character that no token of the language starts with, and no layout either. -/
structure StartsNothing [IdentifierClasses] (c : Char) : Prop where
  not_blank : isBlank c = false
  not_digit : c.isDigit = false
  not_quote : c ≠ '"'
  not_word : startsIdentifier c = false
  not_fixed : ∀ kind, Kind.fixedLexeme? kind ≠ some (String.singleton c)

/-! ## The catalog of the language -/

theorem Catalog.mem_standard_iff {entry : CatalogEntry} :
    entry ∈ Catalog.standard ↔ entry.kind.fixedLexeme? = some entry.lexeme := by
  obtain ⟨lexeme, kind⟩ := entry
  have hkinds : ∀ lexeme, kind.fixedLexeme? = some lexeme → kind ∈ standardKinds := by
    cases kind <;> simp [Kind.fixedLexeme?, standardKinds]
  simp only [standard, List.mem_filterMap, Option.map_eq_some_iff, CatalogEntry.mk.injEq]
  constructor
  · rintro ⟨other, _, _, hfixed, rfl, rfl⟩
    exact hfixed
  · intro hfixed
    exact ⟨kind, hkinds lexeme hfixed, lexeme, hfixed, rfl, rfl⟩

theorem fixedLexeme?_ne_empty {kind : Kind} {lexeme : String}
    (h : kind.fixedLexeme? = some lexeme) : lexeme.toList ≠ [] := by
  cases kind <;> simp [Kind.fixedLexeme?] at h <;> subst h <;> decide

theorem fits_of_fixedLexeme? {kind : Kind} {lexeme : String} {stream : List Char}
    (h : kind.fixedLexeme? = some lexeme) (hstarts : lexeme.toList <+: stream) :
    (CatalogEntry.mk lexeme kind).Fits stream :=
  ⟨fixedLexeme?_ne_empty h, hstarts⟩

theorem not_unexpected_of_longest {stream : List Char} {entry : CatalogEntry}
    (h : Catalog.standard.Longest stream entry) : entry.kind ≠ .unexpected := by
  intro hkind
  have hfixed := Catalog.mem_standard_iff.mp h.mem
  rw [hkind] at hfixed
  cases hfixed

/-- The catalog of the language has no unexpected lexemes: where it finds one, nothing fits. -/
theorem finds_unexpected {stream : List Char} {lexeme : String}
    (h : Catalog.standard.Finds stream .unexpected lexeme) :
    ∃ c rest, stream = c :: rest ∧ lexeme = String.singleton c ∧
      ∀ entry ∈ Catalog.standard, ¬ entry.Fits stream := by
  generalize hkind : Kind.unexpected = kind at h
  cases h with
  | entry hlongest => exact absurd hkind.symm (not_unexpected_of_longest hlongest)
  | none hnone => exact ⟨_, _, rfl, rfl, hnone⟩

theorem mem_keywords {word : String} {kind : Kind} (h : Kind.ofWord? word = some kind) :
    (word, kind) ∈ Kind.keywords := by
  obtain ⟨front, back, hsplit, _⟩ := List.lookup_eq_some_iff.mp h
  simp [hsplit]

theorem fixedLexeme?_of_mem_keywords :
    ∀ entry ∈ Kind.keywords, entry.2.fixedLexeme? = none := by
  decide

theorem requiresLiteral_of_fixedLexeme? {kind : Kind} {lexeme : String}
    (h : kind.fixedLexeme? = some lexeme) : kind.requiresLiteral = false := by
  cases kind <;> simp_all [Kind.fixedLexeme?, Kind.requiresLiteral]

theorem requiresLiteral_of_mem_keywords :
    ∀ entry ∈ Kind.keywords, entry.2.requiresLiteral = false := by
  decide

/-! ## Where tokens and errors come from -/

theorem mem_filterMap_tokenAt {stream : List Char} {places : List (Nat × Segment)} {token : Token}
    (h : token ∈ places.filterMap (tokenAt stream)) :
    ∃ offset kind lexeme literal, (offset, Segment.token kind lexeme literal) ∈ places ∧
      token = Token.startingAt kind (String.ofList lexeme) literal (cursorAt stream offset) := by
  obtain ⟨⟨offset, piece⟩, hplace, htoken⟩ := List.mem_filterMap.mp h
  cases piece with
  | token kind lexeme literal =>
    exact ⟨offset, kind, lexeme, literal, hplace, (Option.some.inj htoken).symm⟩
  | _ => cases htoken

theorem mem_filterMap_errorAt {stream : List Char} {lastLine line : Nat}
    {places : List (Nat × Segment)} {lexeme : String}
    (h : .unexpectedCharacter line lexeme ∈ places.filterMap (errorAt stream lastLine)) :
    ∃ offset chars, (offset, Segment.stray chars) ∈ places ∧ lexeme = String.ofList chars := by
  obtain ⟨⟨offset, piece⟩, hplace, herror⟩ := List.mem_filterMap.mp h
  cases piece with
  | stray chars =>
    cases herror
    exact ⟨offset, chars, hplace, rfl⟩
  | _ => cases herror

/-! ## Pieces of the language -/

variable [IdentifierClasses]

/-- The longest entry of the catalog is the longest fixed spelling. -/
theorem tokenForm_of_longest {stream : List Char} {entry : CatalogEntry}
    (h : Catalog.standard.Longest stream entry) :
    TokenForm stream entry.kind entry.lexeme.toList none := by
  refine .fixed (Catalog.mem_standard_iff.mp h.mem) h.1.2 fun other longer hother hstarts => ?_
  exact h.length_le (Catalog.mem_standard_iff.mpr hother) (fits_of_fixedLexeme? hother hstarts)

theorem TokenForm.kind_cases {stream lexeme : List Char} {kind : Kind} {literal : Option Literal}
    (h : TokenForm stream kind lexeme literal) : kind.fixedLexeme? ≠ none ∨
      kind ∈ [.number, .string, .identifier] ∨ kind ∈ Kind.keywords.map Prod.snd := by
  cases h with
  | fixed hfixed => exact Or.inl (by simp [hfixed])
  | number => exact Or.inr (Or.inl (by simp))
  | string => exact Or.inr (Or.inl (by simp))
  | word _ _ _ _ hkind =>
    rcases hkind with hkeyword | ⟨_, rfl⟩
    · exact Or.inr (Or.inr (List.mem_map_of_mem (mem_keywords hkeyword)))
    · exact Or.inr (Or.inl (by simp))

theorem TokenForm.not_unexpected {stream lexeme : List Char} {kind : Kind}
    {literal : Option Literal} (h : TokenForm stream kind lexeme literal) : kind ≠ .unexpected := by
  rintro rfl
  exact absurd h.kind_cases (by decide)

theorem TokenForm.not_eof {stream lexeme : List Char} {kind : Kind} {literal : Option Literal}
    (h : TokenForm stream kind lexeme literal) : kind ≠ .eof := by
  rintro rfl
  exact absurd h.kind_cases (by decide)

/-- A token of a kind with one spelling has this spelling. -/
theorem TokenForm.lexeme_eq {stream lexeme : List Char} {kind : Kind} {literal : Option Literal}
    {spelling : String} (h : TokenForm stream kind lexeme literal)
    (hspelling : kind.fixedLexeme? = some spelling) : lexeme = spelling.toList := by
  cases h with
  | fixed hfixed => rw [Option.some.inj (hfixed.symm.trans hspelling)]
  | number => cases hspelling
  | string => cases hspelling
  | word _ _ _ _ hkind =>
    rcases hkind with hkeyword | ⟨_, rfl⟩
    · rw [fixedLexeme?_of_mem_keywords _ (mem_keywords hkeyword)] at hspelling
      cases hspelling
    · cases hspelling

/-- A token carries a value exactly if tokens of its kind do. -/
theorem TokenForm.literal_isSome {stream lexeme : List Char} {kind : Kind} {literal : Option Literal}
    (h : TokenForm stream kind lexeme literal) : literal.isSome = kind.requiresLiteral := by
  cases h with
  | fixed hfixed => exact (requiresLiteral_of_fixedLexeme? hfixed).symm
  | number => rfl
  | string => rfl
  | word _ _ _ _ hkind =>
    rcases hkind with hkeyword | ⟨_, rfl⟩
    · exact (requiresLiteral_of_mem_keywords _ (mem_keywords hkeyword)).symm
    · rfl

theorem TokenForm.slash {stream lexeme : List Char} {literal : Option Literal}
    (h : TokenForm stream .slash lexeme literal) : lexeme = ['/'] :=
  h.lexeme_eq rfl

theorem tokenForm_of_literalAt {stream lexeme : List Char} {kind : Kind} {literal : Option Literal}
    (h : LiteralAt stream (.token kind lexeme literal)) : TokenForm stream kind lexeme literal := by
  cases h with
  | string body rest hbody => exact .string hbody (by simp)
  | number lexeme rest hnumber hlongest => exact .number hnumber (List.prefix_append _ _) hlongest
  | word first body rest hfirst hbody hrest =>
    refine .word hfirst hbody (List.prefix_append _ _) (fun next hnext => ?_) ?_
    · obtain ⟨tail, htail⟩ := hnext
      rw [List.append_assoc, List.append_cancel_left_eq] at htail
      exact hrest next (by simp [← htail])
    · cases hword : Kind.ofWord? (String.ofList (first :: body)) with
      | none => exact Or.inr ⟨rfl, rfl⟩
      | some keyword => exact Or.inl rfl

theorem tokenForm_of_solid {stream lexeme : List Char} {kind : Kind} {literal : Option Literal}
    (h : Solid Catalog.standard stream (.token kind lexeme literal)) :
    TokenForm stream kind lexeme literal := by
  cases h with
  | token hfinds _ hexpected =>
    cases hfinds with
    | entry hlongest => exact tokenForm_of_longest hlongest
    | none => exact absurd rfl hexpected
  | literal _ hliteral => exact tokenForm_of_literalAt (Segment.literalAt_of_literal? hliteral)

/-- What neither the catalog nor the literals take is one character that starts nothing. -/
theorem startsNothing_of_stray {stream lexeme : List Char}
    (h : Solid Catalog.standard stream (.stray lexeme)) (hlayout : ¬ StartsLayout stream) :
    ∃ c, lexeme = [c] ∧ StartsNothing c := by
  cases h with
  | literal _ hliteral => cases Segment.literalAt_of_literal? hliteral
  | stray hfinds hnone =>
    obtain ⟨c, rest, rfl, rfl, hfits⟩ := finds_unexpected hfinds
    obtain ⟨hquote, hdigit, hword⟩ := Segment.literal?_eq_none_iff.mp hnone c rfl
    have hblank : isBlank c = false := by
      refine Bool.eq_false_iff.mpr fun hblank => hlayout (Or.inl ⟨c, rfl, hblank⟩)
    refine ⟨c, by simp, hblank, hdigit, hquote, hword, fun kind hfixed => ?_⟩
    refine hfits ⟨String.singleton c, kind⟩ (Catalog.mem_standard_iff.mpr hfixed) ?_
    exact fits_of_fixedLexeme? hfixed (by simp)

/-! ## All tokens and errors -/

theorem solid_of_next? {stream : List Char} {piece : Segment}
    (h : Segment.next? Automaton.standard stream = some piece)
    (hblank : ∀ symbol, piece ≠ .blank symbol) (hcomment : ∀ run, piece ≠ .comment run) :
    ¬ StartsLayout stream ∧ Solid Catalog.standard stream piece := by
  rcases Segment.next?_eq_some_iff.mp h with hlayout | hsolid
  · rcases Segment.layout?_shape hlayout with ⟨symbol, hpiece⟩ | ⟨run, hpiece⟩
    · exact absurd hpiece (hblank symbol)
    · exact absurd hpiece (hcomment run)
  · exact hsolid

theorem solid_of_placed {text : String} {pieces : List Segment} {rest : List Char}
    (h : Cut Automaton.standard (streamOfText text) pieces rest) {offset : Nat} {piece : Segment}
    (hplace : (offset, piece) ∈ placed 0 pieces) (hblank : ∀ symbol, piece ≠ .blank symbol)
    (hcomment : ∀ run, piece ≠ .comment run) :
    ¬ StartsLayout ((streamOfText text).drop offset) ∧
      Solid Catalog.standard ((streamOfText text).drop offset) piece :=
  solid_of_next? (h.next?_of_placed (streamOfText text) 0 rfl _ hplace) hblank hcomment

/-- Every token of a text but the last is the next piece at some place of the stream. -/
theorem exists_next?_of_mem {text : String} {token : Token}
    (h : token ∈ (scan text).tokens.dropLast) : ∃ offset,
      Segment.next? Automaton.standard ((streamOfText text).drop offset) =
        some (.token token.kind token.lexeme.toList token.literal) := by
  obtain ⟨pieces, rest, hcut, htokens, -⟩ := scanWith_cut Automaton.standard text
  rw [scan, htokens, List.dropLast_concat] at h
  obtain ⟨offset, kind, lexeme, literal, hplace, rfl⟩ := mem_filterMap_tokenAt h
  refine ⟨offset, ?_⟩
  rw [Token.startingAt, String.toList_ofList]
  exact hcut.next?_of_placed (streamOfText text) 0 rfl _ hplace

/-- Only the last token of a text stands for its end. -/
theorem not_eof_of_mem {text : String} {token : Token} (h : token ∈ (scan text).tokens.dropLast) :
    token.isEof = false := by
  obtain ⟨_, hnext⟩ := exists_next?_of_mem h
  have hform := tokenForm_of_solid (solid_of_next? hnext (by simp) (by simp)).2
  exact beq_eq_false_iff_ne.mpr hform.not_eof

/-- Numbers and strings are the tokens of a text that carry a value. -/
theorem literal_isSome_of_mem {text : String} {token : Token} (h : token ∈ (scan text).tokens) :
    token.literal.isSome = token.kind.requiresLiteral := by
  obtain ⟨front, hfront⟩ : ∃ front, (scan text).tokens =
      front ++ [Token.eof (Source.ofText text).endPosition] := ⟨_, rfl⟩
  have hdrop : (scan text).tokens.dropLast = front := by rw [hfront, List.dropLast_concat]
  rw [hfront, ← hdrop, List.mem_append, List.mem_singleton] at h
  rcases h with hmem | rfl
  · obtain ⟨_, hnext⟩ := exists_next?_of_mem hmem
    exact (tokenForm_of_solid (solid_of_next? hnext (by simp) (by simp)).2).literal_isSome
  · rfl

theorem Solid.starts {catalog : Catalog} {stream : List Char} {piece : Segment}
    (h : Solid catalog stream piece) : piece.Starts stream :=
  Segment.starts_of_solid? (Segment.solid?_eq_some_iff.mpr h)

/-- Every token of a text but the last has one of the forms where it stands, and a character is
reported only if it starts nothing. -/
theorem scan_tokenForms (text : String) :
    (∀ token ∈ (scan text).tokens.dropLast, ∃ before after,
      streamOfText text = before ++ (token.lexeme.toList ++ after) ∧
      token.line = (Cursor.behind before).displayLine ∧
      token.column = (Cursor.behind before).displayColumn ∧
      TokenForm (token.lexeme.toList ++ after) token.kind token.lexeme.toList token.literal ∧
      (token.kind = .slash → after.head? ≠ some '/') ∧
      token.kind ≠ .unexpected) ∧
    (∀ line lexeme, .unexpectedCharacter line lexeme ∈ (scan text).errors →
      ∃ c, lexeme = String.singleton c ∧ StartsNothing c) := by
  obtain ⟨pieces, rest, hcut, htokens, herrors⟩ := scanWith_cut Automaton.standard text
  constructor
  · intro token htoken
    rw [scan, htokens, List.dropLast_concat] at htoken
    obtain ⟨offset, kind, lexeme, literal, hplace, rfl⟩ := mem_filterMap_tokenAt htoken
    obtain ⟨hlayout, hsolid⟩ := solid_of_placed hcut hplace (by simp) (by simp)
    have hform := tokenForm_of_solid hsolid
    have hstarts : lexeme ++ ((streamOfText text).drop offset).drop lexeme.length =
        (streamOfText text).drop offset := hsolid.starts.2
    refine ⟨(streamOfText text).take offset, ((streamOfText text).drop offset).drop lexeme.length,
      ?_, rfl, rfl, ?_, fun hkind hslash => ?_, hform.not_unexpected⟩
    · rw [Token.startingAt, String.toList_ofList, hstarts, List.take_append_drop]
    · rw [Token.startingAt, String.toList_ofList, hstarts]
      exact hform
    · subst hkind
      rw [hform.slash] at hstarts hslash
      obtain ⟨tail, htail⟩ := List.head?_eq_some_iff.mp hslash
      rw [htail] at hstarts
      exact hlayout (Or.inr ⟨tail, hstarts⟩)
  · intro line lexeme herror
    rw [scan, herrors] at herror
    obtain ⟨offset, chars, hplace, rfl⟩ := mem_filterMap_errorAt herror
    obtain ⟨hlayout, hsolid⟩ := solid_of_placed hcut hplace (by simp) (by simp)
    obtain ⟨c, rfl, hnothing⟩ := startsNothing_of_stray hsolid hlayout
    exact ⟨c, String.singleton_eq_ofList.symm, hnothing⟩

end ExprLang
