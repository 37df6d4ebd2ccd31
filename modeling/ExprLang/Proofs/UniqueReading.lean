import ExprLang.Expr.Printer
import ExprLang.Proofs.Evaluation.Supported
import ExprLang.Proofs.Number.Constants

/-!
Reading a printed tree in one way. Every node of a printed tree but a constant stands between
parentheses and begins with a word, and a word ends at a blank or at a parenthesis. So two trees
whose texts go on in any way, from the end of a word on, begin with the same word, have the same
number of operands, and end at the same place: the text of a tree determines its shape, its constants
and the spellings of its operators. Strings have to be left out, since they can look like anything,
and so does NaN, whose text keeps no sign.
-/
set_option autoImplicit false

namespace ExprLang

/-! ## Trees whose text is clear -/

/-- A number that is not NaN, a truth value or nil. -/
def Value.IsLegible : Value → Prop
  | .number value => value.isNaN = false
  | .string _ => False
  | .boolean _ => True
  | .nil => True

/-- The character ends a word of a printed tree. -/
def endsWord (c : Char) : Bool := c == ' ' || c == '(' || c == ')'

/-- At least one character, and none that ends a word. -/
def Unbroken (word : List Char) : Prop := word ≠ [] ∧ ∀ c ∈ word, endsWord c = false

instance (word : List Char) : Decidable (Unbroken word) :=
  decidable_of_iff (word ≠ [] ∧ word.all (!endsWord ·) = true) (by simp [Unbroken])

/-- One word, and not the one that stands for the parentheses of the program. -/
def IsSymbol (lexeme : String) : Prop := Unbroken lexeme.toList ∧ lexeme ≠ "group"

instance (lexeme : String) : Decidable (IsSymbol lexeme) := inferInstanceAs (Decidable (_ ∧ _))

namespace Expr

/-- The constants of an expression from left to right. -/
def constants : Expr → List Value
  | .constant value => [value]
  | .grouping inner => inner.constants
  | .unary _ operand => operand.constants
  | .binary left _ right => left.constants ++ right.constants

/-- No string, no NaN, and only operators that are spelled as one word. -/
structure Legible (e : Expr) : Prop where
  constants : ∀ value ∈ e.constants, value.IsLegible
  operators : ∀ operator ∈ e.operators, IsSymbol operator.lexeme

/-- The same tree with the same constants, as far as `seen` tells its operators apart. -/
inductive SameUpTo {α : Type} (seen : Token → α) : Expr → Expr → Prop
  | constant (value : Value) : SameUpTo seen (.constant value) (.constant value)
  | grouping {inner inner' : Expr} (hinner : SameUpTo seen inner inner') :
      SameUpTo seen (.grouping inner) (.grouping inner')
  | unary {operator operator' : Token} {operand operand' : Expr}
      (hoperator : seen operator = seen operator') (hoperand : SameUpTo seen operand operand') :
      SameUpTo seen (.unary operator operand) (.unary operator' operand')
  | binary {left left' right right' : Expr} {operator operator' : Token}
      (hoperator : seen operator = seen operator') (hleft : SameUpTo seen left left')
      (hright : SameUpTo seen right right') :
      SameUpTo seen (.binary left operator right) (.binary left' operator' right')

/-! ## The parts of a text -/

/-- The tree begins with a parenthesis. -/
def opens : Expr → Bool
  | .constant _ => false
  | _ => true

/-- The first word of the text. -/
def firstWord : Expr → List Char
  | .constant value => value.constantText.toList
  | .grouping _ => "group".toList
  | .unary operator _ => operator.lexeme.toList
  | .binary _ operator _ => operator.lexeme.toList

/-- The text behind the first word. -/
def behindWord : Expr → List Char
  | .constant _ => []
  | .grouping inner => ' ' :: (inner.text.toList ++ [')'])
  | .unary _ operand => ' ' :: (operand.text.toList ++ [')'])
  | .binary left _ right => ' ' :: (left.text.toList ++ ' ' :: (right.text.toList ++ [')']))

theorem toList_text (e : Expr) :
    e.text.toList = (if e.opens then ['('] else []) ++ (e.firstWord ++ e.behindWord) := by
  cases e with
  | constant value => simp [text_constant, opens, firstWord, behindWord]
  | grouping inner => simp [text_grouping, opens, firstWord, behindWord]
  | unary operator operand => simp [text_unary, opens, firstWord, behindWord]
  | binary left operator right => simp [text_binary, opens, firstWord, behindWord]

end Expr

/-! ## Words -/

/-- The characters are none, or the first one ends a word. -/
def AtWordEnd (rest : List Char) : Prop := ∀ c ∈ rest.head?, endsWord c = true

theorem atWordEnd_cons {c : Char} (h : endsWord c = true) (rest : List Char) :
    AtWordEnd (c :: rest) := by
  rintro _ ⟨⟩
  exact h

/-- Where a word ends is determined by the word and by what follows. -/
theorem Unbroken.unique {word word' rest rest' : List Char} (h : Unbroken word)
    (h' : Unbroken word') (hrest : AtWordEnd rest) (hrest' : AtWordEnd rest')
    (heq : word ++ rest = word' ++ rest') : word = word' ∧ rest = rest' := by
  have hsplit : ∀ {word rest : List Char}, Unbroken word → AtWordEnd rest →
      (word ++ rest).takeWhile (!endsWord ·) = word ∧
        (word ++ rest).dropWhile (!endsWord ·) = rest := by
    intro word rest hword hrest
    refine takeWhile_run (fun c hc => ?_) fun c hc => ?_
    · rw [hword.2 c hc]
      rfl
    · rw [hrest c hc]
      rfl
  obtain ⟨htake, hdrop⟩ := hsplit h hrest
  obtain ⟨htake', hdrop'⟩ := hsplit h' hrest'
  rw [heq] at htake hdrop
  exact ⟨htake.symm.trans htake', hdrop.symm.trans hdrop'⟩

theorem Unbroken.exists_cons {word : List Char} (h : Unbroken word) :
    ∃ first tail, word = first :: tail ∧ first ≠ '(' := by
  obtain ⟨hne, hall⟩ := h
  obtain ⟨first, tail, rfl⟩ := List.exists_cons_of_ne_nil hne
  refine ⟨first, tail, rfl, ?_⟩
  rintro rfl
  exact absurd (hall '(' List.mem_cons_self) (by decide)

theorem not_endsWord_of_isDigit {c : Char} (h : c.isDigit = true) : endsWord c = false := by
  rw [Bool.eq_false_iff]
  intro hends
  simp only [endsWord, Bool.or_eq_true, beq_iff_eq] at hends
  rcases hends with (rfl | rfl) | rfl <;> exact absurd h (by decide)

namespace Value

variable {value other : Value} {x : Float}

/-- The values that are written as a word. -/
def words : List Value := [.boolean true, .boolean false, .nil]

theorem IsLegible.number_or_word (h : value.IsLegible) :
    (∃ x, x.isNaN = false ∧ value = .number x) ∨ value ∈ words := by
  cases value with
  | number x => exact .inl ⟨x, h, rfl⟩
  | string text => exact h.elim
  | boolean value => cases value <;> simp [words]
  | nil => simp [words]

theorem unbroken_words : ∀ value ∈ words, Unbroken value.constantText.toList := by
  decide +kernel

theorem constantText_words : ∀ value ∈ words, ∀ other ∈ words,
    value.constantText = other.constantText → value = other := by
  decide +kernel

/-- Every word has a letter that no number has. -/
theorem constant_ne_word (h : x.isNaN = false) :
    ∀ value ∈ words, Number.constant x ≠ value.constantText := by
  have hletters : ∀ value ∈ words,
      'u' ∈ value.constantText.toList ∨ 'l' ∈ value.constantText.toList := by
    decide +kernel
  intro value hvalue heq
  have hin := hletters value hvalue
  rw [← heq] at hin
  rcases hin with hin | hin <;> rcases Number.mem_constant h _ hin with hdigit | hletter
  · exact absurd hdigit (by decide)
  · exact absurd hletter (by decide)
  · exact absurd hdigit (by decide)
  · exact absurd hletter (by decide)

theorem IsLegible.unbroken (h : value.IsLegible) : Unbroken value.constantText.toList := by
  rcases h.number_or_word with ⟨x, hx, rfl⟩ | hword
  · refine ⟨Number.constant_ne_empty hx, fun c hc => ?_⟩
    rcases Number.mem_constant hx c hc with hdigit | hletter
    · exact not_endsWord_of_isDigit hdigit
    · have hletters : ∀ c ∈ ['-', '.', 'i', 'n', 'f'], endsWord c = false := by simp [endsWord]
      exact hletters c hletter
  · exact unbroken_words value hword

/-- The text of a legible constant tells the constant. -/
theorem IsLegible.eq_of_constantText (h : value.IsLegible) (h' : other.IsLegible)
    (heq : value.constantText = other.constantText) : value = other := by
  rcases h.number_or_word with ⟨x, hx, rfl⟩ | hword
  · rcases h'.number_or_word with ⟨y, hy, rfl⟩ | hword'
    · exact congrArg number (Number.constant_injective hx hy heq)
    · exact absurd heq (constant_ne_word hx other hword')
  · rcases h'.number_or_word with ⟨y, hy, rfl⟩ | hword'
    · exact absurd heq.symm (constant_ne_word hy value hword)
    · exact constantText_words value hword other hword' heq

end Value

/-! ## Trees -/

namespace Expr

variable {e e' : Expr} {rest rest' : List Char}

theorem Legible.inner {inner : Expr} (h : (grouping inner).Legible) : inner.Legible :=
  ⟨h.constants, h.operators⟩

theorem Legible.operand {operator : Token} {operand : Expr} (h : (unary operator operand).Legible) :
    operand.Legible :=
  ⟨h.constants, fun other hother => h.operators other (List.mem_append_left _ hother)⟩

theorem Legible.left {operator : Token} {left right : Expr}
    (h : (binary left operator right).Legible) : left.Legible :=
  ⟨fun value hvalue => h.constants value (List.mem_append_left _ hvalue),
    fun other hother => h.operators other (List.mem_append_left _ hother)⟩

theorem Legible.right {operator : Token} {left right : Expr}
    (h : (binary left operator right).Legible) : right.Legible :=
  ⟨fun value hvalue => h.constants value (List.mem_append_right _ hvalue), fun other hother =>
    h.operators other (List.mem_append_right _ (List.mem_append_left _ hother))⟩

theorem Legible.unarySymbol {operator : Token} {operand : Expr}
    (h : (unary operator operand).Legible) : IsSymbol operator.lexeme :=
  h.operators operator (List.mem_append_right _ List.mem_cons_self)

theorem Legible.binarySymbol {operator : Token} {left right : Expr}
    (h : (binary left operator right).Legible) : IsSymbol operator.lexeme :=
  h.operators operator
    (List.mem_append_right _ (List.mem_append_right _ List.mem_cons_self))

theorem Legible.unbroken_firstWord (h : e.Legible) : Unbroken e.firstWord := by
  cases e with
  | constant value => exact (h.constants value List.mem_cons_self).unbroken
  | grouping inner =>
    show Unbroken "group".toList
    decide +kernel
  | unary operator operand => exact h.unarySymbol.1
  | binary left operator right => exact h.binarySymbol.1

theorem atWordEnd_behindWord (e : Expr) (h : AtWordEnd rest) : AtWordEnd (e.behindWord ++ rest) := by
  cases e with
  | constant value => exact h
  | grouping inner => exact atWordEnd_cons rfl _
  | unary operator operand => exact atWordEnd_cons rfl _
  | binary left operator right => exact atWordEnd_cons rfl _

/-- Two texts that go on in some way begin alike: with the same word, between parentheses or not. -/
theorem Legible.beginning_unique (h : e.Legible) (h' : e'.Legible) (hrest : AtWordEnd rest)
    (hrest' : AtWordEnd rest') (heq : e.text.toList ++ rest = e'.text.toList ++ rest') :
    e.opens = e'.opens ∧ e.firstWord = e'.firstWord ∧
      e.behindWord ++ rest = e'.behindWord ++ rest' := by
  have hend := e.atWordEnd_behindWord hrest
  have hend' := e'.atWordEnd_behindWord hrest'
  have hword := h.unbroken_firstWord
  have hword' := h'.unbroken_firstWord
  rw [toList_text, toList_text] at heq
  simp only [List.append_assoc] at heq
  cases hopens : e.opens <;> cases hopens' : e'.opens <;>
    simp only [hopens, hopens', if_true, Bool.false_eq_true, if_false, List.nil_append,
      List.cons_append, List.cons.injEq, true_and] at heq
  · exact ⟨rfl, hword.unique hword' hend hend' heq⟩
  · obtain ⟨first, tail, hfirst, hne⟩ := hword.exists_cons
    rw [hfirst, List.cons_append] at heq
    exact absurd (List.cons.inj heq).1 hne
  · obtain ⟨first, tail, hfirst, hne⟩ := hword'.exists_cons
    rw [hfirst, List.cons_append] at heq
    exact absurd (List.cons.inj heq).1.symm hne
  · exact ⟨rfl, hword.unique hword' hend hend' heq⟩

theorem behindWord_grouping (inner : Expr) (rest : List Char) :
    (grouping inner).behindWord ++ rest = ' ' :: (inner.text.toList ++ ')' :: rest) := by
  simp [behindWord]

theorem behindWord_unary (operator : Token) (operand : Expr) (rest : List Char) :
    (unary operator operand).behindWord ++ rest =
      ' ' :: (operand.text.toList ++ ')' :: rest) := by
  simp [behindWord]

theorem behindWord_binary (left : Expr) (operator : Token) (right : Expr) (rest : List Char) :
    (binary left operator right).behindWord ++ rest =
      ' ' :: (left.text.toList ++ ' ' :: (right.text.toList ++ ')' :: rest)) := by
  simp [behindWord]

/-- However two texts go on from the end of a word, they are texts of the same tree, and they go on
in the same way. -/
theorem Legible.unique (h : e.Legible) (h' : e'.Legible) (hrest : AtWordEnd rest)
    (hrest' : AtWordEnd rest') (heq : e.text.toList ++ rest = e'.text.toList ++ rest') :
    SameUpTo Token.lexeme e e' ∧ rest = rest' := by
  -- A parenthesis and a blank both end a word, so every operand is followed by the end of one.
  have hclose : ∀ more, AtWordEnd (')' :: more) := atWordEnd_cons rfl
  have hblank : ∀ more, AtWordEnd (' ' :: more) := atWordEnd_cons rfl
  induction e generalizing e' rest rest' with
  | constant value =>
    obtain ⟨hopens, hword, hbehind⟩ := h.beginning_unique h' hrest hrest' heq
    cases e' with
    | constant value' =>
      have hvalue : value = value' := (h.constants value List.mem_cons_self).eq_of_constantText
        (h'.constants value' List.mem_cons_self) (String.toList_inj.mp hword)
      rw [hvalue]
      exact ⟨.constant value', hbehind⟩
    | grouping inner' => cases hopens
    | unary operator' operand' => cases hopens
    | binary left' operator' right' => cases hopens
  | grouping inner ih =>
    obtain ⟨hopens, hword, hbehind⟩ := h.beginning_unique h' hrest hrest' heq
    cases e' with
    | constant value' => cases hopens
    | grouping inner' =>
      rw [behindWord_grouping, behindWord_grouping, List.cons.injEq] at hbehind
      obtain ⟨hinner, hsame⟩ := ih h.inner h'.inner (hclose _) (hclose _) hbehind.2
      exact ⟨.grouping hinner, (List.cons.inj hsame).2⟩
    | unary operator' operand' => exact absurd (String.toList_inj.mp hword).symm h'.unarySymbol.2
    | binary left' operator' right' =>
      exact absurd (String.toList_inj.mp hword).symm h'.binarySymbol.2
  | unary operator operand ih =>
    obtain ⟨hopens, hword, hbehind⟩ := h.beginning_unique h' hrest hrest' heq
    cases e' with
    | constant value' => cases hopens
    | grouping inner' => exact absurd (String.toList_inj.mp hword) h.unarySymbol.2
    | unary operator' operand' =>
      rw [behindWord_unary, behindWord_unary, List.cons.injEq] at hbehind
      obtain ⟨hoperand, hsame⟩ := ih h.operand h'.operand (hclose _) (hclose _) hbehind.2
      exact ⟨.unary (String.toList_inj.mp hword) hoperand, (List.cons.inj hsame).2⟩
    | binary left' operator' right' =>
      rw [behindWord_unary, behindWord_binary, List.cons.injEq] at hbehind
      obtain ⟨-, hsame⟩ := ih h.operand h'.left (hclose _) (hblank _) hbehind.2
      exact absurd (List.cons.inj hsame).1 (by decide)
  | binary left operator right ihLeft ihRight =>
    obtain ⟨hopens, hword, hbehind⟩ := h.beginning_unique h' hrest hrest' heq
    cases e' with
    | constant value' => cases hopens
    | grouping inner' => exact absurd (String.toList_inj.mp hword) h.binarySymbol.2
    | unary operator' operand' =>
      rw [behindWord_binary, behindWord_unary, List.cons.injEq] at hbehind
      obtain ⟨-, hsame⟩ := ihLeft h.left h'.operand (hblank _) (hclose _) hbehind.2
      exact absurd (List.cons.inj hsame).1 (by decide)
    | binary left' operator' right' =>
      rw [behindWord_binary, behindWord_binary, List.cons.injEq] at hbehind
      obtain ⟨hleft, hsame⟩ := ihLeft h.left h'.left (hblank _) (hblank _) hbehind.2
      obtain ⟨hright, hsame⟩ :=
        ihRight h.right h'.right (hclose _) (hclose _) (List.cons.inj hsame).2
      exact ⟨.binary (String.toList_inj.mp hword) hleft hright, (List.cons.inj hsame).2⟩

/-- A string can have the text of another constant. -/
example : (constant (.string "nil")).text = (constant .nil).text := rfl

end Expr

end ExprLang
