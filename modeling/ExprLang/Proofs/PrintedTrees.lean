import ExprLang.Proofs.Parser.Sessions
import ExprLang.Proofs.PrintedValues
import ExprLang.Proofs.UniqueReading
import ExprLang.Text.IdentifierTables

/-!
Programs that are printed alike. In a text without strings every constant can be told from its text,
and every operator is spelled as its kind is, in one word; so programs that are parsed to the same
line have trees that differ in the places of their operators only. The kinds of the operators decide
the value, and whether there is one, so these programs are evaluated alike.
-/
set_option autoImplicit false

namespace ExprLang

/-! ## Operators of one kind -/

theorem toOption_bind {ε α β : Type} (x : Except ε α) (f : α → Except ε β) :
    (x.bind f).toOption = x.toOption.bind fun a => (f a).toOption := by
  cases x <;> rfl

namespace Token

variable {operator operator' : Token}

theorem toOption_onNumbers (left right : Value) (result : Float → Float → Value) :
    (operator.onNumbers left right result).toOption =
      (operator'.onNumbers left right result).toOption := by
  cases left <;> cases right <;> rfl

theorem toOption_sum (left right : Value) :
    (operator.sum left right).toOption = (operator'.sum left right).toOption := by
  cases left <;> cases right <;> rfl

theorem toOption_applyUnary (h : operator.kind = operator'.kind) (operand : Value) :
    (operator.applyUnary operand).toOption = (operator'.applyUnary operand).toOption := by
  unfold applyUnary
  rw [h]
  cases operator'.kind <;> cases operand <;> rfl

theorem toOption_applyBinary (h : operator.kind = operator'.kind) (left right : Value) :
    (operator.applyBinary left right).toOption = (operator'.applyBinary left right).toOption := by
  unfold applyBinary
  rw [h]
  cases operator'.kind
  case plus => exact toOption_sum left right
  case minus | star | slash | greater | greaterEqual | less | lessEqual =>
    apply toOption_onNumbers
  all_goals rfl

end Token

namespace Expr.SameUpTo

variable {α β : Type} {seen : Token → α} {e e' : Expr}

/-- Trees whose operators have the same kinds have the same value, or none. -/
theorem toOption_evaluate (h : SameUpTo Token.kind e e') :
    e.evaluate.toOption = e'.evaluate.toOption := by
  induction h with
  | constant value => rfl
  | grouping _ ih => exact ih
  | unary hoperator _ ih =>
    simp only [evaluate, toOption_bind, ih, Token.toOption_applyUnary hoperator]
  | binary hoperator _ _ ihLeft ihRight =>
    simp only [evaluate, toOption_bind, ihLeft, ihRight, Token.toOption_applyBinary hoperator]

theorem imp {seen' : Token → β} (h : SameUpTo seen e e')
    (himp : ∀ operator ∈ e.operators, ∀ operator' ∈ e'.operators,
      seen operator = seen operator' → seen' operator = seen' operator') :
    SameUpTo seen' e e' := by
  induction h with
  | constant value => exact .constant value
  | grouping _ ih => exact .grouping (ih himp)
  | unary hoperator _ ih =>
    refine .unary (himp _ (by simp [operators]) _ (by simp [operators]) hoperator) ?_
    exact ih fun operator hin operator' hin' =>
      himp operator (List.mem_append_left _ hin) operator' (List.mem_append_left _ hin')
  | binary hoperator _ _ ihLeft ihRight =>
    refine .binary (himp _ (by simp [operators]) _ (by simp [operators]) hoperator) ?_ ?_
    · exact ihLeft fun operator hin operator' hin' =>
        himp operator (List.mem_append_left _ hin) operator' (List.mem_append_left _ hin')
    · exact ihRight fun operator hin operator' hin' =>
        himp operator (List.mem_append_right _ (List.mem_append_left _ hin)) operator'
          (List.mem_append_right _ (List.mem_append_left _ hin'))

end Expr.SameUpTo

/-! ## Programs -/

/-- The token is spelled as its kind is, if this has one spelling, and is no string and no NaN. -/
structure Token.Regular (token : Token) : Prop where
  lexeme_eq : ∀ lexeme, token.kind.fixedLexeme? = some lexeme → token.lexeme = lexeme
  legible : ∀ literal, token.literal = some literal → literal.toValue.IsLegible

/-- The text scans without errors, and has no strings. -/
structure Scan.Stringless (scan : Scan) : Prop where
  errors_eq : scan.errors = []
  kind_ne : ∀ token ∈ scan.tokens, token.kind ≠ .string

/-- Different kinds are spelled differently. -/
theorem Kind.eq_of_fixedLexeme? {kind other : Kind} {lexeme : String}
    (h : kind.fixedLexeme? = some lexeme) (h' : other.fixedLexeme? = some lexeme) :
    kind = other := by
  have hdistinct : (Catalog.standard.map CatalogEntry.lexeme).Nodup := by decide +kernel
  have hmem : ⟨lexeme, kind⟩ ∈ Catalog.standard := Catalog.mem_standard_iff.mpr h
  have hmem' : ⟨lexeme, other⟩ ∈ Catalog.standard := Catalog.mem_standard_iff.mpr h'
  exact congrArg CatalogEntry.kind (List.inj_on_of_nodup_map hdistinct hmem hmem' rfl)

/-- Operators are spelled in one way, as one word. -/
theorem Kind.IsOperator.exists_symbol {kind : Kind} (h : kind.IsOperator) :
    ∃ lexeme, kind.fixedLexeme? = some lexeme ∧ IsSymbol lexeme := by
  cases kind <;> first
    | exact absurd h (by decide)
    | exact ⟨_, rfl, by decide +kernel⟩

namespace Derives

variable {words : List Token} {e : Expr}

theorem legible_constants (h : Derives words e) (hwords : ∀ token ∈ words, token.Regular) :
    ∀ value ∈ e.constants, value.IsLegible := by
  induction h with
  | literal token value hkind hvalue =>
    rintro _ (_ | ⟨_, ⟨⟩⟩)
    exact (hwords token List.mem_cons_self).legible value hvalue
  | truth => simp [Expr.constants, Value.IsLegible]
  | falsity => simp [Expr.constants, Value.IsLegible]
  | nil => simp [Expr.constants, Value.IsLegible]
  | grouping left right words inner hleft hright hinner ih =>
    exact ih fun token htoken =>
      hwords token (List.mem_append_left _ (List.mem_cons_of_mem _ htoken))
  | unary operator words operand hoperator hoperand ih =>
    exact ih fun token htoken => hwords token (List.mem_cons_of_mem _ htoken)
  | binary operator level before after left right hoperator hleft hright ihLeft ihRight =>
    intro value hvalue
    rcases List.mem_append.mp hvalue with hin | hin
    · exact ihLeft (fun token htoken => hwords token (List.mem_append_left _ htoken)) value hin
    · exact ihRight (fun token htoken => hwords token
        (List.mem_append_right _ (List.mem_cons_of_mem _ htoken))) value hin

/-- An operator of a tree is spelled as its kind is. -/
theorem spelling (h : Derives words e) (hwords : ∀ token ∈ words, token.Regular) :
    ∀ operator ∈ e.operators,
      operator.kind.fixedLexeme? = some operator.lexeme ∧ IsSymbol operator.lexeme := by
  intro operator hoperator
  obtain ⟨lexeme, hlexeme, hsymbol⟩ := (h.supported.isOperator operator hoperator).exists_symbol
  have hspelled := (hwords operator (h.operators_subset hoperator)).lexeme_eq lexeme hlexeme
  rw [hspelled]
  exact ⟨hlexeme, hsymbol⟩

theorem legible (h : Derives words e) (hwords : ∀ token ∈ words, token.Regular) : e.Legible :=
  ⟨h.legible_constants hwords, fun operator hoperator => (h.spelling hwords operator hoperator).2⟩

end Derives

namespace Scan

variable {scan : Scan} {e : Expr} {line : String}

theorem exists_tree_of_parse (h : scan.parse.stdout = [line]) :
    ∃ e, (Parser.ofTokens scan.tokens).parse.1 = .ok e ∧ e.text = line := by
  rw [parse] at h
  cases hparse : (Parser.ofTokens scan.tokens).parse.1 with
  | error error => simp [hparse] at h
  | ok e =>
    simp only [hparse, List.cons.injEq, and_true] at h
    exact ⟨e, rfl, h⟩

/-- What evaluating a tree prints, and its exit code, depend on its value, if it has one. -/
theorem evaluate_of_parse (hparse : (Parser.ofTokens scan.tokens).parse.1 = .ok e)
    (herrors : scan.errors = []) :
    scan.evaluate.stdout = (e.evaluate.toOption.map Value.resultText).toList ∧
      scan.evaluate.exitCode = if e.evaluate.toOption.isSome then 0 else 70 := by
  simp only [evaluate, hparse, if_pos (report_eq_nil_iff.mpr herrors)]
  cases e.evaluate with
  | ok value => exact ⟨rfl, rfl⟩
  | error error => exact ⟨rfl, rfl⟩

end Scan

section

variable [IdentifierClasses]

/-! ## Texts -/

theorem regular_of_tokenForm {stream : List Char} {token : Token}
    (h : TokenForm stream token.kind token.lexeme.toList token.literal)
    (hkind : token.kind ≠ .string) : token.Regular := by
  refine ⟨fun lexeme hlexeme => String.toList_inj.mp (h.lexeme_eq hlexeme), ?_⟩
  intro literal hliteral
  obtain ⟨kind, lexeme, carried, line, column⟩ := token
  dsimp only at h hkind hliteral
  generalize lexeme.toList = chars at h
  cases h with
  | number =>
    cases hliteral
    exact Binary64.isNaN_ofMagnitude (Nat.min_le_right _ _)
  | string => exact absurd rfl hkind
  | fixed => cases hliteral
  | word => cases hliteral

theorem Scan.Stringless.regular {text : String} (h : (scan text).Stringless) :
    ∀ token ∈ (scan text).tokens.dropLast, token.Regular := by
  intro token htoken
  obtain ⟨_, hnext⟩ := exists_next?_of_mem htoken
  exact regular_of_tokenForm (tokenForm_of_solid (solid_of_next? hnext (by simp) (by simp)).2)
    (h.kind_ne token (List.mem_of_mem_dropLast htoken))

theorem derives_of_parse {text : String} {e : Expr}
    (h : (Parser.ofTokens (scan text).tokens).parse.1 = .ok e) :
    Derives (scan text).tokens.dropLast e := by
  rw [← significant_scan]
  exact ((Parser.parse_eq_ok_iff _ _).mp h).1

/-- Printed trees are unambiguous: expressions without strings and NaN, whose operators are single
words, have the same shape, the same constants and the same spellings of their operators if their
texts are equal. So texts without lexical errors and strings that are parsed to the same line are
evaluated to the same output, with the same exit code. -/
theorem text_tells_tree :
    (∀ e e' : Expr, e.Legible → e'.Legible → e.text = e'.text → e.SameUpTo Token.lexeme e') ∧
    ∀ source source' line : String, (scan source).Stringless → (scan source').Stringless →
      (execute Automaton.standard .parse source).stdout = [line] →
      (execute Automaton.standard .parse source').stdout = [line] →
      (execute Automaton.standard .evaluate source).stdout =
          (execute Automaton.standard .evaluate source').stdout ∧
        (execute Automaton.standard .evaluate source).exitCode =
          (execute Automaton.standard .evaluate source').exitCode := by
  have htells : ∀ e e' : Expr, e.Legible → e'.Legible → e.text = e'.text →
      e.SameUpTo Token.lexeme e' := by
    intro e e' hlegible hlegible' htext
    have hnone : AtWordEnd [] := by rintro _ ⟨⟩
    exact (hlegible.unique hlegible' hnone hnone (by rw [htext])).1
  refine ⟨htells, ?_⟩
  intro source source' line hplain hplain' hprints hprints'
  obtain ⟨e, hparse, htext⟩ := Scan.exists_tree_of_parse hprints
  obtain ⟨e', hparse', htext'⟩ := Scan.exists_tree_of_parse hprints'
  have hderives := derives_of_parse hparse
  have hderives' := derives_of_parse hparse'
  have hsame := htells e e' (hderives.legible hplain.regular) (hderives'.legible hplain'.regular)
    (htext.trans htext'.symm)
  have hkinds : e.SameUpTo Token.kind e' := by
    refine hsame.imp fun operator hoperator operator' hoperator' hlexeme => ?_
    obtain ⟨hspelling, -⟩ := hderives.spelling hplain.regular operator hoperator
    obtain ⟨hspelling', -⟩ := hderives'.spelling hplain'.regular operator' hoperator'
    rw [← hlexeme] at hspelling'
    exact Kind.eq_of_fixedLexeme? hspelling hspelling'
  obtain ⟨hstdout, hexit⟩ := Scan.evaluate_of_parse hparse hplain.errors_eq
  obtain ⟨hstdout', hexit'⟩ := Scan.evaluate_of_parse hparse' hplain'.errors_eq
  rw [← hkinds.toOption_evaluate] at hstdout' hexit'
  exact ⟨hstdout.trans hstdout'.symm, hexit.trans hexit'.symm⟩

end

/-- A minus sign in front of an operand and one between two operands, on lines that differ. -/
theorem negatedLessGroup_told :
    let tree (line : Nat) : Expr := .binary (.unary ⟨.minus, "-", none, line, 1⟩ (.constant .nil))
      ⟨.minus, "-", none, line, 4⟩ (.grouping (.constant (.boolean true)))
    ((tree 1).Legible ∧ (tree 2).Legible ∧ (tree 1).text = (tree 2).text ∧
      (tree 1).SameUpTo Token.lexeme (tree 2)) ∧
    (scan "-1 - (2)").Stringless ∧ (scan "\n-1 -\n(2)").Stringless ∧
    (execute Automaton.standard .parse "-1 - (2)").stdout = ["(- (- 1.0) (group 2.0))"] ∧
    (execute Automaton.standard .parse "\n-1 -\n(2)").stdout = ["(- (- 1.0) (group 2.0))"] ∧
    (execute Automaton.standard .evaluate "-1 - (2)").stdout =
      (execute Automaton.standard .evaluate "\n-1 -\n(2)").stdout := by
  intro tree
  have hlegible : ∀ line, (tree line).Legible := by
    intro line
    have hminus : IsSymbol "-" := by decide +kernel
    refine ⟨?_, ?_⟩
    · simp [tree, Expr.constants, Value.IsLegible]
    · simp [tree, Expr.operators, hminus]
  have hplain : (scan "-1 - (2)").Stringless := ⟨by decide +kernel, by decide +kernel⟩
  have hplain' : (scan "\n-1 -\n(2)").Stringless := ⟨by decide +kernel, by decide +kernel⟩
  have hprints : (execute Automaton.standard .parse "-1 - (2)").stdout =
      ["(- (- 1.0) (group 2.0))"] := by
    decide +kernel
  have hprints' : (execute Automaton.standard .parse "\n-1 -\n(2)").stdout =
      ["(- (- 1.0) (group 2.0))"] := by
    decide +kernel
  exact ⟨⟨hlegible 1, hlegible 2, rfl, text_tells_tree.1 _ _ (hlegible 1) (hlegible 2) rfl⟩,
    hplain, hplain', hprints, hprints',
    (text_tells_tree.2 _ _ _ hplain hplain' hprints hprints').1⟩

end ExprLang
