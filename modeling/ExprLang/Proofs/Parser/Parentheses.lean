import ExprLang.Proofs.Evaluation.Supported
import ExprLang.Proofs.Parser.Acceptance

/-!
Parentheses. They carry the structure of an expression and nothing of its meaning: a tree evaluates
as the tree without its parentheses does, and any tree of supported operators can be written so that
it is read again, whatever its operators bind, by putting parentheses around everything but the
constants. Behind each open parenthesis every level of the grammar is entered anew, so precedence has
nothing to say about what stands inside.
-/
set_option autoImplicit false

namespace ExprLang

/-- The tree without the parentheses of the program. -/
def Expr.withoutGroups : Expr → Expr
  | .constant value => .constant value
  | .grouping inner => inner.withoutGroups
  | .unary operator operand => .unary operator operand.withoutGroups
  | .binary left operator right => .binary left.withoutGroups operator right.withoutGroups

/-- The tree with parentheses around every operator. -/
def Expr.withGroups : Expr → Expr
  | .constant value => .constant value
  | .grouping inner => .grouping inner.withGroups
  | .unary operator operand => .grouping (.unary operator operand.withGroups)
  | .binary left operator right => .grouping (.binary left.withGroups operator right.withGroups)

/-- The tokens write the tree with parentheses around everything but the constants. -/
inductive WrittenInFull : List Token → Expr → Prop
  | constant (token : Token) (value : Value) (hvalue : token.constant? = some value) :
      WrittenInFull [token] (.constant value)
  | grouping (left right : Token) (words : List Token) (inner : Expr)
      (hleft : left.kind = .leftParen) (hright : right.kind = .rightParen)
      (hinner : WrittenInFull words inner) :
      WrittenInFull (left :: words ++ [right]) (.grouping inner)
  | unary (left right operator : Token) (words : List Token) (operand : Expr)
      (hleft : left.kind = .leftParen) (hright : right.kind = .rightParen)
      (hoperand : WrittenInFull words operand) :
      WrittenInFull (left :: (operator :: words) ++ [right]) (.unary operator operand)
  | binary (left right operator : Token) (before after : List Token) (first second : Expr)
      (hleft : left.kind = .leftParen) (hright : right.kind = .rightParen)
      (hfirst : WrittenInFull before first) (hsecond : WrittenInFull after second) :
      WrittenInFull (left :: (before ++ operator :: after) ++ [right]) (.binary first operator second)

/-! ## Writing a tree -/

/-- The token of a constant, at the start of a text. -/
def Value.token : Value → Token
  | .number value => ⟨.number, Number.result value, some (.number value), 1, 1⟩
  | .string text => ⟨.string, "\"" ++ text ++ "\"", some (.string text), 1, 1⟩
  | .boolean true => ⟨.trueKeyword, "true", none, 1, 1⟩
  | .boolean false => ⟨.falseKeyword, "false", none, 1, 1⟩
  | .nil => ⟨.nilKeyword, "nil", none, 1, 1⟩

/-- Some tokens between parentheses. -/
def enclosed (words : List Token) : List Token :=
  ⟨.leftParen, "(", none, 1, 1⟩ :: words ++ [⟨.rightParen, ")", none, 1, 1⟩]

/-- The tokens of a tree with parentheses around everything but the constants. -/
def Expr.tokensInFull : Expr → List Token
  | .constant value => [value.token]
  | .grouping inner => enclosed inner.tokensInFull
  | .unary operator operand => enclosed (operator :: operand.tokensInFull)
  | .binary left operator right => enclosed (left.tokensInFull ++ operator :: right.tokensInFull)

theorem Value.constant?_token (value : Value) : value.token.constant? = some value := by
  cases value with
  | boolean value => cases value <;> rfl
  | _ => rfl

theorem Expr.writtenInFull (e : Expr) : WrittenInFull e.tokensInFull e := by
  induction e with
  | constant value => exact .constant _ value value.constant?_token
  | grouping inner ih => exact .grouping _ _ _ inner rfl rfl ih
  | unary operator operand ih => exact .unary _ _ operator _ operand rfl rfl ih
  | binary left operator right ihLeft ihRight =>
    exact .binary _ _ operator _ _ left right rfl rfl ihLeft ihRight

/-! ## Reading it again -/

theorem WrittenInFull.derives {words : List Token} {e : Expr} (h : WrittenInFull words e)
    (hsupported : e.Supported) : Derives words e.withGroups := by
  induction h with
  | constant token value hvalue => exact Token.derives_constant hvalue
  | grouping left right words inner hleft hright _ ih =>
    exact .grouping left right words _ hleft hright (ih hsupported)
  | unary left right operator words operand hleft hright _ ih =>
    have hoperator := (isUnary_iff _).mp hsupported.1
    exact .grouping left right _ _ hleft hright (.unary operator words _ hoperator (ih hsupported.2))
  | binary left right operator before after first second hleft hright _ _ ihFirst ihSecond =>
    obtain ⟨level, hlevel⟩ := Option.ne_none_iff_exists'.mp hsupported.1
    have hoperator := (binaryLevel?_eq_some_iff _ _).mp hlevel
    exact .grouping left right _ _ hleft hright (.binary operator level before after _ _ hoperator
      (ihFirst hsupported.2.1) (ihSecond hsupported.2.2))

namespace Expr

/-- Between its parentheses every tree respects precedence, whatever it is. -/
theorem formedAt_withGroups (e : Expr) (h : e.Supported) : FormedAt .primary e.withGroups := by
  induction e with
  | constant value => exact .constant value
  | grouping inner ih => exact .grouping .primary _ (ih h)
  | unary operator operand ih =>
    exact .grouping .unary _ (.unary .primary operator _ (ih h.2) (by decide))
  | binary left operator right ihLeft ihRight =>
    obtain ⟨level, hlevel⟩ := Option.ne_none_iff_exists'.mp h.1
    have hoperator := (binaryLevel?_eq_some_iff _ _).mp hlevel
    have hloose : level.rank < Level.primary.rank :=
      Nat.lt_trans (rank_lt_unary hoperator) (by decide)
    exact .grouping level _ (.binary level .primary .primary operator _ _ hoperator (ihLeft h.2.1)
      (Nat.le_of_lt hloose) (ihRight h.2.2) hloose)

theorem withoutGroups_withGroups (e : Expr) : e.withGroups.withoutGroups = e.withoutGroups := by
  induction e with
  | constant value => rfl
  | grouping inner ih => exact ih
  | unary operator operand ih => exact congrArg (Expr.unary operator) ih
  | binary left operator right ihLeft ihRight =>
    rw [withGroups, withoutGroups, withoutGroups, withoutGroups, ihLeft, ihRight]

/-- Parentheses have no meaning: the value is the same without them, and so is the failure. -/
theorem evaluate_withoutGroups (e : Expr) : e.withoutGroups.evaluate = e.evaluate := by
  induction e with
  | constant value => rfl
  | grouping inner ih => exact ih
  | unary operator operand ih => rw [withoutGroups, evaluate, evaluate, ih]
  | binary left operator right ihLeft ihRight =>
    rw [withoutGroups, evaluate, evaluate, ihLeft, ihRight]

end Expr

namespace Parser

/-- Any tree of supported operators can be written with parentheses around everything but the
constants, and however it is so written, a new parser reads it without an error, as the same tree up
to parentheses, with the same value or the same failure. -/
theorem ask_writtenInFull (e : Expr) (h : e.Supported) :
    (∃ words, WrittenInFull words e) ∧
    ∀ words, WrittenInFull words e → ∃ tree,
      ((ofTokens words).ask .expression).1 = .expression (some tree) ∧
      ((ofTokens words).ask .expression).2.1 = [] ∧
      tree.withoutGroups = e.withoutGroups ∧ tree.evaluate = e.evaluate := by
  refine ⟨⟨_, e.writtenInFull⟩, fun words hwords => ?_⟩
  have hderives := hwords.derives h
  have hparse : (ofTokens words).parse.1 = .ok e.withGroups := by
    rw [parse_eq_ok_iff, significant_of_derives hderives]
    exact ⟨hderives, .primary, e.formedAt_withGroups h⟩
  have hask := ask_expression (ofTokens words)
  rw [hparse] at hask
  refine ⟨e.withGroups, hask.1, hask.2, e.withoutGroups_withGroups, ?_⟩
  rw [← e.withGroups.evaluate_withoutGroups, e.withoutGroups_withGroups, e.evaluate_withoutGroups]

/-- The negative of a comparison, as a factor of a text: no text without parentheses has this tree. -/
def looseFactors : Expr :=
  .binary
    (.unary ⟨.minus, "-", none, 1, 1⟩
      (.binary (.constant .nil) ⟨.less, "<", none, 2, 3⟩ (.constant (.boolean true))))
    ⟨.star, "*", none, 3, 5⟩ (.constant (.string "a"))

/-- The comparison fails first, and it does so in the tree that was read as well. -/
theorem looseFactors_writtenInFull :
    looseFactors.Supported ∧ WrittenInFull looseFactors.tokensInFull looseFactors ∧ ∃ tree,
      ((ofTokens looseFactors.tokensInFull).ask .expression).1 = .expression (some tree) ∧
      ((ofTokens looseFactors.tokensInFull).ask .expression).2.1 = [] ∧
      tree.withoutGroups = looseFactors ∧
      tree.evaluate = .error ⟨⟨.less, "<", none, 2, 3⟩, .operandsNotNumbers⟩ := by
  have hsupported : looseFactors.Supported :=
    ⟨by decide, ⟨by decide, by decide, trivial, trivial⟩, trivial⟩
  have hwords := looseFactors.writtenInFull
  obtain ⟨tree, htree, herrors, hsame, hvalue⟩ :=
    (ask_writtenInFull looseFactors hsupported).2 _ hwords
  exact ⟨hsupported, hwords, tree, htree, herrors, hsame, hvalue⟩

end Parser

end ExprLang
