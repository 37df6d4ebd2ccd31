import ExprLang.Expr.Basic
import ExprLang.Parser.Level

/-!
Reading an expression off the front of a token list. What has been read and still waits for an
operand is kept on a stack of frames: an operator in front of an operand, a left operand with its
operator, an open parenthesis. Behind a complete operand, an operator first completes every frame
that binds at least as tightly as itself, which makes equal operators associate to the left; a
closing parenthesis completes everything up to the open one; any other token ends the expression.
Reading stops in front of the first token that cannot go on, and what was expected there is the
error, so an error is always located at the first token of the rest.
-/
set_option autoImplicit false

namespace ExprLang

/-- What was expected where reading stopped. -/
inductive Expectation
  | expression
  | closingParen
  | semicolon
  | endOfExpression
deriving DecidableEq, Repr

/-- Something that waits for an operand. -/
inductive Frame
  | unary (operator : Token)
  | binary (left : Expr) (operator : Token) (level : Level)
  | group
deriving DecidableEq, Repr

namespace Frame

/-- Completes the frames that bind at least as tightly as a level, from the innermost one on, and
gives the frames that are left with the operand that has grown. -/
def unwind (level : Level) : List Frame → Expr → List Frame × Expr
  | .unary operator :: frames, operand => unwind level frames (.unary operator operand)
  | .binary left operator own :: frames, right =>
    if level ≤ own then unwind level frames (.binary left operator right)
    else (.binary left operator own :: frames, right)
  | frames, operand => (frames, operand)

/-- Completes all frames up to the innermost open parenthesis, and gives the frames outside it if
there is one. -/
def close : List Frame → Expr → Expr × Option (List Frame)
  | .unary operator :: frames, operand => close frames (.unary operator operand)
  | .binary left operator _ :: frames, right => close frames (.binary left operator right)
  | .group :: frames, operand => (operand, some frames)
  | [], operand => (operand, none)

end Frame

/-- The constant that a token stands for. A number or a string does so by the literal it carries. -/
def Token.constant? (token : Token) : Option Value :=
  match token.kind with
  | .number | .string => token.literal.map Literal.toValue
  | .trueKeyword => some (.boolean true)
  | .falseKeyword => some (.boolean false)
  | .nilKeyword => some .nil
  | _ => none

namespace Expr

/-- Reads on with some frames waiting, and with an operand in hand or none. -/
def readFrom : List Frame → Option Expr → List Token → Except Expectation Expr × List Token
  | _, none, [] => (.error .expression, [])
  | frames, none, token :: rest =>
    if token.kind.isUnary then readFrom (.unary token :: frames) none rest
    else if token.kind = .leftParen then readFrom (.group :: frames) none rest
    else
      match token.constant? with
      | some value => readFrom frames (some (.constant value)) rest
      | none => (.error .expression, token :: rest)
  | frames, some operand, [] =>
    match Frame.close frames operand with
    | (whole, none) => (.ok whole, [])
    | (_, some _) => (.error .closingParen, [])
  | frames, some operand, token :: rest =>
    match token.kind.binaryLevel? with
    | some level =>
      let (outer, left) := Frame.unwind level frames operand
      readFrom (.binary left token level :: outer) none rest
    | none =>
      match Frame.close frames operand with
      | (whole, none) => (.ok whole, token :: rest)
      | (inner, some outer) =>
        if token.kind = .rightParen then readFrom outer (some (.grouping inner)) rest
        else (.error .closingParen, token :: rest)

/-- The expression at the front of a token list, or what was expected, and the rest of the list. -/
def read (tokens : List Token) : Except Expectation Expr × List Token :=
  readFrom [] none tokens

theorem readFrom_suffix (tokens : List Token) :
    ∀ (frames : List Frame) (operand : Option Expr),
      (readFrom frames operand tokens).2 <:+ tokens := by
  induction tokens with
  | nil =>
    intro frames operand
    cases operand with
    | none => exact List.suffix_refl _
    | some operand =>
      rw [readFrom]
      split <;> exact List.suffix_refl _
  | cons token rest ih =>
    intro frames operand
    have step : ∀ frames operand, (readFrom frames operand rest).2 <:+ token :: rest :=
      fun frames operand => (ih frames operand).trans (List.suffix_cons _ _)
    cases operand with
    | none =>
      rw [readFrom]
      split
      · exact step _ _
      · split
        · exact step _ _
        · split
          · exact step _ _
          · exact List.suffix_refl _
    | some operand =>
      rw [readFrom]
      split
      · exact step _ _
      · split
        · exact List.suffix_refl _
        · split
          · exact step _ _
          · exact List.suffix_refl _

/-- Reading takes tokens off the front and keeps the rest. -/
theorem read_suffix (tokens : List Token) : (read tokens).2 <:+ tokens :=
  readFrom_suffix tokens [] none

end Expr

end ExprLang
