import ExprLang.Parser.Basic
import ExprLang.Results

/-!
Several questions to one parser. A parser keeps its position from one question to the next, also
where the answer was an error, so later answers depend on earlier ones; the errors of all answers
are collected in the order in which they arose.
-/
set_option autoImplicit false

namespace ExprLang

/-- What a parser can be asked for. -/
inductive Question
  | expression
  | program
deriving DecidableEq, Repr

/-- What a parser finds. -/
inductive Answer
  | expression (tree : Option Expr)
  | program (statements : List Statement)
deriving DecidableEq, Repr

namespace Parser

/-- The answer to one question, with its errors, and the parser behind it. -/
def ask (parser : Parser) : Question → Answer × List SyntaxError × Parser
  | .expression =>
    match parser.parse with
    | (.ok tree, parser) => (.expression (some tree), [], parser)
    | (.error error, parser) => (.expression none, [error], parser)
  | .program =>
    let (items, parser) := parser.program
    (.program (valuesOf items), errorsOf items, parser)

/-- An expression that takes all the tokens is answered without an error; else there is no tree, and
one error in front of what is left. -/
theorem ask_expression_cases {parser : Parser} {result : Except Expectation Expr}
    {left : List Token} (h : Expr.read parser.pending = (result, left)) :
    (∃ e, result = .ok e ∧ left = [] ∧
      parser.ask .expression = (.expression (some e), [], ⟨left, parser.last⟩)) ∨
    ∃ expected, parser.ask .expression =
        (.expression none, [⟨left.headD parser.last, expected⟩], ⟨left, parser.last⟩) ∧
      (result = .error expected ∨
        expected = .endOfExpression ∧ (∃ e, result = .ok e) ∧ left ≠ []) := by
  rw [ask, parse, h]
  cases result with
  | error expected => exact Or.inr ⟨expected, rfl, Or.inl rfl⟩
  | ok e =>
    cases left with
    | nil => exact Or.inl ⟨e, rfl, rfl, rfl⟩
    | cons token rest =>
      exact Or.inr ⟨.endOfExpression, rfl, Or.inr ⟨rfl, ⟨e, rfl⟩, List.cons_ne_nil token rest⟩⟩

/-- The answers to some questions in a row, with all their errors, and the parser behind them. -/
def askAll : Parser → List Question → List Answer × List SyntaxError × Parser
  | parser, [] => ([], [], parser)
  | parser, question :: rest =>
    let (answer, errors, parser) := parser.ask question
    let (answers, later, parser) := parser.askAll rest
    (answer :: answers, errors ++ later, parser)

end Parser

end ExprLang
