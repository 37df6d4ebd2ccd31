import ExprLang.Proofs.Evaluation.Supported
import ExprLang.Proofs.Parser.Acceptance

/-!
What a parser answers in a session. Every question leaves the parser with a suffix of the tokens it
had, and the trees of its answer are derived by tokens that stood in a row among them. So whatever
was asked before, and whether it failed or not, the operators of an answered tree are tokens of the
input, unchanged, in places where the grammar knows them; and all that can go wrong when the tree is
evaluated is the types of the operands.
-/
set_option autoImplicit false

namespace ExprLang

/-- The trees in an answer. -/
def Answer.trees : Answer → List Expr
  | .expression tree => tree.toList
  | .program statements => statements.map Statement.expression

/-- The error complains about the types of operands, at an operator among the tokens in front of the
first end of the input. -/
structure RuntimeError.OfOperands (error : RuntimeError) (tokens : List Token) : Prop where
  supported : error.fault ≠ .unsupported
  message_mem : error.message ∈ ["Operand must be a number.", "Operands must be numbers.",
    "Operands must be two numbers or two strings."]
  line_eq : ∃ operator ∈ Parser.significant tokens, operator.kind.IsOperator ∧
    error.line = operator.line

/-! ## Derived trees -/

namespace Derives

variable {words : List Token} {e : Expr}

theorem supported (h : Derives words e) : e.Supported := by
  induction h with
  | literal => trivial
  | truth => trivial
  | falsity => trivial
  | nil => trivial
  | grouping _ _ _ _ _ _ _ ih => exact ih
  | unary operator words operand hoperator _ ih => exact ⟨(isUnary_iff _).mpr hoperator, ih⟩
  | binary operator level before after left right hoperator _ _ ihLeft ihRight =>
    refine ⟨?_, ihLeft, ihRight⟩
    rw [(binaryLevel?_eq_some_iff _ _).mpr hoperator]
    exact Option.some_ne_none level

/-- The operators of a tree are among its tokens. -/
theorem operators_subset (h : Derives words e) : e.operators ⊆ words := by
  induction h with
  | literal => exact List.nil_subset _
  | truth => exact List.nil_subset _
  | falsity => exact List.nil_subset _
  | nil => exact List.nil_subset _
  | grouping left right words inner _ _ _ ih =>
    intro operator hin
    exact List.mem_append_left _ (List.mem_cons_of_mem _ (ih hin))
  | unary operator words operand _ _ ih =>
    intro other hin
    rcases List.mem_append.mp hin with hin | hlast
    · exact List.mem_cons_of_mem _ (ih hin)
    · rw [List.mem_singleton.mp hlast]
      exact List.mem_cons_self
  | binary operator level before after left right _ _ _ ihLeft ihRight =>
    intro other hin
    rcases List.mem_append.mp hin with hin | hlater
    · exact List.mem_append_left _ (ihLeft hin)
    rcases List.mem_append.mp hlater with hin | hlast
    · exact List.mem_append_right _ (List.mem_cons_of_mem _ (ihRight hin))
    · rw [List.mem_singleton.mp hlast]
      exact List.mem_append_right _ List.mem_cons_self

end Derives

/-- Tokens that stand in a row among these derive the tree. -/
def Expr.ReadIn (e : Expr) (tokens : List Token) : Prop :=
  ∃ words, words <:+: tokens ∧ Derives words e

namespace Expr.ReadIn

variable {e : Expr} {tokens : List Token}

theorem mono {more : List Token} (h : e.ReadIn tokens) (hinside : tokens <:+: more) :
    e.ReadIn more := by
  obtain ⟨words, hwords, hderives⟩ := h
  exact ⟨words, hwords.trans hinside, hderives⟩

theorem of_read {rest : List Token} (h : read tokens = (.ok e, rest)) : e.ReadIn tokens := by
  obtain ⟨words, hsplit, hderives, _⟩ := read_sound h
  exact ⟨words, ⟨[], rest, hsplit.symm⟩, hderives⟩

theorem failure (h : e.ReadIn (Parser.significant tokens)) {error : RuntimeError}
    (herror : e.evaluate = .error error) : error.OfOperands tokens := by
  obtain ⟨words, hwords, hderives⟩ := h
  obtain ⟨hoperator, hfault⟩ := hderives.supported.failure herror
  refine ⟨hfault, RuntimeError.message_of_fault hfault, error.operator, ?_, ?_, rfl⟩
  · exact hwords.subset (hderives.operators_subset hoperator)
  · exact hderives.supported.isOperator _ hoperator

end Expr.ReadIn

/-! ## Statements -/

namespace Statement

theorem afterSemicolon_suffix (tokens : List Token) : afterSemicolon tokens <:+ tokens := by
  induction tokens with
  | nil => exact List.suffix_refl _
  | cons token rest ih =>
    rw [afterSemicolon]
    split
    · exact List.suffix_cons _ _
    · exact ih.trans (List.suffix_cons _ _)

/-- A statement is read off the front, and what was read is gone. -/
theorem read_cases (tokens : List Token) :
    (read tokens).2 <:+ tokens ∧
      ∀ statement, (read tokens).1 = .ok statement → statement.expression.ReadIn tokens := by
  have hsuffix := Expr.read_suffix tokens
  rcases hexpr : Expr.read tokens with ⟨result, left⟩
  rw [hexpr] at hsuffix
  rcases read_of_expr hexpr with ⟨e, semicolon, rest, rfl, rfl, -, hread⟩ | ⟨expected, hread, -⟩
  · rw [hread]
    refine ⟨(List.suffix_cons semicolon rest).trans hsuffix, fun statement hok => ?_⟩
    cases hok
    exact .of_read hexpr
  · rw [hread]
    exact ⟨hsuffix, fun _ hok => by cases hok⟩

theorem resume_suffix (tokens : List Token) : resume (read tokens) <:+ tokens := by
  have hsuffix := (read_cases tokens).1
  rcases hread : read tokens with ⟨result, rest⟩
  rw [hread] at hsuffix
  cases result with
  | ok statement => exact hsuffix
  | error expected => exact (afterSemicolon_suffix rest).trans hsuffix

/-- Every statement of a program is read somewhere in its tokens. -/
theorem readIn_of_mem_readAll (last : Token) (tokens : List Token) :
    ∀ statement ∈ valuesOf (readAll last tokens), statement.expression.ReadIn tokens := by
  induction tokens using readAll.induct last with
  | case1 => simp [readAll, valuesOf]
  | case2 token rest _ ih =>
    have hrest : ∀ statement ∈ valuesOf (readAll last (resume (read (token :: rest)))),
        statement.expression.ReadIn (token :: rest) := fun statement hin =>
      (ih statement hin).mono (resume_suffix _).isInfix
    have hfirst := (read_cases (token :: rest)).2
    rw [readAll]
    rcases hread : read (token :: rest) with ⟨result, left⟩
    rw [hread] at hrest hfirst
    cases result with
    | ok statement =>
      intro other hin
      rcases List.mem_cons.mp hin with rfl | hlater
      · exact hfirst other rfl
      · exact hrest other hlater
    | error expected => exact hrest

end Statement

/-! ## Questions -/

namespace Parser

/-- One question: the answered trees are read in the tokens that were left, and no tokens are added. -/
theorem ask_reads (parser : Parser) (question : Question) :
    (∀ tree ∈ (parser.ask question).1.trees, tree.ReadIn parser.pending) ∧
      (parser.ask question).2.2.pending <:+ parser.pending := by
  cases question with
  | expression =>
    have hsuffix := Expr.read_suffix parser.pending
    rcases hread : Expr.read parser.pending with ⟨result, left⟩
    rw [hread] at hsuffix
    rcases ask_expression_cases hread with ⟨e, rfl, rfl, hask⟩ | ⟨expected, hask, -⟩
    · rw [hask]
      refine ⟨fun tree hin => ?_, hsuffix⟩
      rw [List.mem_singleton.mp hin]
      exact .of_read hread
    · rw [hask]
      exact ⟨by simp [Answer.trees], hsuffix⟩
  | program =>
    refine ⟨fun tree hin => ?_, List.nil_suffix⟩
    obtain ⟨statement, hstatement, rfl⟩ := List.mem_map.mp hin
    exact Statement.readIn_of_mem_readAll parser.last parser.pending statement hstatement

/-- Many questions: whatever came before, the answered trees are read in the tokens of the parser. -/
theorem askAll_reads (questions : List Question) :
    ∀ parser : Parser, ∀ answer ∈ (parser.askAll questions).1, ∀ tree ∈ answer.trees,
      tree.ReadIn parser.pending := by
  induction questions with
  | nil =>
    intro parser answer hin
    cases hin
  | cons question questions ih =>
    intro parser answer hin tree htree
    obtain ⟨hfirst, hsuffix⟩ := parser.ask_reads question
    rcases List.mem_cons.mp hin with rfl | hlater
    · exact hfirst tree htree
    · exact (ih _ answer hlater tree htree).mono hsuffix.isInfix

/-- Whatever a parser is asked, one question after the other, the trees of its answers fail only for
the types of operands when they are evaluated, at operators of the input; and so do statements made of
such trees when they are executed. -/
theorem askAll_fails_for_operands (tokens : List Token) (questions : List Question) :
    let answers := ((ofTokens tokens).askAll questions).1
    (∀ answer ∈ answers, ∀ tree ∈ answer.trees, ∀ error, tree.evaluate = .error error →
      error.OfOperands tokens) ∧
    ∀ (interpreter : Interpreter) (statements : List Statement),
      (∀ statement ∈ statements, ∃ answer ∈ answers, statement.expression ∈ answer.trees) →
      ∀ error, (interpreter.execute statements).1 = some error → error.OfOperands tokens := by
  intro answers
  have htrees : ∀ answer ∈ answers, ∀ tree ∈ answer.trees, ∀ error,
      tree.evaluate = .error error → error.OfOperands tokens := by
    intro answer hanswer tree htree error herror
    have hread : tree.ReadIn (significant tokens) :=
      askAll_reads questions (ofTokens tokens) answer hanswer tree htree
    exact hread.failure herror
  refine ⟨htrees, fun interpreter statements hstatements error herror => ?_⟩
  obtain ⟨statement, hin, hfails⟩ := Statement.exists_of_executeAll herror
  obtain ⟨answer, hanswer, htree⟩ := hstatements statement hin
  exact htrees answer hanswer _ htree error hfails

/-- An operator without operands, and the negative of a string behind its semicolon. -/
def negatedBehindBad : List Token :=
  [⟨.plus, "+", none, 1, 1⟩, ⟨.semicolon, ";", none, 1, 2⟩, ⟨.minus, "-", none, 2, 1⟩,
    ⟨.string, "\"a\"", some (.string "a"), 2, 2⟩, ⟨.semicolon, ";", none, 2, 5⟩]

/-- The program is asked for where a failed question left the parser, and its statement fails. -/
theorem negatedBehindBad_fails :
    ∃ statements error,
      ((ofTokens negatedBehindBad).askAll [.expression, .program]).1 =
        [.expression none, .program statements] ∧
      (Interpreter.new.execute statements).1 = some error ∧ error.OfOperands negatedBehindBad := by
  let statement : Statement := ⟨.unary ⟨.minus, "-", none, 2, 1⟩ (.constant (.string "a"))⟩
  have hanswers : ((ofTokens negatedBehindBad).askAll [.expression, .program]).1 =
      [.expression none, .program [statement]] := by decide +kernel
  have hfails : (Interpreter.new.execute [statement]).1 =
      some ⟨⟨.minus, "-", none, 2, 1⟩, .operandNotNumber⟩ := rfl
  refine ⟨[statement], _, hanswers, hfails, ?_⟩
  refine (askAll_fails_for_operands negatedBehindBad [.expression, .program]).2 .new [statement]
    ?_ _ hfails
  rw [hanswers]
  intro other hin
  exact ⟨_, List.mem_cons_of_mem _ List.mem_cons_self, List.mem_map_of_mem hin⟩

end Parser

end ExprLang
