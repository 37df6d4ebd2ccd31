import ExprLang.Value

/-!
Expressions and statements. Operators are kept as the tokens they come from, so that a failure can
name its line. An expression can also be written as the list of its nodes in the order in which they
are evaluated, operands before operators; reading such a list back on a stack gives the expression.
-/
set_option autoImplicit false

namespace ExprLang

/-- An expression. -/
inductive Expr
  | constant (value : Value)
  | grouping (inner : Expr)
  | unary (operator : Token) (operand : Expr)
  | binary (left : Expr) (operator : Token) (right : Expr)
deriving DecidableEq, Repr

/-- A statement: an expression that is evaluated for its effect. -/
structure Statement where
  expression : Expr
deriving DecidableEq, Repr

/-- A node of an expression without its operands. -/
inductive Node
  | constant (value : Value)
  | grouping
  | unary (operator : Token)
  | binary (operator : Token)
deriving DecidableEq, Repr

/-! ## Post-order -/

/-- The nodes of an expression in post-order, in front of some others. -/
def Expr.nodesOnto : Expr → List Node → List Node
  | .constant value, rest => .constant value :: rest
  | .grouping inner, rest => inner.nodesOnto (.grouping :: rest)
  | .unary operator operand, rest => operand.nodesOnto (.unary operator :: rest)
  | .binary left operator right, rest => left.nodesOnto (right.nodesOnto (.binary operator :: rest))

/-- The nodes of an expression in post-order. -/
def Expr.nodes (e : Expr) : List Node := e.nodesOnto []

/-- Puts a node on a stack of expressions: it takes its operands off, the right one first. -/
def Node.build : List Expr → Node → Option (List Expr)
  | stack, .constant value => some (.constant value :: stack)
  | inner :: stack, .grouping => some (.grouping inner :: stack)
  | operand :: stack, .unary operator => some (.unary operator operand :: stack)
  | right :: left :: stack, .binary operator => some (.binary left operator right :: stack)
  | _, _ => none

/-- The expression that has these nodes in post-order. -/
def Expr.ofNodes? (nodes : List Node) : Option Expr :=
  match nodes.foldlM Node.build [] with
  | some [e] => some e
  | _ => none

theorem Expr.foldlM_build_nodesOnto (e : Expr) :
    ∀ (stack : List Expr) (rest : List Node),
      (e.nodesOnto rest).foldlM Node.build stack = rest.foldlM Node.build (e :: stack) := by
  induction e with
  | constant value => intro stack rest; rfl
  | grouping inner ih => intro stack rest; rw [nodesOnto, ih]; rfl
  | unary operator operand ih => intro stack rest; rw [nodesOnto, ih]; rfl
  | binary left operator right ihLeft ihRight =>
    intro stack rest
    rw [nodesOnto, ihLeft, ihRight]
    rfl

/-- Reading the nodes of an expression gives the expression back. -/
theorem Expr.ofNodes?_nodes (e : Expr) : Expr.ofNodes? e.nodes = some e := by
  rw [Expr.ofNodes?, Expr.nodes, foldlM_build_nodesOnto]
  rfl

end ExprLang
