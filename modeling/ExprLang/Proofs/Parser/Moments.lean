import ExprLang.Parser.Session
import ExprLang.Proofs.Parser.Stopping
import Mathlib.Logic.Relation

/-!
A parser at work, token by token. At every moment a parser stands at a place of its token list, all
tokens behind the first end of the input included, and is busy with one task: it reads an expression,
it stands between two statements, it skips what is left of a faulty one, or it has answered. What
happens next depends on the task and on the one token at its place, which is looked up in the list.
No task takes an end-of-input token. So a parser that stands in front of the first one, or at it,
never gets beyond it; and from one statement to the next it always gets on.
-/
set_option autoImplicit false

namespace ExprLang.Parser

/-- What an expression is read for: as an answer, or as a statement behind the ones read before. -/
inductive Purpose
  | answer
  | statement (items : List (Except SyntaxError Statement))

/-- What a parser is doing; the items are the statements and the errors found so far. -/
inductive Task
  | reading (purpose : Purpose) (frames : List Frame) (operand : Option Expr)
  | between (items : List (Except SyntaxError Statement))
  | skipping (items : List (Except SyntaxError Statement))
  | answered (answer : Answer) (errors : List SyntaxError)

/-- A parser at a place of its tokens, with its task. -/
structure Moment where
  position : Nat
  task : Task

namespace Purpose

/-- What comes of an expression, or of what was expected instead, in front of a token. The number says
how many tokens are taken. -/
def settle (token : Token) : Purpose → Except Expectation Expr → Nat × Task
  | .answer, .error expected => (0, .answered (.expression none) [⟨token, expected⟩])
  | .answer, .ok e =>
    if token.isEof then (0, .answered (.expression (some e)) [])
    else (0, .answered (.expression none) [⟨token, .endOfExpression⟩])
  | .statement items, .error expected => (0, .skipping (items ++ [.error ⟨token, expected⟩]))
  | .statement items, .ok e =>
    if token.kind = .semicolon then (1, .between (items ++ [.ok ⟨e⟩]))
    else (0, .skipping (items ++ [.error ⟨token, .semicolon⟩]))

end Purpose

namespace Task

/-- One step of a task in front of a token: how many tokens it takes, and the task behind it. -/
def act (token : Token) : Task → Option (Nat × Task)
  | .reading purpose frames operand =>
    match Expr.look frames operand token with
    | .takes frames operand => some (1, .reading purpose frames operand)
    | .stops result => some (purpose.settle token result)
  | .between items =>
    if token.isEof then some (0, .answered (.program (valuesOf items)) (errorsOf items))
    else some (0, .reading (.statement items) [] none)
  | .skipping items =>
    if token.isEof then some (0, .between items)
    else if token.kind = .semicolon then some (1, .between items)
    else some (1, .skipping items)
  | .answered _ _ => none

end Task

namespace Moment

/-- One step of a parser: it looks up the token at its place, and there is no step if there is none. -/
def step (tokens : List Token) (moment : Moment) : Option Moment :=
  tokens[moment.position]?.bind fun token =>
    (moment.task.act token).map fun (taken, task) => ⟨moment.position + taken, task⟩

/-- The parser gets from one moment to the other in one step. -/
def StepsTo (tokens : List Token) (first second : Moment) : Prop :=
  first.step tokens = some second

/-- The parser gets from one moment to the other in some number of steps, or in none. -/
def Leads (tokens : List Token) : Moment → Moment → Prop := Relation.ReflTransGen (StepsTo tokens)

end Moment

variable {tokens : List Token} {token : Token} {moment next : Moment}

/-! ## One step -/

theorem Purpose.settle_cases {purpose : Purpose} {result : Except Expectation Expr} {taken : Nat}
    {task : Task} (h : purpose.settle token result = (taken, task)) :
    taken = 1 ∧ token.isEof = false ∨ taken = 0 ∧ ∀ items, task ≠ .between items := by
  cases purpose with
  | answer =>
    cases result with
    | error expected =>
      cases h
      exact Or.inr ⟨rfl, fun _ => Task.noConfusion⟩
    | ok e =>
      rw [settle] at h
      split at h
      · cases h
        exact Or.inr ⟨rfl, fun _ => Task.noConfusion⟩
      · cases h
        exact Or.inr ⟨rfl, fun _ => Task.noConfusion⟩
  | statement items =>
    cases result with
    | error expected =>
      cases h
      exact Or.inr ⟨rfl, fun _ => Task.noConfusion⟩
    | ok e =>
      rw [settle] at h
      split at h
      · rename_i hkind
        cases h
        exact Or.inl ⟨rfl, by simp [Token.isEof, hkind]⟩
      · cases h
        exact Or.inr ⟨rfl, fun _ => Task.noConfusion⟩

/-- A step takes one token, which is not the end, or none; and without one it comes to stand between
statements only at the end. -/
theorem Task.act_cases {task task' : Task} {taken : Nat} (h : task.act token = some (taken, task')) :
    taken = 1 ∧ token.isEof = false ∨
      taken = 0 ∧ (token.isEof = true ∨ ∀ items, task' ≠ .between items) := by
  cases task with
  | reading purpose frames operand =>
    rw [act] at h
    cases hlook : Expr.look frames operand token with
    | takes frames operand =>
      rw [hlook] at h
      cases h
      refine Or.inl ⟨rfl, Bool.eq_false_iff.mpr fun hend => ?_⟩
      rw [Expr.look_of_stop (Or.inr hend)] at hlook
      cases hlook
    | stops result =>
      rw [hlook] at h
      rcases Purpose.settle_cases (Option.some.inj h) with htakes | ⟨hstays, hbusy⟩
      · exact Or.inl htakes
      · exact Or.inr ⟨hstays, .inr hbusy⟩
  | between items =>
    rw [act] at h
    split at h
    · cases h
      exact Or.inr ⟨rfl, .inr fun _ => Task.noConfusion⟩
    · cases h
      exact Or.inr ⟨rfl, .inr fun _ => Task.noConfusion⟩
  | skipping items =>
    rw [act] at h
    split at h
    · rename_i heof
      cases h
      exact Or.inr ⟨rfl, .inl heof⟩
    · rename_i hinside
      have hopen : token.isEof = false := by simpa using hinside
      split at h
      · cases h
        exact Or.inl ⟨rfl, hopen⟩
      · cases h
        exact Or.inl ⟨rfl, hopen⟩
  | answered answer errors => cases h

namespace Moment

theorem step_eq_some_iff : moment.step tokens = some next ↔
    ∃ token taken task, tokens[moment.position]? = some token ∧
      moment.task.act token = some (taken, task) ∧ next = ⟨moment.position + taken, task⟩ := by
  constructor
  · intro h
    obtain ⟨token, htoken, hstep⟩ := Option.bind_eq_some_iff.mp h
    obtain ⟨⟨taken, task⟩, hact, hnext⟩ := Option.map_eq_some_iff.mp hstep
    exact ⟨token, taken, task, htoken, hact, hnext.symm⟩
  · rintro ⟨token, taken, task, htoken, hact, rfl⟩
    simp [step, htoken, hact]

theorem step_position (h : moment.step tokens = some next) :
    moment.position ≤ next.position ∧
      (moment.position ≤ tokens.findIdx Token.isEof →
        next.position ≤ tokens.findIdx Token.isEof) := by
  obtain ⟨token, taken, task, htoken, hact, rfl⟩ := step_eq_some_iff.mp h
  rcases Task.act_cases hact with ⟨rfl, hopen⟩ | ⟨rfl, _⟩
  · refine ⟨Nat.le_add_right _ _, fun hwithin => ?_⟩
    have hnot : moment.position ≠ tokens.findIdx Token.isEof := by
      intro hend
      rw [hend] at htoken
      have heof : token.isEof = true := List.findIdx_of_getElem?_eq_some htoken
      rw [hopen] at heof
      cases heof
    exact Nat.lt_of_le_of_ne hwithin hnot
  · exact ⟨Nat.le_refl _, id⟩

/-! ## Runs -/

theorem Leads.position (h : moment.Leads tokens next) :
    moment.position ≤ next.position ∧
      (moment.position ≤ tokens.findIdx Token.isEof →
        next.position ≤ tokens.findIdx Token.isEof) := by
  induction h with
  | refl => exact ⟨Nat.le_refl _, id⟩
  | tail _ hstep ih =>
    have hone := step_position hstep
    exact ⟨Nat.le_trans ih.1 hone.1, hone.2 ∘ ih.2⟩

theorem eq_of_answered {place : Nat} {answer : Answer} {errors : List SyntaxError}
    (h : Leads tokens ⟨place, .answered answer errors⟩ next) :
    next = ⟨place, .answered answer errors⟩ := by
  rcases h.cases_head with heq | ⟨other, hstep, _⟩
  · exact heq.symm
  · obtain ⟨_, _, _, _, hact, _⟩ := step_eq_some_iff.mp hstep
    cases hact

theorem Leads.answered {place : Nat} {answer : Answer} {errors : List SyntaxError}
    (h : moment.Leads tokens ⟨place, .answered answer errors⟩) (hnext : moment.Leads tokens next) :
    next.Leads tokens ⟨place, .answered answer errors⟩ := by
  have hunique : Relator.RightUnique (StepsTo tokens) :=
    fun _ _ _ hfirst hsecond => Option.some.inj (hfirst.symm.trans hsecond)
  rcases Relation.ReflTransGen.total_of_right_unique hunique hnext h with hbefore | hbehind
  · exact hbefore
  · rw [eq_of_answered hbehind]
    exact .refl

/-! ## Rounds -/

/-- In front of a token that is not the end, a parser comes to stand between statements only behind
that token. -/
theorem Leads.position_lt {items : List (Except SyntaxError Statement)} {place : Nat}
    (h : moment.Leads tokens ⟨place, .between items⟩)
    (htoken : tokens[moment.position]? = some token) (hopen : token.isEof = false)
    (hbusy : ∀ items, moment.task ≠ .between items) : moment.position < place := by
  -- As long as the token is not taken, the parser stands in front of it and stays busy.
  induction h using Relation.ReflTransGen.head_induction_on with
  | refl => exact absurd rfl (hbusy items)
  | head hstep hrun ih =>
    obtain ⟨other, taken, task, hother, hact, rfl⟩ := step_eq_some_iff.mp hstep
    rw [htoken] at hother
    cases hother
    rcases Task.act_cases hact with ⟨rfl, _⟩ | ⟨rfl, heof | hstays⟩
    · exact Leads.position hrun |>.1
    · rw [hopen] at heof
      cases heof
    · exact ih htoken hstays

/-- From one time between statements to the next a parser takes a token. -/
theorem position_lt_of_rounds {items items' : List (Except SyntaxError Statement)}
    {place place' : Nat}
    (h : Relation.TransGen (StepsTo tokens) ⟨place, .between items⟩ ⟨place', .between items'⟩) :
    place < place' := by
  obtain ⟨next, hstep, hrun⟩ := Relation.TransGen.head'_iff.mp h
  obtain ⟨token, taken, task, htoken, hact, rfl⟩ := step_eq_some_iff.mp hstep
  rw [Task.act] at hact
  split at hact
  · -- At the end the program is answered, and there is no next time.
    cases hact
    cases eq_of_answered hrun
  · rename_i hopen
    cases hact
    exact Leads.position_lt hrun htoken (by simpa using hopen) fun _ => Task.noConfusion

end Moment

end ExprLang.Parser
