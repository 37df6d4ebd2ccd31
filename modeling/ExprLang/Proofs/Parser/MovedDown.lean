import ExprLang.Proofs.Evaluation.MovedDown
import ExprLang.Proofs.Parser.Recovery

/-!
Tokens that are moved down. Reading looks at the kinds of tokens and at the values that they carry,
never at where they stand. So tokens some lines further down are read as the same statements and the
same errors, as many lines further down.
-/
set_option autoImplicit false

namespace ExprLang

def Frame.down (count : Nat) : Frame → Frame
  | .unary operator => .unary (operator.down count)
  | .binary left operator level => .binary (left.down count) (operator.down count) level
  | .group => .group

def SyntaxError.down (count : Nat) (error : SyntaxError) : SyntaxError :=
  ⟨error.token.down count, error.expected⟩

/-- What a clause gives, some lines further down. -/
def itemDown (count : Nat) : Except SyntaxError Statement → Except SyntaxError Statement
  | .ok statement => .ok (statement.down count)
  | .error error => .error (error.down count)

variable (count : Nat)

theorem valuesOf_map_itemDown (items : List (Except SyntaxError Statement)) :
    valuesOf (items.map (itemDown count)) = (valuesOf items).map (Statement.down count) :=
  valuesOf_map (itemDown count) (fun _ => rfl) (fun _ => rfl) items

theorem errorsOf_map_itemDown (items : List (Except SyntaxError Statement)) :
    errorsOf (items.map (itemDown count)) = (errorsOf items).map (SyntaxError.down count) :=
  errorsOf_map (itemDown count) (fun _ => rfl) (fun _ => rfl) items

/-! ## Expressions -/

namespace Frame

theorem unwind_down (level : Level) (frames : List Frame) (operand : Expr) :
    unwind level (frames.map (down count)) (operand.down count) =
      Prod.map (List.map (down count)) (Expr.down count) (unwind level frames operand) := by
  induction frames generalizing operand with
  | nil => rfl
  | cons frame frames ih =>
    cases frame with
    | unary operator => exact ih (.unary operator operand)
    | binary left operator own =>
      rw [List.map_cons, down, unwind, unwind]
      by_cases hlevel : level ≤ own
      · rw [if_pos hlevel, if_pos hlevel]
        exact ih (.binary left operator operand)
      · rw [if_neg hlevel, if_neg hlevel]
        rfl
    | group => rfl

theorem close_down (frames : List Frame) (operand : Expr) :
    close (frames.map (down count)) (operand.down count) =
      Prod.map (Expr.down count) (Option.map (List.map (down count))) (close frames operand) := by
  induction frames generalizing operand with
  | nil => rfl
  | cons frame frames ih =>
    cases frame with
    | unary operator => exact ih (.unary operator operand)
    | binary left operator level => exact ih (.binary left operator operand)
    | group => rfl

end Frame

namespace Expr

theorem readFrom_down (frames : List Frame) (operand : Option Expr) (tokens : List Token) :
    readFrom (frames.map (Frame.down count)) (operand.map (down count))
        (tokens.map (Token.down count)) =
      Prod.map (Except.map (down count)) (List.map (Token.down count))
        (readFrom frames operand tokens) := by
  induction tokens generalizing frames operand with
  | nil =>
    cases operand with
    | none => rfl
    | some operand =>
      have hclose := Frame.close_down count frames operand
      rw [Option.map_some, List.map_nil, readFrom, readFrom, hclose]
      rcases Frame.close frames operand with ⟨whole, _ | outer⟩
      · rfl
      · rfl
  | cons token rest ih =>
    cases operand with
    | none =>
      rw [Option.map_none, List.map_cons, readFrom, readFrom, Token.kind_down]
      by_cases hunary : token.kind.isUnary = true
      · rw [if_pos hunary, if_pos hunary]
        exact ih (.unary token :: frames) none
      rw [if_neg hunary, if_neg hunary]
      by_cases hparen : token.kind = .leftParen
      · rw [if_pos hparen, if_pos hparen]
        exact ih (.group :: frames) none
      rw [if_neg hparen, if_neg hparen, show (token.down count).constant? = token.constant? from rfl]
      cases token.constant? with
      | none => rfl
      | some value => exact ih frames (some (.constant value))
    | some operand =>
      rw [Option.map_some, List.map_cons, readFrom, readFrom, Token.kind_down]
      cases token.kind.binaryLevel? with
      | some level =>
        simp only [Frame.unwind_down]
        exact ih (.binary (Frame.unwind level frames operand).2 token level ::
          (Frame.unwind level frames operand).1) none
      | none =>
        simp only [Frame.close_down]
        rcases Frame.close frames operand with ⟨inner, _ | outer⟩
        · rfl
        · show (if token.kind = .rightParen then _ else _) = _
          by_cases hparen : token.kind = .rightParen
          · simp only [if_pos hparen]
            exact ih outer (some (.grouping inner))
          · simp only [if_neg hparen]
            rfl

end Expr

/-! ## Statements -/

namespace Statement

theorem read_down (tokens : List Token) :
    read (tokens.map (Token.down count)) =
      Prod.map (Except.map (down count)) (List.map (Token.down count)) (read tokens) := by
  have hread : Expr.read (tokens.map (Token.down count)) = _ :=
    Expr.readFrom_down count [] none tokens
  rw [read, read, hread, ← Expr.read]
  rcases Expr.read tokens with ⟨expected | e, _ | ⟨token, rest⟩⟩
  · rfl
  · rfl
  · rfl
  · show (if token.kind = .semicolon then _ else _) =
      Prod.map _ _ (if token.kind = .semicolon then _ else _)
    by_cases hkind : token.kind = .semicolon
    · rw [if_pos hkind, if_pos hkind]
      rfl
    · rw [if_neg hkind, if_neg hkind]
      rfl

theorem afterSemicolon_down (tokens : List Token) :
    afterSemicolon (tokens.map (Token.down count)) =
      (afterSemicolon tokens).map (Token.down count) := by
  induction tokens with
  | nil => rfl
  | cons token rest ih =>
    rw [List.map_cons, afterSemicolon, afterSemicolon, Token.kind_down, ih]
    split <;> rfl

theorem readAll_down (last : Token) (tokens : List Token) :
    readAll (last.down count) (tokens.map (Token.down count)) =
      (readAll last tokens).map (itemDown count) := by
  induction tokens using readAll.induct last with
  | case1 => simp [readAll]
  | case2 token rest outcome ih =>
    have hdown := read_down count (token :: rest)
    have hne : (token :: rest).map (Token.down count) ≠ [] := by simp
    rcases hread : read (token :: rest) with ⟨expected | statement, left⟩
    · have hresume : resume outcome = afterSemicolon left := congrArg resume hread
      rw [hread] at hdown
      rw [hresume] at ih
      rw [readAll_of_error hne hdown, afterSemicolon_down, ih, readAll_of_error (by simp) hread,
        List.map_cons]
      cases left <;> rfl
    · have hresume : resume outcome = left := congrArg resume hread
      rw [hread] at hdown
      rw [hresume] at ih
      rw [readAll_of_ok hne hdown, ih, readAll_of_ok (by simp) hread, List.map_cons]
      rfl

end Statement

/-! ## Programs -/

theorem Parser.program_down {tokens : List Token} (hne : tokens ≠ []) :
    (ofTokens (tokens.map (Token.down count))).program.1 =
      (ofTokens tokens).program.1.map (itemDown count) := by
  have hend : impliedEnd (tokens.map (Token.down count)) = (impliedEnd tokens).down count := by
    rw [impliedEnd, impliedEnd, List.getLast?_map, List.getLast?_eq_some_getLast hne]
    rfl
  have hlast : (ofTokens (tokens.map (Token.down count))).last =
      (ofTokens tokens).last.down count := by
    rw [ofTokens, ofTokens, hend, List.find?_map]
    show (Option.map _ (tokens.find? Token.isEof)).getD _ = _
    cases tokens.find? Token.isEof <;> rfl
  have hpending : (ofTokens (tokens.map (Token.down count))).pending =
      (ofTokens tokens).pending.map (Token.down count) := by
    rw [ofTokens, ofTokens, List.takeWhile_map]
    rfl
  rw [program, program, hlast, hpending]
  exact Statement.readAll_down count _ _

end ExprLang
