import ExprLang.Proofs.Parser.Soundness

/-!
What has a well-formed tree is read as that tree. Reading the tokens of a tree does not complete it
at once: the operators on its right edge still wait, the innermost one for the operand at its tip.
Those frames lie on top of the frames that waited before, and the next token completes exactly the
tree from them, be it an operator that binds no more tightly, a closing parenthesis or the end.
-/
set_option autoImplicit false

namespace ExprLang

namespace Expr

/-- The operators on the right edge of a tree, as the frames that wait when its tokens are read. -/
def edge : Expr → List Frame
  | .unary operator operand => operand.edge ++ [.unary operator]
  | .binary left operator right =>
    right.edge ++ [.binary left operator (operator.kind.binaryLevel?.getD .equality)]
  | .grouping _ => []
  | .constant _ => []

/-- The operand at the end of the right edge of a tree. -/
def tip : Expr → Expr
  | .unary _ operand => operand.tip
  | .binary _ _ right => right.tip
  | .grouping inner => .grouping inner
  | .constant value => .constant value

theorem edge_binary {operator : Token} {level : Level} (h : operator.kind ∈ level.operators)
    (left right : Expr) :
    (binary left operator right).edge = right.edge ++ [.binary left operator level] := by
  rw [edge, (binaryLevel?_eq_some_iff _ _).mpr h, Option.getD_some]

/-! ## The frames of an edge become the tree -/

theorem close_edge (e : Expr) :
    ∀ frames : List Frame, Frame.close (e.edge ++ frames) e.tip = Frame.close frames e := by
  induction e with
  | constant value => intro frames; rfl
  | grouping inner => intro frames; rfl
  | unary operator operand ih =>
    intro frames
    rw [edge, tip, List.append_assoc, ih]
    rfl
  | binary left operator right _ ih =>
    intro frames
    rw [edge, tip, List.append_assoc, ih]
    rfl

theorem unwind_edge {level own : Level} {e : Expr} (hformed : FormedAt own e) :
    level.rank ≤ own.rank → ∀ frames : List Frame,
      Frame.unwind level (e.edge ++ frames) e.tip = Frame.unwind level frames e := by
  induction hformed with
  | constant value => intro _ frames; rfl
  | grouping own inner => intro _ frames; rfl
  | unary own operator operand _ hown ih =>
    intro hle frames
    rw [edge, tip, List.append_assoc, ih (Nat.le_trans hle hown)]
    rfl
  | binary inner first second operator left right hoperator _ hfirst _ hsecond _ ih =>
    intro hle frames
    have hright := Nat.le_trans hle (Nat.le_of_lt hsecond)
    rw [edge_binary hoperator, tip, List.append_assoc, ih hright, List.singleton_append,
      Frame.unwind, if_pos (show level ≤ inner from hle)]

/-- A stack that takes the level has nothing to complete in front of an operator of the level. -/
theorem unwind_eq_self {level : Level} (hlevel : level.rank < Level.unary.rank)
    {frames : List Frame} (h : Frame.Takes frames level) (e : Expr) :
    Frame.unwind level frames e = (frames, e) := by
  cases frames with
  | nil => rfl
  | cons frame frames =>
    cases frame with
    | unary operator => exact absurd h (Nat.not_le_of_lt hlevel)
    | binary left operator own =>
      have hgt : ¬ level ≤ own := Nat.not_le_of_lt h
      rw [Frame.unwind, if_neg hgt]
    | group => rfl

/-! ## Single tokens -/

theorem readFrom_constant {token : Token} {value : Value} (hvalue : token.constant? = some value)
    (frames : List Frame) (rest : List Token) :
    readFrom frames none (token :: rest) = readFrom frames (some (.constant value)) rest := by
  have hkinds : token.kind.isUnary = false ∧ token.kind ≠ .leftParen := by
    unfold Token.constant? at hvalue
    split at hvalue <;> first | (rename_i hkind; rw [hkind]; decide) | cases hvalue
  rw [readFrom, if_neg (by rw [hkinds.1]; decide), if_neg hkinds.2, hvalue]

theorem readFrom_unary {operator : Token} (h : operator.kind = .bang ∨ operator.kind = .minus)
    (frames : List Frame) (rest : List Token) :
    readFrom frames none (operator :: rest) = readFrom (.unary operator :: frames) none rest := by
  rw [readFrom, if_pos ((isUnary_iff _).mpr h)]

theorem readFrom_leftParen {token : Token} (h : token.kind = .leftParen) (frames : List Frame)
    (rest : List Token) :
    readFrom frames none (token :: rest) = readFrom (.group :: frames) none rest := by
  rw [readFrom, if_neg (by rw [h]; decide), if_pos h]

theorem readFrom_rightParen {token : Token} (h : token.kind = .rightParen) (e : Expr)
    (frames : List Frame) (rest : List Token) :
    readFrom (e.edge ++ .group :: frames) (some e.tip) (token :: rest) =
      readFrom frames (some (.grouping e)) rest := by
  have hlevel : token.kind.binaryLevel? = none := by rw [h]; rfl
  have hclose : Frame.close (e.edge ++ .group :: frames) e.tip = (e, some frames) := close_edge e _
  rw [readFrom, hlevel, hclose]
  simp only [h, if_true]

/-- An operator behind the tokens of a tree that binds at least as tightly completes the tree. -/
theorem readFrom_operator {operator : Token} {level own : Level} {e : Expr}
    (hoperator : operator.kind ∈ level.operators) (hformed : FormedAt own e)
    (hown : level.rank ≤ own.rank) {frames : List Frame} (htakes : Frame.Takes frames level)
    (rest : List Token) :
    readFrom (e.edge ++ frames) (some e.tip) (operator :: rest) =
      readFrom (.binary e operator level :: frames) none rest := by
  have hunwind : Frame.unwind level (e.edge ++ frames) e.tip = (frames, e) := by
    rw [unwind_edge hformed hown, unwind_eq_self (rank_lt_unary hoperator) htakes]
  rw [readFrom, (binaryLevel?_eq_some_iff _ _).mpr hoperator]
  simp only [hunwind]

/-! ## Whole trees -/

/-- Reading the tokens of a well-formed tree puts its right edge on the stack. -/
theorem readFrom_derived {words : List Token} {e : Expr} (hderives : Derives words e) :
    ∀ (own : Level) (frames : List Frame) (rest : List Token), FormedAt own e →
      Frame.Takes frames own →
      readFrom frames none (words ++ rest) = readFrom (e.edge ++ frames) (some e.tip) rest := by
  induction hderives with
  | literal token value hkind hvalue =>
    intro own frames rest _ _
    refine readFrom_constant ?_ frames rest
    rcases hkind with h | h <;> simp [Token.constant?, h, hvalue]
  | truth token hkind =>
    intro own frames rest _ _
    exact readFrom_constant (by simp [Token.constant?, hkind]) frames rest
  | falsity token hkind =>
    intro own frames rest _ _
    exact readFrom_constant (by simp [Token.constant?, hkind]) frames rest
  | nil token hkind =>
    intro own frames rest _ _
    exact readFrom_constant (by simp [Token.constant?, hkind]) frames rest
  | grouping left right words inner hleft hright _ ih =>
    intro own frames rest hformed _
    cases hformed with
    | grouping within _ hinner =>
      rw [List.append_assoc, List.cons_append, readFrom_leftParen hleft,
        ih within (.group :: frames) _ hinner trivial, List.singleton_append,
        readFrom_rightParen hright]
      rfl
  | unary operator words operand hoperator _ ih =>
    intro own frames rest hformed htakes
    cases hformed with
    | unary within _ _ hoperand hwithin =>
      rw [List.cons_append, readFrom_unary hoperator, ih within (.unary operator :: frames) rest
        hoperand hwithin, edge, tip, List.append_assoc, List.singleton_append]
  | binary operator level before after left right hoperator _ _ ihLeft ihRight =>
    intro own frames rest hformed htakes
    cases hformed with
    | binary _ first second _ _ _ hown hleft hfirst hright hsecond =>
      have hlevel : level = own := by
        have hboth := (binaryLevel?_eq_some_iff _ _).mpr hoperator
        rw [(binaryLevel?_eq_some_iff _ _).mpr hown] at hboth
        exact (Option.some.inj hboth).symm
      subst hlevel
      rw [List.append_assoc, List.cons_append,
        ihLeft first frames _ hleft (htakes.mono hfirst),
        readFrom_operator hoperator hleft hfirst htakes,
        ihRight second (.binary left operator level :: frames) rest hright hsecond,
        edge_binary hoperator, tip, List.append_assoc, List.singleton_append]

/-- The tokens of a well-formed tree, and nothing else, are read as that tree. -/
theorem read_complete {words : List Token} {e : Expr} (hderives : Derives words e)
    (hformed : e.WellFormed) : read words = (.ok e, []) := by
  obtain ⟨own, hown⟩ := hformed
  have hread := readFrom_derived hderives own [] [] hown trivial
  have hclose := close_edge e []
  rw [List.append_nil] at hread
  rw [read, hread, readFrom, hclose]
  rfl

/-- Reading takes all of a token list exactly for the lists that a well-formed tree has. -/
theorem read_eq_ok_iff (tokens : List Token) (e : Expr) :
    read tokens = (.ok e, []) ↔ Derives tokens e ∧ e.WellFormed := by
  constructor
  · intro h
    obtain ⟨taken, htaken, hderives, hformed⟩ := read_sound h
    rw [List.append_nil] at htaken
    exact ⟨htaken ▸ hderives, hformed⟩
  · rintro ⟨hderives, hformed⟩
    exact read_complete hderives hformed

end Expr

end ExprLang
