import ExprLang.Proofs.Grammar

/-!
What has been read has a tree. A stack of frames stands for the tokens in front of the operand in
hand, and it takes operands of some levels only: behind an operator between operands, those that
bind more tightly than it. Completing frames keeps the tokens and gives well-formed operands, so an
expression that is read off the front of a token list is derived by the tokens that were taken.
-/
set_option autoImplicit false

namespace ExprLang

/-- The stack can complete its innermost frame with an operand of the level. -/
def Frame.Takes : List Frame → Level → Prop
  | .unary _ :: _, level => Level.unary.rank ≤ level.rank
  | .binary _ _ own :: _, level => own.rank < level.rank
  | .group :: _, _ => True
  | [], _ => True

/-- The stack was built by reading the tokens. -/
inductive Frame.Reads : List Frame → List Token → Prop
  | bottom : Reads [] []
  | group (frames : List Frame) (front : List Token) (token : Token) (hframes : Reads frames front)
      (htoken : token.kind = .leftParen) : Reads (.group :: frames) (front ++ [token])
  | unary (frames : List Frame) (front : List Token) (operator : Token)
      (hframes : Reads frames front) (hoperator : operator.kind = .bang ∨ operator.kind = .minus) :
      Reads (.unary operator :: frames) (front ++ [operator])
  | binary (frames : List Frame) (front words : List Token) (left : Expr) (operator : Token)
      (level own : Level) (hframes : Reads frames front) (htakes : Frame.Takes frames level)
      (hwords : Derives words left) (hleft : Expr.FormedAt own left) (hown : level.rank ≤ own.rank)
      (hoperator : operator.kind ∈ level.operators) :
      Reads (.binary left operator level :: frames) (front ++ words ++ [operator])

namespace Frame

/-! ## What a stack takes -/

theorem Takes.mono {frames : List Frame} {low high : Level} (h : Takes frames low)
    (hle : low.rank ≤ high.rank) : Takes frames high := by
  cases frames with
  | nil => trivial
  | cons frame frames =>
    cases frame with
    | unary operator => exact Nat.le_trans h hle
    | binary left operator own => exact Nat.lt_of_lt_of_le h hle
    | group => trivial

theorem Reads.takes_unary {frames : List Frame} {front : List Token} (h : Reads frames front) :
    Takes frames .unary := by
  cases h with
  | bottom => trivial
  | group => trivial
  | unary => exact Nat.le_refl _
  | binary _ _ _ _ _ _ _ _ _ _ _ _ hoperator => exact rank_lt_unary hoperator

theorem Reads.takes_primary {frames : List Frame} {front : List Token} (h : Reads frames front) :
    Takes frames .primary :=
  h.takes_unary.mono (rank_le_primary _)

/-! ## Completing frames -/

/-- Unwinding keeps the tokens; what is left on the stack takes an operand of the level. -/
theorem unwind_sound {level : Level} (hlevel : level.rank < Level.unary.rank) :
    ∀ (frames : List Frame) (operand : Expr) (front words : List Token) (own : Level),
      Reads frames front → Takes frames own → Derives words operand →
      Expr.FormedAt own operand → level.rank ≤ own.rank →
      ∃ front' words' own',
        front ++ words = front' ++ words' ∧ Reads (unwind level frames operand).1 front' ∧
        Takes (unwind level frames operand).1 level ∧
        Derives words' (unwind level frames operand).2 ∧
        Expr.FormedAt own' (unwind level frames operand).2 ∧ level.rank ≤ own'.rank := by
  intro frames
  induction frames with
  | nil =>
    intro operand front words own hreads _ hwords hoperand hown
    exact ⟨front, words, own, rfl, hreads, trivial, hwords, hoperand, hown⟩
  | cons frame frames ih =>
    intro operand front words own hreads htakes hwords hoperand hown
    cases hreads with
    | group _ outer token hframes htoken =>
      exact ⟨_, words, own, rfl, .group frames outer token hframes htoken, trivial, hwords,
        hoperand, hown⟩
    | unary _ outer operator hframes hoperator =>
      have hgrown := Derives.unary operator words operand hoperator hwords
      have hformed := Expr.FormedAt.unary own operator operand hoperand htakes
      rw [List.append_assoc, List.singleton_append]
      exact ih _ outer _ .unary hframes hframes.takes_unary hgrown hformed (Nat.le_of_lt hlevel)
    | binary _ outer before left operator inner first hframes hinner hbefore hleft hfirst
        hoperator =>
      rw [unwind]
      split
      · rename_i hle
        have hgrown := Derives.binary operator inner before words left operand hoperator hbefore
          hwords
        have hformed := Expr.FormedAt.binary inner first own operator left operand hoperator hleft
          hfirst hoperand htakes
        rw [List.append_assoc, List.singleton_append, List.append_assoc]
        exact ih _ outer _ inner hframes hinner hgrown hformed hle
      · rename_i hgt
        exact ⟨_, words, own, rfl, .binary frames outer before left operator inner first hframes
          hinner hbefore hleft hfirst hoperator, Nat.lt_of_not_le hgt, hwords, hoperand, hown⟩

/-- Closing keeps the tokens, and gives the open parenthesis back if there is one. -/
theorem close_sound :
    ∀ (frames : List Frame) (operand : Expr) (front words : List Token) (own : Level),
      Reads frames front → Takes frames own → Derives words operand →
      Expr.FormedAt own operand →
      (close frames operand).1.WellFormed ∧
      match (close frames operand).2 with
      | none => Derives (front ++ words) (close frames operand).1
      | some outer => ∃ front' token words', front ++ words = front' ++ token :: words' ∧
          token.kind = .leftParen ∧ Reads outer front' ∧ Derives words' (close frames operand).1 := by
  intro frames
  induction frames with
  | nil =>
    intro operand front words own hreads _ hwords hoperand
    cases hreads
    exact ⟨⟨own, hoperand⟩, hwords⟩
  | cons frame frames ih =>
    intro operand front words own hreads htakes hwords hoperand
    cases hreads with
    | group _ outer token hframes htoken =>
      refine ⟨⟨own, hoperand⟩, outer, token, words, ?_, htoken, hframes, hwords⟩
      rw [List.append_assoc, List.singleton_append]
    | unary _ outer operator hframes hoperator =>
      have hgrown := Derives.unary operator words operand hoperator hwords
      have hformed := Expr.FormedAt.unary own operator operand hoperand htakes
      rw [List.append_assoc, List.singleton_append]
      exact ih _ outer _ .unary hframes hframes.takes_unary hgrown hformed
    | binary _ outer before left operator inner first hframes hinner hbefore hleft hfirst
        hoperator =>
      have hgrown := Derives.binary operator inner before words left operand hoperator hbefore
        hwords
      have hformed := Expr.FormedAt.binary inner first own operator left operand hoperator hleft
        hfirst hoperand htakes
      rw [List.append_assoc, List.singleton_append, List.append_assoc]
      exact ih _ outer _ inner hframes hinner hgrown hformed

end Frame

/-! ## Reading -/

theorem Token.derives_constant {token : Token} {value : Value} (h : token.constant? = some value) :
    Derives [token] (.constant value) := by
  unfold Token.constant? at h
  split at h
  · rename_i hkind
    obtain ⟨literal, hliteral, rfl⟩ := Option.map_eq_some_iff.mp h
    exact .literal token literal (Or.inl hkind) hliteral
  · rename_i hkind
    obtain ⟨literal, hliteral, rfl⟩ := Option.map_eq_some_iff.mp h
    exact .literal token literal (Or.inr hkind) hliteral
  · rename_i hkind
    cases h
    exact .truth token hkind
  · rename_i hkind
    cases h
    exact .falsity token hkind
  · rename_i hkind
    cases h
    exact .nil token hkind
  · cases h

namespace Expr

open ExprLang.Frame

/-- Behind the tokens in front, those up to the rest derive the tree together with them. -/
def Completes (front tokens rest : List Token) (e : Expr) : Prop :=
  ∃ taken, tokens = taken ++ rest ∧ Derives (front ++ taken) e ∧ e.WellFormed

theorem Completes.cons {front tokens rest : List Token} {token : Token} {e : Expr}
    (h : Completes (front ++ [token]) tokens rest e) : Completes front (token :: tokens) rest e := by
  obtain ⟨taken, htokens, hderives, hformed⟩ := h
  refine ⟨token :: taken, by rw [htokens, List.cons_append], ?_, hformed⟩
  rwa [List.append_assoc, List.singleton_append] at hderives

/-- Where no parenthesis is open, closing ends with the tree of all tokens in front. -/
theorem completes_of_close {frames : List Frame} {front words : List Token} {operand whole : Expr}
    (hreads : Reads frames front) (hwords : Derives words operand)
    (hoperand : FormedAt .primary operand) (hclose : close frames operand = (whole, none))
    (tokens : List Token) : Completes (front ++ words) tokens tokens whole := by
  have hsound := close_sound frames operand front words .primary hreads hreads.takes_primary hwords
    hoperand
  rw [hclose] at hsound
  refine ⟨[], rfl, ?_, hsound.1⟩
  rw [List.append_nil]
  exact hsound.2

/-- Reading the tokens, behind others, gives trees that all of them derive: with nothing in hand,
and with an operand in hand. -/
structure SoundOn (tokens : List Token) : Prop where
  waiting : ∀ {frames : List Frame} {front rest : List Token} {e : Expr}, Reads frames front →
    readFrom frames none tokens = (.ok e, rest) → Completes front tokens rest e
  holding : ∀ {frames : List Frame} {front rest words : List Token} {operand e : Expr},
    Reads frames front → Derives words operand → FormedAt .primary operand →
    readFrom frames (some operand) tokens = (.ok e, rest) → Completes (front ++ words) tokens rest e

variable {token : Token} {tokens front rest words : List Token} {frames : List Frame}
  {operand e : Expr}

theorem soundOn_nil : SoundOn [] := by
  refine ⟨fun _ h => ?_, fun hreads hwords hoperand h => ?_⟩
  · rw [readFrom] at h
    cases h
  · rw [readFrom] at h
    split at h
    · rename_i whole hclose
      cases h
      exact completes_of_close hreads hwords hoperand hclose []
    · cases h

/-- With nothing in hand a token opens a frame or is a constant. -/
theorem SoundOn.cons_waiting (ih : SoundOn tokens) (hreads : Reads frames front)
    (h : readFrom frames none (token :: tokens) = (.ok e, rest)) :
    Completes front (token :: tokens) rest e := by
  rw [readFrom] at h
  split at h
  · rename_i hunary
    have hframe := Reads.unary frames front token hreads ((isUnary_iff _).mp hunary)
    exact (ih.waiting hframe h).cons
  · split at h
    · rename_i hparen
      exact (ih.waiting (.group frames front token hreads hparen) h).cons
    · split at h
      · rename_i value hvalue
        have hconstant := Token.derives_constant hvalue
        exact (ih.holding hreads hconstant (.constant value) h).cons
      · cases h

/-- With an operand in hand an operator takes what binds at least as tightly on its left, a closing
parenthesis takes everything up to the open one, and any other token ends the reading. -/
theorem SoundOn.cons_holding (ih : SoundOn tokens) (hreads : Reads frames front)
    (hwords : Derives words operand) (hoperand : FormedAt .primary operand)
    (h : readFrom frames (some operand) (token :: tokens) = (.ok e, rest)) :
    Completes (front ++ words) (token :: tokens) rest e := by
  rw [readFrom] at h
  split at h
  · rename_i level hlevel
    have hoperator := (binaryLevel?_eq_some_iff _ _).mp hlevel
    obtain ⟨front', words', own, hkept, houter, htakes, hleft, hformed, hown⟩ :=
      unwind_sound (rank_lt_unary hoperator) frames operand front words .primary hreads
        hreads.takes_primary hwords hoperand (rank_le_primary level)
    have hframe := Reads.binary _ front' words' _ token level own houter htakes hleft hformed hown
      hoperator
    rw [hkept]
    exact (ih.waiting hframe h).cons
  · have hsound := close_sound frames operand front words .primary hreads hreads.takes_primary
      hwords hoperand
    split at h
    · rename_i whole hclose
      cases h
      exact completes_of_close hreads hwords hoperand hclose (token :: tokens)
    · rename_i inner outer hclose
      rw [hclose] at hsound
      obtain ⟨⟨own, hinner⟩, front', left, words', hkept, hparen, houter, hwords'⟩ := hsound
      split at h
      · rename_i hright
        have hgroup := Derives.grouping left token words' inner hparen hright hwords'
        have hbehind := ih.holding houter hgroup (.grouping own inner hinner) h
        rw [List.cons_append, ← List.cons_append, ← List.append_assoc] at hbehind
        rw [hkept]
        exact hbehind.cons
      · cases h

theorem soundOn (tokens : List Token) : SoundOn tokens := by
  induction tokens with
  | nil => exact soundOn_nil
  | cons token tokens ih => exact ⟨ih.cons_waiting, ih.cons_holding⟩

/-- An expression that is read off a token list is derived by the tokens in front of the rest. -/
theorem read_sound (h : read tokens = (.ok e, rest)) : Completes [] tokens rest e :=
  (soundOn tokens).waiting .bottom h

end Expr

end ExprLang
