import ExprLang.Proofs.Parser.Completeness

/-!
Where reading stops. A token is taken or refused by what waits on the stack and by the token alone,
never by the tokens behind it. So reading takes the tokens up to the first one that is refused, and
both the tokens taken and what was expected stay the same whatever else stands behind. No stack takes
a semicolon. And every stack can still be completed: an operand if there is none in hand, then a
closing parenthesis for each open one.
-/
set_option autoImplicit false

namespace ExprLang.Expr

/-- What a token means to an expression that is being read: reading goes on behind it, or it stops. -/
inductive Look
  | takes (frames : List Frame) (operand : Option Expr)
  | stops (result : Except Expectation Expr)

/-- Looks at a token with some frames waiting, and with an operand in hand or none. -/
def look (frames : List Frame) : Option Expr → Token → Look
  | none, token =>
    if token.kind.isUnary then .takes (.unary token :: frames) none
    else if token.kind = .leftParen then .takes (.group :: frames) none
    else
      match token.constant? with
      | some value => .takes frames (some (.constant value))
      | none => .stops (.error .expression)
  | some operand, token =>
    match token.kind.binaryLevel? with
    | some level =>
      let (outer, left) := Frame.unwind level frames operand
      .takes (.binary left token level :: outer) none
    | none =>
      match Frame.close frames operand with
      | (whole, none) => .stops (.ok whole)
      | (inner, some outer) =>
        if token.kind = .rightParen then .takes outer (some (.grouping inner))
        else .stops (.error .closingParen)

/-- The frames and the operand give way to others by the tokens, whatever follows. -/
def Passes (frames : List Frame) (operand : Option Expr) (taken : List Token)
    (frames' : List Frame) (operand' : Option Expr) : Prop :=
  ∀ more, readFrom frames operand (taken ++ more) = readFrom frames' operand' more

/-- Reading stops in front of the token with the result, whatever follows. -/
def Refuses (frames : List Frame) (operand : Option Expr) (token : Token)
    (result : Except Expectation Expr) : Prop :=
  ∀ more, readFrom frames operand (token :: more) = (result, token :: more)

variable {frames : List Frame} {operand : Option Expr} {token : Token}

/-! ## One token -/

/-- Reading is looking at one token after the other. -/
theorem readFrom_cons (frames : List Frame) (operand : Option Expr) (token : Token)
    (rest : List Token) :
    readFrom frames operand (token :: rest) =
      match look frames operand token with
      | .takes frames operand => readFrom frames operand rest
      | .stops result => (result, token :: rest) := by
  cases operand with
  | none =>
    rw [readFrom, look]
    by_cases hunary : token.kind.isUnary = true
    · rw [if_pos hunary, if_pos hunary]
    by_cases hparen : token.kind = .leftParen
    · rw [if_neg hunary, if_neg hunary, if_pos hparen, if_pos hparen]
    rw [if_neg hunary, if_neg hunary, if_neg hparen, if_neg hparen]
    cases token.constant? <;> rfl
  | some operand =>
    rw [readFrom, look]
    cases token.kind.binaryLevel? with
    | some level => rfl
    | none =>
      rcases Frame.close frames operand with ⟨inner, _ | outer⟩
      · rfl
      by_cases hright : token.kind = .rightParen
      · simp only [if_pos hright]
      · simp only [if_neg hright]

/-- A semicolon and the end of the input stop an expression as the lack of tokens does. -/
theorem look_of_stop (h : token.kind = .semicolon ∨ token.isEof = true) (frames : List Frame)
    (operand : Option Expr) :
    look frames operand token = .stops (readFrom frames operand []).1 := by
  have hkind : token.kind = .semicolon ∨ token.kind = .eof := h.imp_right eq_of_beq
  cases operand with
  | none =>
    rcases hkind with hkind | hkind
    · simp [look, readFrom, hkind, Kind.isUnary, Token.constant?]
    · simp [look, readFrom, hkind, Kind.isUnary, Token.constant?]
  | some operand =>
    have hlevel : token.kind.binaryLevel? = none := by
      rcases hkind with hkind | hkind
      · rw [hkind]
        rfl
      · rw [hkind]
        rfl
    have hright : token.kind ≠ .rightParen := by
      rintro hright
      simp [hright] at hkind
    rcases hclose : Frame.close frames operand with ⟨inner, _ | outer⟩
    · simp [look, readFrom, hlevel, hclose]
    · simp [look, readFrom, hlevel, hright, hclose]

theorem passes_or_refuses (frames : List Frame) (operand : Option Expr) (token : Token) :
    (∃ frames' operand', Passes frames operand [token] frames' operand') ∨
      ∃ result, Refuses frames operand token result := by
  cases hlook : look frames operand token with
  | takes frames' operand' =>
    refine Or.inl ⟨frames', operand', fun more => ?_⟩
    rw [List.singleton_append, readFrom_cons, hlook]
  | stops result =>
    refine Or.inr ⟨result, fun more => ?_⟩
    rw [readFrom_cons, hlook]

theorem refuses_semicolon (frames : List Frame) (operand : Option Expr)
    (h : token.kind = .semicolon) :
    Refuses frames operand token (readFrom frames operand []).1 := by
  intro more
  rw [readFrom_cons, look_of_stop (Or.inl h)]

/-! ## All tokens -/

theorem Passes.cons {frames' frames'' : List Frame} {operand' operand'' : Option Expr}
    {taken : List Token} (h : Passes frames operand [token] frames' operand')
    (h' : Passes frames' operand' taken frames'' operand'') :
    Passes frames operand (token :: taken) frames'' operand'' :=
  fun more => (h (taken ++ more)).trans (h' more)

theorem readFrom_nil_rest (frames : List Frame) (operand : Option Expr) :
    (readFrom frames operand []).2 = [] :=
  List.suffix_nil.mp (readFrom_suffix [] frames operand)

/-- Reading takes some tokens and refuses the next one, if there is one. -/
theorem readFrom_stops (tokens : List Token) :
    ∀ {frames : List Frame} {operand : Option Expr} {result : Except Expectation Expr}
      {rest : List Token}, readFrom frames operand tokens = (result, rest) →
      ∃ taken frames' operand', tokens = taken ++ rest ∧
        Passes frames operand taken frames' operand' ∧
        ∀ token ∈ rest.head?, Refuses frames' operand' token result := by
  induction tokens with
  | nil =>
    intro frames operand result rest h
    have hnil := readFrom_nil_rest frames operand
    rw [h] at hnil
    subst hnil
    exact ⟨[], frames, operand, rfl, fun _ => rfl, by simp⟩
  | cons token tokens ih =>
    intro frames operand result rest h
    rcases passes_or_refuses frames operand token with ⟨frames', operand', hone⟩ | ⟨found, hrefuses⟩
    · obtain ⟨taken, frames'', operand'', hsplit, hpasses, hstop⟩ := ih ((hone tokens).symm.trans h)
      exact ⟨token :: taken, frames'', operand'', by rw [hsplit, List.cons_append],
        hone.cons hpasses, hstop⟩
    · have hsame := (hrefuses tokens).symm.trans h
      cases hsame
      refine ⟨[], frames, operand, rfl, fun _ => rfl, fun other hother => ?_⟩
      cases hother
      exact hrefuses

theorem read_stops {tokens rest : List Token} {result : Except Expectation Expr}
    (h : read tokens = (result, rest)) :
    ∃ taken frames operand, tokens = taken ++ rest ∧ Passes [] none taken frames operand ∧
      ∀ token ∈ rest.head?, Refuses frames operand token result :=
  readFrom_stops tokens h

/-- What is refused is refused whatever stands behind it. -/
theorem read_refused {front behind : List Token} {result : Except Expectation Expr}
    (h : read (front ++ token :: behind) = (result, token :: behind)) (more : List Token) :
    read (front ++ token :: more) = (result, token :: more) := by
  obtain ⟨taken, frames, operand, hsplit, hpasses, hstop⟩ := read_stops h
  obtain rfl := List.append_cancel_right hsplit
  rw [read, hpasses]
  exact hstop token rfl more

/-- Reading stops in front of a semicolon as it stops at the end, and does not look behind it. -/
theorem read_semicolon (body : List Token) (h : token.kind = .semicolon) (more : List Token) :
    read (body ++ token :: more) = ((read body).1, (read body).2 ++ token :: more) := by
  rcases hread : read body with ⟨result, left⟩
  obtain ⟨taken, frames, operand, hsplit, hpasses, hstop⟩ := read_stops hread
  cases left with
  | nil =>
    have hend : readFrom frames operand [] = (result, []) := by
      rw [← hpasses, ← hsplit]
      exact hread
    rw [List.append_nil] at hsplit
    rw [hsplit, read, hpasses, refuses_semicolon frames operand h, hend]
    rfl
  | cons first left =>
    rw [hsplit, List.append_assoc, read, hpasses]
    exact hstop first rfl (left ++ token :: more)

/-! ## Completing -/

/-- The closing parentheses that complete a stack. -/
def closers : List Frame → List Token
  | [] => []
  | .group :: frames => ⟨.rightParen, ")", none, 1, 1⟩ :: closers frames
  | .unary _ :: frames => closers frames
  | .binary _ _ _ :: frames => closers frames

theorem kind_of_mem_closers {frames : List Frame} :
    ∀ token ∈ closers frames, token.kind = .rightParen := by
  induction frames with
  | nil => simp [closers]
  | cons frame frames ih => cases frame <;> simpa [closers] using ih

/-- In front of closing parentheses and at the end, only what closing makes of a stack counts. -/
theorem readFrom_congr {frames frames' : List Frame} {operand operand' : Expr} {tokens : List Token}
    (hclose : Frame.close frames operand = Frame.close frames' operand')
    (htokens : ∀ token ∈ tokens, token.kind = .rightParen) :
    readFrom frames (some operand) tokens = readFrom frames' (some operand') tokens := by
  cases tokens with
  | nil => rw [readFrom, readFrom, hclose]
  | cons token rest =>
    have hlevel : token.kind.binaryLevel? = none := by
      rw [htokens token List.mem_cons_self]
      rfl
    rw [readFrom, readFrom, hlevel, hclose]

theorem readFrom_closers (frames : List Frame) :
    ∀ operand : Expr, ∃ e, readFrom frames (some operand) (closers frames) = (.ok e, []) := by
  induction frames with
  | nil => exact fun operand => ⟨operand, rfl⟩
  | cons frame frames ih =>
    intro operand
    cases frame with
    | unary operator =>
      have hclose : Frame.close (.unary operator :: frames) operand =
          Frame.close frames (.unary operator operand) := rfl
      rw [closers, readFrom_congr hclose kind_of_mem_closers]
      exact ih _
    | binary left operator level =>
      have hclose : Frame.close (.binary left operator level :: frames) operand =
          Frame.close frames (.binary left operator operand) := rfl
      rw [closers, readFrom_congr hclose kind_of_mem_closers]
      exact ih _
    | group => exact ih (.grouping operand)

/-- From any stack, with an operand in hand or without one, some tokens lead to a whole tree. -/
theorem exists_completion (frames : List Frame) (operand : Option Expr) :
    ∃ more e, readFrom frames operand more = (.ok e, []) := by
  cases operand with
  | some operand =>
    obtain ⟨e, he⟩ := readFrom_closers frames operand
    exact ⟨closers frames, e, he⟩
  | none =>
    obtain ⟨e, he⟩ := readFrom_closers frames (.constant .nil)
    exact ⟨⟨.nilKeyword, "nil", none, 1, 1⟩ :: closers frames, e, he⟩

end ExprLang.Expr
