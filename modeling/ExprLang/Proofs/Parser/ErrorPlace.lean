import ExprLang.Proofs.Parser.Acceptance
import ExprLang.Proofs.Parser.Stopping

/-!
Where a syntax error stands. If a token list has no tree, the parser is left in front of the first
token with which no list that has one can go on, and that token is the place of the error: what was
read before can be completed, with the token behind it no longer. Where the end is that token, what
was read is all there is, and it lacks something.
-/
set_option autoImplicit false

namespace ExprLang.Parser

/-- The tokens with an end behind them, the implied one if the last of them is none. -/
def closed (tokens : List Token) : List Token :=
  if (tokens.getLast?.map Token.isEof).getD false then tokens else tokens ++ [impliedEnd tokens]

/-- How many of the tokens it was made for a parser has read. -/
def position (tokens : List Token) (parser : Parser) : Nat :=
  (significant tokens).length - parser.pending.length

/-- A new parser answers with a tree. -/
def Accepts (tokens : List Token) : Prop :=
  ∃ e, ((ofTokens tokens).ask .expression).1 = .expression (some e)

variable {tokens rest : List Token} {result : Except Expectation Expr}

/-! ## The end of a token list -/

theorem isEof_impliedEnd (tokens : List Token) : (impliedEnd tokens).isEof = true := by
  unfold impliedEnd
  split <;> rfl

theorem isEof_last (tokens : List Token) : (ofTokens tokens).last.isEof = true := by
  cases hfind : tokens.find? Token.isEof with
  | none => simpa [ofTokens, hfind] using isEof_impliedEnd tokens
  | some token => simpa [ofTokens, hfind] using List.find?_some hfind

/-- Behind the tokens that count stands the end of the parser. -/
theorem closed_eq (tokens : List Token) :
    ∃ behind, closed tokens = significant tokens ++ (ofTokens tokens).last :: behind := by
  cases hfind : tokens.find? Token.isEof with
  | none =>
    have hall : ∀ token ∈ tokens, token.isEof = false := by simpa using hfind
    have hsignificant : significant tokens = tokens := by
      simpa [significant] using significant_append hall []
    have hlast : (tokens.getLast?.map Token.isEof).getD false = false := by
      cases hlast : tokens.getLast? with
      | none => rfl
      | some token => exact hall token (List.mem_of_getLast? hlast)
    exact ⟨[], by simp [closed, hlast, hsignificant, ofTokens, hfind]⟩
  | some token =>
    obtain ⟨heof, front, behind, hsplit, hfront⟩ := List.find?_eq_some_iff_append.mp hfind
    have hopen : ∀ other ∈ front, other.isEof = false := by simpa using hfront
    have hsignificant : significant tokens = front := by
      rw [hsplit, significant_append hopen, significant, List.takeWhile_cons, heof]
      simp
    have hlast : (ofTokens tokens).last = token := by simp [ofTokens, hfind]
    rw [hsignificant, hlast]
    unfold closed
    split
    · exact ⟨behind, hsplit⟩
    · exact ⟨behind ++ [impliedEnd tokens], by simp [hsplit]⟩

/-! ## What is read -/

theorem accepts_iff (tokens : List Token) :
    Accepts tokens ↔ ∃ e, Expr.read (significant tokens) = (.ok e, []) := by
  have hask := ask_expression (ofTokens tokens)
  simp only [Accepts, Expr.read_eq_ok_iff, ← parse_eq_ok_iff]
  cases hparse : (ofTokens tokens).parse.1 with
  | ok e =>
    rw [hparse] at hask
    simp [hask.1]
  | error error =>
    rw [hparse] at hask
    simp [hask.1]

/-- Without a tree the answer is one error, at the first token that was not read. -/
theorem ask_of_read (hread : Expr.read (significant tokens) = (result, rest))
    (hnone : ¬ Accepts tokens) :
    ∃ expected, (ofTokens tokens).ask .expression =
      (.expression none, [⟨rest.headD (ofTokens tokens).last, expected⟩],
        ⟨rest, (ofTokens tokens).last⟩) := by
  have hpending : Expr.read (ofTokens tokens).pending = (result, rest) := hread
  rcases ask_expression_cases hpending with ⟨e, rfl, rfl, -⟩ | ⟨expected, hask, -⟩
  · exact absurd ((accepts_iff tokens).mpr ⟨e, hread⟩) hnone
  · exact ⟨expected, hask⟩

theorem accepts_of_read {e : Expr} (h : Expr.read tokens = (.ok e, [])) : Accepts tokens := by
  have hsignificant := significant_of_derives ((Expr.read_eq_ok_iff tokens e).mp h).1
  exact (accepts_iff tokens).mpr ⟨e, by rw [hsignificant, h]⟩

theorem accepts_significant (h : Accepts (significant tokens)) : Accepts tokens := by
  have hopen : ∀ token ∈ significant tokens, token.isEof = false := not_eof_of_mem_significant
  have hsame : significant (significant tokens) = significant tokens := by
    simpa [significant] using significant_append hopen []
  rwa [accepts_iff, hsame, ← accepts_iff] at h

/-- No tokens behind it help where a token is refused. -/
theorem not_accepts_refused {taken behind : List Token} {token : Token}
    (hsplit : significant tokens = taken ++ token :: behind)
    (hread : Expr.read (significant tokens) = (result, token :: behind)) (more : List Token) :
    ¬ Accepts (taken ++ token :: more) := by
  have hopen : ∀ other ∈ taken ++ [token], other.isEof = false := by
    intro other hother
    have hmem : other ∈ significant tokens := by
      rw [hsplit, ← List.singleton_append, ← List.append_assoc]
      exact List.mem_append_left behind hother
    exact not_eof_of_mem_significant other hmem
  rw [accepts_iff, ← List.singleton_append, ← List.append_assoc, significant_append hopen,
    List.append_assoc]
  rintro ⟨e, he⟩
  rw [hsplit] at hread
  cases he.symm.trans (Expr.read_refused hread (significant more))

/-! ## The place of an error -/

/-- If a new parser answers without a tree, there is one error, and it stands where the parser is
left. The tokens in front of it are the beginning of a list that has a tree. Together with the token
itself they are not, and if that is the end, they have no tree either. -/
theorem error_at_first_impossible (tokens : List Token)
    (hnone : ((ofTokens tokens).ask .expression).1 = .expression none) :
    ∃ error after, (ofTokens tokens).ask .expression = (.expression none, [error], after) ∧
      let place := position tokens after
      (closed tokens)[place]? = some error.token ∧
      (Diagnostic.ofSyntaxError error).message =
        "[line " ++ toString error.token.line ++ "] Error at " ++
          (if error.token.isEof then "end" else "'" ++ error.token.lexeme ++ "'") ++ ": " ++
          error.expected.text ∧
      (∃ more, Accepts (tokens.take place ++ more)) ∧
      (error.token.isEof = false → ∀ more, ¬ Accepts (tokens.take (place + 1) ++ more)) ∧
      (error.token.isEof = true → ¬ Accepts (tokens.take place)) := by
  have hrejected : ¬ Accepts tokens := by
    rintro ⟨e, he⟩
    rw [hnone] at he
    cases he
  rcases hread : Expr.read (significant tokens) with ⟨result, rest⟩
  obtain ⟨expected, hask⟩ := ask_of_read hread hrejected
  obtain ⟨taken, frames, operand, hsplit, hpasses, hstop⟩ := Expr.read_stops hread
  obtain ⟨behind, hclosed⟩ := closed_eq tokens
  obtain ⟨tail, htokens⟩ : significant tokens <+: tokens := List.takeWhile_prefix _
  have hplace : position tokens ⟨rest, (ofTokens tokens).last⟩ = taken.length := by
    simp [position, hsplit]
  have htake : tokens.take taken.length = taken := by
    rw [← htokens, hsplit, List.append_assoc, List.take_left]
  refine ⟨_, _, hask, ?_⟩
  simp only [hplace, htake]
  refine ⟨?_, rfl, ?_, ?_, ?_⟩
  · rw [hclosed, hsplit]
    cases rest <;> simp
  · obtain ⟨more, e, he⟩ := Expr.exists_completion frames operand
    exact ⟨more, accepts_of_read ((hpasses more).trans he)⟩
  · intro hinside more
    cases rest with
    | nil => simp [isEof_last] at hinside
    | cons token rest =>
      have hfront : tokens.take (taken.length + 1) = taken ++ [token] := by
        rw [← htokens, hsplit, List.append_assoc, List.take_length_add_append]
        simp
      rw [hfront, List.append_assoc]
      exact not_accepts_refused hsplit hread more
  · intro hend haccepts
    cases rest with
    | nil =>
      rw [List.append_nil] at hsplit
      exact hrejected (accepts_significant (hsplit ▸ haccepts))
    | cons token rest =>
      have hopen := not_eof_of_mem_significant token (by rw [hsplit]; simp)
      simp [hopen] at hend

/-- A group that is not closed where a semicolon stands. -/
def unclosedGroup : List Token :=
  [⟨.leftParen, "(", none, 1, 1⟩, ⟨.nilKeyword, "nil", none, 1, 2⟩, ⟨.semicolon, ";", none, 1, 5⟩]

theorem unclosedGroup_error :
    ((ofTokens unclosedGroup).ask .expression).1 = .expression none ∧
      (∃ more, Accepts (unclosedGroup.take 2 ++ more)) ∧
      ∀ more, ¬ Accepts (unclosedGroup ++ more) := by
  have hnone : ((ofTokens unclosedGroup).ask .expression).1 = .expression none := rfl
  obtain ⟨error, after, hask, _, _, hmore, hno, _⟩ := error_at_first_impossible unclosedGroup hnone
  have hstop : (ofTokens unclosedGroup).ask .expression =
      (.expression none, [⟨⟨.semicolon, ";", none, 1, 5⟩, .closingParen⟩],
        ⟨unclosedGroup.drop 2, impliedEnd unclosedGroup⟩) := rfl
  rw [hstop] at hask
  cases hask
  exact ⟨hnone, hmore, hno rfl⟩

end ExprLang.Parser
