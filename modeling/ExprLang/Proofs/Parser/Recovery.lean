import ExprLang.Parser.Session
import ExprLang.Proofs.Parser.Acceptance
import ExprLang.Proofs.Parser.Stopping
import Mathlib.Data.List.Basic
import Mathlib.Data.List.Forall2

/-!
Recovery from errors. A clause is what a semicolon ends. Reading a statement never takes more than
one clause: it stops in front of the semicolon, and after an error it goes on behind that same
semicolon. So a program is read clause by clause, each clause gives one statement or one error at a
token of its own, and what stands in front of a clause or behind it makes no difference. Tokens
behind the last semicolon give one error.
-/
set_option autoImplicit false

namespace ExprLang

namespace Statement

/-- Tokens with a semicolon at their end and nowhere else. -/
def Clause (clause : List Token) : Prop :=
  ∃ body semicolon, clause = body ++ [semicolon] ∧ semicolon.kind = .semicolon ∧
    ∀ token ∈ body, token.kind ≠ .semicolon

/-- Whatever stands behind the clause, it gives this one result, an error at one of its tokens. -/
structure Yields (clause : List Token) (result : Except SyntaxError Statement) : Prop where
  readAll_append : ∀ last more, readAll last (clause ++ more) = result :: readAll last more
  token_mem : ∀ error, result = .error error → error.token ∈ clause

variable {tokens left : List Token}

/-! ## One statement -/

theorem afterSemicolon_append {semicolon : Token} (hkind : semicolon.kind = .semicolon)
    (hleft : ∀ token ∈ left, token.kind ≠ .semicolon) (more : List Token) :
    afterSemicolon (left ++ semicolon :: more) = more := by
  induction left with
  | nil => simp [afterSemicolon, hkind]
  | cons token left ih =>
    have hfirst := hleft token List.mem_cons_self
    simp only [List.cons_append, afterSemicolon, hfirst, if_false]
    exact ih fun other hother => hleft other (List.mem_cons_of_mem _ hother)

theorem afterSemicolon_eq_nil (h : ∀ token ∈ tokens, token.kind ≠ .semicolon) :
    afterSemicolon tokens = [] := by
  induction tokens with
  | nil => rfl
  | cons token tokens ih =>
    have hfirst := h token List.mem_cons_self
    simp only [afterSemicolon, hfirst, if_false]
    exact ih fun other hother => h other (List.mem_cons_of_mem _ hother)

theorem readAll_of_ok {statement : Statement} (hne : tokens ≠ [])
    (hread : read tokens = (.ok statement, left)) (last : Token) :
    readAll last tokens = .ok statement :: readAll last left := by
  obtain ⟨token, rest, rfl⟩ := List.exists_cons_of_ne_nil hne
  rw [readAll, hread]
  rfl

theorem readAll_of_error {expected : Expectation} (hne : tokens ≠ [])
    (hread : read tokens = (.error expected, left)) (last : Token) :
    readAll last tokens =
      .error ⟨left.headD last, expected⟩ :: readAll last (afterSemicolon left) := by
  obtain ⟨token, rest, rfl⟩ := List.exists_cons_of_ne_nil hne
  rw [readAll, hread]
  rfl

/-- A clause is a statement if its body is an expression, and else there is an error in front of its
semicolon, whatever follows. -/
theorem read_clause {body : List Token} {semicolon : Token} (hkind : semicolon.kind = .semicolon)
    (hbody : ∀ token ∈ body, token.kind ≠ .semicolon) :
    (∃ e, Expr.read body = (.ok e, []) ∧
      ∀ more, read (body ++ semicolon :: more) = (.ok ⟨e⟩, more)) ∨
    (∀ e, Expr.read body ≠ (.ok e, [])) ∧ ∃ expected left, left <:+ body ∧
      ∀ more, read (body ++ semicolon :: more) = (.error expected, left ++ semicolon :: more) := by
  have hleft := Expr.read_suffix body
  have hread := Expr.read_semicolon body hkind
  generalize Expr.read body = stop at hleft hread
  obtain ⟨result, left⟩ := stop
  cases result with
  | error expected =>
    exact Or.inr ⟨by simp, expected, left, hleft, fun more => by rw [read, hread]⟩
  | ok e =>
    cases left with
    | nil => exact Or.inl ⟨e, rfl, fun more => by simp [read, hread, hkind]⟩
    | cons token left =>
      have htoken := hbody token (hleft.subset List.mem_cons_self)
      exact Or.inr ⟨by simp, .semicolon, token :: left, hleft,
        fun more => by simp [read, hread, htoken]⟩

/-- The body of a clause decides whether it yields a statement or an error. -/
theorem yields_of_body {body : List Token} {semicolon : Token}
    (hkind : semicolon.kind = .semicolon) (hbody : ∀ token ∈ body, token.kind ≠ .semicolon) :
    (∃ e, Expr.read body = (.ok e, []) ∧ Yields (body ++ [semicolon]) (.ok ⟨e⟩)) ∨
    (∀ e, Expr.read body ≠ (.ok e, [])) ∧
      ∃ error, Yields (body ++ [semicolon]) (.error error) := by
  have hne : ∀ more, body ++ [semicolon] ++ more ≠ [] := by simp
  rcases read_clause hkind hbody with ⟨e, he, hread⟩ | ⟨hnone, expected, left, hleft, hread⟩
  · refine Or.inl ⟨e, he, fun last more => ?_, by simp⟩
    exact readAll_of_ok (hne more) (by rw [List.append_assoc]; exact hread more) last
  · have hopen : ∀ token ∈ left, token.kind ≠ .semicolon := fun token htoken =>
      hbody token (hleft.subset htoken)
    refine Or.inr ⟨hnone, ⟨left.headD semicolon, expected⟩, fun last more => ?_, ?_⟩
    · have herror := readAll_of_error (hne more) (by rw [List.append_assoc]; exact hread more) last
      rw [afterSemicolon_append hkind hopen] at herror
      rw [herror]
      cases left <;> rfl
    · rintro error ⟨rfl⟩
      cases left with
      | nil => simp
      | cons token left => exact List.mem_append_left _ (hleft.subset List.mem_cons_self)

theorem Clause.yields {clause : List Token} (h : Clause clause) :
    ∃ result, Yields clause result := by
  obtain ⟨body, semicolon, rfl, hkind, hbody⟩ := h
  rcases yields_of_body hkind hbody with ⟨e, -, hyields⟩ | ⟨-, error, hyields⟩
  · exact ⟨_, hyields⟩
  · exact ⟨_, hyields⟩

/-- What no semicolon ends is no statement. -/
theorem readAll_unfinished (hne : tokens ≠ []) (hopen : ∀ token ∈ tokens, token.kind ≠ .semicolon)
    (last : Token) : ∃ error, readAll last tokens = [.error error] := by
  have hleft := Expr.read_suffix tokens
  rcases hexpr : Expr.read tokens with ⟨result, left⟩
  rw [hexpr] at hleft
  obtain ⟨expected, hread⟩ : ∃ expected, read tokens = (.error expected, left) := by
    rcases read_of_expr hexpr with ⟨e, semicolon, rest, -, rfl, hkind, -⟩ | ⟨expected, hread, -⟩
    · exact absurd hkind (hopen semicolon (hleft.subset List.mem_cons_self))
    · exact ⟨expected, hread⟩
  have hskip : afterSemicolon left = [] :=
    afterSemicolon_eq_nil fun token htoken => hopen token (hleft.subset htoken)
  refine ⟨⟨left.headD last, expected⟩, ?_⟩
  rw [readAll_of_error hne hread, hskip, readAll]

/-! ## All statements -/

theorem exists_clauses (tokens : List Token) :
    ∃ (clauses : List (List Token)) (rest : List Token), tokens = clauses.flatten ++ rest ∧
      (∀ clause ∈ clauses, Clause clause) ∧ ∀ token ∈ rest, token.kind ≠ .semicolon := by
  induction tokens with
  | nil => exact ⟨[], [], rfl, by simp, by simp⟩
  | cons token tokens ih =>
    obtain ⟨clauses, rest, hsplit, hclauses, hrest⟩ := ih
    by_cases hkind : token.kind = .semicolon
    · have hone : Clause [token] := ⟨[], token, rfl, hkind, by simp⟩
      refine ⟨[token] :: clauses, rest, by simp [hsplit], ?_, hrest⟩
      exact List.forall_mem_cons.mpr ⟨hone, hclauses⟩
    · cases clauses with
      | nil => exact ⟨[], token :: rest, by simp [hsplit], by simp, by simpa [hkind] using hrest⟩
      | cons clause clauses =>
        obtain ⟨⟨body, semicolon, rfl, hsemicolon, hbody⟩, hothers⟩ :=
          List.forall_mem_cons.mp hclauses
        have hlonger : Clause (token :: (body ++ [semicolon])) :=
          ⟨token :: body, semicolon, rfl, hsemicolon, List.forall_mem_cons.mpr ⟨hkind, hbody⟩⟩
        refine ⟨(token :: (body ++ [semicolon])) :: clauses, rest, by simp [hsplit], ?_, hrest⟩
        exact List.forall_mem_cons.mpr ⟨hlonger, hothers⟩

theorem readAll_clauses {clauses : List (List Token)} (h : ∀ clause ∈ clauses, Clause clause) :
    ∃ results, List.Forall₂ Yields clauses results ∧
      ∀ last more, readAll last (clauses.flatten ++ more) = results ++ readAll last more := by
  induction clauses with
  | nil => exact ⟨[], .nil, fun _ _ => rfl⟩
  | cons clause clauses ih =>
    obtain ⟨hclause, hothers⟩ := List.forall_mem_cons.mp h
    obtain ⟨result, hresult⟩ := hclause.yields
    obtain ⟨results, hresults, hall⟩ := ih hothers
    refine ⟨result :: results, .cons hresult hresults, fun last more => ?_⟩
    rw [List.flatten_cons, List.append_assoc, hresult.readAll_append, hall, List.cons_append]

end Statement

namespace Parser

/-- The statements that a new parser finds in the tokens. -/
def statements (tokens : List Token) : List Statement := valuesOf (ofTokens tokens).program.1

/-- What a new parser reports when it reads the tokens as a program. -/
def complaints (tokens : List Token) : Report :=
  (errorsOf (ofTokens tokens).program.1).map Diagnostic.ofSyntaxError

/-! ## Programs one behind the other -/

theorem last_append {first second : List Token} (hopen : ∀ token ∈ first, token.isEof = false)
    (hne : second ≠ []) : (ofTokens (first ++ second)).last = (ofTokens second).last := by
  have hfind : first.find? Token.isEof = none := by simpa using hopen
  have hend : impliedEnd (first ++ second) = impliedEnd second := by
    rw [impliedEnd, impliedEnd, List.getLast?_append_of_ne_nil _ hne]
  simp [ofTokens, hfind, hend]

theorem rest_of_ends {first rest : List Token} {clauses : List (List Token)}
    (hends : ∃ token ∈ first.getLast?, token.kind = .semicolon)
    (hsplit : first = clauses.flatten ++ rest) (hrest : ∀ token ∈ rest, token.kind ≠ .semicolon) :
    rest = [] := by
  by_contra hne
  obtain ⟨token, htoken, hkind⟩ := hends
  rw [hsplit, List.getLast?_append_of_ne_nil _ hne] at htoken
  exact hrest token (List.mem_of_getLast? htoken) hkind

theorem program_of_clauses {clauses : List (List Token)}
    {results : List (Except SyntaxError Statement)} {rest : List Token}
    (hall : ∀ last more,
      Statement.readAll last (clauses.flatten ++ more) = results ++ Statement.readAll last more)
    {tokens : List Token} (hsplit : significant tokens = clauses.flatten ++ rest) :
    (ofTokens tokens).program.1 = results ++ Statement.readAll (ofTokens tokens).last rest := by
  rw [program, show (ofTokens tokens).pending = significant tokens from rfl, hsplit]
  exact hall _ rest

theorem program_append {first second : List Token} (hopen : ∀ token ∈ first, token.isEof = false)
    (hends : ∃ token ∈ first.getLast?, token.kind = .semicolon) :
    (ofTokens (first ++ second)).program.1 =
      (ofTokens first).program.1 ++ (ofTokens second).program.1 := by
  obtain ⟨clauses, rest, hsplit, hclauses, hrest⟩ := Statement.exists_clauses first
  obtain rfl := rest_of_ends hends hsplit hrest
  rw [List.append_nil] at hsplit
  obtain ⟨results, _, hall⟩ := Statement.readAll_clauses hclauses
  have halone : (ofTokens first).program.1 = results := by
    have hfirst : significant first = clauses.flatten ++ [] := by
      simpa [significant, hsplit] using significant_append hopen []
    rw [program_of_clauses hall hfirst, Statement.readAll, List.append_nil]
  have hboth : significant (first ++ second) = clauses.flatten ++ significant second := by
    rw [significant_append hopen, hsplit]
  rw [program_of_clauses hall hboth, halone]
  congr 1
  by_cases hne : second = []
  · simp [hne, significant, program, ofTokens, Statement.readAll]
  · rw [last_append hopen hne]
    rfl

/-- Reading a program is local to its clauses. Behind tokens that end with a semicolon, and hold no
end of the input, other tokens give what they give alone. In all tokens in front of the first end,
every clause gives one statement and no error, or no statement and one error at one of its tokens,
and what is left behind the last semicolon, if anything, gives one error. -/
theorem program_clause_by_clause :
    (∀ first second : List Token, (∀ token ∈ first, token.isEof = false) →
      (∃ token ∈ first.getLast?, token.kind = .semicolon) →
      statements (first ++ second) = statements first ++ statements second ∧
        complaints (first ++ second) = complaints first ++ complaints second) ∧
    ∀ tokens : List Token, ∃ (clauses : List (List Token)) (rest : List Token)
        (results ending : List (Except SyntaxError Statement)),
      significant tokens = clauses.flatten ++ rest ∧
      (∀ clause ∈ clauses, Statement.Clause clause) ∧ (∀ token ∈ rest, token.kind ≠ .semicolon) ∧
      List.Forall₂ Statement.Yields clauses results ∧
      (rest = [] ∧ ending = [] ∨ rest ≠ [] ∧ ∃ error, ending = [.error error]) ∧
      statements tokens = valuesOf (results ++ ending) ∧
      complaints tokens = (errorsOf (results ++ ending)).map Diagnostic.ofSyntaxError := by
  constructor
  · intro first second hopen hends
    have happend : (ofTokens (first ++ second)).program.1 = _ := program_append hopen hends
    simp only [statements, complaints, happend, valuesOf_append, errorsOf_append, List.map_append,
      and_self]
  · intro tokens
    obtain ⟨clauses, rest, hsplit, hclauses, hrest⟩ := Statement.exists_clauses (significant tokens)
    obtain ⟨results, hyields, hall⟩ := Statement.readAll_clauses hclauses
    have hprogram := program_of_clauses hall hsplit
    refine ⟨clauses, rest, results, _, hsplit, hclauses, hrest, hyields, ?_,
      congrArg valuesOf hprogram,
      congrArg (fun items => (errorsOf items).map Diagnostic.ofSyntaxError) hprogram⟩
    by_cases hne : rest = []
    · exact Or.inl ⟨hne, by rw [hne, Statement.readAll]⟩
    · exact Or.inr ⟨hne, Statement.readAll_unfinished hne hrest _⟩

/-- An operator without operands, and its semicolon. -/
def badClause : List Token := [⟨.plus, "+", none, 1, 1⟩, ⟨.semicolon, ";", none, 1, 2⟩]

/-- A statement with its semicolon. -/
def goodClause : List Token := [⟨.nilKeyword, "nil", none, 1, 3⟩, ⟨.semicolon, ";", none, 1, 6⟩]

theorem badClause_goodClause :
    statements (badClause ++ goodClause) = statements badClause ++ statements goodClause ∧
      complaints (badClause ++ goodClause) = complaints badClause ++ complaints goodClause ∧
      statements badClause = [] ∧ complaints goodClause = [] := by
  have hboth := program_clause_by_clause.1 badClause goodClause (by decide) ⟨_, rfl, rfl⟩
  refine ⟨hboth.1, hboth.2, by decide +kernel, by decide +kernel⟩

end Parser

end ExprLang
