import ExprLang.Diagnostic
import ExprLang.Proofs.Parser.Completeness
import Mathlib.Data.List.TakeWhile

/-!
What a parser answers when it is asked for an expression. The tokens that count are those in front of
the first end of the input. The answer is a tree exactly if those tokens derive it and it respects
precedence; there is no other way to get a tree, and where there is none the answer is one error.
-/
set_option autoImplicit false

namespace ExprLang.Parser

/-- The tokens in front of the first end of the input. -/
def significant (tokens : List Token) : List Token := tokens.takeWhile (!·.isEof)

theorem not_eof_of_mem_significant {tokens : List Token} :
    ∀ token ∈ significant tokens, token.isEof = false :=
  fun _ htoken => by simpa using List.mem_takeWhile_imp htoken

theorem significant_append {front : List Token} (h : ∀ token ∈ front, token.isEof = false)
    (more : List Token) : significant (front ++ more) = front ++ significant more :=
  List.takeWhile_append_of_pos fun token htoken => by simp [h token htoken]

theorem significant_closed {tokens : List Token} {closing : Token}
    (h : ∀ token ∈ tokens, token.isEof = false) (hclosing : closing.isEof = true) :
    significant (tokens ++ [closing]) = tokens := by
  rw [significant_append h]
  simp [significant, hclosing]

theorem significant_of_derives {words : List Token} {e : Expr} (h : Derives words e) :
    significant words = words := by
  refine List.takeWhile_eq_self_iff.mpr fun token htoken => ?_
  rw [h.not_eof token htoken]
  rfl

theorem parse_eq_ok_iff (tokens : List Token) (e : Expr) :
    (ofTokens tokens).parse.1 = .ok e ↔ Derives (significant tokens) e ∧ e.WellFormed := by
  rw [← Expr.read_eq_ok_iff]
  have hpending : (ofTokens tokens).pending = significant tokens := rfl
  rw [parse, hpending]
  rcases Expr.read (significant tokens) with ⟨result, rest⟩
  cases result with
  | error expected => simp
  | ok whole =>
    by_cases hrest : rest = []
    · simp [hrest]
    · simp [hrest]

/-- A tree is answered without an error, and the lack of one with exactly one. -/
theorem ask_expression (parser : Parser) :
    match parser.parse.1 with
    | .ok e => (parser.ask .expression).1 = .expression (some e) ∧
        (parser.ask .expression).2.1 = []
    | .error error => (parser.ask .expression).1 = .expression none ∧
        (parser.ask .expression).2.1 = [error] := by
  rw [ask]
  rcases parser.parse with ⟨result, after⟩
  cases result with
  | ok e => exact ⟨rfl, rfl⟩
  | error error => exact ⟨rfl, rfl⟩

/-- A new parser answers with a tree, and without an error, exactly if the tokens in front of the
first end of the input derive the tree and the tree respects precedence. They derive at most one
such tree; if they derive none, the answer is no tree and one diagnostic of the syntax. Tokens that
derive a tree which respects precedence are themselves answered with it. -/
theorem expression_accepted_iff_derived (tokens : List Token) :
    (∀ e, ((ofTokens tokens).ask .expression).1 = .expression (some e) ∧
        ((ofTokens tokens).ask .expression).2.1 = [] ↔
      Derives (significant tokens) e ∧ e.WellFormed) ∧
    ((¬ ∃ e, Derives (significant tokens) e ∧ e.WellFormed) →
      ((ofTokens tokens).ask .expression).1 = .expression none ∧
      ∃ diagnostic : Diagnostic, diagnostic.phase = .syntactic ∧
        ((ofTokens tokens).ask .expression).2.1.map Diagnostic.ofSyntaxError = [diagnostic]) ∧
    (∀ first second, Derives (significant tokens) first → first.WellFormed →
      Derives (significant tokens) second → second.WellFormed → first = second) ∧
    (∀ e, Derives tokens e → e.WellFormed →
      ((ofTokens tokens).ask .expression).1 = .expression (some e)) := by
  have hiff := parse_eq_ok_iff tokens
  have hask := ask_expression (ofTokens tokens)
  have haccept : ∀ e, ((ofTokens tokens).ask .expression).1 = .expression (some e) ∧
      ((ofTokens tokens).ask .expression).2.1 = [] ↔
      Derives (significant tokens) e ∧ e.WellFormed := by
    intro e
    rw [← hiff]
    cases hparse : (ofTokens tokens).parse.1 with
    | ok whole =>
      rw [hparse] at hask
      rw [hask.1, hask.2]
      simp
    | error error =>
      rw [hparse] at hask
      rw [hask.1, hask.2]
      simp
  refine ⟨haccept, ?_, ?_, ?_⟩
  · intro hnone
    cases hparse : (ofTokens tokens).parse.1 with
    | ok whole => exact absurd ⟨whole, (hiff whole).mp hparse⟩ hnone
    | error error =>
      rw [hparse] at hask
      refine ⟨hask.1, Diagnostic.ofSyntaxError error, rfl, ?_⟩
      rw [hask.2]
      rfl
  · intro first second hfirst hformed hsecond hformed'
    have h := (hiff first).mpr ⟨hfirst, hformed⟩
    rw [(hiff second).mpr ⟨hsecond, hformed'⟩] at h
    exact (Except.ok.inj h).symm
  · intro e hderives hformed
    refine ((haccept e).mpr ⟨?_, hformed⟩).1
    rw [significant_of_derives hderives]
    exact hderives

end ExprLang.Parser
