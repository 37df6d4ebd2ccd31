import ExprLang.Proofs.Parser.ErrorPlace
import ExprLang.Proofs.Parser.Moments
import ExprLang.Proofs.Parser.Recovery

/-!
What a call of a parser does to its place. A question is answered by going through the tokens one at a
time, from the place where the last question left the parser. Every call returns, never goes back,
never gets beyond the first end of the input, and gets on from each statement of a program to the
next. So no tokens behind the first end are ever looked at, and other tokens in their place change
nothing.
-/
set_option autoImplicit false

namespace ExprLang.Parser

/-- The place of the first end of the input. -/
def firstEnd (tokens : List Token) : Nat := (closed tokens).findIdx Token.isEof

/-- At the place the tokens that are pending are ahead. -/
def Ahead (tokens : List Token) (place : Nat) (pending : List Token) : Prop :=
  ∃ taken, significant tokens = taken ++ pending ∧ taken.length = place

/-- The moment when a parser at a place is asked. -/
def Moment.asked (place : Nat) : Question → Moment
  | .expression => ⟨place, .reading .answer [] none⟩
  | .program => ⟨place, .between []⟩

/-- How a parser at one place gets to an answer at another. -/
structure Call (tokens : List Token) (place : Nat) (question : Question) (answer : Answer)
    (errors : List SyntaxError) (after : Nat) : Prop where
  /-- The call comes to its answer, whichever moment of it is looked at. -/
  returns : ∀ moment, (Moment.asked place question).Leads (closed tokens) moment →
    moment.Leads (closed tokens) ⟨after, .answered answer errors⟩
  /-- At every moment the place is one of the token list, not behind the first end. -/
  within : ∀ moment, (Moment.asked place question).Leads (closed tokens) moment →
    place ≤ moment.position ∧ moment.position ≤ firstEnd tokens ∧
      moment.position < (closed tokens).length
  /-- No moment is followed by one with an earlier place. -/
  forward : ∀ moment next, (Moment.asked place question).Leads (closed tokens) moment →
    moment.Leads (closed tokens) next → moment.position ≤ next.position
  /-- From one time between statements to the next, tokens are taken. -/
  rounds : ∀ first second items items',
    (Moment.asked place question).Leads (closed tokens) ⟨first, .between items⟩ →
    Relation.TransGen (Moment.StepsTo (closed tokens)) ⟨first, .between items⟩
      ⟨second, .between items'⟩ → first < second
  /-- A program is read to the first end. -/
  program_end : question = .program → after = firstEnd tokens
  /-- The lack of an expression is one error, and an expression is none. -/
  one_error : question = .expression →
    answer = .expression none ∧ errors.length = 1 ∨
      ∃ e, answer = .expression (some e) ∧ errors = []

variable {tokens pending : List Token} {place : Nat}

/-! ## The first end -/

theorem firstEnd_eq (tokens : List Token) : firstEnd tokens = (significant tokens).length := by
  obtain ⟨behind, hclosed⟩ := closed_eq tokens
  have hopen : ∀ token ∈ significant tokens, token.isEof = false := not_eof_of_mem_significant
  have hfront : ¬ (significant tokens).findIdx Token.isEof < (significant tokens).length := by
    rw [List.findIdx_eq_length_of_false hopen]
    exact Nat.lt_irrefl _
  rw [firstEnd, hclosed, List.findIdx_append, if_neg hfront, List.findIdx_cons, isEof_last]
  exact Nat.zero_add _

theorem firstEnd_lt (tokens : List Token) : firstEnd tokens < (closed tokens).length := by
  obtain ⟨behind, hclosed⟩ := closed_eq tokens
  rw [firstEnd_eq, hclosed]
  simp

/-! ## What is ahead -/

namespace Ahead

theorem getElem? (h : Ahead tokens place pending) :
    (closed tokens)[place]? = some (pending.headD (ofTokens tokens).last) := by
  obtain ⟨taken, hsplit, rfl⟩ := h
  obtain ⟨behind, hclosed⟩ := closed_eq tokens
  rw [hclosed, hsplit]
  cases pending <;> simp

theorem all_not_eof (h : Ahead tokens place pending) : ∀ token ∈ pending, token.isEof = false := by
  obtain ⟨taken, hsplit, _⟩ := h
  intro token hin
  exact not_eof_of_mem_significant token (hsplit ▸ List.mem_append_right taken hin)

theorem next {token : Token} {rest : List Token} (h : Ahead tokens place (token :: rest)) :
    Ahead tokens (place + 1) rest := by
  obtain ⟨taken, hsplit, rfl⟩ := h
  exact ⟨taken ++ [token], by simp [hsplit], by simp⟩

theorem position_eq (h : Ahead tokens place pending) (last : Token) :
    position tokens ⟨pending, last⟩ = place := by
  obtain ⟨taken, hsplit, rfl⟩ := h
  simp [position, hsplit]

theorem le_firstEnd (h : Ahead tokens place pending) : place ≤ firstEnd tokens := by
  obtain ⟨taken, hsplit, rfl⟩ := h
  rw [firstEnd_eq, hsplit]
  simp

theorem at_firstEnd (tokens : List Token) : Ahead tokens (firstEnd tokens) [] :=
  ⟨significant tokens, (List.append_nil _).symm, (firstEnd_eq tokens).symm⟩

theorem eq_firstEnd (h : Ahead tokens place []) : place = firstEnd tokens := by
  obtain ⟨taken, hsplit, rfl⟩ := h
  rw [firstEnd_eq, hsplit, List.append_nil]

end Ahead

theorem Ahead.step (h : Ahead tokens place pending) {task task' : Task} {taken : Nat}
    (hact : task.act (pending.headD (ofTokens tokens).last) = some (taken, task')) :
    Moment.StepsTo (closed tokens) ⟨place, task⟩ ⟨place + taken, task'⟩ :=
  Moment.step_eq_some_iff.mpr ⟨_, _, _, h.getElem?, hact, rfl⟩

/-! ## Runs of one kind of task -/

/-- Reading an expression goes through the tokens that the reader takes. -/
theorem reading_run (purpose : Purpose) (pending : List Token) :
    ∀ {frames : List Frame} {operand : Option Expr} {place : Nat} {result : Except Expectation Expr}
      {rest : List Token}, Ahead tokens place pending →
      Expr.readFrom frames operand pending = (result, rest) →
      ∃ place', Ahead tokens place' rest ∧
        Moment.Leads (closed tokens) ⟨place, .reading purpose frames operand⟩
          ⟨place' + (purpose.settle (rest.headD (ofTokens tokens).last) result).1,
            (purpose.settle (rest.headD (ofTokens tokens).last) result).2⟩ := by
  induction pending with
  | nil =>
    intro frames operand place result rest hahead hread
    -- The end itself is ahead, and it stops an expression as the lack of tokens does.
    have hrest := Expr.readFrom_nil_rest frames operand
    rw [hread] at hrest
    subst hrest
    have hlook := Expr.look_of_stop (Or.inr (isEof_last tokens)) frames operand
    rw [hread] at hlook
    exact ⟨place, hahead, .single (hahead.step (by simp [Task.act, hlook]))⟩
  | cons token pending ih =>
    intro frames operand place result rest hahead hread
    rw [Expr.readFrom_cons] at hread
    cases hlook : Expr.look frames operand token with
    | takes frames' operand' =>
      rw [hlook] at hread
      obtain ⟨place', hahead', hrun⟩ := ih hahead.next hread
      exact ⟨place', hahead', .head (hahead.step (by simp [Task.act, hlook])) hrun⟩
    | stops found =>
      rw [hlook] at hread
      cases hread
      exact ⟨place, hahead, .single (hahead.step (by simp [Task.act, hlook]))⟩

/-- Skipping goes behind the next semicolon, or to the end. -/
theorem skipping_run (items : List (Except SyntaxError Statement)) (pending : List Token) :
    ∀ {place : Nat}, Ahead tokens place pending →
      ∃ place', Ahead tokens place' (Statement.afterSemicolon pending) ∧
        Moment.Leads (closed tokens) ⟨place, .skipping items⟩ ⟨place', .between items⟩ := by
  induction pending with
  | nil =>
    intro place hahead
    have hact : (Task.skipping items).act (ofTokens tokens).last = some (0, .between items) := by
      simp [Task.act, isEof_last]
    exact ⟨place, hahead, .single (hahead.step hact)⟩
  | cons token pending ih =>
    intro place hahead
    have hopen := hahead.all_not_eof token List.mem_cons_self
    rw [Statement.afterSemicolon]
    by_cases hkind : token.kind = .semicolon
    · have hact : (Task.skipping items).act token = some (1, .between items) := by
        simp [Task.act, hopen, hkind]
      rw [if_pos hkind]
      exact ⟨place + 1, hahead.next, .single (hahead.step hact)⟩
    · have hact : (Task.skipping items).act token = some (1, .skipping items) := by
        simp [Task.act, hopen, hkind]
      rw [if_neg hkind]
      obtain ⟨place', hahead', hrun⟩ := ih hahead.next
      exact ⟨place', hahead', .head (hahead.step hact) hrun⟩

/-! ## One statement, and all of them -/

theorem settle_statement (items : List (Except SyntaxError Statement))
    {result : Except Expectation Expr} {left : List Token} {last : Token}
    (hexpr : Expr.read pending = (result, left)) (hlast : last.isEof = true) :
    (∃ statement semicolon rest, left = semicolon :: rest ∧
      Statement.read pending = (.ok statement, rest) ∧
      (Purpose.statement items).settle (left.headD last) result =
        (1, .between (items ++ [.ok statement]))) ∨
    ∃ expected, Statement.read pending = (.error expected, left) ∧
      (Purpose.statement items).settle (left.headD last) result =
        (0, .skipping (items ++ [.error ⟨left.headD last, expected⟩])) := by
  rcases Statement.read_of_expr hexpr with
    ⟨e, semicolon, rest, rfl, rfl, hkind, hread⟩ | ⟨expected, hread, rfl | ⟨rfl, ⟨e, rfl⟩, hkind⟩⟩
  · exact Or.inl ⟨⟨e⟩, semicolon, rest, rfl, hread, if_pos hkind⟩
  · exact Or.inr ⟨expected, hread, rfl⟩
  · refine Or.inr ⟨.semicolon, hread, if_neg ?_⟩
    cases left with
    | nil =>
      intro hsemicolon
      rw [List.headD_nil] at hsemicolon
      simp [Token.isEof, hsemicolon] at hlast
    | cons token rest => exact hkind token rfl

/-- A round finds the next item of a program, and stops where the next one begins. -/
theorem round_run (items : List (Except SyntaxError Statement)) {token : Token} {rest : List Token}
    (hahead : Ahead tokens place (token :: rest)) :
    ∃ place' item, Ahead tokens place' (Statement.resume (Statement.read (token :: rest))) ∧
      Statement.readAll (ofTokens tokens).last (token :: rest) =
        item :: Statement.readAll (ofTokens tokens).last
          (Statement.resume (Statement.read (token :: rest))) ∧
      Moment.Leads (closed tokens) ⟨place, .between items⟩ ⟨place', .between (items ++ [item])⟩ := by
  have hne : token :: rest ≠ [] := List.cons_ne_nil token rest
  have hbegin : (Task.between items).act token = some (0, .reading (.statement items) [] none) := by
    simp [Task.act, hahead.all_not_eof token List.mem_cons_self]
  have hfirst := hahead.step hbegin
  rcases hexpr : Expr.read (token :: rest) with ⟨result, left⟩
  obtain ⟨stop, hstop, hrun⟩ := reading_run (.statement items) (token :: rest) hahead hexpr
  rcases settle_statement items hexpr (isEof_last tokens) with
    ⟨statement, semicolon, behind, rfl, hread, hsettle⟩ | ⟨expected, hread, hsettle⟩
  · rw [hsettle] at hrun
    rw [hread, Statement.readAll_of_ok hne hread]
    exact ⟨stop + 1, _, hstop.next, rfl, .head hfirst hrun⟩
  · rw [hsettle] at hrun
    obtain ⟨place', hahead', hskip⟩ := skipping_run _ left hstop
    rw [hread, Statement.readAll_of_error hne hread]
    exact ⟨place', _, hahead', rfl, .head hfirst (hrun.trans hskip)⟩

/-- Between statements a parser gets to the end, and answers with all items. -/
theorem between_run (pending : List Token) :
    ∀ (items : List (Except SyntaxError Statement)) {place : Nat}, Ahead tokens place pending →
      let all := items ++ Statement.readAll (ofTokens tokens).last pending
      Moment.Leads (closed tokens) ⟨place, .between items⟩
        ⟨firstEnd tokens, .answered (.program (valuesOf all)) (errorsOf all)⟩ := by
  induction pending using Statement.readAll.induct (ofTokens tokens).last with
  | case1 =>
    intro items place hahead
    have hact : (Task.between items).act (ofTokens tokens).last =
        some (0, .answered (.program (valuesOf items)) (errorsOf items)) := by
      simp [Task.act, isEof_last]
    rw [Statement.readAll, List.append_nil, ← hahead.eq_firstEnd]
    exact .single (hahead.step hact)
  | case2 token rest _ ih =>
    intro items place hahead
    obtain ⟨place', item, hahead', hall, hround⟩ := round_run items hahead
    have hlater := ih (items ++ [item]) hahead'
    rw [List.append_assoc, List.singleton_append, ← hall] at hlater
    exact hround.trans hlater

/-! ## Calls -/

theorem settle_answer {parser : Parser} {result : Except Expectation Expr} {left : List Token}
    (hread : Expr.read parser.pending = (result, left)) (hlast : parser.last.isEof = true)
    (hleft : ∀ token ∈ left, token.isEof = false) :
    (parser.ask .expression).2.2 = ⟨left, parser.last⟩ ∧
      Purpose.answer.settle (left.headD parser.last) result =
        (0, .answered (parser.ask .expression).1 (parser.ask .expression).2.1) := by
  rcases ask_expression_cases hread with
    ⟨e, rfl, rfl, hask⟩ | ⟨expected, hask, rfl | ⟨rfl, ⟨e, rfl⟩, hrest⟩⟩
  · rw [hask]
    exact ⟨rfl, if_pos hlast⟩
  · rw [hask]
    exact ⟨rfl, rfl⟩
  · rw [hask]
    obtain ⟨token, rest, rfl⟩ := List.exists_cons_of_ne_nil hrest
    have hopen := hleft token List.mem_cons_self
    exact ⟨rfl, if_neg (by simp [hopen])⟩

/-- Every question is answered in a run from where the parser stands to where it is left. -/
theorem ask_run {parser : Parser} (hahead : Ahead tokens place parser.pending)
    (hlast : parser.last = (ofTokens tokens).last) (question : Question) :
    ∃ after, Ahead tokens after (parser.ask question).2.2.pending ∧
      (Moment.asked place question).Leads (closed tokens)
        ⟨after, .answered (parser.ask question).1 (parser.ask question).2.1⟩ := by
  cases question with
  | program =>
    have hrun := between_run parser.pending [] hahead
    rw [← hlast] at hrun
    exact ⟨firstEnd tokens, Ahead.at_firstEnd tokens, hrun⟩
  | expression =>
    rcases hread : Expr.read parser.pending with ⟨result, left⟩
    obtain ⟨after, hafter, hrun⟩ := reading_run .answer parser.pending hahead hread
    rw [← hlast] at hrun
    obtain ⟨hparser, hsettle⟩ := settle_answer hread (hlast ▸ isEof_last tokens) hafter.all_not_eof
    rw [hsettle] at hrun
    rw [hparser]
    exact ⟨after, hafter, hrun⟩

theorem ask_last (parser : Parser) (question : Question) :
    (parser.ask question).2.2.last = parser.last := by
  cases question with
  | program => rfl
  | expression =>
    rcases hread : Expr.read parser.pending with ⟨result, left⟩
    rcases ask_expression_cases hread with ⟨e, -, -, hask⟩ | ⟨expected, hask, -⟩
    · rw [hask]
    · rw [hask]

theorem askAll_ahead (questions : List Question) :
    ∀ {parser : Parser} {place : Nat}, Ahead tokens place parser.pending →
      parser.last = (ofTokens tokens).last →
      (∃ after, Ahead tokens after (parser.askAll questions).2.2.pending) ∧
        (parser.askAll questions).2.2.last = (ofTokens tokens).last := by
  induction questions with
  | nil => exact fun hahead hlast => ⟨⟨_, hahead⟩, hlast⟩
  | cons question questions ih =>
    intro parser place hahead hlast
    obtain ⟨after, hafter, _⟩ := ask_run hahead hlast question
    exact ih hafter ((parser.ask_last question).trans hlast)

theorem ask_call {parser : Parser} (hahead : Ahead tokens place parser.pending)
    (hlast : parser.last = (ofTokens tokens).last) (question : Question) :
    Call tokens place question (parser.ask question).1 (parser.ask question).2.1
      (position tokens (parser.ask question).2.2) := by
  obtain ⟨after, hafter, hrun⟩ := ask_run hahead hlast question
  have hstart : (Moment.asked place question).position = place := by cases question <;> rfl
  rw [hafter.position_eq]
  constructor
  case returns => exact fun moment hmoment => hrun.answered hmoment
  case within =>
    intro moment hmoment
    have hbounds := hmoment.position
    rw [hstart] at hbounds
    have hend : moment.position ≤ firstEnd tokens := hbounds.2 hahead.le_firstEnd
    exact ⟨hbounds.1, hend, hend.trans_lt (firstEnd_lt tokens)⟩
  case forward => exact fun moment next _ hnext => hnext.position.1
  case rounds => exact fun first second items items' _ hround => Moment.position_lt_of_rounds hround
  case program_end =>
    rintro rfl
    exact hafter.eq_firstEnd
  case one_error =>
    rintro rfl
    have hask := ask_expression parser
    cases hparse : parser.parse.1 with
    | ok e =>
      rw [hparse] at hask
      exact Or.inr ⟨e, hask⟩
    | error error =>
      rw [hparse] at hask
      exact Or.inl ⟨hask.1, by rw [hask.2]; rfl⟩

/-! ## Sessions -/

theorem ofTokens_append {last : Token} (hlast : last.isEof = true) (front behind other : List Token) :
    ofTokens (front ++ last :: behind) = ofTokens (front ++ last :: other) := by
  have htake : ∀ rest : List Token, (last :: rest).takeWhile (!·.isEof) = [] := by simp [hlast]
  have hfind : ∀ rest : List Token, (last :: rest).find? Token.isEof = some last := by simp [hlast]
  simp only [ofTokens, List.takeWhile_append, List.find?_append, htake, hfind, Option.or_some,
    Option.getD_some]

/-- A parser starts at the front of its tokens, among which there is an end. Whatever it has been
asked, and whether that failed or not, it looks at the token of its place, and the next call is made
from there. Other tokens behind the first end, or none, change no answer and no error. -/
theorem session_within_tokens (tokens : List Token) :
    position tokens (ofTokens tokens) = 0 ∧ firstEnd tokens < (closed tokens).length ∧
    (∀ questions question,
      let parser := ((ofTokens tokens).askAll questions).2.2
      let place := position tokens parser
      (closed tokens)[place]? = some parser.here ∧
        Call tokens place question (parser.ask question).1 (parser.ask question).2.1
          (position tokens (parser.ask question).2.2)) ∧
    ∀ front last behind, tokens = front ++ last :: behind → last.isEof = true →
      ∀ other questions,
        (ofTokens (front ++ last :: other)).askAll questions = (ofTokens tokens).askAll questions := by
  have hstart : Ahead tokens 0 (ofTokens tokens).pending := ⟨[], rfl, rfl⟩
  refine ⟨hstart.position_eq _, firstEnd_lt tokens, ?_, ?_⟩
  · intro questions question parser place
    obtain ⟨⟨after, hahead⟩, hlast⟩ := askAll_ahead questions hstart rfl
    have hplace : place = after := hahead.position_eq parser.last
    rw [← hplace] at hahead
    refine ⟨?_, ask_call hahead hlast question⟩
    rw [hahead.getElem?, here, hlast]
  · rintro front last behind rfl hend other questions
    rw [ofTokens_append hend front other behind]

end ExprLang.Parser
