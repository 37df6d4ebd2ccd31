import ExprLang.Proofs.Number.Bits
import ExprLang.Proofs.Number.Nearest
import ExprLang.Proofs.Outcome
import ExprLang.Proofs.Scan.Numerals
import ExprLang.Text.IdentifierTables

/-!
Values that are printed and read again. The line that evaluating an expression prints is an
expression too, unless it is the text of a string or of a number that is not finite, and its value is
printed as the same line. For a number this takes the whole way round: its digits are one token of
the language, they are read as the magnitude they were written for, and the sign, which no number
has, comes back as the operator in front of it.
-/
set_option autoImplicit false

namespace ExprLang

/-- A finite number, a truth value or nil. -/
def Value.IsPlain : Value → Prop
  | .number value => Binary64.magnitude value < Binary64.infinity
  | .string _ => False
  | .boolean _ => True
  | .nil => True

/-- The value of the expression, if the text is one and it has a value. -/
def Scan.value? (scan : Scan) : Option Value :=
  match (Parser.ofTokens scan.tokens).parse.1 with
  | .error _ => none
  | .ok e => if scan.errors = [] then e.evaluate.toOption else none

/-! ## Evaluating a text -/

namespace Scan

variable {scan : Scan} {value : Value}

theorem report_eq_nil_iff : scan.report = [] ↔ scan.errors = [] := List.map_eq_nil_iff

theorem evaluate_of_value? (h : scan.value? = some value) :
    scan.evaluate = ⟨[value.resultText], []⟩ := by
  rw [value?] at h
  rw [evaluate]
  cases hparse : (Parser.ofTokens scan.tokens).parse.1 with
  | error error => simp [hparse] at h
  | ok e =>
    by_cases herrors : scan.errors = []
    · simp only [hparse, if_pos herrors] at h
      simp only [if_pos (report_eq_nil_iff.mpr herrors)]
      cases hvalue : e.evaluate with
      | ok found =>
        rw [hvalue] at h
        rw [Option.some.inj h]
      | error failure =>
        rw [hvalue] at h
        cases h
    · simp [hparse, herrors] at h

/-- A text that is evaluated without a finding has a value, which is printed. -/
theorem exists_value? (h : scan.evaluate.exitCode = 0) : ∃ value, scan.value? = some value := by
  obtain ⟨_, hreports⟩ := scan.outcome_reports .evaluate
  have hnone : scan.evaluate.diagnostics = [] := hreports.exitCode_zero.mp h
  rw [evaluate] at hnone
  rw [value?]
  cases hparse : (Parser.ofTokens scan.tokens).parse.1 with
  | error error => simp [hparse] at hnone
  | ok e =>
    by_cases hreport : scan.report = []
    · simp only [hparse, if_pos hreport] at hnone
      cases hvalue : e.evaluate with
      | ok value => exact ⟨value, by simp [report_eq_nil_iff.mp hreport, hvalue, Except.toOption]⟩
      | error failure => simp [hvalue] at hnone
    · simp [hparse, hreport] at hnone

theorem value?_of_derives {e : Expr} (herrors : scan.errors = [])
    (hderives : Derives (Parser.significant scan.tokens) e) (hformed : e.WellFormed)
    (hvalue : e.evaluate = .ok value) : scan.value? = some value := by
  have hparse := (Parser.parse_eq_ok_iff _ _).mpr ⟨hderives, hformed⟩
  simp only [value?, hparse, if_pos herrors, hvalue]
  rfl

end Scan

theorem Number.result_of_finite {x : Float} (h : Binary64.magnitude x < Binary64.infinity) :
    result x = String.ofList
      (if Binary64.isNegative x then '-' :: (Binary64.shortest (Binary64.magnitude x)).positional
      else (Binary64.shortest (Binary64.magnitude x)).positional) := by
  simp only [result, signed, if_neg (Nat.not_lt.mpr (Nat.le_of_lt h)), if_neg (Nat.ne_of_lt h)]

section

variable [IdentifierClasses]

theorem significant_scan (text : String) :
    Parser.significant (scan text).tokens = (scan text).tokens.dropLast := by
  obtain ⟨pieces, rest, -, htokens, -⟩ := scanWith_cut Automaton.standard text
  have hclosed : (scan text).tokens = (scan text).tokens.dropLast ++
      [Token.eof (Source.ofText text).endPosition] := by
    rw [scan, htokens, List.dropLast_concat]
  conv_lhs => rw [hclosed]
  exact Parser.significant_closed (fun _ => not_eof_of_mem) rfl

/-! ## Numbers -/

variable {lexeme : List Char}

/-- A number is evaluated to itself, and with a minus sign in front of it to its negative. -/
theorem value?_number (h : IsNumber lexeme) :
    (scan (String.ofList lexeme)).value? =
        some (.number (Binary64.ofDecimal (Decimal.ofLexeme lexeme))) ∧
      (scan (String.ofList ('-' :: lexeme))).value? =
        some (.number (-Binary64.ofDecimal (Decimal.ofLexeme lexeme))) := by
  have hread : ∀ {token : Token} {value : Float},
      token.content = (.number, String.ofList lexeme, some (.number value)) →
      Derives [token] (.constant (.number value)) := by
    intro token value hcontent
    simp only [Token.content, Prod.mk.injEq] at hcontent
    exact .literal token (.number value) (.inl hcontent.1) hcontent.2.2
  obtain ⟨⟨herrors, hcontents⟩, hsigned, hcontents'⟩ := scan_number h
  generalize Binary64.ofDecimal (Decimal.ofLexeme lexeme) = x at hcontents hcontents' ⊢
  constructor
  · obtain ⟨token, htokens, hcontent⟩ := List.map_eq_singleton_iff.mp hcontents
    refine Scan.value?_of_derives herrors ?_ ⟨.primary, .constant _⟩ rfl
    rw [significant_scan, htokens]
    exact hread hcontent
  · obtain ⟨operator, tokens, htokens, hoperator, hrest⟩ := List.map_eq_cons_iff.mp hcontents'
    obtain ⟨token, rfl, hcontent⟩ := List.map_eq_singleton_iff.mp hrest
    simp only [Token.content, Prod.mk.injEq] at hoperator
    have hformed : Expr.WellFormed (.unary operator (.constant (.number x))) :=
      ⟨.unary, .unary .primary operator _ (.constant _) (by decide)⟩
    refine Scan.value?_of_derives hsigned ?_ hformed ?_
    · rw [significant_scan, htokens]
      exact .unary operator _ _ (.inr hoperator.1) (hread hcontent)
    · show operator.applyUnary (.number _) = _
      simp only [Token.applyUnary, hoperator.1]

namespace Number

/-- The text of a finite number is evaluated to a number with the same text. -/
theorem exists_value?_result {x : Float} (h : Binary64.magnitude x < Binary64.infinity) :
    ∃ y, (scan (result x)).value? = some (.number y) ∧ result y = result x := by
  let bits := Binary64.magnitude x
  obtain ⟨⟨hmagnitude, hpositive⟩, hmagnitude', hnegative⟩ := Binary64.magnitude_ofMagnitude h
  have hread : Binary64.ofDecimal (Decimal.ofLexeme (Binary64.shortest bits).positional) =
      Binary64.ofMagnitude bits := Binary64.ofDecimal_ofLexeme_positional (Nat.le_of_lt h)
  obtain ⟨hvalue, hvalue'⟩ := value?_number (Decimal.isNumber_positional (Binary64.shortest bits))
  rw [hread] at hvalue hvalue'
  rw [result_of_finite h]
  by_cases hsign : Binary64.isNegative x = true
  · rw [if_pos hsign]
    refine ⟨_, hvalue', ?_⟩
    rw [result_of_finite (hmagnitude'.trans_lt h), hmagnitude', if_pos hnegative]
  · rw [if_neg hsign]
    refine ⟨_, hvalue, ?_⟩
    rw [result_of_finite (hmagnitude.trans_lt h), hmagnitude, if_neg (by simp [hpositive])]

end Number

end

/-! ## Values -/

/-- The text of a plain value is evaluated to a value with the same text. -/
theorem Value.exists_value?_resultText {value : Value} (h : value.IsPlain) :
    ∃ again, (scan value.resultText).value? = some again ∧ again.resultText = value.resultText := by
  cases value with
  | number x =>
    obtain ⟨y, hvalue, htext⟩ := Number.exists_value?_result h
    exact ⟨.number y, hvalue, htext⟩
  | string text => exact h.elim
  | boolean value => cases value <;> exact ⟨_, by decide +kernel, rfl⟩
  | nil => exact ⟨.nil, by decide +kernel, rfl⟩

/-- A text that is evaluated with exit code 0 has a value and prints it, and if this is a finite
number, a truth value or nil, then evaluating the printed line reports nothing and prints it again. -/
theorem evaluate_printed_again (source : String)
    (h : (execute Automaton.standard .evaluate source).exitCode = 0) :
    ∃ value, (scan source).value? = some value ∧
      execute Automaton.standard .evaluate source = ⟨[value.resultText], []⟩ ∧
      (value.IsPlain →
        let again := execute Automaton.standard .evaluate value.resultText
        again.exitCode = 0 ∧ again = ⟨[value.resultText], []⟩) := by
  obtain ⟨value, hvalue⟩ := Scan.exists_value? h
  refine ⟨value, hvalue, Scan.evaluate_of_value? hvalue, fun hplain => ?_⟩
  obtain ⟨other, hother, htext⟩ := Value.exists_value?_resultText hplain
  have hagain : execute Automaton.standard .evaluate value.resultText = _ :=
    Scan.evaluate_of_value? hother
  rw [htext] at hagain
  intro again
  rw [show again = _ from hagain]
  exact ⟨rfl, rfl⟩

/-- The rounded sum is printed with all the digits that tell it from its neighbours, and its sign
comes back as an operator. -/
theorem negatedSum_printed_again :
    (execute Automaton.standard .evaluate "-(0.1 + 0.2)").exitCode = 0 ∧
      execute Automaton.standard .evaluate "-(0.1 + 0.2)" = ⟨["-0.30000000000000004"], []⟩ ∧
      execute Automaton.standard .evaluate "-0.30000000000000004" =
        ⟨["-0.30000000000000004"], []⟩ := by
  have hprinted : execute Automaton.standard .evaluate "-(0.1 + 0.2)" =
      ⟨["-0.30000000000000004"], []⟩ := by decide +kernel
  have hexit : (execute Automaton.standard .evaluate "-(0.1 + 0.2)").exitCode = 0 := by
    rw [hprinted]
    rfl
  have hfound : (scan "-(0.1 + 0.2)").value? =
      some (.number (Float.ofBits 0xbfd3333333333334)) := by decide +kernel
  obtain ⟨value, hvalue, hline, hagain⟩ := evaluate_printed_again _ hexit
  have htext : value.resultText = "-0.30000000000000004" := by
    rw [hprinted] at hline
    simpa using (congrArg Outcome.stdout hline).symm
  have hplain : value.IsPlain := by
    rw [Option.some.inj (hvalue.symm.trans hfound)]
    show Binary64.magnitude _ < Binary64.infinity
    decide +kernel
  rw [htext] at hagain
  exact ⟨hexit, hprinted, (hagain hplain).2⟩

end ExprLang
