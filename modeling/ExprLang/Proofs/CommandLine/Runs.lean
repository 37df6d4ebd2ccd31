import ExprLang.CommandLine.Effects
import ExprLang.Proofs.CommandLine.Jobs
import ExprLang.Proofs.Number.Decimal
import ExprLang.Proofs.Scan.Cutting
import ExprLang.Proofs.Scan.Numerals
import ExprLang.Text.IdentifierTables

/-!
What the program shows of a run. Whatever arguments ask for a command on a file, and however they are
written, standard output and the exit code are those of the command on the text of the file; the
options only decide whether the tokens are written to standard error in front of the diagnostics, one
token on one line, since nothing in the text of a token breaks a line. A file that cannot be read as
text gives no output and the exit code of faulty data.
-/
set_option autoImplicit false

namespace ExprLang.CommandLine

/-! ## Texts without line breaks -/

/-- The text does not break its line. -/
def OneLine (text : String) : Prop := '\n' ∉ text.toList

instance (text : String) : Decidable (OneLine text) := inferInstanceAs (Decidable (¬ _))

theorem OneLine.append {text more : String} (h : OneLine text) (hmore : OneLine more) :
    OneLine (text ++ more) := by
  rw [OneLine, String.toList_append, List.mem_append]
  exact fun hin => hin.elim h hmore

theorem break_notMem_toDigits {base : Nat} (hbase : 1 < base) (hle : base ≤ 16) (n : Nat) :
    '\n' ∉ Nat.toDigits base n := by
  have hdigit : ∀ digit < 16, '\n' ≠ Nat.digitChar digit := by decide
  induction n using Nat.strong_induction_on with
  | _ n ih =>
    rw [Nat.toDigits_eq_if hbase]
    split
    · rename_i hsmall
      rw [List.mem_singleton]
      exact hdigit n (by omega)
    · rename_i hlarge
      have hlast := Nat.mod_lt n (Nat.lt_trans Nat.one_pos hbase)
      rw [List.mem_append, List.mem_singleton]
      rintro (hin | hin)
      · exact ih (n / base) (Nat.div_lt_self (by omega) hbase) hin
      · exact hdigit (n % base) (by omega) hin

theorem oneLine_repr (n : Nat) : OneLine n.repr := by
  rw [OneLine, Nat.toList_repr]
  exact break_notMem_toDigits (by decide) (by decide) n

theorem oneLine_repr_int (k : Int) : OneLine k.repr := by
  have hminus : OneLine "-" := by decide
  cases k with
  | ofNat n => exact oneLine_repr n
  | negSucc n => exact hminus.append (oneLine_repr (n + 1))

theorem break_notMem_quotedChar (c : Char) : '\n' ∉ quotedChar c := by
  intro hin
  unfold quotedChar at hin
  split_ifs at hin with hquote hback hbreak hreturn htab hzero hplain
  · exact absurd hin (by decide)
  · exact absurd hin (by decide)
  · exact absurd hin (by decide)
  · exact absurd hin (by decide)
  · exact absurd hin (by decide)
  · exact absurd hin (by decide)
  · exact hbreak (List.mem_singleton.mp hin).symm
  · have hdigits := break_notMem_toDigits (show 1 < 16 by decide) (Nat.le_refl 16) c.toNat
    simp [hdigits] at hin

theorem oneLine_quoted (text : String) : OneLine (quoted text) := by
  rw [OneLine, quoted, String.toList_ofList]
  simp [break_notMem_quotedChar]

theorem break_notMem_isNumber {chars : List Char} (h : IsNumber chars) : '\n' ∉ chars := by
  intro hin
  rcases h.mem_cases '\n' hin with hdigit | hpoint
  · exact absurd hdigit (by decide)
  · exact absurd hpoint (by decide)

theorem break_notMem_scientific (d : Decimal) : '\n' ∉ d.scientific := by
  have hdigits := break_notMem_toDigits (show 1 < 10 by decide) (by decide) d.significand
  unfold Decimal.scientific
  split
  · exact List.not_mem_nil
  · rename_i first fraction hfirst
    rw [hfirst, List.mem_cons, not_or] at hdigits
    have hpower : '\n' ∉ (d.exponent + fraction.length).repr.toList := oneLine_repr_int _
    dsimp only
    split_ifs <;> simp [hdigits, hpower]

theorem oneLine_listed (x : Float) : OneLine (Number.listed x) := by
  have hpositional : ∀ d : Decimal, '\n' ∉ d.positional :=
    fun d => break_notMem_isNumber (Decimal.isNumber_positional d)
  unfold Number.listed Number.signed OneLine
  dsimp only
  split_ifs <;> simp [break_notMem_scientific, hpositional]

/-! ## The token dump -/

theorem oneLine_kindLabel (kind : Kind) : OneLine (kindLabel kind) := by
  have hall : ∀ kind ∈ Kind.all, OneLine (kindLabel kind) := by decide +kernel
  exact hall kind (Kind.mem_all kind)

theorem oneLine_literalLabel (literal : Option Literal) : OneLine (literalLabel literal) := by
  match literal with
  | none => decide
  | some (.number value) =>
    have hfront : OneLine "Some(Number(" := by decide
    exact (hfront.append (oneLine_listed value)).append (by decide)
  | some (.string text) =>
    have hfront : OneLine "Some(String(" := by decide
    exact (hfront.append (oneLine_quoted text)).append (by decide)

theorem oneLine_tokenLabel (token : Token) : OneLine (tokenLabel token) := by
  have hfront : OneLine "Token \x7b kind: " := by decide
  have hkind := (hfront.append (oneLine_kindLabel token.kind)).append
    (show OneLine ", lexeme: " by decide)
  have hlexeme := (hkind.append (oneLine_quoted token.lexeme)).append
    (show OneLine ", literal: " by decide)
  have hliteral := (hlexeme.append (oneLine_literalLabel token.literal)).append
    (show OneLine ", line: " by decide)
  have hline := (hliteral.append (oneLine_repr token.line)).append
    (show OneLine ", column: " by decide)
  exact (hline.append (oneLine_repr token.column)).append (show OneLine " \x7d" by decide)

/-- The lines are the dump of the tokens: a heading, one line for each token, and an empty line. -/
structure IsDump (tokens : List Token) (dump : List String) : Prop where
  eq : dump = "=== Tokens ===" :: tokens.map (fun token => "  " ++ tokenLabel token) ++ [""]
  oneLine : ∀ line ∈ dump, OneLine line

theorem isDump_dumpLines (tokens : List Token) : IsDump tokens (dumpLines tokens) := by
  refine ⟨rfl, fun line hline => ?_⟩
  have hblanks : OneLine "  " := by decide
  rcases List.mem_append.mp hline with hline | hlast
  · rcases List.mem_cons.mp hline with rfl | hline
    · decide
    · obtain ⟨token, -, rfl⟩ := List.mem_map.mp hline
      exact hblanks.append (oneLine_tokenLabel token)
  · rw [List.mem_singleton.mp hlast]
    decide

section

variable [IdentifierClasses]

/-! ## Runs -/

/-- The last token of every text is the end of the input, and no other one is. -/
theorem scan_tokens_eq (text : String) : ∃ front closing,
    (scan text).tokens = front ++ [closing] ∧ closing.isEof = true := by
  obtain ⟨pieces, rest, -, htokens, -⟩ := scanWith_cut Automaton.standard text
  exact ⟨_, _, htokens, rfl⟩

/-- The effects are those of a command on a text, with the dump in front of the diagnostics if it is
asked for. Of a verbose run nothing is said about standard error, since it may keep a log there. -/
structure Shows (effects : Effects) (invocation : Invocation) (text : String) : Prop where
  stdout_eq : effects.stdout =
    unlines (execute Automaton.standard invocation.command text).stdout
  exitCode_eq : effects.exitCode =
    (execute Automaton.standard invocation.command text).exitCode
  stderr_eq : invocation.isVerbose = false → ∃ dump,
    (if invocation.dumps then IsDump (scan text).tokens dump else dump = []) ∧
      effects.stderr = unlines (dump ++
        (execute Automaton.standard invocation.command text).diagnostics.map Diagnostic.message)

variable {read : String → Except ReadError ByteArray}

theorem Job.shows_onText (invocation : Invocation) (text : String) :
    Shows (invocation.job.onText text) invocation text := by
  refine ⟨rfl, rfl, fun _ => ⟨if invocation.dumps then dumpLines (scan text).tokens else [], ?_, rfl⟩⟩
  cases invocation.dumps with
  | true => exact isDump_dumpLines _
  | false => rfl

theorem run_of_valid {invocation : Invocation} (h : invocation.Valid)
    (read : String → Except ReadError ByteArray) :
    run read invocation.words = invocation.job.effects (read invocation.file) := by
  rw [run, (Request.ofArguments_eq_job_iff _ _).mpr ⟨invocation, h, rfl, rfl⟩]
  rfl

/-- Arguments are accepted as a job exactly if they are those of a valid invocation. If its file can
be read as a text, the run shows the command on that text; otherwise it prints nothing and has exit
code 65. -/
theorem run_shows_command (read : String → Except ReadError ByteArray) (arguments : List String) :
    ((∃ job, Request.ofArguments arguments = .ok (.job job)) ↔
      ∃ invocation : Invocation, invocation.Valid ∧ invocation.words = arguments) ∧
    ∀ invocation : Invocation, invocation.Valid → invocation.words = arguments →
      (∀ bytes text, read invocation.file = .ok bytes → String.fromUTF8? bytes = some text →
        Shows (run read arguments) invocation text ∧
        ∃ front closing, (scan text).tokens = front ++ [closing] ∧ closing.isEof = true) ∧
      ((∀ bytes, read invocation.file = .ok bytes → String.fromUTF8? bytes = none) →
        (run read arguments).stdout = "" ∧ (run read arguments).exitCode = 65) := by
  constructor
  · constructor
    · rintro ⟨job, hjob⟩
      obtain ⟨invocation, hvalid, hwords, -⟩ := (Request.ofArguments_eq_job_iff _ _).mp hjob
      exact ⟨invocation, hvalid, hwords⟩
    · rintro ⟨invocation, hvalid, hwords⟩
      exact ⟨_, (Request.ofArguments_eq_job_iff _ _).mpr ⟨invocation, hvalid, hwords, rfl⟩⟩
  · rintro invocation hvalid rfl
    rw [run_of_valid hvalid, Job.effects.eq_def]
    constructor
    · intro bytes text hread htext
      simp only [hread, htext]
      exact ⟨Job.shows_onText invocation text, scan_tokens_eq text⟩
    · intro hunreadable
      cases hread : read invocation.file with
      | error error => exact ⟨rfl, rfl⟩
      | ok bytes =>
        simp only [hunreadable bytes hread]
        exact ⟨rfl, rfl⟩

end

/-- The file is named like the end of the options, behind which it stands; without it nothing is
printed. -/
theorem fileBehindEnd_shown :
    let arguments := ["--color", "never", "parse", "--dump-tokens", "--", "--"]
    let invocation : Invocation := ⟨[.color .never false], .parse, [.dumpTokens], "--", .behindEnd⟩
    invocation.Valid ∧ invocation.words = arguments ∧ invocation.dumps = true ∧
      Shows (run (fun _ => .ok "-nil".toUTF8) arguments) invocation "-nil" ∧
      (run (fun _ => .error .notFound) arguments).stdout = "" ∧
      (run (fun _ => .error .notFound) arguments).exitCode = 65 := by
  intro arguments invocation
  have hvalid : invocation.Valid := ⟨by decide, by decide, by decide⟩
  have htext : String.fromUTF8? "-nil".toUTF8 = some "-nil" := dif_pos "-nil".isValidUTF8
  have hfound := (run_shows_command (fun _ => .ok "-nil".toUTF8) arguments).2 invocation hvalid rfl
  have hmissing := (run_shows_command (fun _ => .error .notFound) arguments).2 invocation hvalid rfl
  exact ⟨hvalid, rfl, rfl, (hfound.1 _ _ rfl htext).1, hmissing.2 fun _ hread => by cases hread⟩

end ExprLang.CommandLine
