import ExprLang.Pipeline
import ExprLang.Proofs.Lines
import ExprLang.Text.IdentifierTables

/-!
Line terminators make no difference. A text has the same lines when carriage returns are put in front
of its line feeds, as long as none stands there yet; and a last line that ends in no part of a
terminator may be given one. Everything else is computed from the lines: the values of strings that
go across lines, all positions and the end, and so every outcome.
-/
set_option autoImplicit false

namespace ExprLang

/-- The other text is this one with a carriage return more in front of some of its line feeds, of which
none follows a carriage return. The first argument is the character in front of both texts. -/
inductive MoreReturns : Option Char → List Char → List Char → Prop
  | nil (before : Option Char) : MoreReturns before [] []
  | keep (before : Option Char) (c : Char) (text other : List Char)
      (hrest : MoreReturns (some c) text other) : MoreReturns before (c :: text) (c :: other)
  | add (before : Option Char) (text other : List Char) (hbefore : before ≠ some '\r')
      (hrest : MoreReturns (some '\n') text other) :
      MoreReturns before ('\n' :: text) ('\r' :: '\n' :: other)

/-- The text has a last character, and it belongs to no terminator. -/
def EndsInLine (text : List Char) : Prop := ∃ c ∈ text.getLast?, ¬ IsBreak c

/-! ## Lines -/

theorem linesOf_return_feed (rest : List Char) :
    linesOf ('\r' :: '\n' :: rest) = linesOf ('\n' :: rest) := rfl

theorem linesOf_cons_congr {c : Char} {rest other : List Char} (hrest : linesOf other = linesOf rest)
    (hhead : c = '\r' → other.head? = rest.head?) : linesOf (c :: other) = linesOf (c :: rest) := by
  by_cases hbreak : c = '\n'
  · rw [hbreak, linesOf, linesOf, hrest]
  by_cases hreturn : c = '\r' ∧ rest.head? = some '\n'
  · obtain ⟨rfl, hfeed⟩ := hreturn
    obtain ⟨tail, rfl⟩ := List.head?_eq_some_iff.mp hfeed
    obtain ⟨tail', rfl⟩ := List.head?_eq_some_iff.mp ((hhead rfl).trans hfeed)
    exact hrest
  · have hother : ∀ tail, c = '\r' → other ≠ '\n' :: tail := by
      rintro tail rfl rfl
      exact hreturn ⟨rfl, (hhead rfl).symm⟩
    have hown : ∀ tail, c = '\r' → rest ≠ '\n' :: tail := by
      rintro tail rfl rfl
      exact hreturn ⟨rfl, rfl⟩
    rw [linesOf, linesOf, hrest]
    · exact hbreak
    · exact hown
    · exact hbreak
    · exact hother

theorem EndsInLine.of_line {body rest : List Char} (h : EndsInLine (body ++ '\n' :: rest)) :
    EndsInLine rest := by
  obtain ⟨c, hc, hplain⟩ := h
  rw [List.getLast?_append_of_ne_nil _ (List.cons_ne_nil _ _), List.getLast?_cons] at hc
  cases hlast : rest.getLast? with
  | none =>
    rw [hlast] at hc
    cases hc
    exact absurd (Or.inr rfl) hplain
  | some last =>
    rw [hlast] at hc
    cases hc
    exact ⟨last, hlast, hplain⟩

theorem linesOf_append_feed {text : List Char} (h : EndsInLine text) :
    linesOf (text ++ ['\n']) = linesOf text := by
  induction text using text_induction with
  | last body hbody =>
    obtain ⟨c, hc, hplain⟩ := h
    have hne : body ≠ [] := by
      rintro rfl
      cases hc
    have hreturn : body.getLast? ≠ some '\r' := by
      rintro hreturn
      rw [hreturn] at hc
      cases hc
      exact hplain (Or.inl rfl)
    rw [linesOf_break hbody, linesOf_last hbody hne, lineBefore, if_neg hreturn, linesOf]
  | line body rest hbody ih =>
    rw [List.append_assoc, List.cons_append, linesOf_break hbody, linesOf_break hbody, ih h.of_line]

namespace MoreReturns

variable {before : Option Char} {text other more more' : List Char}

theorem head?_eq (h : MoreReturns (some '\r') text other) : other.head? = text.head? := by
  cases h with
  | nil => rfl
  | keep => rfl
  | add _ _ _ hbefore _ => exact absurd rfl hbefore

theorem linesOf_eq (h : MoreReturns before text other) : linesOf other = linesOf text := by
  induction h with
  | nil => rfl
  | keep before c text other hrest ih =>
    refine linesOf_cons_congr ih ?_
    rintro rfl
    exact hrest.head?_eq
  | add before text other _ _ ih => rw [linesOf_return_feed, linesOf, linesOf, ih]

theorem append (h : MoreReturns before text other)
    (hmore : MoreReturns (text.getLast?.or before) more more') :
    MoreReturns before (text ++ more) (other ++ more') := by
  induction h with
  | nil => exact hmore
  | keep before c text other _ ih =>
    refine .keep before c _ _ (ih ?_)
    rw [List.getLast?_cons] at hmore
    cases hlast : text.getLast? <;> simpa [hlast] using hmore
  | add before text other hbefore _ ih =>
    refine .add before _ _ hbefore (ih ?_)
    rw [List.getLast?_cons] at hmore
    cases hlast : text.getLast? <;> simpa [hlast] using hmore

theorem linesOf_append (h : MoreReturns before text other) (hline : EndsInLine text)
    {ending : List Char} (hending : ending = ['\n'] ∨ ending = ['\r', '\n']) :
    linesOf (other ++ ending) = linesOf text := by
  obtain ⟨c, hc, hplain⟩ := hline
  have hmore : MoreReturns (text.getLast?.or before) ['\n'] ending := by
    rcases hending with rfl | rfl
    · exact .keep _ _ _ _ (.nil _)
    · refine .add _ _ _ ?_ (.nil _)
      rw [hc, Option.some_or]
      rintro ⟨rfl⟩
      exact hplain (Or.inl rfl)
  rw [(h.append hmore).linesOf_eq, linesOf_append_feed ⟨c, hc, hplain⟩]

end MoreReturns

section

variable [IdentifierClasses]

/-! ## Outcomes -/

/-- A scan reads the lines of a text and nothing else. -/
theorem scanWith_of_linesOf_eq (machine : Automaton) {text other : String}
    (h : linesOf other.toList = linesOf text.toList) :
    scanWith machine other = scanWith machine text := by
  have hsource : Source.ofText other = Source.ofText text := by
    rw [Source.ofText, Source.ofText, h]
  rw [scanWith, scanWith, hsource]

/-- Whichever line feeds have got a carriage return in front of them, and whether the last line has got
a terminator or not, the tokens and the errors are the same, with their positions, and so is what a
command prints and reports. -/
theorem execute_moreReturns (catalog : Catalog) (command : Command) {text other ending : String}
    (hreturns : MoreReturns none text.toList other.toList)
    (hending : ending = "" ∨ EndsInLine text.toList ∧ (ending = "\n" ∨ ending = "\r\n")) :
    scanWith (Automaton.ofCatalog catalog) (other ++ ending) =
        scanWith (Automaton.ofCatalog catalog) text ∧
      execute (Automaton.ofCatalog catalog) command (other ++ ending) =
        execute (Automaton.ofCatalog catalog) command text := by
  have hlines : linesOf (other ++ ending).toList = linesOf text.toList := by
    rw [String.toList_append]
    rcases hending with rfl | ⟨hline, rfl | rfl⟩
    · rw [String.toList_empty, List.append_nil, hreturns.linesOf_eq]
    · exact hreturns.linesOf_append hline (Or.inl rfl)
    · exact hreturns.linesOf_append hline (Or.inr rfl)
  have hscan := scanWith_of_linesOf_eq (Automaton.ofCatalog catalog) hlines
  exact ⟨hscan, by rw [execute, execute, hscan]⟩

end

/-- A string across two breaks, of which the first has its carriage return and the second gets one. -/
theorem stringAcross_moreReturns :
    MoreReturns none "\"\r\n\n\"".toList "\"\r\n\r\n\"".toList ∧ EndsInLine "\"\r\n\n\"".toList ∧
      scan ("\"\r\n\r\n\"" ++ "\r\n") =
        ⟨[⟨.string, "\"\n\n\"", some (.string "\n\n"), 1, 1⟩, ⟨.eof, "", none, 3, 2⟩], []⟩ := by
  have htext : "\"\r\n\n\"".toList = ['"', '\r', '\n', '\n', '"'] := rfl
  have hother : "\"\r\n\r\n\"".toList = ['"', '\r', '\n', '\r', '\n', '"'] := rfl
  have hreturns : MoreReturns none "\"\r\n\n\"".toList "\"\r\n\r\n\"".toList := by
    rw [htext, hother]
    have hadded : MoreReturns (some '\n') ['\n', '"'] ['\r', '\n', '"'] :=
      .add _ _ _ (by decide) (.keep _ _ _ _ (.nil _))
    exact .keep _ _ _ _ (.keep _ _ _ _ (.keep _ _ _ _ hadded))
  have hline : EndsInLine "\"\r\n\n\"".toList := ⟨'"', rfl, by simp [IsBreak]⟩
  refine ⟨hreturns, hline, ?_⟩
  have hscan := (execute_moreReturns Catalog.standard .run hreturns (.inr ⟨hline, .inr rfl⟩)).1
  exact hscan.trans (by decide +kernel)

end ExprLang
