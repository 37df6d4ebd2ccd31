import ExprLang.Proofs.Lines

/-!
Line endings. A carriage return right in front of a line feed is dropped from a text when it is cut
into lines, and nothing else is, so the stream of a text is the text with plain line feeds for its
breaks, and one more behind its last line if that has none.
-/
set_option autoImplicit false

namespace ExprLang

/-- A text with a line feed alone for every break. -/
def plainBreaks : List Char → List Char
  | [] => []
  | '\r' :: '\n' :: rest => '\n' :: plainBreaks rest
  | c :: rest => c :: plainBreaks rest

/-- The line feed that a stream has behind a last line without one. -/
def lastBreak (text : List Char) : List Char :=
  if text.getLast?.getD '\n' = '\n' then [] else ['\n']

@[simp] theorem plainBreaks_nil : plainBreaks [] = [] := rfl

@[simp] theorem plainBreaks_break (rest : List Char) :
    plainBreaks ('\r' :: '\n' :: rest) = '\n' :: plainBreaks rest := rfl

theorem plainBreaks_cons {c : Char} {rest : List Char}
    (h : c = '\r' → rest.head? ≠ some '\n') : plainBreaks (c :: rest) = c :: plainBreaks rest := by
  rw [plainBreaks]
  rintro tail hreturn rfl
  exact h hreturn rfl

/-- The first character is kept, unless it is the carriage return of a break. -/
theorem head?_plainBreaks (text : List Char) : (plainBreaks text).head? = text.head? ∨
    ['\r', '\n'] <+: text ∧ (plainBreaks text).head? = some '\n' := by
  fun_cases plainBreaks text with
  | case1 => exact Or.inl rfl
  | case2 rest => exact Or.inr ⟨⟨rest, rfl⟩, rfl⟩
  | case3 c rest hbreak => exact Or.inl rfl

/-- A break that does not lie across the place where two texts meet lies in one of them. -/
theorem plainBreaks_append {front rest : List Char}
    (h : front.getLast? = some '\r' → rest.head? ≠ some '\n') :
    plainBreaks (front ++ rest) = plainBreaks front ++ plainBreaks rest := by
  induction front using plainBreaks.induct with
  | case1 => rfl
  | case2 front ih =>
    show '\n' :: plainBreaks (front ++ rest) = '\n' :: plainBreaks front ++ plainBreaks rest
    rw [ih fun hlast => h (by simp [List.getLast?_cons, hlast])]
    rfl
  | case3 c front hbreak ih =>
    have hrest := ih fun hlast => h (by simp [List.getLast?_cons, hlast])
    rw [List.cons_append, plainBreaks_cons, plainBreaks_cons, hrest, List.cons_append]
    · rintro rfl hhead
      obtain ⟨tail, rfl⟩ := List.head?_eq_some_iff.mp hhead
      exact hbreak tail rfl rfl
    · rintro rfl hhead
      cases front with
      | nil => exact h rfl hhead
      | cons d front =>
        obtain rfl : d = '\n' := by simpa using hhead
        exact hbreak front rfl rfl

theorem plainBreaks_line {body : List Char} (h : '\n' ∉ body) (rest : List Char) :
    ∃ line, '\n' ∉ line ∧ plainBreaks (body ++ '\n' :: rest) = line ++ '\n' :: plainBreaks rest := by
  induction body with
  | nil => exact ⟨[], by simp, plainBreaks_cons (by simp)⟩
  | cons c body ih =>
    rw [List.mem_cons, not_or] at h
    obtain ⟨line, hline, hplain⟩ := ih h.2
    by_cases hbreak : c = '\r' ∧ body = []
    · obtain ⟨rfl, rfl⟩ := hbreak
      exact ⟨[], by simp, rfl⟩
    · refine ⟨c :: line, by simp [h.1, hline], ?_⟩
      rw [List.cons_append, plainBreaks_cons, hplain, List.cons_append]
      rintro rfl hhead
      cases body with
      | nil => exact hbreak ⟨rfl, rfl⟩
      | cons d body =>
        have hd : d = '\n' := by simpa using hhead
        exact h.2 (hd ▸ List.mem_cons_self)

theorem plainBreaks_eq_self {text : List Char} (h : ¬ ['\r', '\n'] <:+: text) :
    plainBreaks text = text := by
  induction text using plainBreaks.induct with
  | case1 => rfl
  | case2 rest => exact absurd ⟨[], rest, rfl⟩ h
  | case3 c rest hbreak ih =>
    rw [plainBreaks, ih fun hinside => h (List.infix_cons hinside)]
    exact hbreak

/-- Only a second carriage return in front of a break would leave one there. -/
theorem no_return_in_plainBreaks {text : List Char} (h : ¬ ['\r', '\r', '\n'] <:+: text) :
    ¬ ['\r', '\n'] <:+: plainBreaks text := by
  induction text using plainBreaks.induct with
  | case1 => simp
  | case2 rest ih =>
    have hrest := ih fun hinside => h (List.infix_cons (List.infix_cons hinside))
    simpa [List.infix_cons_iff] using hrest
  | case3 c rest hbreak ih =>
    have hrest := ih fun hinside => h (List.infix_cons hinside)
    rw [plainBreaks, List.infix_cons_iff]
    · rintro (hstarts | hinside)
      · obtain ⟨rfl, tail, htail⟩ := List.cons_prefix_cons.mp hstarts
        rcases head?_plainBreaks rest with hhead | ⟨⟨behind, rfl⟩, -⟩
        · rw [← htail] at hhead
          obtain ⟨behind, rfl⟩ := List.head?_eq_some_iff.mp hhead.symm
          exact hbreak behind rfl rfl
        · exact h ⟨[], behind, rfl⟩
      · exact hrest hinside
    · exact hbreak

theorem mem_of_mem_plainBreaks {c : Char} {text : List Char} (h : c ∈ plainBreaks text) :
    c ∈ text := by
  induction text using plainBreaks.induct with
  | case1 => exact h
  | case2 rest ih =>
    rw [plainBreaks_break] at h
    simp only [List.mem_cons] at h ⊢
    exact Or.inr (h.imp_right ih)
  | case3 first rest hbreak ih =>
    rw [plainBreaks] at h
    · simp only [List.mem_cons] at h ⊢
      exact h.imp_right ih
    · exact hbreak

/-! ## The stream of a text -/

theorem lastBreak_cases (text : List Char) : lastBreak text = [] ∨ lastBreak text = ['\n'] := by
  unfold lastBreak
  split <;> simp

theorem isBreak_of_mem_lastBreak {c : Char} {text : List Char} (h : c ∈ lastBreak text) :
    IsBreak c := by
  rcases lastBreak_cases text with hlast | hlast <;> simp [hlast] at h
  exact Or.inr h

theorem lastBreak_append (front : List Char) {rest : List Char} (h : rest ≠ []) :
    lastBreak (front ++ rest) = lastBreak rest := by
  rw [lastBreak, lastBreak, List.getLast?_append_of_ne_nil _ h]

theorem lastBreak_break (rest : List Char) : lastBreak ('\n' :: rest) = lastBreak rest := by
  simp [lastBreak, List.getLast?_cons]

theorem streamOf_linesOf_eq (text : List Char) :
    streamOf (linesOf text) = plainBreaks text ++ lastBreak text := by
  induction text using linesOf.induct with
  | case1 => rfl
  | case2 rest ih =>
    rw [linesOf, streamOf_cons, ih, plainBreaks_cons (by simp), lastBreak_break]
    rfl
  | case3 rest ih =>
    have hlast : lastBreak ('\r' :: '\n' :: rest) = lastBreak rest :=
      (lastBreak_append ['\r'] (by simp)).trans (lastBreak_break rest)
    rw [linesOf, streamOf_cons, ih, plainBreaks_break, hlast]
    rfl
  | case4 c rest hbreak hreturn hnil =>
    obtain rfl : rest = [] := by
      by_contra hne
      exact linesOf_ne_nil hne hnil
    have hlast : lastBreak [c] = ['\n'] := if_neg hbreak
    rw [linesOf_last (by simpa using Ne.symm hbreak) (by simp), plainBreaks_cons (by simp), hlast]
    rfl
  | case5 c rest hbreak hreturn line lines hcons ih =>
    have hhead : c = '\r' → rest.head? ≠ some '\n' := by
      rintro rfl hfeed
      obtain ⟨tail, rfl⟩ := List.head?_eq_some_iff.mp hfeed
      exact hreturn tail rfl rfl
    have hne : rest ≠ [] := by
      rintro rfl
      cases hcons
    have hlast : lastBreak (c :: rest) = lastBreak rest := lastBreak_append [c] hne
    rw [hcons, streamOf_cons] at ih
    rw [linesOf_cons hbreak (fun tail h => by rintro rfl; exact hhead h rfl) hcons, streamOf_cons,
      plainBreaks_cons hhead, hlast, List.cons_append, List.cons_append, ih]

theorem streamOf_linesOf (text : List Char) :
    ∃ ending, (ending = [] ∨ ending = ['\n']) ∧
      streamOf (linesOf text) = plainBreaks text ++ ending :=
  ⟨lastBreak text, lastBreak_cases text, streamOf_linesOf_eq text⟩

end ExprLang
