import ExprLang.Proofs.Stream

/-!
Lines of a text that goes on. A line feed ends its line for good: what stands in front of it, up to
one carriage return, is the line, and the text behind it has lines of its own. So a text above
another one keeps its lines; all that the line feed between them can change is the end of the last
one, where a carriage return that was a character becomes a part of the ending.
-/
set_option autoImplicit false

namespace ExprLang

/-- One of the two characters that line endings consist of. -/
def IsBreak (c : Char) : Prop := c = '\r' ∨ c = '\n'

/-- The line that some characters are in front of a line feed: a carriage return at their end
belongs to the line ending. -/
def lineBefore (body : List Char) : List Char :=
  if body.getLast? = some '\r' then body.dropLast else body

/-! ## One line -/

theorem linesOf_cons {c : Char} {rest line : List Char} {lines : List (List Char)}
    (hbreak : c ≠ '\n') (hreturn : ∀ tail, c = '\r' → rest ≠ '\n' :: tail)
    (h : linesOf rest = line :: lines) :
    linesOf (c :: rest) = (c :: line) :: lines := by
  rw [linesOf, h]
  · exact hbreak
  · exact hreturn

theorem lineBefore_cons_cons (first second : Char) (rest : List Char) :
    lineBefore (first :: second :: rest) = first :: lineBefore (second :: rest) := by
  simp only [lineBefore, List.getLast?_cons_cons, List.dropLast_cons_cons]
  split <;> rfl

theorem exists_lineBefore_append (body : List Char) :
    ∃ ending, (∀ c ∈ ending, IsBreak c) ∧ body = lineBefore body ++ ending := by
  by_cases hreturn : body.getLast? = some '\r'
  · refine ⟨['\r'], by simp [IsBreak], ?_⟩
    rw [lineBefore, if_pos hreturn]
    exact (List.dropLast_append_getLast? '\r' hreturn).symm
  · refine ⟨[], by simp, ?_⟩
    rw [lineBefore, if_neg hreturn, List.append_nil]

/-- A line feed cuts the text in two. -/
theorem linesOf_break {body : List Char} (h : '\n' ∉ body) (rest : List Char) :
    linesOf (body ++ '\n' :: rest) = lineBefore body :: linesOf rest := by
  induction body with
  | nil => rfl
  | cons first body ih =>
    rw [List.mem_cons, not_or] at h
    have hfirst : first ≠ '\n' := Ne.symm h.1
    cases body with
    | nil =>
      by_cases hreturn : first = '\r'
      · subst hreturn
        rfl
      · have hline : lineBefore [first] = [first] := by simp [lineBefore, hreturn]
        rw [hline]
        exact linesOf_cons hfirst (fun _ heq => absurd heq hreturn) rfl
    | cons second body =>
      rw [lineBefore_cons_cons]
      refine linesOf_cons hfirst (fun tail _ heq => ?_) (ih h.2)
      exact h.2 ((List.cons.inj heq).1 ▸ List.mem_cons_self)

theorem linesOf_last {body : List Char} (h : '\n' ∉ body) (hne : body ≠ []) :
    linesOf body = [body] := by
  induction body with
  | nil => exact absurd rfl hne
  | cons first body ih =>
    rw [List.mem_cons, not_or] at h
    have hfirst : first ≠ '\n' := Ne.symm h.1
    cases body with
    | nil =>
      rw [linesOf]
      · rfl
      · exact hfirst
      · simp
    | cons second body =>
      refine linesOf_cons hfirst (fun tail _ heq => ?_) (ih h.2 (by simp))
      exact h.2 ((List.cons.inj heq).1 ▸ List.mem_cons_self)

theorem linesOf_ne_nil {text : List Char} (h : text ≠ []) : linesOf text ≠ [] := by
  by_cases hbreak : '\n' ∈ text
  · obtain ⟨body, rest, rfl, hbody⟩ := List.eq_append_cons_of_mem hbreak
    rw [linesOf_break hbody]
    simp
  · rw [linesOf_last hbreak h]
    simp

/-! ## One line after the other -/

/-- A text is a last line without line feed, or a line with its line feed in front of a text. -/
@[elab_as_elim]
theorem text_induction {motive : List Char → Prop} (last : ∀ body, '\n' ∉ body → motive body)
    (line : ∀ body rest, '\n' ∉ body → motive rest → motive (body ++ '\n' :: rest))
    (text : List Char) : motive text := by
  induction hlength : text.length using Nat.strongRecOn generalizing text with
  | ind count ih =>
    by_cases hbreak : '\n' ∈ text
    · obtain ⟨body, rest, rfl, hbody⟩ := List.eq_append_cons_of_mem hbreak
      refine line body rest hbody (ih rest.length ?_ rest rfl)
      rw [← hlength, List.length_append, List.length_cons]
      omega
    · exact last text hbreak

variable (above below : List Char)

theorem linesOf_append_break :
    linesOf (above ++ '\n' :: below) = linesOf (above ++ ['\n']) ++ linesOf below := by
  induction above using text_induction with
  | last body hbody =>
    rw [linesOf_break hbody, linesOf_break hbody]
    rfl
  | line body rest hbody ih =>
    rw [List.append_assoc, List.append_assoc, List.cons_append, List.cons_append,
      linesOf_break hbody, linesOf_break hbody, ih, List.cons_append]

theorem length_linesOf_break : (linesOf (above ++ ['\n'])).length = above.count '\n' + 1 := by
  induction above using text_induction with
  | last body hbody =>
    rw [linesOf_break hbody, List.count_eq_zero_of_not_mem hbody]
    rfl
  | line body rest hbody ih =>
    rw [List.append_assoc, List.cons_append, linesOf_break hbody, List.length_cons, ih,
      List.count_append, List.count_cons_self, List.count_eq_zero_of_not_mem hbody, Nat.zero_add]

/-- A line feed behind a text puts itself in the place of the last ending in the stream. -/
theorem streamOf_linesOf_break :
    ∃ front ending, (∀ c ∈ ending, IsBreak c) ∧ streamOf (linesOf above) = front ++ ending ∧
      streamOf (linesOf (above ++ ['\n'])) = front ++ ['\n'] := by
  induction above using text_induction with
  | last body hbody =>
    by_cases hnil : body = []
    · subst hnil
      exact ⟨[], [], by simp, rfl, rfl⟩
    · obtain ⟨ending, hending, hbefore⟩ := exists_lineBefore_append body
      refine ⟨lineBefore body, ending ++ ['\n'], fun c hc => ?_, ?_, ?_⟩
      · rcases List.mem_append.mp hc with hin | hlast
        · exact hending c hin
        · exact Or.inr (List.mem_singleton.mp hlast)
      · rw [linesOf_last hbody hnil, streamOf_cons, streamOf_nil, ← List.append_assoc, ← hbefore]
      · rw [linesOf_break hbody, streamOf_cons]
        rfl
  | line body rest hbody ih =>
    obtain ⟨front, ending, hending, hstream, hbreak⟩ := ih
    refine ⟨lineBefore body ++ '\n' :: front, ending, hending, ?_, ?_⟩
    · rw [linesOf_break hbody, streamOf_cons, hstream, List.append_assoc, List.cons_append]
    · rw [List.append_assoc, List.cons_append, linesOf_break hbody, streamOf_cons, hbreak,
        List.append_assoc, List.cons_append]

theorem streamOf_append (first second : List (List Char)) :
    streamOf (first ++ second) = streamOf first ++ streamOf second :=
  List.flatMap_append

/-- Behind some lines the first column of the next one stands. -/
theorem behind_streamOf {lines : List (List Char)} (h : ∀ line ∈ lines, '\n' ∉ line) :
    Cursor.behind (streamOf lines) = ⟨lines.length, 0⟩ := by
  induction lines with
  | nil => rfl
  | cons line lines ih =>
    have hrest := ih fun other hother => h other (List.mem_cons_of_mem _ hother)
    rw [streamOf_cons, Cursor.behind_line (h line List.mem_cons_self), hrest]
    rfl

end ExprLang
