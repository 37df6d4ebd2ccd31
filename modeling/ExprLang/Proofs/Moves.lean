import ExprLang.Proofs.Positions
import ExprLang.Proofs.Scan.Loops

/-!
Moves of a source. A source has a cursor with two coordinates, and it behaves as if it had one
offset in the stream of its lines: what it sees are the characters at this offset and at the next,
and every move adds to the offset, up to the end of the stream. This holds behind every sequence of
moves, also of seeks to cursors outside the text. As long as every seek goes back to a cursor at
which the source stood before, the cursor stays within its line, at most behind the last character,
or right behind the last line; and of two such cursors the one with the smaller offset comes first.
-/
set_option autoImplicit false

namespace ExprLang

/-- The cursor stands within a line, at most behind its last character, or right behind the lines. -/
def Cursor.Within (cursor : Cursor) (lines : List (List Char)) : Prop :=
  (∃ line, lines[cursor.line]? = some line ∧ cursor.column ≤ line.length) ∨
    cursor = ⟨lines.length, 0⟩

/-- From an offset on this is the first one with such a character, or the end if there is none. -/
structure FirstFrom (stream : List Char) (p : Char → Prop) (offset stop : Nat) : Prop where
  le : offset ≤ stop
  before : ∀ place, offset ≤ place → place < stop → ∃ c, stream[place]? = some c ∧ ¬ p c
  here : (∃ c, stream[stop]? = some c ∧ p c) ∨ stop = stream.length

namespace Source

/-- The stream of the lines of a source. -/
def stream (source : Source) : List Char := streamOf source.lines

/-- The offset at which a source stands. -/
def offset (source : Source) : Nat := offsetOf source.lines source.cursor

/-- What a source sees, and where its moves lead, can be told from its stream and its offset. -/
structure FollowsStream (source : Source) : Prop where
  peek_eq : source.peek = source.stream[source.offset]?.getD '\x00'
  peekNext_eq : source.peekNext = source.stream[source.offset + 1]?.getD '\x00'
  atEnd_iff : source.atEnd = true ↔ source.offset = source.stream.length
  consume_eq : source.consume = (source.peek, source.move .advance)
  advance : (source.move .advance).offset = min (source.offset + 1) source.stream.length
  advanceBy : ∀ count, (source.move (.advanceBy count)).offset =
    min (source.offset + count) source.stream.length
  skipBlanks : FirstFrom source.stream (isBlank · = false) source.offset
    (source.move .skipBlanks).offset
  skipLine : (∃ stop, source.stream[stop]? = some '\n' ∧
      FirstFrom source.stream (· = '\n') source.offset stop ∧
      (source.move .skipLine).offset = stop + 1) ∨
    source.offset = source.stream.length ∧ (source.move .skipLine).offset = source.stream.length
  seek : ∀ cursor, (source.move (.seek cursor)).cursor = cursor

/-- Every seek goes back to a cursor at which the source stood before. -/
def Rewinding (source : Source) (moves : List Move) : Prop :=
  ∀ front cursor, front ++ [.seek cursor] <+: moves →
    ∃ earlier, earlier <+: front ∧ cursor = (earlier.foldl move source).cursor

end Source

/-! ## Stopping at a character -/

section Stopping

variable {stream : List Char} {p : Char → Prop} {offset stop : Nat}

theorem FirstFrom.stop_le (h : FirstFrom stream p offset stop) : stop ≤ stream.length := by
  rcases h.here with ⟨c, hc, -⟩ | hend
  · exact (List.getElem?_eq_some_iff.mp hc).1.le
  · exact hend.le

theorem firstFrom_takeWhile (p : Char → Bool) (hle : offset ≤ stream.length) :
    FirstFrom stream (p · = false) offset
      (offset + ((stream.drop offset).takeWhile p).length) := by
  have hsplit : stream.drop offset = (stream.drop offset).takeWhile p ++
      (stream.drop offset).dropWhile p := List.takeWhile_append_dropWhile.symm
  have hrun : ∀ c ∈ (stream.drop offset).takeWhile p, p c = true :=
    fun c hc => List.mem_takeWhile_imp hc
  have hbehind := head?_dropWhile p (stream.drop offset)
  have hlength : (stream.drop offset).length = stream.length - offset := List.length_drop
  generalize (stream.drop offset).takeWhile p = run at *
  generalize (stream.drop offset).dropWhile p = behind at *
  have hplace : ∀ index, stream[offset + index]? = (run ++ behind)[index]? := by
    intro index
    rw [← hsplit, List.getElem?_drop]
  refine ⟨Nat.le_add_right _ _, fun place hfrom hbefore => ?_, ?_⟩
  · obtain ⟨index, rfl⟩ := Nat.exists_eq_add_of_le hfrom
    have hindex : index < run.length := by omega
    refine ⟨run[index], ?_, by simp [hrun run[index] (List.getElem_mem _)]⟩
    rw [hplace, List.getElem?_append_left hindex, List.getElem?_eq_getElem hindex]
  · cases behind with
    | nil =>
      rw [hsplit, List.append_nil] at hlength
      exact Or.inr (by omega)
    | cons c behind =>
      refine Or.inl ⟨c, ?_, hbehind c rfl⟩
      rw [hplace, List.getElem?_append_right (Nat.le_refl _), Nat.sub_self, List.getElem?_cons_zero]

theorem eq_length_of_no_break (hstream : EndsLine stream)
    (h : FirstFrom stream (· = '\n') offset stream.length) : offset = stream.length := by
  -- Else the last character would be ahead, and it is a line break.
  by_contra hne
  have hlt : offset < stream.length := Nat.lt_of_le_of_ne h.le hne
  have hlast := hstream (List.ne_nil_of_length_pos (Nat.zero_lt_of_lt hlt))
  rw [List.getLast?_eq_getElem?] at hlast
  obtain ⟨c, hc, hother⟩ := h.before (stream.length - 1) (by omega) (by omega)
  rw [hlast] at hc
  exact hother (Option.some.inj hc).symm

end Stopping

/-! ## Cursors within the lines -/

namespace Cursor.Within

variable {lines : List (List Char)} {cursor : Cursor}

theorem later_iff (line : List Char) (number column : Nat) :
    Within ⟨number + 1, column⟩ (line :: lines) ↔ Within ⟨number, column⟩ lines := by
  simp [Within]

theorem of_offset (hlines : ∀ line ∈ lines, '\n' ∉ line) :
    ∀ offset ≤ (streamOf lines).length, (cursorAt (streamOf lines) offset).Within lines := by
  induction lines with
  | nil =>
    intro offset hle
    obtain rfl : offset = 0 := Nat.le_zero.mp hle
    exact Or.inr rfl
  | cons line lines ih =>
    intro offset hle
    have hline := hlines line List.mem_cons_self
    have hrest := ih fun other hother => hlines other (List.mem_cons_of_mem _ hother)
    rw [streamOf_cons] at hle ⊢
    by_cases hwithin : offset ≤ line.length
    · rw [cursorAt_within hline _ hwithin]
      exact Or.inl ⟨line, rfl, hwithin⟩
    · obtain ⟨further, rfl⟩ : ∃ further, offset = line.length + 1 + further :=
        ⟨offset - (line.length + 1), by omega⟩
      rw [List.length_append, List.length_cons] at hle
      rw [cursorAt_beyond hline, later_iff]
      exact hrest further (by omega)

/-- A cursor within the lines is the one that its offset has by counting. -/
theorem eq_cursorAt (hlines : ∀ line ∈ lines, '\n' ∉ line) :
    ∀ {cursor : Cursor}, cursor.Within lines →
      cursor = cursorAt (streamOf lines) (offsetOf lines cursor) := by
  induction lines with
  | nil =>
    rintro cursor (⟨line, hline, -⟩ | rfl)
    · simp at hline
    · rfl
  | cons line lines ih =>
    rintro ⟨number, column⟩ h
    have hline := hlines line List.mem_cons_self
    rw [streamOf_cons]
    cases number with
    | zero =>
      have hcolumn : column ≤ line.length := by
        simpa [Within] using h
      rw [offsetOf_first, Nat.min_eq_left hcolumn, cursorAt_within hline _ hcolumn]
    | succ number =>
      have hrest := ih (fun other hother => hlines other (List.mem_cons_of_mem _ hother))
        ((later_iff line number column).mp h)
      rw [offsetOf_later, cursorAt_beyond hline, ← hrest]

end Cursor.Within

theorem exists_cursorAt_advanceOver {stream : List Char} {first second : Nat} (hle : first ≤ second)
    (hwithin : second ≤ stream.length) :
    ∃ run, run.length = second - first ∧
      cursorAt stream second = (cursorAt stream first).advanceOver run := by
  have hsplit : stream.drop first =
      (stream.drop first).take (second - first) ++ (stream.drop first).drop (second - first) :=
    (List.take_append_drop _ _).symm
  have hlength : ((stream.drop first).take (second - first)).length = second - first := by
    rw [List.length_take, List.length_drop]
    omega
  refine ⟨_, hlength, ?_⟩
  rw [cursorAt_advanceOver hsplit, hlength, Nat.add_sub_cancel' hle]

/-- Cursors within the lines are ordered as their offsets are. -/
theorem Cursor.Within.le_iff {lines : List (List Char)} (hlines : ∀ line ∈ lines, '\n' ∉ line)
    {first second : Cursor} (h : first.Within lines) (h' : second.Within lines) :
    first ≤ second ↔ offsetOf lines first ≤ offsetOf lines second := by
  have hfirst := h.eq_cursorAt hlines
  have hsecond := h'.eq_cursorAt hlines
  rcases Nat.lt_or_ge (offsetOf lines second) (offsetOf lines first) with hlt | hle
  · obtain ⟨run, hlength, hrun⟩ := exists_cursorAt_advanceOver hlt.le (offsetOf_le lines first)
    have hne : run ≠ [] := List.ne_nil_of_length_pos (by omega)
    refine iff_of_false ?_ (Nat.not_le.mpr hlt)
    rw [hfirst, hsecond, hrun]
    exact Cursor.not_advanceOver_le hne _
  · obtain ⟨run, -, hrun⟩ := exists_cursorAt_advanceOver hle (offsetOf_le lines second)
    refine iff_of_true ?_ hle
    rw [hfirst, hsecond, hrun]
    exact Cursor.le_advanceOver run _

namespace Source

variable {source : Source} {text : String} {offset : Nat}

/-! ## One move -/

theorem StandsAt.advanceBy_min (h : source.StandsAt text offset) (count : Nat) :
    (source.advanceBy count).StandsAt text (min (offset + count) (streamOfText text).length) := by
  have hrest : source.rest.length = (streamOfText text).length - offset := by
    rw [h.rest_eq, List.length_drop]
  have hle := h.offset_le
  have hsame : source.advanceBy count = source.advanceBy (min count source.rest.length) := by
    rw [Source.advanceBy, Source.advanceBy, ← List.take_eq_take_min, ← List.drop_eq_drop_min]
  rw [hsame, show min (offset + count) (streamOfText text).length =
    offset + min count source.rest.length by omega]
  exact h.advanceBy (Nat.min_le_right _ _)

theorem StandsAt.skipLine (h : source.StandsAt text offset) :
    (∃ stop, (streamOfText text)[stop]? = some '\n' ∧
      FirstFrom (streamOfText text) (· = '\n') offset stop ∧
      source.skipLine.StandsAt text (stop + 1)) ∨
    offset = (streamOfText text).length ∧
      source.skipLine.StandsAt text (streamOfText text).length := by
  have hfirst : FirstFrom (streamOfText text) (· = '\n') offset
      (offset + (source.rest.takeWhile (· != '\n')).length) := by
    rw [h.rest_eq]
    simpa using firstFrom_takeWhile (· != '\n') h.offset_le
  have hline := (h.advanceBy_min (source.rest.takeWhile (· != '\n')).length).advanceBy_min 1
  rw [skipLine_eq, advance]
  generalize offset + (source.rest.takeWhile (· != '\n')).length = stop at hfirst hline
  rw [Nat.min_eq_left hfirst.stop_le] at hline
  rcases hfirst.here with ⟨c, hc, rfl⟩ | rfl
  · have hlt : stop + 1 ≤ (streamOfText text).length := (List.getElem?_eq_some_iff.mp hc).1
    rw [Nat.min_eq_left hlt] at hline
    exact Or.inl ⟨stop, hc, hfirst, hline⟩
  · rw [Nat.min_eq_right (Nat.le_succ _)] at hline
    exact Or.inr ⟨eq_length_of_no_break (endsLine_streamOf _) hfirst, hline⟩

theorem StandsAt.exists_move (h : source.StandsAt text offset) (step : Move) :
    ∃ further, (source.move step).StandsAt text further := by
  cases step with
  | advance => exact ⟨_, h.advanceBy_min 1⟩
  | advanceBy count => exact ⟨_, h.advanceBy_min count⟩
  | skipBlanks => exact ⟨_, h.advanceBy_min _⟩
  | skipLine => exact ⟨_, h.advanceBy_min _⟩
  | seek cursor =>
    rw [move, Source.seek, h.lines_eq]
    exact ⟨_, seek_standsAt text cursor⟩

theorem StandsAt.within_advanceBy (h : source.StandsAt text offset)
    (hwithin : source.cursor.Within (linesOf text.toList)) (count : Nat) :
    (source.advanceBy count).cursor.Within (linesOf text.toList) := by
  have hsplit : source.rest = source.rest.take count ++ source.rest.drop count :=
    (List.take_append_drop _ _).symm
  by_cases hrun : source.rest.take count = []
  · rw [Source.advanceBy, hrun, Cursor.advanceOver_nil]
    exact hwithin
  · rw [Source.advanceBy, h.advanceOver_eq hsplit hrun]
    refine .of_offset (not_mem_of_mem_linesOf _) _ ?_
    have hle := h.offset_le
    have hlength := (List.take_prefix count source.rest).length_le
    rw [h.rest_eq, List.length_drop, ← h.rest_eq] at hlength
    rw [streamOfText] at hle hlength
    omega

theorem StandsAt.within_move (h : source.StandsAt text offset)
    (hwithin : source.cursor.Within (linesOf text.toList)) {step : Move}
    (hseek : ∀ cursor, step = .seek cursor → cursor.Within (linesOf text.toList)) :
    (source.move step).cursor.Within (linesOf text.toList) := by
  cases step with
  | advance => exact h.within_advanceBy hwithin 1
  | advanceBy count => exact h.within_advanceBy hwithin count
  | skipBlanks => exact h.within_advanceBy hwithin _
  | skipLine => exact h.within_advanceBy hwithin _
  | seek cursor => exact hseek cursor rfl

/-! ## The stream and the offset -/

theorem StandsAt.stream_eq (h : source.StandsAt text offset) :
    source.stream = streamOfText text := by
  rw [stream, h.lines_eq, streamOfText]

theorem StandsAt.offset_self (h : source.StandsAt text offset) : source.offset = offset := by
  rw [Source.offset, h.lines_eq, h.offset_eq]

theorem StandsAt.getElem?_rest (h : source.StandsAt text offset) (index : Nat) :
    source.rest[index]? = (streamOfText text)[offset + index]? := by
  rw [h.rest_eq, List.getElem?_drop]

theorem StandsAt.followsStream (h : source.StandsAt text offset) : source.FollowsStream where
  peek_eq := by
    rw [h.stream_eq, h.offset_self, peek, List.headD_eq_head?_getD, List.head?_eq_getElem?,
      h.getElem?_rest, Nat.add_zero]
  peekNext_eq := by
    rw [h.stream_eq, h.offset_self, peekNext, List.headD_eq_head?_getD, List.head?_tail,
      h.getElem?_rest]
  atEnd_iff := by
    have hle := h.offset_le
    rw [h.stream_eq, h.offset_self, atEnd_iff, h.rest_eq, List.drop_eq_nil_iff]
    omega
  consume_eq := rfl
  advance := by
    rw [h.stream_eq, h.offset_self]
    exact (h.advanceBy_min 1).offset_self
  advanceBy count := by
    rw [h.stream_eq, h.offset_self]
    exact (h.advanceBy_min count).offset_self
  skipBlanks := by
    have hfirst := firstFrom_takeWhile isBlank h.offset_le
    rw [← h.rest_eq] at hfirst
    have hmoved := h.advanceBy_min (source.rest.takeWhile isBlank).length
    rw [Nat.min_eq_left hfirst.stop_le] at hmoved
    rw [h.stream_eq, h.offset_self, move, Source.skipBlanks, hmoved.offset_self]
    exact hfirst
  skipLine := by
    rw [h.stream_eq, h.offset_self]
    rcases h.skipLine with ⟨stop, hbreak, hfirst, hmoved⟩ | ⟨hend, hmoved⟩
    · exact Or.inl ⟨stop, hbreak, hfirst, hmoved.offset_self⟩
    · exact Or.inr ⟨hend, hmoved.offset_self⟩
  seek _ := rfl

/-! ## All moves -/

theorem exists_standsAt (text : String) (moves : List Move) :
    ∃ offset, (moves.foldl move (ofText text)).StandsAt text offset := by
  induction moves using List.reverseRecOn with
  | nil => exact ⟨0, ofText_standsAt text⟩
  | append_singleton moves step ih =>
    obtain ⟨offset, h⟩ := ih
    rw [List.foldl_append, List.foldl_cons, List.foldl_nil]
    exact h.exists_move step

/-- Where every seek goes back, the cursor stays within the lines. -/
theorem Rewinding.within {moves : List Move} (h : (ofText text).Rewinding moves) :
    ∀ earlier, earlier <+: moves →
      (earlier.foldl move (ofText text)).cursor.Within (linesOf text.toList) := by
  induction moves using List.reverseRecOn with
  | nil =>
    intro earlier hearlier
    obtain rfl := List.prefix_nil.mp hearlier
    exact .of_offset (not_mem_of_mem_linesOf _) 0 (Nat.zero_le _)
  | append_singleton moves step ih =>
    have hbefore := ih fun front cursor hfront =>
      h front cursor (hfront.trans (List.prefix_append moves [step]))
    intro earlier hearlier
    -- The last move starts within the lines, and if it seeks, then where an earlier run had come to.
    rcases List.prefix_concat_iff.mp hearlier with rfl | hin
    · obtain ⟨offset, hstands⟩ := exists_standsAt text moves
      rw [List.foldl_append, List.foldl_cons, List.foldl_nil]
      refine hstands.within_move (hbefore moves (List.prefix_refl _)) ?_
      rintro cursor rfl
      obtain ⟨before, hin, rfl⟩ := h moves cursor (List.prefix_refl _)
      exact hbefore before hin
    · exact hbefore earlier hin

/-- A source behaves like an offset in the stream of its text, whatever moves it has made. If it seeks
only where it stood before, its cursor stays within the lines, and such cursors are ordered as their
offsets are. -/
theorem moves_follow_stream (text : String) :
    (∀ moves, let source := List.foldl move (ofText text) moves
      source.lines = linesOf text.toList ∧ source.FollowsStream) ∧
    ∀ moves others, (ofText text).Rewinding moves → (ofText text).Rewinding others →
      let source := moves.foldl move (ofText text)
      let other := others.foldl move (ofText text)
      source.cursor.Within source.lines ∧
        (source.cursor ≤ other.cursor ↔ source.offset ≤ other.offset) := by
  refine ⟨fun moves => ?_, fun moves others hmoves hothers => ?_⟩
  · obtain ⟨offset, h⟩ := exists_standsAt text moves
    exact ⟨h.lines_eq, h.followsStream⟩
  · obtain ⟨offset, h⟩ := exists_standsAt text moves
    obtain ⟨further, h'⟩ := exists_standsAt text others
    have hwithin := hmoves.within moves (List.prefix_refl _)
    have hother := hothers.within others (List.prefix_refl _)
    intro source other
    rw [h.offset_self, h'.offset_self, ← h.offset_eq, ← h'.offset_eq, h.lines_eq]
    exact ⟨hwithin, hwithin.le_iff (not_mem_of_mem_linesOf _) hother⟩

end Source

end ExprLang
