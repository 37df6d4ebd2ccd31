import ExprLang.Proofs.Scan.Rounds

/-!
Reading character by character. Every run of characters that a source takes at once can be read with
a loop that looks at the next character and moves over it while a test holds. Some of these tests ask
whether the end is reached; those that do not see a NUL there, again and again, and a NUL is no digit
and continues no word. So every loop ends, after no more rounds than there are characters left, and it
ends where the run does. The same holds of the loop over comments, and of the search for the longest
lexeme, which goes on as long as there are states to go on with.
-/
set_option autoImplicit false

namespace ExprLang

/-- The body is done so many times from the first state to the last one, where it cannot be done. -/
inductive Repeats {α : Type} (body : α → Option α) : Nat → α → α → Prop
  | stop {state : α} (hstop : body state = none) : Repeats body 0 state state
  | next {count : Nat} {state behind last : α} (hnext : body state = some behind)
      (hrest : Repeats body count behind last) : Repeats body (count + 1) state last

namespace Repeats

variable {α β : Type} {body : α → Option α} {count : Nat} {state last : α}

/-- The rounds of a loop are rounds of every loop that does the same to what it knows of the state. -/
theorem map {other : β → Option β} (f : α → β)
    (hbody : ∀ state, other (f state) = (body state).map f) (h : Repeats body count state last) :
    Repeats other count (f state) (f last) := by
  induction h with
  | stop hstop => exact .stop (by rw [hbody, hstop, Option.map_none])
  | next hnext _ ih => exact .next (by rw [hbody, hnext, Option.map_some]) ih

theorem unique (h : Repeats body count state last) {count' : Nat} {last' : α}
    (h' : Repeats body count' state last') : last = last' := by
  induction h generalizing count' with
  | stop hstop =>
    cases h' with
    | stop => rfl
    | next hnext => exact absurd (hstop.symm.trans hnext) (Option.some_ne_none _).symm
  | next hnext _ ih =>
    cases h' with
    | stop hstop => exact absurd (hstop.symm.trans hnext) (Option.some_ne_none _).symm
    | next hnext' hrest' =>
      cases hnext.symm.trans hnext'
      exact ih hrest'

end Repeats

/-- A search for the longest lexeme: the states it goes on with, how many characters it has read, the
longest match so far, and the source. -/
structure Search where
  frontier : List Nat
  depth : Nat
  found : Option Match
  source : Source

/-- One more character, unless there is none or no state is left. -/
def Search.step (machine : Automaton) (search : Search) : Option Search :=
  if search.frontier = [] ∨ search.source.atEnd = true then none
  else
    let next := machine.follow search.frontier search.source.peek
    let here := (machine.firstMark? next).map fun mark => ⟨mark.kind, search.depth + 1⟩
    some ⟨next, search.depth + 1, here.or search.found, search.source.advance⟩

namespace Source

/-- Moves over one character if the test holds. -/
def stepWhile (test : Source → Bool) (source : Source) : Option Source :=
  if test source then some source.advance else none

/-- Moves over one character if the test holds, and puts it behind those that were collected. -/
def collectWhile (test : Source → Bool) (state : List Char × Source) : Option (List Char × Source) :=
  if test state.2 then some (state.1 ++ [state.2.peek], state.2.advance) else none

/-- The character at hand is a blank, and not the end. -/
def onBlank (source : Source) : Bool := !source.atEnd && isBlank source.peek

/-- The character at hand does not end the line, and is not the end. -/
def onLine (source : Source) : Bool := !source.atEnd && source.peek != '\n'

/-- The character at hand belongs to a string that is open, and is not the end. -/
def onText (source : Source) : Bool := !source.atEnd && source.peek != '"'

/-- The character at hand is a digit. -/
def onDigit (source : Source) : Bool := source.peek.isDigit

/-- The character at hand goes on with a word. -/
def onWord [IdentifierClasses] (source : Source) : Bool := continuesIdentifier source.peek

/-- Skips blanks and then one comment, if there is one. -/
def stepComment (source : Source) : Option Source :=
  let source := source.skipBlanks
  if source.atEnd then none
  else if source.peek = '/' ∧ source.advance.peek = '/' then some source.advance.advance.skipLine
  else none

/-- Moves over one character of those still to be skipped, unless there is none. -/
def stepCount : Nat × Source → Option (Nat × Source)
  | (0, _) => none
  | (count + 1, source) => if source.atEnd then none else some (count, source.advance)

/-- The loops with which a source can be read all end, where the runs of characters end. -/
structure LoopsEnd [IdentifierClasses] (machine : Automaton) (source : Source) : Prop where
  blanks : ∃ count ≤ source.rest.length,
    Repeats (stepWhile onBlank) count source source.skipBlanks
  line : ∃ count ≤ source.rest.length, ∃ last,
    Repeats (stepWhile onLine) count source last ∧ last.advance = source.skipLine
  count : ∀ steps, ∃ count ≤ source.rest.length, ∃ left,
    Repeats stepCount count (steps, source) (left, source.advanceBy steps)
  layout : ∃ count ≤ source.rest.length, ∃ last,
    Repeats stepComment count source last ∧ last.skipBlanks = source.skipLayout
  search : ∃ count ≤ source.rest.length, ∃ last,
    Repeats (Search.step machine) count ⟨[0], 0, none, source⟩ last ∧
      last.found = machine.longest? source.rest
  digits : ∃ count ≤ source.rest.length, Repeats (stepWhile onDigit) count source
    (source.advanceBy (source.rest.takeWhile Char.isDigit).length)
  text : ∃ count ≤ source.rest.length, Repeats (stepWhile onText) count source
    (source.advanceBy (source.rest.takeWhile (· ≠ '"')).length)
  word : ∃ count ≤ source.rest.length, Repeats (stepWhile onWord) count source
    (source.advanceBy (source.rest.takeWhile continuesIdentifier).length)

variable {source : Source} {c : Char} {rest : List Char}

/-! ## Looking and moving -/

theorem atEnd_iff : source.atEnd = true ↔ source.rest = [] := List.isEmpty_iff

theorem peek_of_rest (h : source.rest = c :: rest) : source.peek = c := by
  rw [peek, h, List.headD_cons]

theorem rest_advance (h : source.rest = c :: rest) : source.advance.rest = rest := by
  rw [advance, advanceBy, h, List.drop_succ_cons, List.drop_zero]

theorem advance_advanceBy (source : Source) (count : Nat) :
    source.advance.advanceBy count = source.advanceBy (count + 1) := by
  rw [advance, ← advanceBy_add, Nat.add_comm]

/-- At the end there is nothing to move over. -/
theorem advanceBy_of_nil (h : source.rest = []) (count : Nat) : source.advanceBy count = source := by
  obtain ⟨lines, cursor, rest⟩ := source
  subst h
  simp only [advanceBy, List.take_nil, List.drop_nil, Cursor.advanceOver_nil]

/-! ## While a test holds -/

/-- The test holds of a character at hand, if there is one, and of nothing else. -/
def Tests (test : Source → Bool) (p : Char → Bool) : Prop :=
  ∀ source, test source = true ↔ ∃ c ∈ source.rest.head?, p c = true

theorem tests_unless_end {test : Source → Bool} {p : Char → Bool}
    (h : ∀ source, test source = (!source.atEnd && p source.peek)) : Tests test p := by
  intro source
  rw [h, atEnd, peek]
  cases source.rest <;> simp

/-- A test that does not ask for the end must fail of the NUL that stands there. -/
theorem tests_of_peek {test : Source → Bool} {p : Char → Bool} (hnul : p '\x00' = false)
    (h : ∀ source, test source = p source.peek) : Tests test p := by
  intro source
  rw [h, peek]
  cases source.rest <;> simp [hnul]

theorem tests_onDigit : Tests onDigit Char.isDigit := tests_of_peek (by decide) fun _ => rfl

theorem tests_onText : Tests onText (· ≠ '"') :=
  tests_unless_end fun _ => by simp [onText, bne, beq_eq_decide]

theorem tests_onWord [IdentifierClasses] : Tests onWord continuesIdentifier :=
  tests_of_peek (continuesIdentifier_eq_false (by decide)) fun _ => rfl

theorem repeats_collect {test : Source → Bool} {p : Char → Bool} (htest : Tests test p)
    (front : List Char) (source : Source) :
    Repeats (collectWhile test) (source.rest.takeWhile p).length (front, source)
      (front ++ source.rest.takeWhile p,
        source.advanceBy (source.rest.takeWhile p).length) := by
  generalize hstream : source.rest = stream
  induction stream generalizing front source with
  | nil =>
    rw [List.takeWhile_nil, List.length_nil, advanceBy_of_nil hstream, List.append_nil]
    refine .stop ?_
    have hfails : test source ≠ true := by simp [htest source, hstream]
    rw [collectWhile, if_neg hfails]
  | cons c rest ih =>
    by_cases hc : p c = true
    · have hholds : test source = true := (htest source).mpr ⟨c, by simp [hstream], hc⟩
      have hrest := ih (front ++ [c]) source.advance (rest_advance hstream)
      rw [advance_advanceBy, List.append_assoc] at hrest
      rw [List.takeWhile_cons_of_pos hc, List.length_cons]
      exact .next (by rw [collectWhile, if_pos hholds, peek_of_rest hstream]) hrest
    · have hfails : test source ≠ true := by simpa [htest source, hstream] using hc
      rw [List.takeWhile_cons_of_neg hc, List.length_nil, List.append_nil]
      exact .stop (by rw [collectWhile, if_neg hfails])

/-- A loop moves alike whether the characters are collected or not. -/
theorem stepWhile_eq_map (test : Source → Bool) (state : List Char × Source) :
    stepWhile test state.2 = (collectWhile test state).map Prod.snd := by
  rw [stepWhile, collectWhile]
  split <;> rfl

theorem repeats_while {test : Source → Bool} {p : Char → Bool} (htest : Tests test p)
    (source : Source) : Repeats (stepWhile test) (source.rest.takeWhile p).length source
      (source.advanceBy (source.rest.takeWhile p).length) :=
  (repeats_collect htest [] source).map Prod.snd (stepWhile_eq_map test)

theorem loop_while {test : Source → Bool} {p : Char → Bool} (htest : Tests test p)
    (source : Source) : ∃ count ≤ source.rest.length, Repeats (stepWhile test) count source
      (source.advanceBy (source.rest.takeWhile p).length) :=
  ⟨_, (List.takeWhile_prefix p).length_le, repeats_while htest source⟩

/-! ## Through the line, and over a number of characters -/

theorem skipLine_eq (source : Source) : source.skipLine =
    (source.advanceBy (source.rest.takeWhile (· != '\n')).length).advance := by
  rw [skipLine]
  generalize hstream : source.rest = stream
  induction stream generalizing source with
  | nil => simp only [advance, advanceBy_of_nil hstream]
  | cons c rest ih =>
    by_cases hc : c = '\n'
    · subst hc
      rfl
    · have hrest := ih source.advance (rest_advance hstream)
      rw [advance_advanceBy, advance_advanceBy] at hrest
      rw [throughBreak, if_neg hc, List.takeWhile_cons_of_pos (by simpa using hc)]
      exact hrest

theorem loop_count (steps : Nat) (source : Source) : ∃ count ≤ source.rest.length, ∃ left,
    Repeats stepCount count (steps, source) (left, source.advanceBy steps) := by
  induction steps generalizing source with
  | zero => exact ⟨0, Nat.zero_le _, 0, .stop rfl⟩
  | succ steps ih =>
    by_cases hend : source.rest = []
    · refine ⟨0, Nat.zero_le _, steps + 1, ?_⟩
      rw [advanceBy_of_nil hend]
      exact .stop (by rw [stepCount, if_pos (atEnd_iff.mpr hend)])
    · obtain ⟨c, rest, hrest⟩ := List.exists_cons_of_ne_nil hend
      obtain ⟨count, hcount, left, hrepeats⟩ := ih source.advance
      rw [rest_advance hrest] at hcount
      rw [advance_advanceBy] at hrepeats
      refine ⟨count + 1, by simpa [hrest] using hcount, left, .next ?_ hrepeats⟩
      rw [stepCount, if_neg (mt atEnd_iff.mp hend)]

/-! ## Comments -/

theorem skipLayout_skipBlanks (source : Source) : source.skipBlanks.skipLayout = source.skipLayout := by
  rw [skipBlanks]
  generalize hstream : source.rest = stream
  induction stream generalizing source with
  | nil => rw [advanceBy_of_nil hstream]
  | cons c rest ih =>
    by_cases hc : isBlank c = true
    · have hrest := ih source.advance (rest_advance hstream)
      have hpiece : Segment.layout? source.rest = some (.blank c) := by
        have hslash : c ≠ '/' := by
          rintro rfl
          exact absurd hc (by decide)
        simp [hstream, Segment.layout?, hslash, hc]
      rw [advance_advanceBy] at hrest
      rw [List.takeWhile_cons_of_pos hc, List.length_cons, hrest]
      exact skipLayout_advanceBy hpiece
    · rw [List.takeWhile_cons_of_neg hc, List.length_nil]
      rfl

theorem rest_skipBlanks (source : Source) :
    source.skipBlanks.rest = source.rest.dropWhile isBlank := by
  rw [skipBlanks, advanceBy, ← Segment.takeWhile_dropWhile_split]

/-- Behind the blanks either there is no more layout, or the next comment is skipped. -/
theorem stepComment_cases (source : Source) :
    (source.stepComment = none ∧ source.skipBlanks = source.skipLayout) ∨
    ∃ behind, source.stepComment = some behind ∧ behind.skipLayout = source.skipLayout ∧
      behind.rest.length < source.rest.length := by
  have hblanks := skipLayout_skipBlanks source
  have hle : source.skipBlanks.rest.length ≤ source.rest.length := by
    rw [rest_skipBlanks]
    exact (List.dropWhile_sublist _).length_le
  have hhead : ∀ c ∈ source.skipBlanks.rest.head?, isBlank c = false := by
    rw [rest_skipBlanks]
    exact head?_dropWhile _ _
  rw [stepComment]
  generalize source.skipBlanks = source' at *
  rw [← hblanks]
  by_cases hend : source'.rest = []
  · left
    have hlayout : ¬ StartsLayout source'.rest := by simp [StartsLayout, hend]
    exact ⟨if_pos (atEnd_iff.mpr hend), (skipLayout_eq_self hlayout).symm⟩
  have hgoes : ¬ source'.atEnd = true := mt atEnd_iff.mp hend
  obtain ⟨c, rest, hrest⟩ := List.exists_cons_of_ne_nil hend
  have hadvance := rest_advance hrest
  by_cases hslashes : source'.peek = '/' ∧ source'.advance.peek = '/'
  · right
    obtain ⟨hfirst, hsecond⟩ := hslashes
    obtain rfl : c = '/' := (peek_of_rest hrest).symm.trans hfirst
    rw [peek, hadvance] at hsecond
    obtain ⟨tail, rfl⟩ : ∃ tail, rest = '/' :: tail := by
      cases rest with
      | nil => exact absurd hsecond (by decide)
      | cons d tail => exact ⟨tail, congrArg (· :: tail) hsecond⟩
    have hpiece : Segment.layout? source'.rest = some (.comment ('/' :: '/' :: throughBreak tail)) := by
      rw [hrest, Segment.layout?]
    have htail : source'.advance.advance.rest = tail := rest_advance hadvance
    have hskip : source'.advance.advance.skipLine =
        source'.advanceBy (Segment.comment ('/' :: '/' :: throughBreak tail)).length := by
      rw [skipLine, htail, advance_advanceBy, advance_advanceBy]
      rfl
    have hboth : source'.peek = '/' ∧ source'.advance.peek = '/' :=
      ⟨hfirst, peek_of_rest hadvance⟩
    refine ⟨source'.advance.advance.skipLine, by simp only [if_neg hgoes, if_pos hboth], ?_, ?_⟩
    · rw [hskip]
      exact skipLayout_advanceBy hpiece
    · have hshorter : (source'.advance.advance.skipLine).rest.length ≤ tail.length := by
        rw [skipLine, advanceBy, htail]
        exact (List.drop_sublist _ _).length_le
      rw [hrest, List.length_cons, List.length_cons] at hle
      omega
  · left
    have hlayout : ¬ StartsLayout source'.rest := by
      rintro (⟨d, hd, hblank⟩ | ⟨tail, htail⟩)
      · rw [hhead d hd] at hblank
        cases hblank
      · exact hslashes ⟨peek_of_rest htail.symm, peek_of_rest (rest_advance htail.symm)⟩
    exact ⟨by simp only [if_neg hgoes, if_neg hslashes], (skipLayout_eq_self hlayout).symm⟩

theorem loop_layout (source : Source) : ∃ count ≤ source.rest.length, ∃ last,
    Repeats stepComment count source last ∧ last.skipBlanks = source.skipLayout := by
  induction hlength : source.rest.length using Nat.strongRecOn generalizing source with
  | ind length ih =>
    rcases stepComment_cases source with ⟨hstop, hlast⟩ | ⟨behind, hnext, hlayout, hshorter⟩
    · exact ⟨0, Nat.zero_le _, source, .stop hstop, hlast⟩
    · rw [hlength] at hshorter
      obtain ⟨count, hcount, last, hrepeats, hlast⟩ := ih _ hshorter behind rfl
      exact ⟨count + 1, Nat.lt_of_le_of_lt hcount hshorter, last, .next hnext hrepeats,
        hlast.trans hlayout⟩

/-! ## The search for the longest lexeme -/

/-- What a search finds is what reading on from its states gives; with no state left it keeps what it
has found. -/
theorem loop_search (machine : Automaton) (source : Source) (frontier : List Nat) (depth : Nat)
    (found : Option Match) : ∃ count ≤ source.rest.length, ∃ last,
      Repeats (Search.step machine) count ⟨frontier, depth, found, source⟩ last ∧
        last.found = if frontier = [] then found
          else machine.longestFrom frontier depth found source.rest := by
  generalize hstream : source.rest = stream
  induction stream generalizing source frontier depth found with
  | nil =>
    have hstop : Search.step machine ⟨frontier, depth, found, source⟩ = none := by
      rw [Search.step, if_pos (.inr (atEnd_iff.mpr hstream))]
    exact ⟨0, Nat.zero_le _, _, .stop hstop, by simp [Automaton.longestFrom]⟩
  | cons c rest ih =>
    by_cases hfrontier : frontier = []
    · have hstop : Search.step machine ⟨frontier, depth, found, source⟩ = none := by
        rw [Search.step, if_pos (.inl hfrontier)]
      exact ⟨0, Nat.zero_le _, _, .stop hstop, (if_pos hfrontier).symm⟩
    · have hgoes : ¬ (frontier = [] ∨ source.atEnd = true) := by
        rw [atEnd_iff, hstream]
        simpa using hfrontier
      have hnext : Search.step machine ⟨frontier, depth, found, source⟩ = some
          ⟨machine.follow frontier c, depth + 1,
            ((machine.firstMark? (machine.follow frontier c)).map
              fun mark => ⟨mark.kind, depth + 1⟩).or found, source.advance⟩ := by
        rw [Search.step, if_neg hgoes, peek_of_rest hstream]
      obtain ⟨count, hcount, last, hrepeats, hlast⟩ := ih source.advance
        (machine.follow frontier c) (depth + 1) _ (rest_advance hstream)
      refine ⟨count + 1, Nat.succ_le_succ hcount, last, .next hnext hrepeats, ?_⟩
      rw [hlast, if_neg hfrontier, Automaton.longestFrom]
      cases machine.follow frontier c with
      | nil => rfl
      | cons state states => rfl

/-! ## All loops -/

/-- Every loop of a source ends. -/
theorem loopsEnd [IdentifierClasses] (machine : Automaton) (source : Source) :
    LoopsEnd machine source where
  blanks := loop_while (tests_unless_end fun _ => rfl) source
  line := by
    have htests : Tests onLine (· != '\n') := tests_unless_end fun _ => rfl
    obtain ⟨count, hcount, hrepeats⟩ := loop_while htests source
    exact ⟨count, hcount, _, hrepeats, (skipLine_eq source).symm⟩
  count steps := loop_count steps source
  layout := loop_layout source
  search := loop_search machine source [0] 0 none
  digits := loop_while tests_onDigit source
  text := loop_while tests_onText source
  word := loop_while tests_onWord source

end Source

end ExprLang
