import ExprLang.Proofs.LineEndings
import ExprLang.Proofs.Scan.Joined

/-!
How far a scan looks ahead. A piece that is cut off some characters, with others behind them, is
still the next piece when the others are taken away, since it was the longest of its kind before.
When something else is put in their place that begins with a delimiter, it stays the next piece. So
the pieces in front of a place are the same for all that can follow there; and a string that is left
open is opened by the last quote of its text, whose pieces in front of that quote are kept whatever
the string turns out to hold.
-/
set_option autoImplicit false

namespace ExprLang

/-- In front of any delimiter, and of the end, the characters are cut into these pieces. -/
structure CutInFront [IdentifierClasses] (front : List Char) (pieces : List Segment) : Prop where
  closed : ∀ text, .unclosed text ∉ pieces
  chars_eq : pieces.flatMap Segment.chars = front
  cut : ∀ {rest : List Char} {more : List Segment}, AtDelimiter rest →
    Cut Automaton.standard rest more [] → Cut Automaton.standard (front ++ rest) (pieces ++ more) []

variable {front rest : List Char} {piece : Segment}

/-! ## Taking away what stands behind -/

theorem throughBreak_of_append (h : (throughBreak (front ++ rest)).length ≤ front.length) :
    throughBreak (front ++ rest) = throughBreak front := by
  induction front with
  | nil => exact List.length_eq_zero_iff.mp (Nat.le_zero.mp h)
  | cons c front ih =>
    rw [List.cons_append, throughBreak, throughBreak] at *
    by_cases hbreak : c = '\n'
    · rw [if_pos hbreak, if_pos hbreak]
    · rw [if_neg hbreak] at h ⊢
      rw [if_neg hbreak, ih (Nat.le_of_succ_le_succ h)]

theorem takeWhile_of_append {p : Char → Bool}
    (h : ((front ++ rest).takeWhile p).length ≤ front.length) :
    (front ++ rest).takeWhile p = front.takeWhile p := by
  rw [List.takeWhile_append] at h ⊢
  split at h
  · rename_i hall
    rw [List.length_append] at h
    have hnone : rest.takeWhile p = [] := List.length_eq_zero_iff.mp (by omega)
    have hfront : front.takeWhile p = front :=
      (List.takeWhile_prefix p).eq_of_length hall
    rw [if_pos hall, hnone, List.append_nil, hfront]
  · rename_i hsome
    rw [if_neg hsome]

namespace Segment

theorem Starts.exists_cons {stream : List Char} (h : piece.Starts stream)
    (hle : piece.length ≤ front.length) : ∃ first tail, front = first :: tail :=
  List.exists_cons_of_length_pos (Nat.lt_of_lt_of_le (List.length_pos_iff.mpr h.1) hle)

theorem Starts.isPrefix_of_append (h : piece.Starts (front ++ rest))
    (hle : piece.length ≤ front.length) : piece.chars <+: front :=
  List.prefix_of_prefix_length_le h.isPrefix (List.prefix_append front rest) hle

theorem numberLexeme_of_append {first : Char} (hdigit : first.isDigit = true)
    (h : (numberLexeme (first :: front ++ rest)).length ≤ (first :: front).length) :
    numberLexeme (first :: front ++ rest) = numberLexeme (first :: front) := by
  have hwide : numberLexeme (first :: front ++ rest) <+: first :: front ++ rest :=
    ⟨_, numberLexeme_append_drop _⟩
  have hnarrow : numberLexeme (first :: front) <+: first :: front :=
    ⟨_, numberLexeme_append_drop _⟩
  have hbehind := List.prefix_append (first :: front) rest
  have hfront : numberLexeme (first :: front ++ rest) <+: first :: front :=
    List.prefix_of_prefix_length_le hwide hbehind h
  -- Each of the two is a number where the other is the longest one.
  have hle := length_le_numberLexeme (isNumber_numberLexeme (front ++ rest) hdigit) hfront
  have hge := length_le_numberLexeme (isNumber_numberLexeme front hdigit) (hnarrow.trans hbehind)
  have hpre := List.prefix_of_prefix_length_le hfront hnarrow hle
  exact hpre.eq_of_length (Nat.le_antisymm hle hge)

/-- A string that ends within some characters has its closing quote among them. -/
theorem mem_of_length_string {tail : List Char} (hne : rest ≠ [])
    (h : (string (tail ++ rest)).length ≤ tail.length + 1) : '"' ∈ tail := by
  by_contra hopen
  by_cases hclosed : '"' ∈ rest
  · obtain ⟨body, behind, rfl, hbody⟩ := List.eq_append_cons_of_mem hclosed
    have hinside : '"' ∉ tail ++ body := by simp [hopen, hbody]
    rw [← List.append_assoc, string_eq hinside] at h
    simp only [Segment.length, chars, List.length_cons, List.length_append] at h
    omega
  · have hinside : '"' ∉ tail ++ rest := by simp [hopen, hclosed]
    have hpos := List.length_pos_iff.mpr hne
    rw [string_unclosed hinside] at h
    simp only [Segment.length, chars, List.length_cons, List.length_append] at h
    omega

theorem layout?_of_append (h : layout? (front ++ rest) = some piece)
    (hle : piece.length ≤ front.length) : layout? front = some piece := by
  obtain ⟨first, tail, rfl⟩ := (starts_of_layout? h).exists_cons hle
  by_cases hcomment : ['/', '/'] <+: first :: (tail ++ rest)
  · obtain ⟨more, hmore⟩ := hcomment
    obtain ⟨rfl, hsecond⟩ := List.cons.inj hmore
    cases tail with
    | nil =>
      rw [List.cons_append, ← hmore, List.cons_append, List.cons_append, layout?] at h
      cases h
      exact absurd hle (by simp [Segment.length, chars])
    | cons second tail =>
      obtain ⟨rfl, -⟩ := List.cons.inj hsecond
      rw [List.cons_append, List.cons_append, layout?] at h
      cases h
      have hbody : (throughBreak (tail ++ rest)).length ≤ tail.length := by
        simpa [Segment.length, chars] using hle
      rw [layout?, throughBreak_of_append hbody]
  · have hnone : ¬ ['/', '/'] <+: first :: tail := fun hstarts =>
      hcomment (hstarts.trans (List.prefix_append (first :: tail) rest))
    rw [List.cons_append, layout?_of_no_slashes hcomment] at h
    rw [layout?_of_no_slashes hnone, h]

variable [IdentifierClasses]

theorem literal?_of_append (hne : rest ≠ []) (h : literal? (front ++ rest) = some piece)
    (hle : piece.length ≤ front.length) : literal? front = some piece := by
  obtain ⟨first, tail, rfl⟩ := (starts_of_literal? h).exists_cons hle
  rw [List.cons_append, literal?] at h
  rw [literal?]
  by_cases hquote : first = '"'
  · rw [if_pos hquote, Option.some.injEq] at h ⊢
    subst h
    rw [string_append (mem_of_length_string hne hle)]
  rw [if_neg hquote] at h ⊢
  by_cases hdigit : first.isDigit = true
  · rw [if_pos hdigit, Option.some.injEq] at h ⊢
    subst h
    rw [number, number, ← List.cons_append, numberLexeme_of_append hdigit hle]
  rw [if_neg hdigit] at h ⊢
  by_cases hword : startsIdentifier first = true
  · rw [if_pos hword, Option.some.injEq] at h ⊢
    subst h
    rw [word, word, takeWhile_of_append (Nat.le_of_succ_le_succ hle)]
  · rw [if_neg hword] at h
    cases h

/-- What stands behind the next piece can be taken away. -/
theorem next?_of_append (hne : rest ≠ [])
    (h : next? Automaton.standard (front ++ rest) = some piece)
    (hle : piece.length ≤ front.length) : next? Automaton.standard front = some piece := by
  have hstarts := starts_of_next? h
  have hprefix := hstarts.isPrefix_of_append hle
  have hfront := List.prefix_append front rest
  rcases next?_eq_some_iff.mp h with hlayout | ⟨hlayout, hsolid⟩
  · exact next?_eq_some_iff.mpr (Or.inl (layout?_of_append hlayout hle))
  -- What fits in front of the end fits in the whole stream, so nothing longer turns up.
  refine next?_eq_some_iff.mpr (Or.inr ⟨fun hnarrow => hlayout (hnarrow.of_prefix hfront), ?_⟩)
  obtain ⟨first, tail, rfl⟩ := hstarts.exists_cons hle
  have hnone : ∀ {lexeme : String},
      Catalog.standard.Finds (first :: tail ++ rest) .unexpected lexeme →
      Catalog.standard.Finds (first :: tail) .unexpected lexeme := by
    intro lexeme hfinds
    obtain ⟨c, more, hstream, rfl, -⟩ := finds_unexpected hfinds
    obtain ⟨rfl, -⟩ := List.cons.inj hstream
    exact hfinds.of_prefix (by simp) hfront
  cases hsolid with
  | token hfinds heof hexpected =>
    refine .token (hfinds.of_prefix ?_ hfront) heof hexpected
    exact hprefix
  | literal hfinds hliteral =>
    exact .literal (hnone hfinds) (literal?_of_append hne hliteral hle)
  | stray hfinds hliteral =>
    have hfirst := literal?_eq_none_iff.mp hliteral
    exact .stray (hnone hfinds) (literal?_eq_none_iff.mpr hfirst)

/-! ## Putting something else behind -/

/-- A piece that ends in front of others is neither an open comment nor an open string. -/
theorem complete_of_next? (hne : rest ≠ [])
    (h : next? Automaton.standard (front ++ rest) = some piece)
    (hle : piece.length ≤ front.length) : ¬ RestOfLine front ∧ ClosesQuote front := by
  constructor
  · rintro (rfl | ⟨body, hbody, rfl⟩)
    · have hpos := List.length_pos_iff.mpr (starts_of_next? h).1
      exact absurd hle (Nat.not_le.mpr hpos)
    · rw [List.cons_append, List.cons_append, next?_comment, throughBreak_of_not_mem hbody] at h
      cases h
      cases rest with
      | nil => exact hne rfl
      | cons c rest =>
        have hpos : throughBreak (c :: rest) ≠ [] := by
          rw [throughBreak]
          split <;> simp
        have := List.length_pos_iff.mpr hpos
        simp only [Segment.length, chars, List.length_cons, List.length_append] at hle
        omega
  · rintro tail rfl
    rw [List.cons_append, next?_quote] at h
    cases h
    exact mem_of_length_string hne hle

/-- What stands behind the next piece can be replaced, if a delimiter comes first. -/
theorem next?_replaced {rest' : List Char} (hne : rest ≠ [])
    (h : next? Automaton.standard (front ++ rest) = some piece)
    (hle : piece.length ≤ front.length) (hrest' : AtDelimiter rest') :
    next? Automaton.standard (front ++ rest') = some piece := by
  obtain ⟨hcomment, hquote⟩ := complete_of_next? hne h hle
  rw [next?_append hcomment hquote hrest']
  exact next?_of_append hne h hle

end Segment

/-! ## The last quote -/

variable {text : String} {behind : List Char} {upper : List Segment}

theorem eq_nil_of_last_quote {between behind behind' : List Char}
    (h : '"' :: behind = between ++ '"' :: behind') (hbehind : '"' ∉ behind) : between = [] := by
  cases between with
  | nil => rfl
  | cons c between =>
    rw [(List.cons.inj h).2] at hbehind
    exact absurd (by simp) hbehind

theorem eq_of_last_quote {first second behind behind' : List Char}
    (h : first ++ '"' :: behind = second ++ '"' :: behind') (hbehind : '"' ∉ behind)
    (hbehind' : '"' ∉ behind') : first = second := by
  rcases List.append_eq_append_iff.mp h with ⟨between, rfl, htail⟩ | ⟨between, rfl, htail⟩
  · rw [eq_nil_of_last_quote htail hbehind, List.append_nil]
  · rw [eq_nil_of_last_quote htail hbehind', List.append_nil]

theorem Segment.exists_unclosed {lastLine line : Nat} {pieces : List Segment} {cursor : Cursor}
    (h : .unterminatedString line ∈ errorsOf (resultsFrom lastLine cursor pieces)) :
    ∃ text, .unclosed text ∈ pieces := by
  induction pieces generalizing cursor with
  | nil => cases h
  | cons piece pieces ih =>
    rw [resultsFrom_cons, errorsOf_append, List.mem_append] at h
    rcases h with hfirst | hlater
    · cases piece with
      | unclosed text => exact ⟨text, List.mem_cons_self⟩
      | _ => simp [result?, errorsOf] at hfirst
    · obtain ⟨text, hmem⟩ := ih hlater
      exact ⟨text, List.mem_cons_of_mem piece hmem⟩

theorem streamOfText_at_quote (htext : text.toList = front ++ '"' :: behind) :
    streamOfText text = plainBreaks front ++ '"' :: (plainBreaks behind ++ lastBreak text.toList) := by
  have hbreak : plainBreaks ('"' :: behind) = '"' :: plainBreaks behind :=
    plainBreaks_cons (by simp)
  rw [streamOfText, streamOf_linesOf_eq, htext, plainBreaks_append (by simp), hbreak,
    List.append_assoc, List.cons_append]

theorem quote_not_mem_stream (hbehind : '"' ∉ behind) (text : List Char) :
    '"' ∉ plainBreaks behind ++ lastBreak text := by
  intro hmem
  rcases List.mem_append.mp hmem with hin | hin
  · exact hbehind (mem_of_mem_plainBreaks hin)
  · have hbreak := isBreak_of_mem_lastBreak hin
    simp [IsBreak] at hbreak

theorem exists_last_quote {chars : List Char} (h : '"' ∈ chars) :
    ∃ front behind, chars = front ++ '"' :: behind ∧ '"' ∉ behind := by
  obtain ⟨behind, front, hsplit, hbehind⟩ :=
    List.eq_append_cons_of_mem (List.mem_reverse.mpr h)
  refine ⟨front.reverse, behind.reverse, ?_, by simpa using hbehind⟩
  rw [← List.reverse_reverse chars, hsplit]
  simp

variable [IdentifierClasses]

/-! ## The pieces in front of a place -/

/-- The pieces in front of a place where more follows are cut there whatever follows. -/
theorem Cut.inFront {upper lower : List Segment} (hne : rest ≠ [])
    (hfront : upper.flatMap Segment.chars = front)
    (h : Cut Automaton.standard (front ++ rest) (upper ++ lower) []) :
    CutInFront front upper := by
  induction upper generalizing front with
  | nil =>
    subst hfront
    exact ⟨by simp, rfl, fun _ hcut => hcut⟩
  | cons piece upper ih =>
    subst hfront
    rw [List.flatMap_cons, List.append_assoc] at h
    cases h with
    | piece hnext hlower =>
      have hle : piece.length ≤ (piece.chars ++ upper.flatMap Segment.chars).length := by
        rw [List.length_append]
        exact Nat.le_add_right _ _
      rw [Segment.length, List.drop_left] at hlower
      have hupper := ih rfl hlower
      rw [← List.append_assoc] at hnext
      refine ⟨fun text hmem => ?_, rfl, fun {rest' more} hrest' hmore => ?_⟩
      · rcases List.mem_cons.mp hmem with rfl | hlater
        · -- An unclosed string would go on through what follows.
          have hwhole := congrArg List.length (Segment.eq_of_next?_unclosed hnext)
          have hpos := List.length_pos_iff.mpr hne
          simp only [Segment.chars, List.length_append] at hwhole
          omega
        · exact hupper.closed text hlater
      · refine .piece (Segment.next?_replaced hne hnext hle hrest') ?_
        rw [Segment.length, List.flatMap_cons, List.append_assoc, List.drop_left]
        exact hupper.cut hrest' hmore

/-! ## Open strings -/

/-- A string that is left open begins at the last quote. -/
theorem exists_inFront_of_open {line : Nat} (hopen : .unterminatedString line ∈ (scan text).errors) :
    ∃ front behind upper, text.toList = front ++ '"' :: behind ∧ '"' ∉ behind ∧
      CutInFront (plainBreaks front) upper := by
  obtain ⟨pieces, hcut⟩ := exists_cut text
  have hscan : scan text = _ := hcut.scanWith_eq
  rw [hscan] at hopen
  obtain ⟨tail, hmem⟩ := Segment.exists_unclosed hopen
  obtain ⟨body, hbody, rfl⟩ := hcut.wellShaped (endsLine_streamOf _) _ hmem
  obtain ⟨upper, back, rfl⟩ := List.append_of_mem hmem
  obtain ⟨rfl, -⟩ := hcut.unclosed_last upper _ back rfl
  have hflatten : streamOfText text = upper.flatMap Segment.chars ++ '"' :: body := by
    rw [hcut.flatten, List.flatMap_append]
    simp [Segment.chars]
  have hquote : '"' ∈ text.toList := by
    by_contra hno
    refine quote_not_mem_stream hno text.toList ?_
    rw [← streamOf_linesOf_eq]
    show '"' ∈ streamOfText text
    simp [hflatten]
  obtain ⟨front, behind, htext, hbehind⟩ := exists_last_quote hquote
  have hsplit := streamOfText_at_quote htext
  have hfront : upper.flatMap Segment.chars = plainBreaks front :=
    eq_of_last_quote (hflatten.symm.trans hsplit) hbody (quote_not_mem_stream hbehind _)
  rw [hsplit] at hcut
  exact ⟨front, behind, upper, htext, hbehind, hcut.inFront (by simp) hfront⟩

theorem CutInFront.opens (h : CutInFront (plainBreaks front) upper)
    (htext : text.toList = front ++ '"' :: behind) (hbehind : '"' ∉ behind) :
    .unterminatedString (Source.ofText text).lastLine ∈ (scan text).errors := by
  let tail := plainBreaks behind ++ lastBreak text.toList
  have hnext : Segment.next? Automaton.standard ('"' :: tail) = some (.unclosed ('"' :: tail)) := by
    rw [Segment.next?_quote, Segment.string_unclosed (quote_not_mem_stream hbehind _)]
  have hopen : Cut Automaton.standard ('"' :: tail) [.unclosed ('"' :: tail)] [] := by
    refine .piece hnext ?_
    rw [Segment.length, Segment.chars, List.drop_length]
    exact .stop rfl
  have hcut := h.cut (atDelimiter_quote tail) hopen
  rw [← streamOfText_at_quote htext] at hcut
  have hscan : scan text = _ := hcut.scanWith_eq
  rw [hscan]
  exact Segment.unterminatedString_of_unclosed (List.mem_append_right upper List.mem_cons_self)

/-- A string stays open as long as no quote follows. -/
theorem unterminatedString_append {line : Nat} (hopen : .unterminatedString line ∈ (scan text).errors)
    {more : String} (hmore : '"' ∉ more.toList) :
    ∃ line, .unterminatedString line ∈ (scan (text ++ more)).errors := by
  obtain ⟨front, behind, upper, htext, hbehind, hupper⟩ := exists_inFront_of_open hopen
  have hsplit : (text ++ more).toList = front ++ '"' :: (behind ++ more.toList) := by
    rw [String.toList_append, htext, List.append_assoc, List.cons_append]
  exact ⟨_, hupper.opens hsplit (by simp [hbehind, hmore])⟩

end ExprLang
