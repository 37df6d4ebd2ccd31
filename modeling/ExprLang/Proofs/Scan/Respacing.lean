import ExprLang.Proofs.LineEndings
import ExprLang.Proofs.Scan.Lookahead
import ExprLang.Text.IdentifierTables

/-!
The same tokens under another layout. A token depends on its lexeme alone: what is read as a token
in one text is read as the same token by itself, and wherever it is followed by a blank. So the
lexemes of a text can be set apart by any blanks and comments, as long as a blank comes first behind
each of them, and they are read as the same tokens again. Breaks are the one thing to look at. A
string may hold one, and a second carriage return in front of it would be lost when it is read again.
-/
set_option autoImplicit false

namespace ExprLang

/-- What a token is, wherever it stands. -/
def Token.content (token : Token) : Kind × String × Option Literal :=
  (token.kind, token.lexeme, token.literal)

/-- The lexeme by itself is read as the token. -/
def Token.StandsAlone [IdentifierClasses] (token : Token) : Prop :=
  Segment.next? Automaton.standard token.lexeme.toList =
    some (.token token.kind token.lexeme.toList token.literal)

/-- Layout behind each of some lexemes. It begins with a blank, and only behind the last lexeme may
there be nothing at all. -/
structure Separates (gaps : List String) : Prop where
  layout : ∀ gap ∈ gaps, Layout gap.toList
  blank : ∀ gap ∈ gaps, AtBlank gap.toList
  inner : ∀ gap ∈ gaps.dropLast, gap ≠ ""

/-- Layout around some lexemes, in front of the first one and behind each. -/
structure Spacing (count : Nat) where
  before : String
  gaps : List String
  layout_before : Layout before.toList
  separates : Separates gaps
  length_gaps : gaps.length = count

/-- The text of some lexemes with layout around them. -/
def Spacing.around {count : Nat} (spacing : Spacing count) (lexemes : List String) : String :=
  spacing.before ++ String.join (List.zipWith (· ++ ·) lexemes spacing.gaps)

/-- The stream is cut into layout and tokens with these contents. -/
def Spells [IdentifierClasses] (stream : List Char)
    (contents : List (Kind × String × Option Literal)) : Prop :=
  ∃ pieces, Cut Automaton.standard stream pieces [] ∧ ∀ lastLine cursor,
    errorsOf (Segment.resultsFrom lastLine cursor pieces) = [] ∧
      (valuesOf (Segment.resultsFrom lastLine cursor pieces)).map Token.content = contents

/-! ## Layout in a text -/

theorem Layout.plainBreaks {skipped : List Char} (h : Layout skipped) :
    Layout (plainBreaks skipped) := by
  induction h with
  | nil => exact .nil
  | blank symbol rest hblank hrest ih =>
    by_cases hbreak : symbol = '\r' ∧ rest.head? = some '\n'
    · obtain ⟨rfl, hhead⟩ := hbreak
      obtain ⟨tail, rfl⟩ := List.head?_eq_some_iff.mp hhead
      rwa [plainBreaks_cons (by simp)] at ih
    · rw [plainBreaks_cons fun hsymbol hhead => hbreak ⟨hsymbol, hhead⟩]
      exact .blank symbol _ hblank ih
  | comment body rest hbody _ ih =>
    obtain ⟨line, hline, hplain⟩ := plainBreaks_line hbody rest
    rw [List.cons_append, List.cons_append, plainBreaks_cons (by simp), plainBreaks_cons (by simp),
      hplain]
    exact .comment line _ hline ih

theorem AtBlank.append {front rest : List Char} (h : AtBlank front) (h' : AtBlank rest) :
    AtBlank (front ++ rest) := by
  cases front with
  | nil => exact h'
  | cons c front => exact h

theorem AtBlank.plainBreaks {stream : List Char} (h : AtBlank stream) :
    AtBlank (plainBreaks stream) := by
  rcases head?_plainBreaks stream with hhead | ⟨-, hhead⟩ <;> unfold AtBlank <;> rw [hhead]
  · exact h
  · simp [isBlank]

namespace Separates

variable {gap : String} {gaps : List String}

theorem tail (h : Separates (gap :: gaps)) : Separates gaps where
  layout other hother := h.layout other (List.mem_cons_of_mem gap hother)
  blank other hother := h.blank other (List.mem_cons_of_mem gap hother)
  inner other hother := by
    cases gaps with
    | nil => cases hother
    | cons second gaps => exact h.inner other (List.mem_cons_of_mem gap hother)

theorem head_ne (h : Separates (gap :: gaps)) (hgaps : gaps ≠ []) : gap ≠ "" :=
  h.inner gap (by simp [List.dropLast_cons_of_ne_nil hgaps])

/-- Behind a lexeme there is a blank or the end, with the next lexemes in their place. -/
theorem blank_append (h : Separates (gap :: gaps)) {more : List Char}
    (hmore : gaps = [] → more = []) : AtBlank (gap.toList ++ more) := by
  have hblank := h.blank gap List.mem_cons_self
  by_cases hlast : gaps = []
  · rw [hmore hlast, List.append_nil]
    exact hblank
  · have hne : gap.toList ≠ [] := by simpa using h.head_ne hlast
    obtain ⟨c, rest, hchars⟩ := List.exists_cons_of_ne_nil hne
    rw [hchars] at hblank ⊢
    exact hblank

end Separates

section

variable [IdentifierClasses]

/-! ## One token by itself -/

theorem Segment.next?_alone {stream lexeme : List Char} {kind : Kind} {literal : Option Literal}
    (h : next? Automaton.standard stream = some (.token kind lexeme literal)) :
    next? Automaton.standard lexeme = some (.token kind lexeme literal) := by
  obtain ⟨rest, rfl⟩ : lexeme <+: stream := (starts_of_next? h).isPrefix
  by_cases hrest : rest = []
  · rwa [hrest, List.append_nil] at h
  · exact next?_of_append hrest h (Nat.le_refl _)

namespace Token.StandsAlone

variable {token : Token}

theorem ne_nil (h : token.StandsAlone) : token.lexeme.toList ≠ [] :=
  (Segment.starts_of_next? h).1

theorem not_restOfLine (h : token.StandsAlone) : ¬ RestOfLine token.lexeme.toList := by
  unfold StandsAlone at h
  rintro (hnil | ⟨body, _, hcomment⟩)
  · exact (Segment.starts_of_next? h).1 hnil
  · rw [hcomment, Segment.next?_comment] at h
    cases h

theorem closesQuote (h : token.StandsAlone) : ClosesQuote token.lexeme.toList := by
  unfold StandsAlone at h
  intro tail htail
  by_contra hopen
  rw [htail, Segment.next?_quote, Segment.string_unclosed hopen] at h
  cases h

/-- In front of a blank the lexeme is read as the token. -/
theorem next?_append (h : token.StandsAlone) {rest : List Char} (hrest : AtBlank rest) :
    Segment.next? Automaton.standard (token.lexeme.toList ++ rest) =
      some (.token token.kind token.lexeme.toList token.literal) :=
  (Segment.next?_append h.not_restOfLine h.closesQuote hrest.atDelimiter).trans h

theorem not_blank_head (h : token.StandsAlone) :
    ∀ c ∈ token.lexeme.toList.head?, ¬ isBlank c := by
  unfold StandsAlone at h
  intro c hc hblank
  obtain ⟨tail, htail⟩ := List.head?_eq_some_iff.mp hc
  rw [htail, Segment.next?_blank _ hblank] at h
  cases h

/-- A blank at the end would not be read with the token. -/
theorem not_blank_last (h : token.StandsAlone) :
    ∀ c ∈ token.lexeme.toList.getLast?, ¬ isBlank c := by
  intro c hc hblank
  obtain ⟨front, hfront⟩ := List.getLast?_eq_some_iff.mp hc
  have hrest : ¬ RestOfLine front := by
    rintro (rfl | ⟨body, _, rfl⟩)
    · exact h.not_blank_head c (by simp [hfront]) hblank
    · unfold StandsAlone at h
      rw [hfront, List.cons_append, List.cons_append, Segment.next?_comment] at h
      cases h
  have hquote : ClosesQuote front := by
    rintro tail rfl
    have hclosed := h.closesQuote (tail ++ [c]) hfront
    have hother : c ≠ '"' := by
      rintro rfl
      exact absurd hblank (by decide)
    simpa [hother.symm] using hclosed
  have hlast : AtBlank [c] := by simpa [AtBlank] using hblank
  unfold StandsAlone at h
  rw [hfront, Segment.next?_append hrest hquote hlast.atDelimiter] at h
  have hle := Segment.Starts.length_le (Segment.starts_of_next? h)
  rw [Segment.length, Segment.chars, List.length_append, List.length_singleton] at hle
  omega

end Token.StandsAlone

/-! ## The tokens of a text -/

theorem standsAlone_of_mem {text : String} {token : Token}
    (h : token ∈ (scan text).tokens.dropLast) : token.StandsAlone := by
  obtain ⟨_, hnext⟩ := exists_next?_of_mem h
  exact Segment.next?_alone hnext

/-- A break in a string is a line feed alone, unless there was a second carriage return. -/
theorem plainBreaks_lexeme {text : String} (htext : ¬ "\r\r\n".toList <:+: text.toList)
    {token : Token} (h : token ∈ (scan text).tokens.dropLast) :
    plainBreaks token.lexeme.toList = token.lexeme.toList := by
  obtain ⟨offset, hnext⟩ := exists_next?_of_mem h
  obtain ⟨ending, hending, hstream⟩ := streamOf_linesOf text.toList
  have hprefix : token.lexeme.toList <+: (streamOfText text).drop offset :=
    (Segment.starts_of_next? hnext).isPrefix
  have hinside : token.lexeme.toList <:+: streamOfText text :=
    hprefix.isInfix.trans (List.drop_suffix offset _).isInfix
  have hbefore : token.lexeme.toList <:+: plainBreaks text.toList := by
    rw [streamOfText, hstream] at hinside
    rcases hending with rfl | rfl
    · rwa [List.append_nil] at hinside
    · rcases List.infix_concat_iff.mp hinside with hsuffix | hbefore
      · -- The line feed behind the last line is a blank, and so in no lexeme at the end.
        have halone := standsAlone_of_mem h
        rcases List.suffix_concat_iff.mp hsuffix with hnil | ⟨front, hfront, -⟩
        · exact absurd hnil halone.ne_nil
        · exact absurd (by decide) (halone.not_blank_last '\n' (by simp [hfront]))
      · exact hbefore
  refine plainBreaks_eq_self fun hbreak => ?_
  exact no_return_in_plainBreaks htext (hbreak.trans hbefore)

/-! ## Reading the lexemes again -/

namespace Spells

variable {stream rest : List Char} {contents : List (Kind × String × Option Literal)}

theorem nil : Spells [] [] := ⟨[], .stop rfl, fun _ _ => ⟨rfl, rfl⟩⟩

theorem layout {skipped : List Char} (h : Spells rest contents) (hlayout : Layout skipped) :
    Spells (skipped ++ rest) contents := by
  induction hlayout with
  | nil => exact h
  | blank symbol tail hblank _ ih =>
    obtain ⟨pieces, hcut, hresults⟩ := ih
    refine ⟨.blank symbol :: pieces, .piece (Segment.next?_blank _ hblank _) hcut, ?_⟩
    intro lastLine cursor
    rw [Segment.resultsFrom_cons]
    exact hresults lastLine _
  | comment body tail hbody _ ih =>
    obtain ⟨pieces, hcut, hresults⟩ := ih
    let comment := '/' :: '/' :: (body ++ ['\n'])
    have hsplit : '/' :: '/' :: body ++ '\n' :: tail ++ rest = comment ++ (tail ++ rest) := by
      simp [comment]
    have hnext := Segment.next?_comment Automaton.standard (body ++ '\n' :: (tail ++ rest))
    rw [throughBreak_append hbody] at hnext
    refine ⟨.comment comment :: pieces, ?_, ?_⟩
    · refine .piece (by simpa [comment] using hnext) ?_
      rw [hsplit, Segment.length, Segment.chars, List.drop_left]
      exact hcut
    · intro lastLine cursor
      rw [Segment.resultsFrom_cons]
      exact hresults lastLine _

/-- A token in front of the rest, if it is what is read there. -/
theorem cons {token : Token} (h : Spells rest contents)
    (hnext : Segment.next? Automaton.standard (token.lexeme.toList ++ rest) =
      some (.token token.kind token.lexeme.toList token.literal)) :
    Spells (token.lexeme.toList ++ rest) (token.content :: contents) := by
  obtain ⟨pieces, hcut, hresults⟩ := h
  let piece := Segment.token token.kind token.lexeme.toList token.literal
  refine ⟨piece :: pieces, .piece hnext ?_, fun lastLine cursor => ?_⟩
  · rw [Segment.length, Segment.chars, List.drop_left]
    exact hcut
  · obtain ⟨herrors, hvalues⟩ := hresults lastLine (cursor.advanceOver piece.chars)
    rw [Segment.resultsFrom_cons, errorsOf_append, valuesOf_append, herrors, List.map_append,
      hvalues]
    refine ⟨rfl, ?_⟩
    show (token.kind, String.ofList token.lexeme.toList, token.literal) :: contents = _
    rw [String.ofList_toList]
    rfl

theorem token {token : Token} (h : Spells rest contents) (halone : token.StandsAlone)
    (hrest : AtBlank rest) : Spells (token.lexeme.toList ++ rest) (token.content :: contents) :=
  h.cons (halone.next?_append hrest)

/-- The ending of the last line spells nothing. -/
theorem ending {ending : List Char} (h : ending = [] ∨ ending = ['\n']) :
    Spells ending [] ∧ AtBlank ending := by
  rcases h with rfl | rfl
  · exact ⟨nil, by simp [AtBlank]⟩
  · exact ⟨nil.layout (.blank '\n' [] (by decide) .nil), by simp [AtBlank, isBlank]⟩

theorem scan_eq {text : String} (h : Spells (streamOfText text) contents) :
    (scan text).errors = [] ∧ (scan text).tokens.dropLast.map Token.content = contents := by
  obtain ⟨pieces, hcut, hresults⟩ := h
  have hscan : scan text = _ := hcut.scanWith_eq
  obtain ⟨herrors, hvalues⟩ := hresults (Source.ofText text).lastLine Cursor.start
  rw [hscan, List.dropLast_concat]
  exact ⟨herrors, hvalues⟩

end Spells

/-- Lexemes that stand alone are read again, each with layout behind it. -/
theorem spells_lexemes {tokens : List Token} {gaps : List String} {ending : List Char}
    (halone : ∀ token ∈ tokens, token.StandsAlone)
    (hplain : ∀ token ∈ tokens, plainBreaks token.lexeme.toList = token.lexeme.toList)
    (hlength : gaps.length = tokens.length) (hgaps : Separates gaps)
    (hending : ending = [] ∨ ending = ['\n']) :
    let text := (String.join (List.zipWith (· ++ ·) (tokens.map Token.lexeme) gaps)).toList
    (∀ c ∈ text.head?, ¬ isBlank c) ∧
      Spells (plainBreaks text ++ ending) (tokens.map Token.content) := by
  obtain ⟨hnothing, hblank⟩ := Spells.ending hending
  induction tokens generalizing gaps with
  | nil => exact ⟨by simp, by simpa using hnothing⟩
  | cons token tokens ih =>
    obtain ⟨gap, gaps, rfl⟩ := List.exists_cons_of_length_eq_add_one hlength
    rw [List.forall_mem_cons] at halone hplain
    obtain ⟨hhead, hspells⟩ := ih halone.2 hplain.2 (Nat.succ.inj hlength) hgaps.tail
    intro text
    let more := (String.join (List.zipWith (· ++ ·) (tokens.map Token.lexeme) gaps)).toList
    have htext : text = token.lexeme.toList ++ (gap.toList ++ more) := by simp [text, more]
    have hgap : plainBreaks (gap.toList ++ more) = plainBreaks gap.toList ++ plainBreaks more :=
      plainBreaks_append fun _ hfeed => hhead _ hfeed (by decide)
    have hlexeme : plainBreaks text = token.lexeme.toList ++ plainBreaks (gap.toList ++ more) := by
      rw [htext, plainBreaks_append, hplain.1]
      intro hreturn
      exact absurd (by decide) (halone.1.not_blank_last _ hreturn)
    have hbehind : AtBlank (gap.toList ++ more) := hgaps.blank_append fun hnil => by simp [more, hnil]
    constructor
    · obtain ⟨c, rest, hchars⟩ := List.exists_cons_of_ne_nil halone.1.ne_nil
      have hfirst := halone.1.not_blank_head
      rw [htext, hchars]
      rwa [hchars] at hfirst
    · have hrest := hspells.layout (hgaps.layout gap List.mem_cons_self).plainBreaks
      rw [← List.append_assoc, ← hgap] at hrest
      rw [hlexeme, List.append_assoc, List.map_cons]
      exact hrest.token halone.1 (hbehind.plainBreaks.append hblank)

/-- The lexemes of a text, set apart by layout of any kind, are read as the same tokens again. -/
theorem scan_around (text : String) (htext : ¬ "\r\r\n".toList <:+: text.toList)
    (spacing : Spacing (scan text).tokens.dropLast.length) :
    let again := scan (spacing.around ((scan text).tokens.dropLast.map Token.lexeme))
    again.errors = [] ∧
      again.tokens.dropLast.map Token.content = (scan text).tokens.dropLast.map Token.content := by
  intro again
  let lexemes := (scan text).tokens.dropLast.map Token.lexeme
  let spaced := (String.join (List.zipWith (· ++ ·) lexemes spacing.gaps)).toList
  obtain ⟨ending, hending, hstream⟩ := streamOf_linesOf (spacing.around lexemes).toList
  obtain ⟨hhead, hspells⟩ := spells_lexemes (fun _ => standsAlone_of_mem)
    (fun _ => plainBreaks_lexeme htext) spacing.length_gaps spacing.separates hending
  have hplain : plainBreaks (spacing.around lexemes).toList =
      plainBreaks spacing.before.toList ++ plainBreaks spaced := by
    rw [Spacing.around, String.toList_append]
    exact plainBreaks_append fun _ hfeed => hhead _ hfeed (by decide)
  have hstream : streamOfText (spacing.around lexemes) =
      plainBreaks spacing.before.toList ++ (plainBreaks spaced ++ ending) := by
    rw [streamOfText, hstream, hplain, List.append_assoc]
  have hwhole := hspells.layout spacing.layout_before.plainBreaks
  rw [← hstream] at hwhole
  exact hwhole.scan_eq

end

/-- A slash stands next to a comment, and a string over two lines next to a carriage return. -/
theorem slashString_respaced :
    ¬ "\r\r\n".toList <:+: "a/\"\r\n\"".toList ∧
      ∃ spacing : Spacing (scan "a/\"\r\n\"").tokens.dropLast.length,
        spacing.around ((scan "a/\"\r\n\"").tokens.dropLast.map Token.lexeme) =
          "// b\r\na /\t//c\n\"\n\"" ∧
        (scan "// b\r\na /\t//c\n\"\n\"").errors = [] ∧
        (scan "// b\r\na /\t//c\n\"\n\"").tokens.dropLast.map Token.content =
          (scan "a/\"\r\n\"").tokens.dropLast.map Token.content := by
  have hcomment : Layout "// b\r\n".toList := .comment " b\r".toList [] (by decide) .nil
  have hblank : Layout " ".toList := .blank ' ' [] (by decide) .nil
  have hboth : Layout "\t//c\n".toList :=
    .blank '\t' _ (by decide) (.comment "c".toList [] (by decide) .nil)
  have hseparates : Separates [" ", "\t//c\n", ""] := by
    refine ⟨?_, by simp [AtBlank, isBlank], by decide⟩
    simpa using ⟨hblank, hboth, Layout.nil⟩
  let spacing : Spacing (scan "a/\"\r\n\"").tokens.dropLast.length :=
    ⟨"// b\r\n", [" ", "\t//c\n", ""], hcomment, hseparates, by decide +kernel⟩
  have htext : ¬ "\r\r\n".toList <:+: "a/\"\r\n\"".toList := by decide
  have hlexemes : (scan "a/\"\r\n\"").tokens.dropLast.map Token.lexeme =
      ["a", "/", "\"\n\""] := by decide +kernel
  have haround : spacing.around ((scan "a/\"\r\n\"").tokens.dropLast.map Token.lexeme) =
      "// b\r\na /\t//c\n\"\n\"" := by
    rw [hlexemes]
    rfl
  refine ⟨htext, spacing, haround, ?_⟩
  rw [← haround]
  exact scan_around _ htext spacing

end ExprLang
