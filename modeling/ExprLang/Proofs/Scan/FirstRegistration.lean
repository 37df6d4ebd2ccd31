import ExprLang.Proofs.Scan.Cutting
import ExprLang.Scan
import ExprLang.Text.IdentifierTables

/-!
What a scan needs to know of its catalog. The longest lexeme at the start of a stream, and the kind
that goes with it, can be told from the kind of every lexeme at its first registration: neither the
order of different lexemes counts, nor a later registration of the same lexeme, nor an empty one. So
two automata that are built from catalogs with the same first kinds find the same matches, however
different their states are, and every text is cut alike by both.
-/
set_option autoImplicit false

namespace ExprLang

/-- The kind of a lexeme at its first registration, if it is registered at all. -/
def Catalog.kindOf? (catalog : Catalog) (lexeme : String) : Option Kind :=
  (catalog.find? (·.lexeme = lexeme)).map CatalogEntry.kind

/-- The catalogs have the same lexemes, the empty one left aside, with the same first kinds. -/
def Catalog.SameKinds (first second : Catalog) : Prop :=
  ∀ lexeme, lexeme ≠ "" → first.kindOf? lexeme = second.kindOf? lexeme

/-- Of the registered lexemes that stand at the start of the stream this is the longest one. -/
structure Catalog.LongestLexeme (catalog : Catalog) (stream : List Char) (lexeme : String)
    (kind : Kind) : Prop where
  ne_empty : lexeme ≠ ""
  starts : lexeme.toList <+: stream
  kind_eq : catalog.kindOf? lexeme = some kind
  longest : ∀ other, other ≠ "" → other.toList <+: stream → catalog.kindOf? other ≠ none →
    other.length ≤ lexeme.length

namespace Catalog

variable {catalog first second : Catalog} {stream : List Char} {lexeme : String} {kind : Kind}

/-! ## The longest lexeme -/

theorem kindOf?_ne_none_iff : catalog.kindOf? lexeme ≠ none ↔
    ∃ entry ∈ catalog, entry.lexeme = lexeme := by
  simp [kindOf?]

theorem kindOf?_eq_some_iff : catalog.kindOf? lexeme = some kind ↔
    ∃ before after, catalog = before ++ ⟨lexeme, kind⟩ :: after ∧
      ∀ other ∈ before, other.lexeme ≠ lexeme := by
  rw [kindOf?, Option.map_eq_some_iff]
  constructor
  · rintro ⟨entry, hfind, rfl⟩
    obtain ⟨hlexeme, before, after, hsplit, hbefore⟩ := List.find?_eq_some_iff_append.mp hfind
    obtain rfl : entry.lexeme = lexeme := by simpa using hlexeme
    exact ⟨before, after, hsplit, by simpa using hbefore⟩
  · rintro ⟨before, after, hsplit, hbefore⟩
    refine ⟨⟨lexeme, kind⟩, List.find?_eq_some_iff_append.mpr ⟨by simp, before, after, hsplit, ?_⟩, rfl⟩
    simpa using hbefore

theorem Longest.longestLexeme {entry : CatalogEntry} (h : catalog.Longest stream entry) :
    catalog.LongestLexeme stream entry.lexeme entry.kind := by
  have hne : entry.lexeme ≠ "" := fun heq => h.1.1 (by rw [heq]; rfl)
  refine ⟨hne, h.1.2, ?_, fun other hother hstarts hregistered => ?_⟩
  · obtain ⟨hfits, before, after, hsplit, hbefore, -⟩ := h
    -- An earlier entry with the same lexeme would fit as well, and be as long.
    refine kindOf?_eq_some_iff.mpr ⟨before, after, hsplit, fun other hmem hsame => ?_⟩
    have hshorter := hbefore other hmem ⟨hsame ▸ hfits.1, hsame ▸ hfits.2⟩
    exact Nat.lt_irrefl _ (hsame ▸ hshorter)
  · obtain ⟨found, hmem, rfl⟩ := kindOf?_ne_none_iff.mp hregistered
    exact h.length_le hmem ⟨by simpa using hother, hstarts⟩

theorem LongestLexeme.longest_entry (h : catalog.LongestLexeme stream lexeme kind) :
    catalog.Longest stream ⟨lexeme, kind⟩ := by
  obtain ⟨before, after, hsplit, hbefore⟩ := kindOf?_eq_some_iff.mp h.kind_eq
  have hfits : CatalogEntry.Fits ⟨lexeme, kind⟩ stream := ⟨by simpa using h.ne_empty, h.starts⟩
  refine .of_first hsplit hfits hbefore fun other hmem hother => ?_
  have hne : other.lexeme ≠ "" := fun heq => hother.1 (by rw [heq]; rfl)
  exact h.longest other.lexeme hne hother.2 (kindOf?_ne_none_iff.mpr ⟨other, hmem, rfl⟩)

theorem SameKinds.symm (h : SameKinds first second) : SameKinds second first :=
  fun lexeme hne => (h lexeme hne).symm

theorem LongestLexeme.congr (hfound : first.LongestLexeme stream lexeme kind)
    (h : SameKinds first second) : second.LongestLexeme stream lexeme kind := by
  refine ⟨hfound.ne_empty, hfound.starts, ?_, fun other hne hstarts hregistered => ?_⟩
  · rw [← h lexeme hfound.ne_empty]
    exact hfound.kind_eq
  · rw [← h other hne] at hregistered
    exact hfound.longest other hne hstarts hregistered

end Catalog

/-! ## The same matches -/

variable {machine other : Automaton}

theorem Automaton.exists_longest_of_sameKinds {first second : Catalog}
    (h : Catalog.SameKinds first second) {stream : List Char} {found : Match}
    (hfound : (ofCatalog first).longest? stream = some found) :
    (ofCatalog second).longest? stream = some found := by
  obtain ⟨entry, hlongest, rfl⟩ := longest?_eq_some_iff.mp hfound
  have hlexeme := hlongest.longestLexeme.congr h
  exact longest?_eq_some_iff.mpr ⟨_, hlexeme.longest_entry, rfl⟩

/-- The matches of an automaton depend on the first registrations of its catalog alone. -/
theorem Automaton.longest?_of_sameKinds {first second : Catalog}
    (h : Catalog.SameKinds first second) (stream : List Char) :
    (ofCatalog first).longest? stream = (ofCatalog second).longest? stream :=
  Option.ext fun _ =>
    ⟨exists_longest_of_sameKinds h, exists_longest_of_sameKinds h.symm⟩

section

variable [IdentifierClasses]

theorem Segment.next?_congr (h : ∀ stream, machine.longest? stream = other.longest? stream)
    (stream : List Char) : next? machine stream = next? other stream := by
  unfold next? solid?
  rw [h stream]

theorem Cut.congr (h : ∀ stream, machine.longest? stream = other.longest? stream)
    {stream rest : List Char} {pieces : List Segment} (hcut : Cut machine stream pieces rest) :
    Cut other stream pieces rest := by
  induction hcut with
  | stop hnone => exact .stop (Segment.next?_congr h _ ▸ hnone)
  | piece hnext _ ih => exact .piece (Segment.next?_congr h _ ▸ hnext) ih

theorem scanWith_congr (h : ∀ stream, machine.longest? stream = other.longest? stream)
    (text : String) : scanWith machine text = scanWith other text := by
  obtain ⟨_, hcut⟩ := cut_ofStream machine (Source.ofText text).rest
  obtain ⟨_, hcut'⟩ := cut_ofStream other (Source.ofText text).rest
  simp only [scanWith, ((hcut.congr h).unique hcut').1]

/-- A scan depends on its catalog only by the first registration of each lexeme. -/
theorem Scanner.finish_of_sameKinds {first second : Catalog} (h : Catalog.SameKinds first second)
    (text : String) :
    (create (Automaton.ofCatalog first) text).finish =
      (create (Automaton.ofCatalog second) text).finish :=
  scanWith_congr (Automaton.longest?_of_sameKinds h) text

end

/-- Another order, later registrations with other kinds, and an empty lexeme. -/
theorem Scanner.reordered_finish :
    Catalog.SameKinds [⟨"<", .less⟩, ⟨"<=", .lessEqual⟩, ⟨"<", .greater⟩]
        [⟨"", .eof⟩, ⟨"<=", .lessEqual⟩, ⟨"<", .less⟩, ⟨"<=", .plus⟩, ⟨"<=", .lessEqual⟩] ∧
      (create (Automaton.ofCatalog [⟨"<", .less⟩, ⟨"<=", .lessEqual⟩, ⟨"<", .greater⟩])
          "a<<=1").finish =
        (create (Automaton.ofCatalog
          [⟨"", .eof⟩, ⟨"<=", .lessEqual⟩, ⟨"<", .less⟩, ⟨"<=", .plus⟩, ⟨"<=", .lessEqual⟩])
          "a<<=1").finish := by
  have hsame : Catalog.SameKinds [⟨"<", .less⟩, ⟨"<=", .lessEqual⟩, ⟨"<", .greater⟩]
      [⟨"", .eof⟩, ⟨"<=", .lessEqual⟩, ⟨"<", .less⟩, ⟨"<=", .plus⟩, ⟨"<=", .lessEqual⟩] := by
    intro lexeme hne
    by_cases hless : "<" = lexeme
    · subst hless
      decide
    · by_cases hlessEqual : "<=" = lexeme
      · subst hlessEqual
        decide
      · simp [Catalog.kindOf?, hless, hlessEqual, hne.symm]
  exact ⟨hsame, finish_of_sameKinds hsame "a<<=1"⟩

end ExprLang
