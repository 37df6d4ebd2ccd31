import ExprLang.Segment.Stream
import ExprLang.Proofs.Automaton.LongestMatch
import ExprLang.Proofs.Scan.Layout
import ExprLang.Proofs.Scan.Literals

/-!
Cutting a stream, one piece after the other. What the next piece is depends on the stream from its
first character on: layout if there is some; else what a search through the catalog finds, unless
that is unexpected and a number, a string or a word stands there. The cutting stops at the end and
in front of a lexeme of kind `eof`.
-/
set_option autoImplicit false

namespace ExprLang

variable [IdentifierClasses]

/-- The pieces that stand at the start of a stream without layout there. -/
inductive Solid (catalog : Catalog) (stream : List Char) : Segment → Prop
  | token {kind : Kind} {lexeme : String} (hfinds : catalog.Finds stream kind lexeme)
      (heof : kind ≠ .eof) (hexpected : kind ≠ .unexpected) :
      Solid catalog stream (.token kind lexeme.toList none)
  | literal {lexeme : String} {piece : Segment} (hfinds : catalog.Finds stream .unexpected lexeme)
      (hliteral : Segment.literal? stream = some piece) : Solid catalog stream piece
  | stray {lexeme : String} (hfinds : catalog.Finds stream .unexpected lexeme)
      (hnone : Segment.literal? stream = none) : Solid catalog stream (.stray lexeme.toList)

/-- Nothing is cut off at the end, and in front of a lexeme that stands for it. -/
def Catalog.StopsAt (catalog : Catalog) (stream : List Char) : Prop :=
  stream = [] ∨ ∃ entry, catalog.Longest stream entry ∧ entry.kind = .eof

/-- The stream is cut into these pieces, each the next one where it stands, up to the rest. -/
inductive Cut (machine : Automaton) : List Char → List Segment → List Char → Prop
  | stop {stream : List Char} (hnone : Segment.next? machine stream = none) :
      Cut machine stream [] stream
  | piece {stream : List Char} {piece : Segment} {pieces : List Segment} {rest : List Char}
      (hnext : Segment.next? machine stream = some piece)
      (hrest : Cut machine (stream.drop piece.length) pieces rest) :
      Cut machine stream (piece :: pieces) rest

/-- The pieces with the offsets where they start. -/
def placed : Nat → List Segment → List (Nat × Segment)
  | _, [] => []
  | offset, piece :: rest => (offset, piece) :: placed (offset + piece.length) rest

/-! ## The next piece -/

namespace Solid

variable {catalog : Catalog} {stream : List Char} {piece : Segment}

theorem not_stopsAt (h : Solid catalog stream piece) : ¬ catalog.StopsAt stream := by
  have hfinds : ∃ kind lexeme, catalog.Finds stream kind lexeme ∧ kind ≠ .eof := by
    cases h with
    | token hfinds heof _ => exact ⟨_, _, hfinds, heof⟩
    | literal hfinds _ => exact ⟨_, _, hfinds, by decide⟩
    | stray hfinds _ => exact ⟨_, _, hfinds, by decide⟩
  obtain ⟨kind, lexeme, hfinds, heof⟩ := hfinds
  rintro (hnil | ⟨entry, hlongest, hkind⟩)
  · exact hfinds.ne_nil hnil
  · exact heof ((hfinds.kind_of_longest hlongest).1.trans hkind)

theorem unique {piece' : Segment} (h : Solid catalog stream piece)
    (h' : Solid catalog stream piece') : piece = piece' := by
  cases h with
  | token hfinds heof hexpected =>
    cases h' with
    | token hfinds' _ _ =>
      obtain ⟨rfl, rfl⟩ := hfinds.unique hfinds'
      rfl
    | literal hfinds' _ => exact absurd (hfinds.unique hfinds').1 hexpected
    | stray hfinds' _ => exact absurd (hfinds.unique hfinds').1 hexpected
  | literal hfinds hliteral =>
    cases h' with
    | token hfinds' _ hexpected => exact absurd (hfinds'.unique hfinds).1 hexpected
    | literal _ hliteral' =>
      rw [hliteral] at hliteral'
      exact Option.some.inj hliteral'
    | stray _ hnone =>
      rw [hliteral] at hnone
      cases hnone
  | stray hfinds hnone =>
    cases h' with
    | token hfinds' _ hexpected => exact absurd (hfinds'.unique hfinds).1 hexpected
    | literal _ hliteral =>
      rw [hnone] at hliteral
      cases hliteral
    | stray hfinds' _ =>
      obtain ⟨_, rfl⟩ := hfinds.unique hfinds'
      rfl

end Solid

namespace Segment

variable {catalog : Catalog} {stream : List Char} {piece : Segment}

theorem solid_literalOrStray {lexeme : String} (h : catalog.Finds stream .unexpected lexeme) :
    Solid catalog stream (literalOrStray stream lexeme.length) := by
  rw [literalOrStray]
  cases hliteral : literal? stream with
  | some piece => exact .literal h hliteral
  | none =>
    rw [Option.getD_none, h.take_eq]
    exact .stray h hliteral

/-- There is a piece, and it is solid, or there is none, and the cutting stops. -/
theorem solid?_cases (catalog : Catalog) (stream : List Char) :
    (∃ piece, solid? (Automaton.ofCatalog catalog) stream = some piece ∧
      Solid catalog stream piece) ∨
    (solid? (Automaton.ofCatalog catalog) stream = none ∧ catalog.StopsAt stream) := by
  rw [solid?]
  rcases Automaton.longest?_cases catalog stream with ⟨entry, hlongest, hfound⟩ | ⟨hnone, hfound⟩
  · have hfinds : catalog.Finds stream entry.kind entry.lexeme := .entry hlongest
    rw [hfound]
    by_cases heof : entry.kind = .eof
    · simp only [heof]
      exact Or.inr ⟨trivial, Or.inr ⟨entry, hlongest, heof⟩⟩
    · by_cases hunexpected : entry.kind = .unexpected
      · simp only [hunexpected]
        exact Or.inl ⟨_, rfl, solid_literalOrStray (hunexpected ▸ hfinds)⟩
      · refine Or.inl ⟨.token entry.kind entry.lexeme.toList none, ?_, .token hfinds heof hunexpected⟩
        simp only [hfinds.take_eq]
  · rw [hfound]
    cases stream with
    | nil => exact Or.inr ⟨rfl, Or.inl rfl⟩
    | cons first rest =>
      have hfinds : catalog.Finds (first :: rest) .unexpected (String.singleton first) :=
        .none hnone
      have hsolid := solid_literalOrStray hfinds
      rw [String.length_singleton] at hsolid
      exact Or.inl ⟨_, rfl, hsolid⟩

theorem solid?_eq_some_iff :
    solid? (Automaton.ofCatalog catalog) stream = some piece ↔ Solid catalog stream piece := by
  rcases solid?_cases catalog stream with ⟨found, hfound, hsolid⟩ | ⟨hnone, hstops⟩
  · rw [hfound, Option.some.injEq]
    exact ⟨fun heq => heq ▸ hsolid, hsolid.unique⟩
  · rw [hnone]
    exact iff_of_false (by simp) fun hsolid => hsolid.not_stopsAt hstops

theorem solid?_eq_none_iff :
    solid? (Automaton.ofCatalog catalog) stream = none ↔ catalog.StopsAt stream := by
  rcases solid?_cases catalog stream with ⟨found, hfound, hsolid⟩ | ⟨hnone, hstops⟩
  · rw [hfound]
    exact iff_of_false (by simp) hsolid.not_stopsAt
  · exact iff_of_true hnone hstops

theorem next?_eq_none_iff : next? (Automaton.ofCatalog catalog) stream = none ↔
    ¬ StartsLayout stream ∧ catalog.StopsAt stream := by
  rw [next?, ← layout?_eq_none_iff, ← solid?_eq_none_iff]
  cases layout? stream <;> simp

theorem next?_eq_some_iff : next? (Automaton.ofCatalog catalog) stream = some piece ↔
    layout? stream = some piece ∨ ¬ StartsLayout stream ∧ Solid catalog stream piece := by
  rw [next?, ← layout?_eq_none_iff, ← solid?_eq_some_iff]
  cases layout? stream <;> simp

theorem eq_of_next?_unclosed {tail : List Char}
    (h : next? (Automaton.ofCatalog catalog) stream = some (.unclosed tail)) : stream = tail := by
  rcases next?_eq_some_iff.mp h with hlayout | ⟨_, hsolid⟩
  · rcases layout?_shape hlayout with ⟨_, hpiece⟩ | ⟨_, hpiece⟩ <;> cases hpiece
  · cases hsolid with
    | literal _ hliteral =>
      cases literalAt_of_literal? hliteral with
      | unclosed => rfl

end Segment

/-! ## All pieces -/

theorem cut_ofStream (machine : Automaton) (stream : List Char) :
    ∃ rest, Cut machine stream (Segment.ofStream machine stream) rest := by
  induction stream using Segment.ofStream.induct machine with
  | case1 stream hnone =>
    have hpieces : Segment.ofStream machine stream = [] := by
      unfold Segment.ofStream
      split
      · rfl
      · rename_i heq
        rw [hnone] at heq
        cases heq
    rw [hpieces]
    exact ⟨stream, .stop hnone⟩
  | case2 stream piece hsome ih =>
    have hpieces : Segment.ofStream machine stream =
        piece :: Segment.ofStream machine (stream.drop piece.length) := by
      conv_lhs => unfold Segment.ofStream
      split
      · rename_i heq
        rw [hsome] at heq
        cases heq
      · rename_i heq
        rw [hsome] at heq
        cases heq
        rfl
    obtain ⟨rest, hcut⟩ := ih
    rw [hpieces]
    exact ⟨rest, .piece hsome hcut⟩

namespace Cut

variable {machine : Automaton} {stream rest : List Char} {pieces : List Segment}

theorem stops (h : Cut machine stream pieces rest) : Segment.next? machine rest = none := by
  induction h with
  | stop hnone => exact hnone
  | piece _ _ ih => exact ih

theorem flatten (h : Cut machine stream pieces rest) :
    stream = pieces.flatMap Segment.chars ++ rest := by
  induction h with
  | stop => rfl
  | piece hnext _ ih =>
    rw [List.flatMap_cons, List.append_assoc, ← ih, (Segment.starts_of_next? hnext).2]

theorem unique {pieces' : List Segment} {rest' : List Char} (h : Cut machine stream pieces rest)
    (h' : Cut machine stream pieces' rest') : pieces = pieces' ∧ rest = rest' := by
  induction h generalizing pieces' with
  | stop hnone =>
    cases h' with
    | stop => exact ⟨rfl, rfl⟩
    | piece hnext _ =>
      rw [hnone] at hnext
      cases hnext
  | piece hnext _ ih =>
    cases h' with
    | stop hnone =>
      rw [hnone] at hnext
      cases hnext
    | piece hnext' hrest' =>
      rw [hnext] at hnext'
      cases hnext'
      obtain ⟨rfl, rfl⟩ := ih hrest'
      exact ⟨rfl, rfl⟩

/-- Every piece is the next one where it stands. -/
theorem next?_of_placed (h : Cut machine stream pieces rest) (whole : List Char) :
    ∀ offset, whole.drop offset = stream → ∀ place ∈ placed offset pieces,
      Segment.next? machine (whole.drop place.1) = some place.2 := by
  induction h with
  | stop =>
    intro offset _ place hplace
    cases hplace
  | @piece stream piece pieces rest hnext _ ih =>
    intro offset hoffset place hplace
    rcases List.mem_cons.mp hplace with rfl | hlater
    · rw [hoffset]
      exact hnext
    · refine ih (offset + piece.length) ?_ place hlater
      rw [← List.drop_drop, hoffset]

theorem nil (h : Cut machine [] pieces rest) : pieces = [] ∧ rest = [] := by
  cases h with
  | stop => exact ⟨rfl, rfl⟩
  | piece hnext _ =>
    have hstarts := Segment.starts_of_next? hnext
    exact absurd (List.append_eq_nil_iff.mp hstarts.2).1 hstarts.1

/-- An unclosed string is the last piece, and nothing is left behind it. -/
theorem unclosed_last {catalog : Catalog}
    (h : Cut (Automaton.ofCatalog catalog) stream pieces rest) :
    ∀ front tail back, pieces = front ++ .unclosed tail :: back → back = [] ∧ rest = [] := by
  induction h with
  | stop =>
    intro front tail back hsplit
    exact absurd hsplit.symm (List.append_ne_nil_of_right_ne_nil front (by simp))
  | @piece stream piece pieces rest hnext hrest ih =>
    intro front tail back hsplit
    cases front with
    | nil =>
      obtain ⟨rfl, rfl⟩ := List.cons.inj hsplit
      rw [Segment.eq_of_next?_unclosed hnext, Segment.length, Segment.chars,
        List.drop_length] at hrest
      exact hrest.nil
    | cons first front =>
      obtain ⟨_, hlater⟩ := List.cons.inj hsplit
      exact ih front tail back hlater

end Cut

end ExprLang
