import ExprLang.Proofs.Automaton.Language

/-!
The longest match. Reading on with a frontier finds what looking at every entry of the catalog finds:
of the entries whose lexeme stands at the start of the stream one with the longest lexeme, and of
those the one registered first. The reading stops where the frontier becomes empty; no entry is
missed by that, since no lexeme begins with the word read so far.
-/
set_option autoImplicit false

namespace ExprLang

/-- The lexeme of the entry, which is not empty, stands at the start of the stream. -/
def CatalogEntry.Fits (entry : CatalogEntry) (stream : List Char) : Prop :=
  entry.lexeme.toList ≠ [] ∧ entry.lexeme.toList <+: stream

namespace CatalogEntry.Fits

variable {entry : CatalogEntry} {stream : List Char}

theorem take_eq (h : entry.Fits stream) :
    String.ofList (stream.take entry.lexeme.length) = entry.lexeme := by
  rw [← String.length_toList, ← List.prefix_iff_eq_take.mp h.2, String.ofList_toList]

theorem of_prefix {narrow : List Char} (h : entry.Fits narrow) (hstarts : narrow <+: stream) :
    entry.Fits stream :=
  ⟨h.1, h.2.trans hstarts⟩

end CatalogEntry.Fits

/-- Of the entries that fit, this is one with the longest lexeme, and of those the first. -/
def Catalog.Longest (catalog : Catalog) (stream : List Char) (entry : CatalogEntry) : Prop :=
  entry.Fits stream ∧ ∃ before after, catalog = before ++ entry :: after ∧
    (∀ other ∈ before, other.Fits stream → other.lexeme.length < entry.lexeme.length) ∧
    (∀ other ∈ after, other.Fits stream → other.lexeme.length ≤ entry.lexeme.length)

theorem Catalog.Longest.mem {catalog : Catalog} {stream : List Char} {entry : CatalogEntry}
    (h : catalog.Longest stream entry) : entry ∈ catalog := by
  obtain ⟨_, before, after, rfl, _, _⟩ := h
  exact List.mem_append_right before List.mem_cons_self

theorem Catalog.Longest.length_le {catalog : Catalog} {stream : List Char} {entry : CatalogEntry}
    (h : catalog.Longest stream entry) {other : CatalogEntry} (hmem : other ∈ catalog)
    (hfits : other.Fits stream) : other.lexeme.length ≤ entry.lexeme.length := by
  obtain ⟨_, before, after, rfl, hbefore, hafter⟩ := h
  rcases List.mem_append.mp hmem with hin | hin
  · exact Nat.le_of_lt (hbefore other hin hfits)
  · rcases List.mem_cons.mp hin with rfl | hlater
    · exact Nat.le_refl _
    · exact hafter other hlater hfits

/-- The longest entry depends on which entries fit, and on nothing else. -/
theorem Catalog.Longest.congr {catalog : Catalog} {stream other : List Char} {entry : CatalogEntry}
    (h : catalog.Longest stream entry)
    (hsame : ∀ entry ∈ catalog, entry.Fits stream ↔ entry.Fits other) :
    catalog.Longest other entry := by
  have hmem := h.mem
  obtain ⟨hfits, before, after, hsplit, hbefore, hafter⟩ := h
  refine ⟨(hsame entry hmem).mp hfits, before, after, hsplit, fun shorter hin hother => ?_,
    fun shorter hin hother => ?_⟩
  · exact hbefore shorter hin ((hsame shorter (by simp [hsplit, hin])).mpr hother)
  · exact hafter shorter hin ((hsame shorter (by simp [hsplit, hin])).mpr hother)

/-- The longest entry stays the longest where less of the stream is left behind it. -/
theorem Catalog.Longest.of_prefix {catalog : Catalog} {stream narrow : List Char}
    {entry : CatalogEntry} (h : catalog.Longest stream entry) (hfits : entry.Fits narrow)
    (hstarts : narrow <+: stream) : catalog.Longest narrow entry := by
  obtain ⟨_, before, after, hsplit, hbefore, hafter⟩ := h
  refine ⟨hfits, before, after, hsplit, fun other hin hother => ?_, fun other hin hother => ?_⟩
  · exact hbefore other hin (hother.of_prefix hstarts)
  · exact hafter other hin (hother.of_prefix hstarts)

/-- The first entry of its lexeme is the longest if no lexeme that fits is longer. -/
theorem Catalog.Longest.of_first {catalog before after : Catalog} {stream : List Char}
    {entry : CatalogEntry} (hsplit : catalog = before ++ entry :: after) (hfits : entry.Fits stream)
    (hbefore : ∀ other ∈ before, other.lexeme ≠ entry.lexeme)
    (hatMost : ∀ other ∈ catalog, other.Fits stream →
      other.lexeme.length ≤ entry.lexeme.length) : catalog.Longest stream entry := by
  refine ⟨hfits, before, after, hsplit, fun other hother hother' => ?_, fun other hother => ?_⟩
  · have hle := hatMost other (by simp [hsplit, hother]) hother'
    refine Nat.lt_of_le_of_ne hle fun heq => hbefore other hother ?_
    rw [← String.length_toList, ← String.length_toList] at heq
    have hstarts := List.prefix_of_prefix_length_le hother'.2 hfits.2 heq.le
    exact String.toList_inj.mp (hstarts.eq_of_length heq)
  · exact hatMost other (by simp [hsplit, hother])

theorem Catalog.Longest.unique {catalog : Catalog} {stream : List Char}
    {first second : CatalogEntry} (h : catalog.Longest stream first)
    (h' : catalog.Longest stream second) : first = second := by
  obtain ⟨hfits, before, after, hsplit, hbefore, hafter⟩ := h
  obtain ⟨hfits', before', after', hsplit', hbefore', hafter'⟩ := h'
  rw [hsplit, List.append_eq_append_iff] at hsplit'
  rcases hsplit' with ⟨between, hlater, htail⟩ | ⟨between, hlater, htail⟩
  · cases between with
    | nil => exact (List.cons.inj htail).1
    | cons _ between =>
      obtain ⟨rfl, rfl⟩ := List.cons.inj htail
      have hshort := hbefore' first (by simp [hlater]) hfits
      have hlong := hafter second (by simp) hfits'
      omega
  · cases between with
    | nil => exact (List.cons.inj htail).1.symm
    | cons _ between =>
      obtain ⟨rfl, rfl⟩ := List.cons.inj htail
      have hshort := hbefore second (by simp [hlater]) hfits'
      have hlong := hafter' first (by simp) hfits
      omega

namespace Automaton

/-! ## The last mark on the way -/

/-- Behind `front` no word of the stream leads to a mark. -/
def Unmarked (machine : Automaton) (front stream : List Char) : Prop :=
  ∀ word, word ≠ [] → word <+: stream → machine.firstMark? (machine.reach (front ++ word)) = none

/-- Behind `front` this is the longest word of the stream that leads to a mark. -/
structure LastMark (machine : Automaton) (front stream word : List Char) (mark : Mark) : Prop where
  ne_nil : word ≠ []
  starts : word <+: stream
  marked : machine.firstMark? (machine.reach (front ++ word)) = some mark
  longest : ∀ longer, longer <+: stream → word.length < longer.length →
    machine.firstMark? (machine.reach (front ++ longer)) = none

variable {machine : Automaton} {front rest word : List Char} {symbol : Char} {mark : Mark}

theorem LastMark.cons (h : machine.LastMark (front ++ [symbol]) rest word mark) :
    machine.LastMark front (symbol :: rest) (symbol :: word) mark := by
  refine ⟨by simp, List.cons_prefix_cons.mpr ⟨rfl, h.starts⟩, ?_, fun longer hlonger hlt => ?_⟩
  · have hmarked := h.marked
    rwa [List.append_assoc] at hmarked
  · cases longer with
    | nil => simp at hlt
    | cons first longer =>
      obtain ⟨rfl, hstarts⟩ := List.cons_prefix_cons.mp hlonger
      have hnone := h.longest longer hstarts (by simpa using hlt)
      rwa [List.append_assoc] at hnone

theorem Unmarked.lastMark (h : machine.Unmarked (front ++ [symbol]) rest)
    (hmark : machine.firstMark? (machine.reach (front ++ [symbol])) = some mark) :
    machine.LastMark front (symbol :: rest) [symbol] mark := by
  refine ⟨by simp, ⟨rest, rfl⟩, hmark, fun longer hlonger hlt => ?_⟩
  match longer with
  | [] => simp at hlt
  | [_] => simp at hlt
  | first :: second :: longer =>
    obtain ⟨rfl, hstarts⟩ := List.cons_prefix_cons.mp hlonger
    have hnone := h (second :: longer) (by simp) hstarts
    rwa [List.append_assoc] at hnone

theorem Unmarked.cons (h : machine.Unmarked (front ++ [symbol]) rest)
    (hmark : machine.firstMark? (machine.reach (front ++ [symbol])) = none) :
    machine.Unmarked front (symbol :: rest) := by
  intro word hword hstarts
  match word with
  | [] => exact absurd rfl hword
  | [first] =>
    obtain ⟨rfl, _⟩ := List.cons_prefix_cons.mp hstarts
    exact hmark
  | first :: second :: word =>
    obtain ⟨rfl, hbehind⟩ := List.cons_prefix_cons.mp hstarts
    have hnone := h (second :: word) (by simp) hbehind
    rwa [List.append_assoc] at hnone

theorem reach_concat (machine : Automaton) (front : List Char) (symbol : Char) :
    machine.reach (front ++ [symbol]) = machine.follow (machine.reach front) symbol := by
  simp [reach]

theorem reach_append_eq_nil (h : machine.reach front = []) (word : List Char) :
    machine.reach (front ++ word) = [] := by
  induction word using List.reverseRecOn with
  | nil => rw [List.append_nil, h]
  | append_singleton word symbol ih =>
    rw [← List.append_assoc, reach_concat, ih]
    rfl

theorem unmarked_of_reach_eq_nil (h : machine.reach front = []) (stream : List Char) :
    machine.Unmarked front stream := by
  intro word _ _
  rw [reach_append_eq_nil h]
  rfl

/-- Reading on finds the last mark on the way, or keeps what was found before. -/
theorem longestFrom_cases (machine : Automaton) (stream : List Char) :
    ∀ (front : List Char) (found : Option Match),
      (∃ word mark, machine.LastMark front stream word mark ∧
        machine.longestFrom (machine.reach front) front.length found stream =
          some ⟨mark.kind, front.length + word.length⟩) ∨
      (machine.Unmarked front stream ∧
        machine.longestFrom (machine.reach front) front.length found stream = found) := by
  induction stream with
  | nil =>
    intro front found
    exact Or.inr ⟨fun word hword hstarts => absurd (List.prefix_nil.mp hstarts) hword, rfl⟩
  | cons symbol rest ih =>
    intro front found
    have hstep := reach_concat machine front symbol
    have hlength : (front ++ [symbol]).length = front.length + 1 := by simp
    rw [longestFrom, ← hstep]
    cases hnext : machine.reach (front ++ [symbol]) with
    | nil =>
      have hunmarked := unmarked_of_reach_eq_nil hnext rest
      exact Or.inr ⟨hunmarked.cons (by rw [hnext]; rfl), rfl⟩
    | cons state states =>
      simp only
      rw [← hnext, ← hlength]
      rcases ih (front ++ [symbol]) (((machine.firstMark? (machine.reach (front ++ [symbol]))).map
          fun mark => ⟨mark.kind, (front ++ [symbol]).length⟩).or found) with
        ⟨word, mark, hlast, hresult⟩ | ⟨hunmarked, hresult⟩
      · refine Or.inl ⟨symbol :: word, mark, hlast.cons, ?_⟩
        rw [hresult, hlength, List.length_cons, Nat.add_right_comm, Nat.add_assoc]
      · rw [hresult]
        cases hmark : machine.firstMark? (machine.reach (front ++ [symbol])) with
        | none => exact Or.inr ⟨hunmarked.cons hmark, rfl⟩
        | some mark => exact Or.inl ⟨[symbol], mark, hunmarked.lastMark hmark, by rw [hlength]; rfl⟩

/-! ## The longest entry -/

variable {catalog : Catalog} {stream : List Char} {found : Match}

theorem firstMark?_of_fits {entry : CatalogEntry} (hmem : entry ∈ catalog)
    (hfits : entry.Fits stream) :
    (ofCatalog catalog).firstMark? ((ofCatalog catalog).reach entry.lexeme.toList) ≠ none := by
  intro hnone
  have hfind := firstMark?_reach catalog hfits.1
  rw [hnone, Option.map_none, eq_comm, Option.map_eq_none_iff, List.find?_eq_none] at hfind
  simpa using hfind entry hmem

/-- The first entry that is spelled like the longest marked word is the longest entry. -/
theorem longest_of_lastMark {word : List Char} {mark : Mark}
    (h : (ofCatalog catalog).LastMark [] stream word mark) :
    ∃ entry, catalog.Longest stream entry ∧ entry.kind = mark.kind ∧
      entry.lexeme.length = word.length := by
  have hkind := firstMark?_reach catalog h.ne_nil
  have hmarked : (ofCatalog catalog).firstMark? ((ofCatalog catalog).reach word) = some mark :=
    h.marked
  rw [hmarked, Option.map_some, eq_comm, Option.map_eq_some_iff] at hkind
  obtain ⟨entry, hfind, hkind⟩ := hkind
  obtain ⟨hspelled, before, after, hsplit, hbefore⟩ := List.find?_eq_some_iff_append.mp hfind
  have hword : entry.lexeme.toList = word := by simpa using hspelled
  have hlength : entry.lexeme.length = word.length := by rw [← hword, String.length_toList]
  have hfits : entry.Fits stream := ⟨hword ▸ h.ne_nil, hword ▸ h.starts⟩
  refine ⟨entry, .of_first hsplit hfits (fun other hother hsame => ?_) ?_, hkind, hlength⟩
  · have hnot := hbefore other hother
    simp [hsame, hword] at hnot
  · intro other hother hfits
    by_contra hlonger
    rw [hlength, ← String.length_toList] at hlonger
    exact firstMark?_of_fits hother hfits (h.longest _ hfits.2 (Nat.lt_of_not_le hlonger))

theorem longest?_cases (catalog : Catalog) (stream : List Char) :
    (∃ entry, catalog.Longest stream entry ∧
      (ofCatalog catalog).longest? stream = some ⟨entry.kind, entry.lexeme.length⟩) ∨
    ((∀ entry ∈ catalog, ¬ entry.Fits stream) ∧ (ofCatalog catalog).longest? stream = none) := by
  rcases longestFrom_cases (ofCatalog catalog) stream [] none with
    ⟨word, mark, hlast, hresult⟩ | ⟨hunmarked, hresult⟩
  · obtain ⟨entry, hlongest, hkind, hlength⟩ := longest_of_lastMark hlast
    refine Or.inl ⟨entry, hlongest, ?_⟩
    rw [List.length_nil, Nat.zero_add] at hresult
    rw [hkind, hlength]
    exact hresult
  · refine Or.inr ⟨fun entry hentry hfits => ?_, hresult⟩
    exact firstMark?_of_fits hentry hfits (hunmarked _ hfits.1 hfits.2)

/-- The automaton finds a match exactly if it is the longest entry of the catalog. -/
theorem longest?_eq_some_iff : (ofCatalog catalog).longest? stream = some found ↔
    ∃ entry, catalog.Longest stream entry ∧ found = ⟨entry.kind, entry.lexeme.length⟩ := by
  rcases longest?_cases catalog stream with ⟨entry, hlongest, hresult⟩ | ⟨hnone, hresult⟩
  · rw [hresult, Option.some.injEq]
    constructor
    · rintro rfl
      exact ⟨entry, hlongest, rfl⟩
    · rintro ⟨other, hother, rfl⟩
      rw [hlongest.unique hother]
  · rw [hresult]
    refine iff_of_false (by simp) ?_
    rintro ⟨entry, hlongest, _⟩
    exact hnone entry hlongest.mem hlongest.1

/-- The automaton finds nothing exactly if no entry fits. -/
theorem longest?_eq_none_iff : (ofCatalog catalog).longest? stream = none ↔
    ∀ entry ∈ catalog, ¬ entry.Fits stream := by
  rcases longest?_cases catalog stream with ⟨entry, hlongest, hresult⟩ | ⟨hnone, hresult⟩
  · rw [hresult]
    exact iff_of_false (by simp) fun hnone => hnone entry hlongest.mem hlongest.1
  · exact iff_of_true hresult hnone

theorem longest?_congr {first second : List Char}
    (h : ∀ entry ∈ catalog, entry.Fits first ↔ entry.Fits second) :
    (ofCatalog catalog).longest? first = (ofCatalog catalog).longest? second := by
  have hlongest : ∀ entry, catalog.Longest first entry ↔ catalog.Longest second entry :=
    fun _ => ⟨fun hfirst => hfirst.congr h,
      fun hsecond => hsecond.congr fun other hother => (h other hother).symm⟩
  refine Option.ext fun found => ?_
  rw [longest?_eq_some_iff, longest?_eq_some_iff]
  simp only [hlongest]

end Automaton

/-! ## The search through the entries -/

/-- What a search through the entries finds at the start of a stream: the longest entry that fits,
or one character where no entry does. -/
inductive Catalog.Finds (catalog : Catalog) : List Char → Kind → String → Prop
  | entry {stream : List Char} {entry : CatalogEntry} (hlongest : catalog.Longest stream entry) :
      Finds catalog stream entry.kind entry.lexeme
  | none {first : Char} {rest : List Char}
      (hnone : ∀ entry ∈ catalog, ¬ entry.Fits (first :: rest)) :
      Finds catalog (first :: rest) .unexpected (String.singleton first)

theorem Catalog.exists_finds (catalog : Catalog) {stream : List Char} (h : stream ≠ []) :
    ∃ kind lexeme, catalog.Finds stream kind lexeme := by
  rcases Automaton.longest?_cases catalog stream with ⟨entry, hlongest, _⟩ | ⟨hnone, _⟩
  · exact ⟨_, _, .entry hlongest⟩
  · obtain ⟨first, rest, rfl⟩ := List.exists_cons_of_ne_nil h
    exact ⟨_, _, .none hnone⟩

namespace Catalog.Finds

variable {catalog : Catalog} {stream : List Char} {kind : Kind} {lexeme : String}

theorem ne_nil (h : catalog.Finds stream kind lexeme) : stream ≠ [] := by
  cases h with
  | entry hlongest =>
    rintro rfl
    exact hlongest.1.1 (List.prefix_nil.mp hlongest.1.2)
  | none => simp

theorem starts (h : catalog.Finds stream kind lexeme) :
    lexeme.toList ≠ [] ∧ lexeme.toList <+: stream := by
  cases h with
  | entry hlongest => exact hlongest.1
  | @none first rest => exact ⟨by simp, by simp⟩

theorem take_eq (h : catalog.Finds stream kind lexeme) :
    stream.take lexeme.length = lexeme.toList := by
  rw [← String.length_toList, ← List.prefix_iff_eq_take.mp h.starts.2]

theorem length_le (h : catalog.Finds stream kind lexeme) : lexeme.length ≤ stream.length := by
  rw [← String.length_toList]
  exact h.starts.2.length_le

theorem kind_of_longest (h : catalog.Finds stream kind lexeme) {entry : CatalogEntry}
    (hlongest : catalog.Longest stream entry) : kind = entry.kind ∧ lexeme = entry.lexeme := by
  cases h with
  | entry hfound =>
    rw [hfound.unique hlongest]
    exact ⟨rfl, rfl⟩
  | none hnone => exact absurd hlongest.1 (hnone entry hlongest.mem)

theorem unique {kind' : Kind} {lexeme' : String} (h : catalog.Finds stream kind lexeme)
    (h' : catalog.Finds stream kind' lexeme') : kind = kind' ∧ lexeme = lexeme' := by
  cases h' with
  | entry hlongest => exact h.kind_of_longest hlongest
  | none hnone =>
    cases h with
    | entry hlongest => exact absurd hlongest.1 (hnone _ hlongest.mem)
    | none => exact ⟨rfl, rfl⟩

/-- What is found stays found where less of the stream is left behind it. -/
theorem of_prefix {narrow : List Char} (h : catalog.Finds stream kind lexeme)
    (hlexeme : lexeme.toList <+: narrow) (hstarts : narrow <+: stream) :
    catalog.Finds narrow kind lexeme := by
  cases h with
  | entry hlongest => exact .entry (hlongest.of_prefix ⟨hlongest.1.1, hlexeme⟩ hstarts)
  | none hnone =>
    rw [String.toList_singleton] at hlexeme
    obtain ⟨tail, rfl⟩ := hlexeme
    exact .none fun entry hentry hfits => hnone entry hentry (hfits.of_prefix hstarts)

end Catalog.Finds

end ExprLang
