import ExprLang.Segment.Basic
import ExprLang.Proofs.Stream
import Mathlib.Data.List.TakeWhile
import Mathlib.Tactic.Conv

/-!
The layout of a stream: blanks, and comments from two slashes through the next line break. On a
stream that ends with a line break, as every stream of lines does, every comment is complete, and
the layout at the start is cut off in one way only.
-/
set_option autoImplicit false

namespace ExprLang

/-- Blanks and complete comments, in any order. -/
inductive Layout : List Char → Prop
  | nil : Layout []
  | blank (symbol : Char) (rest : List Char) (hblank : isBlank symbol = true)
      (hrest : Layout rest) : Layout (symbol :: rest)
  | comment (body rest : List Char) (hbody : '\n' ∉ body) (hrest : Layout rest) :
      Layout ('/' :: '/' :: body ++ '\n' :: rest)

/-- The stream starts with a blank or with a comment. -/
def StartsLayout (stream : List Char) : Prop :=
  (∃ symbol ∈ stream.head?, isBlank symbol = true) ∨ ['/', '/'] <+: stream

/-- The stream is its layout, all of it, and what stands behind. -/
structure BehindLayout (stream skipped rest : List Char) : Prop where
  split : stream = skipped ++ rest
  layout : Layout skipped
  complete : ¬ StartsLayout rest

theorem StartsLayout.of_prefix {narrow stream : List Char} (h : StartsLayout narrow)
    (hstarts : narrow <+: stream) : StartsLayout stream := by
  obtain ⟨tail, rfl⟩ := hstarts
  rcases h with ⟨symbol, hhead, hblank⟩ | hslashes
  · exact Or.inl ⟨symbol, List.mem_head?_append_of_mem_head? hhead, hblank⟩
  · exact Or.inr (hslashes.trans (List.prefix_append narrow tail))

/-! ## The next line break -/

theorem throughBreak_of_not_mem {body : List Char} (h : '\n' ∉ body) (rest : List Char) :
    throughBreak (body ++ rest) = body ++ throughBreak rest := by
  induction body with
  | nil => rfl
  | cons c body ih =>
    rw [List.mem_cons, not_or] at h
    rw [List.cons_append, throughBreak, if_neg (Ne.symm h.1), ih h.2, List.cons_append]

theorem throughBreak_append {body : List Char} (h : '\n' ∉ body) (rest : List Char) :
    throughBreak (body ++ '\n' :: rest) = body ++ ['\n'] := by
  rw [throughBreak_of_not_mem h, throughBreak, if_pos rfl]

theorem exists_throughBreak {stream : List Char} (h : '\n' ∈ stream) :
    ∃ body, '\n' ∉ body ∧ throughBreak stream = body ++ ['\n'] := by
  obtain ⟨body, rest, rfl, hbody⟩ := List.eq_append_cons_of_mem h
  exact ⟨body, hbody, throughBreak_append hbody rest⟩

/-! ## Pieces of layout -/

theorem Segment.Starts.take_eq {piece : Segment} {stream : List Char} (h : piece.Starts stream) :
    stream.take piece.length = piece.chars := by
  have hfront := congrArg (List.take piece.length) h.2
  rwa [length, List.take_left, eq_comm] at hfront

theorem Segment.Starts.isPrefix {piece : Segment} {stream : List Char} (h : piece.Starts stream) :
    piece.chars <+: stream :=
  ⟨_, h.2⟩

theorem Segment.Starts.length_le {piece : Segment} {stream : List Char} (h : piece.Starts stream) :
    piece.length ≤ stream.length := by
  rw [← h.2, List.length_append]
  exact Nat.le_add_right _ _

theorem Layout.append {first second : List Char} (h : Layout first) (h' : Layout second) :
    Layout (first ++ second) := by
  induction h with
  | nil => exact h'
  | blank symbol rest hblank _ ih => exact .blank symbol _ hblank ih
  | comment body rest hbody _ ih =>
    rw [List.append_assoc, List.cons_append]
    exact .comment body _ hbody ih

namespace Segment

theorem layout?_eq_none_iff {stream : List Char} :
    layout? stream = none ↔ ¬ StartsLayout stream := by
  unfold layout? StartsLayout
  split
  · simp
  · rename_i symbol rest hcomment
    by_cases hblank : isBlank symbol = true
    · simp [hblank]
    · have hno : ¬ ['/', '/'] <+: symbol :: rest := by
        rintro ⟨tail, htail⟩
        obtain ⟨hfirst, hsecond⟩ := List.cons.inj htail
        exact hcomment tail hfirst.symm hsecond.symm
      simp [hblank, hno]
  · simp

theorem layout?_shape {stream : List Char} {piece : Segment} (h : layout? stream = some piece) :
    (∃ symbol, piece = .blank symbol) ∨ ∃ run, piece = .comment run := by
  unfold layout? at h
  split at h
  · exact Or.inr ⟨_, (Option.some.inj h).symm⟩
  · split at h
    · exact Or.inl ⟨_, (Option.some.inj h).symm⟩
    · cases h
  · cases h

/-- On a stream of lines a piece of layout is one blank or one complete comment. -/
theorem layout?_cases {stream : List Char} {piece : Segment} (hstream : EndsLine stream)
    (h : layout? stream = some piece) :
    (∃ symbol, isBlank symbol = true ∧ piece = .blank symbol) ∨
      ∃ body, '\n' ∉ body ∧ piece = .comment ('/' :: '/' :: body ++ ['\n']) := by
  unfold layout? at h
  split at h
  · rename_i rest
    cases h
    obtain ⟨body, hbody, hthrough⟩ := exists_throughBreak (hstream.mem_of_cons_cons (by decide))
    exact Or.inr ⟨body, hbody, by rw [hthrough]; rfl⟩
  · rename_i symbol rest _
    split at h
    · rename_i hblank
      cases h
      exact Or.inl ⟨symbol, hblank, rfl⟩
    · cases h
  · cases h

theorem layout_chars {stream : List Char} {piece : Segment} (hstream : EndsLine stream)
    (h : layout? stream = some piece) : Layout piece.chars := by
  rcases layout?_cases hstream h with ⟨symbol, hblank, rfl⟩ | ⟨body, hbody, rfl⟩
  · exact .blank symbol [] hblank .nil
  · exact .comment body [] hbody .nil

theorem layoutLength_of_none {stream : List Char} (h : layout? stream = none) :
    layoutLength stream = 0 := by
  unfold layoutLength
  split
  · rfl
  · rename_i heq
    rw [h] at heq
    cases heq

theorem layoutLength_of_some {stream : List Char} {piece : Segment}
    (h : layout? stream = some piece) :
    layoutLength stream = piece.length + layoutLength (stream.drop piece.length) := by
  conv_lhs => unfold layoutLength
  split
  · rename_i heq
    rw [h] at heq
    cases heq
  · rename_i heq
    rw [h] at heq
    cases heq
    rfl

/-- The layout at the start of a stream is what `layoutLength` counts. -/
theorem behindLayout (stream : List Char) (hstream : EndsLine stream) :
    BehindLayout stream (stream.take (layoutLength stream)) (stream.drop (layoutLength stream)) := by
  induction stream using layoutLength.induct with
  | case1 stream hnone =>
    rw [layoutLength_of_none hnone]
    exact ⟨rfl, .nil, layout?_eq_none_iff.mp hnone⟩
  | case2 stream piece hsome ih =>
    have hstarts := starts_of_layout? hsome
    have hrest := ih (hstream.drop piece.length)
    rw [layoutLength_of_some hsome]
    refine ⟨(List.take_append_drop _ _).symm, ?_, ?_⟩
    · rw [List.take_add, hstarts.take_eq]
      exact (layout_chars hstream hsome).append hrest.layout
    · rw [← List.drop_drop]
      exact hrest.complete

end Segment

/-- However the layout is cut off, it is as long as `layoutLength` says. -/
theorem Layout.layoutLength_append {skipped rest : List Char} (h : Layout skipped)
    (hrest : ¬ StartsLayout rest) : Segment.layoutLength (skipped ++ rest) = skipped.length := by
  induction h with
  | nil => exact Segment.layoutLength_of_none (Segment.layout?_eq_none_iff.mpr hrest)
  | blank symbol tail hblank _ ih =>
    have hpiece : Segment.layout? (symbol :: (tail ++ rest)) = some (.blank symbol) := by
      have hslash : symbol ≠ '/' := by
        rintro rfl
        exact absurd hblank (by decide)
      simp [Segment.layout?, hslash, hblank]
    rw [List.cons_append, Segment.layoutLength_of_some hpiece]
    simp only [Segment.length, Segment.chars, List.length_cons, List.length_nil, List.drop_succ_cons,
      List.drop_zero, ih]
    omega
  | comment body tail hbody _ ih =>
    have hpiece : Segment.layout? ('/' :: '/' :: (body ++ '\n' :: (tail ++ rest))) =
        some (.comment ('/' :: '/' :: (body ++ ['\n']))) := by
      rw [Segment.layout?, throughBreak_append hbody]
    have hfront : '/' :: '/' :: body ++ '\n' :: tail ++ rest =
        '/' :: '/' :: (body ++ '\n' :: (tail ++ rest)) := by simp
    have hbehind : ('/' :: '/' :: (body ++ '\n' :: (tail ++ rest))).drop
        ('/' :: '/' :: (body ++ ['\n'])).length = tail ++ rest := by
      rw [show '/' :: '/' :: (body ++ '\n' :: (tail ++ rest)) =
        '/' :: '/' :: (body ++ ['\n']) ++ (tail ++ rest) by simp, List.drop_left]
    rw [hfront, Segment.layoutLength_of_some hpiece, Segment.length, Segment.chars, hbehind, ih]
    simp only [List.length_cons, List.length_append, List.length_nil]
    omega

theorem Segment.layoutLength_le (stream : List Char) (hstream : EndsLine stream) :
    layoutLength stream ≤ stream.length := by
  have hbehind := behindLayout stream hstream
  have hlength := hbehind.layout.layoutLength_append hbehind.complete
  rw [← hbehind.split, List.length_take] at hlength
  omega

theorem BehindLayout.unique {stream skipped rest skipped' rest' : List Char}
    (h : BehindLayout stream skipped rest) (h' : BehindLayout stream skipped' rest') :
    skipped = skipped' ∧ rest = rest' := by
  have hlength : skipped.length = skipped'.length := by
    rw [← h.layout.layoutLength_append h.complete, ← h'.layout.layoutLength_append h'.complete,
      ← h.split, ← h'.split]
  exact List.append_inj (h.split.symm.trans h'.split) hlength

end ExprLang
