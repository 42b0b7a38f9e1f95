import BoundedPipelining.Text.Pieces

/-!
# The pieces between separators

What `Pieces.split` finds, said without it: a piece is a stretch of the text without a separator in
it, which begins at the front of the text or behind a separator, and ends at the end of the text or
in front of a separator. Cutting goes along with joining: the pieces of two texts with a separator
between them are those of the one and then those of the other, and so for any number of texts.
-/

namespace BoundedPipelining

namespace Pieces

variable {c : Char} {s p : List Char}

/-- A stretch of a text between separators, of which the first and the last are the ends of the
text. -/
structure IsPiece (c : Char) (s p : List Char) : Prop where
  whole : c ∉ p
  between : ∃ before after, s = before ++ p ++ after ∧
    (before = [] ∨ ∃ b, before = b ++ [c]) ∧ (after = [] ∨ ∃ a, after = c :: a)

/-- Cutting at one character is what the list library does under another name. -/
theorem split_eq_splitOn (c : Char) (s : List Char) : split c s = s.splitOn c := by
  induction s with
  | nil => rfl
  | cons x r ih =>
    rw [split, List.splitOn_cons_eq_if_modifyHead, ih]
    by_cases hx : x = c
    · rw [if_pos hx, if_pos (beq_iff_eq.mpr hx)]
    · rw [if_neg hx, if_neg (mt beq_iff_eq.mp hx)]
      obtain ⟨q, more, hr⟩ := List.exists_cons_of_ne_nil (List.splitOn_ne_nil c r)
      rw [hr, List.modifyHead_cons]

/-- A separator parts the pieces before it from those behind it. -/
theorem split_append_cons (c : Char) (a b : List Char) :
    split c (a ++ c :: b) = split c a ++ split c b := by
  simp only [split_eq_splitOn, List.splitOn_append_cons_self]

theorem split_of_not_mem (h : c ∉ s) : split c s = [s] := by
  rw [split_eq_splitOn, List.splitOn_eq_singleton h]

theorem intercalate_split (c : Char) (s : List Char) : [c].intercalate (split c s) = s := by
  rw [split_eq_splitOn, List.intercalate_splitOn]

theorem split_intercalate {texts : List (List Char)} (h : texts ≠ []) :
    split c ([c].intercalate texts) = texts.flatMap (split c) := by
  induction texts with
  | nil => contradiction
  | cons t rest ih =>
    by_cases hrest : rest = []
    · rw [hrest, List.intercalate_singleton, List.flatMap_singleton]
    · rw [List.intercalate_cons_of_ne_nil hrest, List.append_assoc, List.singleton_append,
        split_append_cons, ih hrest, List.flatMap_cons]

private theorem isPiece_of_mem_split (h : p ∈ split c s) : IsPiece c s p := by
  induction hn : s.length using Nat.strongRecOn generalizing s with
  | ind n ih =>
    by_cases hc : c ∈ s
    · -- Up to the first separator stands the first piece, and behind it a shorter text.
      obtain ⟨a, b, rfl, ha⟩ := List.eq_append_cons_of_mem hc
      rw [split_append_cons, split_of_not_mem ha, List.singleton_append] at h
      rcases List.mem_cons.mp h with rfl | hb
      · exact ⟨ha, [], c :: b, by simp, Or.inl rfl, Or.inr ⟨b, rfl⟩⟩
      · have hshort : b.length < n := by
          rw [← hn, List.length_append, List.length_cons]
          omega
        obtain ⟨hp, before, after, rfl, hbefore, hafter⟩ := ih b.length hshort hb rfl
        refine ⟨hp, a ++ c :: before, after, by simp, Or.inr ?_, hafter⟩
        rcases hbefore with rfl | ⟨b', rfl⟩
        · exact ⟨a, rfl⟩
        · exact ⟨a ++ c :: b', by simp⟩
    · rw [split_of_not_mem hc, List.mem_singleton] at h
      subst h
      exact ⟨hc, [], [], by simp, Or.inl rfl, Or.inl rfl⟩

private theorem mem_split_of_isPiece (h : IsPiece c s p) : p ∈ split c s := by
  obtain ⟨hp, before, after, rfl, hbefore, hafter⟩ := h
  have hback : p ∈ split c (p ++ after) := by
    rcases hafter with rfl | ⟨a, rfl⟩
    · rw [List.append_nil, split_of_not_mem hp]
      exact List.mem_singleton_self p
    · rw [split_append_cons, split_of_not_mem hp]
      exact List.mem_append_left _ (List.mem_singleton_self p)
  rw [List.append_assoc]
  rcases hbefore with rfl | ⟨b, rfl⟩
  · exact hback
  · rw [List.append_assoc, List.singleton_append, split_append_cons]
    exact List.mem_append_right _ hback

theorem mem_split_iff : p ∈ split c s ↔ IsPiece c s p :=
  ⟨isPiece_of_mem_split, mem_split_of_isPiece⟩

end Pieces

end BoundedPipelining
