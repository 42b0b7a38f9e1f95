import BoundedPipelining.Text.Blank
import BoundedPipelining.Text.Pieces
import Mathlib.Data.List.Infix

/-!
# Where a text can be cut

A text can be cut after a number of bytes exactly if some of its prefixes has so many bytes, and
then there is one way to do it: of two prefixes, the one with fewer bytes is a prefix of the other.

A text also falls into the blanks in front, what is left without the blanks around it, and the
blanks behind.
-/

namespace BoundedPipelining

namespace Pieces

variable {s a b : List Char} {n : Nat}

@[simp] theorem byteCount_nil : byteCount [] = 0 := rfl

@[simp] theorem byteCount_cons (c : Char) (s : List Char) :
    byteCount (c :: s) = c.utf8Size + byteCount s := rfl

@[simp] theorem byteCount_append (a b : List Char) :
    byteCount (a ++ b) = byteCount a + byteCount b := by
  induction a with
  | nil => simp
  | cons c a ih => simp [ih, Nat.add_assoc]

theorem byteCount_append_cons {c : Char} (hc : c.utf8Size = 1) (a b : List Char) :
    byteCount (a ++ c :: b) = byteCount a + 1 + byteCount b := by
  rw [byteCount_append, byteCount_cons, hc, Nat.add_assoc]

theorem byteCount_eq_zero_iff : byteCount s = 0 ↔ s = [] := by
  cases s with
  | nil => simp
  | cons c s => simp [Nat.ne_of_gt c.utf8Size_pos]

/-- Some prefix of the text has so many bytes. -/
def IsBoundary (s : List Char) (n : Nat) : Prop :=
  ∃ a, a <+: s ∧ byteCount a = n

theorem isBoundary_of_prefix (h : a <+: s) : IsBoundary s (byteCount a) :=
  ⟨a, h, rfl⟩

/-- Prefixes of one text are ordered by their bytes. -/
theorem prefix_of_byteCount_le (ha : a <+: s) (hb : b <+: s) (h : byteCount a ≤ byteCount b) :
    a <+: b := by
  rcases List.prefix_or_prefix_of_prefix ha hb with hab | ⟨r, rfl⟩
  · exact hab
  · have hr : byteCount r = 0 := by
      rw [byteCount_append] at h
      omega
    rw [byteCount_eq_zero_iff.mp hr, List.append_nil]

theorem eq_of_byteCount_eq (ha : a <+: s) (hb : b <+: s) (h : byteCount a = byteCount b) :
    a = b := by
  have hab : a <+: b := prefix_of_byteCount_le ha hb (Nat.le_of_eq h)
  have hba : b <+: a := prefix_of_byteCount_le hb ha (Nat.le_of_eq h.symm)
  exact hab.eq_of_length_le hba.length_le

theorem cut?_byteCount (a b : List Char) : cut? (byteCount a) (a ++ b) = some (a, b) := by
  induction a with
  | nil => simp [cut?]
  | cons c a ih =>
    have hpos := c.utf8Size_pos
    obtain ⟨m, hm⟩ : ∃ m, byteCount (c :: a) = m + 1 :=
      Nat.exists_eq_succ_of_ne_zero (by rw [byteCount_cons]; omega)
    have hrest : m + 1 - c.utf8Size = byteCount a := by
      rw [← hm, byteCount_cons]
      omega
    rw [hm, List.cons_append, cut?, if_pos (by rw [← hm, byteCount_cons]; omega), hrest, ih]
    rfl

theorem byteCount_of_cut? (h : cut? n s = some (a, b)) : byteCount a = n := by
  induction s generalizing n a b with
  | nil =>
    cases n with
    | zero =>
      cases h
      rfl
    | succ n => cases h
  | cons c r ih =>
    cases n with
    | zero =>
      cases h
      rfl
    | succ n =>
      rw [cut?] at h
      split at h
      · rename_i hfits
        obtain ⟨⟨x, y⟩, hxy, hab⟩ := Option.map_eq_some_iff.mp h
        cases hab
        rw [byteCount_cons, ih hxy]
        omega
      · cases h

theorem cut?_eq_some_iff : cut? n s = some (a, b) ↔ a ++ b = s ∧ byteCount a = n := by
  constructor
  · intro h
    exact ⟨append_of_cut? h, byteCount_of_cut? h⟩
  · rintro ⟨rfl, rfl⟩
    exact cut?_byteCount a b

theorem cut?_eq_none_iff : cut? n s = none ↔ ¬ IsBoundary s n := by
  rw [← not_iff_not, not_not, ← ne_eq, Option.ne_none_iff_exists']
  constructor
  · rintro ⟨⟨a, b⟩, h⟩
    obtain ⟨rfl, hn⟩ := cut?_eq_some_iff.mp h
    exact ⟨a, List.prefix_append a b, hn⟩
  · rintro ⟨a, ⟨b, hab⟩, hn⟩
    exact ⟨(a, b), cut?_eq_some_iff.mpr ⟨hab, hn⟩⟩

end Pieces

namespace Blank

/-- What stands around a text without its blanks is blank. -/
theorem exists_eq_append_trim (s : List Char) : ∃ front back,
    s = front ++ trim s ++ back ∧ ∀ c ∈ front ++ back, isBlank c = true := by
  refine ⟨s.takeWhile isBlank, ((s.dropWhile isBlank).reverse.takeWhile isBlank).reverse, ?_, ?_⟩
  · rw [trim, List.append_assoc, ← List.reverse_append, List.takeWhile_append_dropWhile,
      List.reverse_reverse, List.takeWhile_append_dropWhile]
  · intro c hc
    rw [List.mem_append, List.mem_reverse] at hc
    rcases hc with hfront | hback
    · exact List.all_eq_true.mp List.all_takeWhile c hfront
    · exact List.all_eq_true.mp List.all_takeWhile c hback

theorem mem_of_mem_trim {s : List Char} {c : Char} (h : c ∈ trim s) : c ∈ s := by
  obtain ⟨front, back, hs, -⟩ := exists_eq_append_trim s
  rw [hs]
  exact List.mem_append_left back (List.mem_append_right front h)

end Blank

end BoundedPipelining
