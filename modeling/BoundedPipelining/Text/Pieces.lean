/-!
# Texts cut into pieces

Pieces between separators, and cuts at a number of bytes: a character takes one to four bytes in
UTF-8, and a cut that would go through a character is refused.
-/

namespace BoundedPipelining

namespace Pieces

/-- The pieces of a text between separators, empty ones included. -/
def split (separator : Char) : List Char → List (List Char)
  | [] => [[]]
  | c :: rest =>
    if c = separator then [] :: split separator rest
    else match split separator rest with
      | [] => [[c]]
      | p :: more => (c :: p) :: more

/-- The number of bytes of a text. -/
def byteCount (s : List Char) : Nat :=
  s.foldr (fun c n ↦ c.utf8Size + n) 0

/-- Cuts a text after its first `n` bytes. -/
def cut? : Nat → List Char → Option (List Char × List Char)
  | 0, s => some ([], s)
  | _ + 1, [] => none
  | n + 1, c :: r =>
    if c.utf8Size ≤ n + 1 then (cut? (n + 1 - c.utf8Size) r).map fun (a, b) ↦ (c :: a, b)
    else none

theorem append_of_cut? {n : Nat} {s a b : List Char} (h : cut? n s = some (a, b)) :
    a ++ b = s := by
  induction s generalizing n a b with
  | nil => cases n <;> simp_all [cut?]
  | cons c r ih =>
    cases n with
    | zero => simp_all [cut?]
    | succ n =>
      simp only [cut?] at h
      split at h
      · obtain ⟨⟨x, y⟩, hxy, hab⟩ := Option.map_eq_some_iff.1 h
        obtain ⟨rfl, rfl⟩ := Prod.mk.inj hab
        simp [ih hxy]
      · simp at h

end Pieces

end BoundedPipelining
