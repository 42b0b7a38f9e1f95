import BoundedPipelining.Connection.Basic
import BoundedPipelining.Settings.Validation

/-!
# Setting up a connection

A connection is set up from its settings, and only with room for at least one exchange.
-/

namespace BoundedPipelining

/-- A fresh connection with these settings. -/
def Connection.ofSettings (s : ConnectionSettings) : Except ValidationError Connection :=
  s.depth.map fun d ↦ Connection.ofDepth d s.closingPolicy

theorem Connection.ofSettings_of_pos (s : ConnectionSettings) {n : Nat} (h : 0 < n) :
    Connection.ofSettings { s with maxPipelined := n }
      = .ok (Connection.ofDepth ⟨n, h⟩ s.closingPolicy) := by
  simp [ofSettings, ConnectionSettings.depth, ConnectionSettings.depth?, Depth.ofNat?, h,
    Except.map]

theorem Connection.max_ofSettings {s : ConnectionSettings} {c : Connection}
    (h : Connection.ofSettings s = .ok c) : c.books.limiter.max.val = s.maxPipelined := by
  unfold Connection.ofSettings ConnectionSettings.depth ConnectionSettings.depth? Depth.ofNat? at h
  split at h
  · rename_i d hd
    split at hd
    · injection hd with hd
      injection h with h
      rw [← h, ← hd]
      rfl
    · simp at hd
  · simp [Except.map] at h

end BoundedPipelining
