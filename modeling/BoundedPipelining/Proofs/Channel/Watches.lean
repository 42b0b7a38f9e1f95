import BoundedPipelining.Proofs.Channel.Log

/-!
# The notifications of a channel

A watch may be made at any time and polled at any time, and what a poll finds depends on what the
peer did up to then, not on when the watch was made: a signal that was set stays set, and of several
resets the last one counts. The teardown has a second cause. It is found as well when nobody is left
to signal it, which takes more than dropping the peer, because each request in the peer's hands can
still signal.

Which watches are unresolved is itself read off the log: those that were made, and that no poll has
found ready.
-/

namespace BoundedPipelining

namespace Handles

open Channel (PeerStep)

variable {l : Log} {x : Step × Answer} {hs hs' : Handles} {k : Nat} {n : Notification}

/-! ## Unresolved watches -/

private theorem watches_poll (hs : Handles) (i : Nat) : (hs.poll i).2.watches = hs.watches := by
  rw [poll]
  split
  · split <;> rfl
  · rfl

private theorem watches_read (hs : Handles) (i : Nat) : (hs.read i).2.watches = hs.watches := by
  rw [read]
  split
  · obtain ⟨item, c⟩ := hs.channel.read i
    cases item <;> rfl
  · rfl

/-- The unresolved watches are those that were made and never found ready. -/
structure WatchesTold (l : Log) (hs : Handles) : Prop where
  held : ∀ k n, (hs.watches[k]?).join = some n ↔
    (.watch n, .watch k) ∈ l ∧ ∀ a, (.pollWatch k, a) ∈ l → a = .pending ∨ a = .gone
  /-- A watch is not polled before it is made. -/
  made : ∀ k, hs.watches.size ≤ k →
    (∀ n, (.watch n, .watch k) ∉ l) ∧ ∀ a, (.pollWatch k, a) ∈ l → a = .gone

theorem watchesTold_nil : WatchesTold [] {} where
  held k n := by simp
  made k _ := by simp

namespace WatchesTold

/-- A step that makes no watch and finds none ready. -/
private theorem quiet (h : WatchesTold l hs) (hwatch : ∀ n k, (.watch n, .watch k) ≠ x)
    (hpoll : ∀ k a, (.pollWatch k, a) = x →
      (a = .pending ∨ a = .gone) ∧ (hs.watches.size ≤ k → a = .gone))
    (hsame : hs'.watches = hs.watches) : WatchesTold (l ++ [x]) hs' where
  held k n := by
    simp only [hsame, h.held, List.mem_append, List.mem_singleton, hwatch, or_false]
    refine and_congr_right fun _ ↦ ⟨fun hold a ha ↦ ?_, fun hnew a ha ↦ hnew a (Or.inl ha)⟩
    exact ha.elim (hold a) fun hx ↦ (hpoll k a hx).1
  made k hk := by
    rw [hsame] at hk
    simp only [List.mem_append, List.mem_singleton, hwatch, or_false]
    refine ⟨(h.made k hk).1, fun a ha ↦ ?_⟩
    exact ha.elim ((h.made k hk).2 a) fun hx ↦ (hpoll k a hx).2 hk

private theorem watch (h : WatchesTold l hs) (n : Notification)
    (hpush : hs'.watches = hs.watches.push (some n)) :
    WatchesTold (l ++ [(.watch n, .watch hs.watches.size)]) hs' where
  held k n' := by
    simp only [hpush, Array.getElem?_push, List.mem_append, List.mem_singleton, Prod.mk.injEq,
      reduceCtorEq, false_and, or_false]
    split
    · rename_i hk
      subst hk
      obtain ⟨hnever, hgone⟩ := h.made hs.watches.size (Nat.le_refl _)
      simp [hnever, eq_comm]
      exact fun _ a ha ↦ Or.inr (hgone a ha)
    · rename_i hk
      rw [h.held]
      simp [hk]
  made k hk := by
    rw [hpush, Array.size_push] at hk
    obtain ⟨hnever, hgone⟩ := h.made k (Nat.le_of_succ_le hk)
    simp only [List.mem_append, List.mem_singleton, Prod.mk.injEq, reduceCtorEq, false_and,
      or_false]
    refine ⟨fun n' hn' ↦ ?_, hgone⟩
    rcases hn' with hn' | hn'
    · exact hnever n' hn'
    · simp at hn'
      omega

private theorem fired {a : Answer} (h : WatchesTold l hs) (hk : (hs.watches[k]?).join = some n)
    (ha : ¬ (a = .pending ∨ a = .gone)) (hset : hs'.watches = hs.watches.set! k none) :
    WatchesTold (l ++ [(.pollWatch k, a)]) hs' := by
  have hlt : k < hs.watches.size := by
    by_contra hle
    rw [Array.getElem?_eq_none (Nat.not_lt.mp hle)] at hk
    cases hk
  refine ⟨fun k' n' ↦ ?_, fun k' hk' ↦ ?_⟩
  · rw [hset, Array.set!_eq_setIfInBounds, Array.getElem?_setIfInBounds]
    by_cases hkk : k = k'
    · subst hkk
      rw [if_pos rfl, if_pos hlt]
      refine iff_of_false (by simp) fun hold ↦ ha (hold.2 a ?_)
      exact List.mem_append_right _ List.mem_cons_self
    · rw [if_neg hkk, h.held]
      simp [Ne.symm hkk]
  · rw [hset, Array.set!_eq_setIfInBounds, Array.size_setIfInBounds] at hk'
    have hne : k' ≠ k := by omega
    simpa [hne] using h.made k' hk'

theorem step (h : WatchesTold l hs) (s : Step) :
    WatchesTold (l ++ [(s, (hs.step s).1)]) (hs.step s).2 := by
  cases s with
  | watch n =>
    rw [Handles.step]
    split
    · exact h.watch n rfl
    · exact h.quiet (by simp) (by simp) rfl
  | pollWatch k =>
    rw [Handles.step]
    split
    · exact h.quiet (by simp) (by simp) rfl
    · rename_i n hk
      split
      · refine h.quiet (by simp) ?_ rfl
        rintro k' a ⟨⟩
        refine ⟨Or.inl rfl, fun hle ↦ ?_⟩
        rw [Array.getElem?_eq_none hle] at hk
        cases hk
      · rename_i a hready
        refine h.fired hk ?_ rfl
        rintro (rfl | rfl) <;> exact absurd hready (by cases n <;> simp [ready?])
  | peer s => exact h.quiet (by simp) (by simp) rfl
  | write r =>
    rw [Handles.step]
    split <;> exact h.quiet (by simp) (by simp) rfl
  | poll i => exact h.quiet (by simp) (by simp) (watches_poll hs i)
  | read i => exact h.quiet (by simp) (by simp) (watches_read hs i)
  | dropWrite i | dropBody i =>
    rw [Handles.step]
    split <;> exact h.quiet (by simp) (by simp) rfl
  | dropTransport => exact h.quiet (by simp) (by simp) rfl

end WatchesTold

/-! ## What a poll finds -/

/-- Somebody is left to signal unless the peer was dropped and has concluded all it took. -/
theorem FatesTold.isSignalled_iff {c : Channel} (h : FatesTold l c) : c.isSignalled = true ↔
    ¬ (.drop ∈ effects l ∧
      ∀ j < (takes l).length, ∃ s ∈ effects l, (s.verdict? j).isSome = true) := by
  rw [Channel.isSignalled_iff, h.peer, decide_eq_true_iff, not_and_or]
  refine or_congr_right ?_
  simp only [h.fate?_eq_taken_iff, List.findSome?_eq_none_iff, not_forall, not_exists, not_and,
    Bool.not_eq_true, Option.isSome_eq_false_iff, Option.isNone_iff_eq_none, exists_prop]

private theorem pollWatch_eq (hk : (hs.watches[k]?).join = some n) :
    (hs.step (.pollWatch k)).1 = (ready? hs.channel.notices n).getD .pending := by
  rw [step]
  split
  · rename_i hnone
    rw [hnone] at hk
    cases hk
  · rename_i n' hn'
    obtain rfl : n' = n := Option.some.inj (hn'.symm.trans hk)
    split
    · rename_i hready
      rw [hready]
      rfl
    · rename_i a hready
      rw [hready]
      rfl

/-- What the polls of the watches find, by the log `l` that led to `hs`. -/
structure LevelTriggered (l : Log) (hs : Handles) : Prop where
  /-- A watch is unresolved if it was made and no poll of it found anything. -/
  unresolved : ∀ k n, (hs.watches[k]?).join = some n ↔
    (.watch n, .watch k) ∈ l ∧ ∀ a, (.pollWatch k, a) ∈ l → a = .pending ∨ a = .gone
  /-- A step of the peer takes effect, and the peer is told so, exactly if the peer holds what it
  needs. -/
  heeded : ∀ s, (hs.step (.peer s)).1 = .peer .ok ↔ Holds l s
  /-- The announcement is found if it was signalled, by itself or with the head of an answer. -/
  closing : ∀ k, (hs.watches[k]?).join = some .closing →
    (hs.step (.pollWatch k)).1
      = if (effects l).any PeerStep.announces then .fired else .pending
  /-- The teardown is found if the channel was closed, or if the peer was dropped and every request
  it took has been answered, failed or dropped. -/
  close : ∀ k, (hs.watches[k]?).join = some .close →
    (hs.step (.pollWatch k)).1
      = if .close ∈ effects l ∨ .drop ∈ effects l ∧
            ∀ j < (takes l).length, ∃ s ∈ effects l, (s.verdict? j).isSome = true
        then .fired else .pending
  /-- The abrupt failure is found if the channel was reset, with the error of the last reset. -/
  error : ∀ k, (hs.watches[k]?).join = some .error →
    (hs.step (.pollWatch k)).1 = (resets l).getLast?.elim .pending .firedWith
  /-- Dropping the peer or a request of its leaves what other watches find as it is. -/
  vanishing : ∀ k n, (hs.watches[k]?).join = some n → n ≠ .close →
    ∀ s, (s = .drop ∨ ∃ j, s = .dropPending j) →
      ((hs.step (.peer s)).2.step (.pollWatch k)).1 = (hs.step (.pollWatch k)).1

/-- The peer is dropped right after its reset, with a request in its hands: the failure is found by
a watch that was made later, and the teardown is not. -/
example (r : Request) (e : TransportError) :
    let hs := ({} : Handles).run
      [.write r, .peer .next, .peer (.reset e), .peer .drop, .watch .error, .watch .close]
    (hs.step (.pollWatch 0)).1 = .firedWith e ∧ (hs.step (.pollWatch 1)).1 = .pending :=
  by cbv

end Handles

end BoundedPipelining
