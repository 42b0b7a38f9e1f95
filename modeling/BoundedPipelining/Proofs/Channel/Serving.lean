import BoundedPipelining.Proofs.Channel.Log

/-!
# The service of a channel

Every write is given to the peer, if it is accepted at all, and comes back to its own caller with
what the peer made of it. Whether it is accepted is decided at the call, by what the peer did
before. From then on it belongs to a queue, and its future depends on the peer's steps on its own
request, and on the peer's being dropped while it waits.

`serves_run` reads all this off the log. What a write has to expect from a step on another request,
from a close or from a reset is nothing, by `Serves.apart`.
-/

namespace BoundedPipelining

namespace Handles

open Channel (PeerStep)

variable {l : Log} {x : Step × Answer} {hs hs' : Handles} {i : Nat}

/-! ## The callers' handles -/

/-- The futures that callers hold are those that were neither resolved nor dropped. -/
structure FuturesTold (l : Log) (hs : Handles) : Prop where
  held : ∀ i, hs.writes[i]? = some .future ↔
    i < hs.writes.size ∧ (.dropWrite i, .ok) ∉ l ∧
      ∀ a, (.poll i, a) ∈ l → a = .pending ∨ a = .gone
  /-- A future is not used before it is made. -/
  made : ∀ i, hs.writes.size ≤ i →
    (.dropWrite i, .ok) ∉ l ∧ ∀ a, (.poll i, a) ∈ l → a = .gone

theorem futuresTold_nil : FuturesTold [] {} where
  held i := by simp
  made i _ := by simp

/-- The payloads that callers hold are those of answered writes. -/
def PayloadsAnswered (hs : Handles) : Prop :=
  ∀ i, hs.writes[i]? = some .payload → ∃ head, hs.channel.result? i = some (.ok head)

private theorem handle?_setHandle (hs : Handles) (i k : Nat) (w : WriteHandle) :
    (hs.setHandle i w).writes[k]?
      = if i = k then (hs.writes[k]?).map fun _ ↦ w else hs.writes[k]? := by
  rw [setHandle, Array.set!_eq_setIfInBounds, Array.getElem?_setIfInBounds]
  by_cases hik : i = k
  · subst hik
    rw [if_pos rfl, if_pos rfl]
    split
    · rename_i hi
      rw [Array.getElem?_eq_getElem hi]
      rfl
    · rename_i hi
      rw [Array.getElem?_eq_none (Nat.not_lt.mp hi)]
      rfl
  · rw [if_neg hik, if_neg hik]

private theorem size_setHandle (hs : Handles) (i : Nat) (w : WriteHandle) :
    (hs.setHandle i w).writes.size = hs.writes.size :=
  Array.size_setIfInBounds ..

namespace FuturesTold

/-- A step that makes no future and takes none away. -/
private theorem quiet (h : FuturesTold l hs) (hdrop : ∀ i, (.dropWrite i, .ok) ≠ x)
    (hpoll : ∀ i a, (.poll i, a) = x →
      (a = .pending ∨ a = .gone) ∧ (hs.writes.size ≤ i → a = .gone))
    (hsize : hs'.writes.size = hs.writes.size)
    (hfuture : ∀ i : Nat,
      hs'.writes[i]? = some WriteHandle.future ↔ hs.writes[i]? = some WriteHandle.future) :
    FuturesTold (l ++ [x]) hs' where
  held i := by
    simp only [hfuture, h.held, hsize, List.mem_append, List.mem_singleton, hdrop, or_false]
    refine and_congr_right fun _ ↦ and_congr_right fun _ ↦
      ⟨fun hold a ha ↦ ?_, fun hnew a ha ↦ hnew a (Or.inl ha)⟩
    exact ha.elim (hold a) fun hx ↦ (hpoll i a hx).1
  made i hi := by
    rw [hsize] at hi
    simp only [List.mem_append, List.mem_singleton, hdrop, or_false]
    refine ⟨(h.made i hi).1, fun a ha ↦ ?_⟩
    exact ha.elim ((h.made i hi).2 a) fun hx ↦ (hpoll i a hx).2 hi

private theorem write (h : FuturesTold l hs) (r : Request) (a : Answer)
    (hpush : hs'.writes = hs.writes.push .future) : FuturesTold (l ++ [(.write r, a)]) hs' where
  held i := by
    simp only [hpush, Array.getElem?_push, Array.size_push, List.mem_append, List.mem_singleton,
      Prod.mk.injEq, reduceCtorEq, false_and, or_false]
    split
    · rename_i hi
      obtain ⟨hdrop, hgone⟩ := h.made i (Nat.le_of_eq hi.symm)
      exact iff_of_true rfl ⟨by omega, hdrop, fun a ha ↦ Or.inr (hgone a ha)⟩
    · rw [h.held]
      refine and_congr_left fun _ ↦ ?_
      omega
  made i hi := by
    rw [hpush, Array.size_push] at hi
    simpa using h.made i (Nat.le_of_succ_le hi)

/-- A step that takes a future away. -/
private theorem released {w : WriteHandle} (h : FuturesTold l hs)
    (hi : hs.writes[i]? = some .future) (hw : w ≠ .future)
    (hx : x = (.dropWrite i, .ok) ∨ ∃ a, ¬ (a = .pending ∨ a = .gone) ∧ x = (.poll i, a)) :
    FuturesTold (l ++ [x]) (hs.setHandle i w) := by
  have hlt : i < hs.writes.size := (Array.getElem?_eq_some_iff.mp hi).1
  -- No entry but that of write `i` is added.
  have hother {k : Nat} (hk : i ≠ k) : (.dropWrite k, .ok) ≠ x ∧ ∀ a, (.poll k, a) ≠ x := by
    rcases hx with rfl | ⟨a, -, rfl⟩ <;> simp [hk.symm]
  refine ⟨fun k ↦ ?_, fun k hk ↦ ?_⟩
  · rw [handle?_setHandle, size_setHandle]
    by_cases hik : i = k
    · subst hik
      rw [if_pos rfl, hi]
      refine iff_of_false (by simpa using hw) fun ⟨_, hdrop, hpoll⟩ ↦ ?_
      rcases hx with rfl | ⟨a, ha, rfl⟩
      · exact hdrop (List.mem_append_right _ List.mem_cons_self)
      · exact ha (hpoll a (List.mem_append_right _ List.mem_cons_self))
    · rw [if_neg hik, h.held]
      simp [hother hik]
  · rw [size_setHandle] at hk
    simpa [hother (Nat.ne_of_lt (Nat.lt_of_lt_of_le hlt hk))] using h.made k hk

theorem step (h : FuturesTold l hs) (s : Step) :
    FuturesTold (l ++ [(s, (hs.step s).1)]) (hs.step s).2 := by
  have hsame {k : Nat} {w : WriteHandle} (hk : hs.writes[k]? = some .payload) (hw : w ≠ .future)
      (i : Nat) : (hs.setHandle k w).writes[i]? = some WriteHandle.future ↔
        hs.writes[i]? = some WriteHandle.future := by
    rw [handle?_setHandle]
    split
    · rename_i hki
      rw [← hki, hk]
      simpa using hw
    · rfl
  cases s with
  | write r =>
    rw [Handles.step]
    split
    · exact h.write r _ rfl
    · exact h.quiet (by simp) (by simp) rfl fun _ ↦ Iff.rfl
  | poll i =>
    rw [Handles.step, poll]
    split
    · rename_i hi
      split
      · refine h.quiet (by simp) ?_ rfl fun _ ↦ Iff.rfl
        rintro k a ⟨⟩
        have hlt := (Array.getElem?_eq_some_iff.mp hi).1
        exact ⟨Or.inl rfl, fun hle ↦ absurd hlt (Nat.not_lt.mpr hle)⟩
      · exact h.released hi (by simp) (Or.inr ⟨_, by simp, rfl⟩)
      · exact h.released hi (by simp) (Or.inr ⟨_, by simp, rfl⟩)
    · exact h.quiet (by simp) (by simp) rfl fun _ ↦ Iff.rfl
  | dropWrite i =>
    rw [Handles.step]
    split
    · rename_i hi
      exact h.released hi (by simp) (Or.inl rfl)
    · exact h.quiet (by simp) (by simp) rfl fun _ ↦ Iff.rfl
  | read i =>
    rw [Handles.step, read]
    split
    · rename_i hi
      obtain ⟨item, c⟩ := hs.channel.read i
      cases item with
      | ended =>
        refine h.quiet (by simp) (by simp) (size_setHandle hs i .gone) ?_
        exact hsame hi (by simp)
      | _ => exact h.quiet (by simp) (by simp) rfl fun _ ↦ Iff.rfl
    · exact h.quiet (by simp) (by simp) rfl fun _ ↦ Iff.rfl
  | dropBody i =>
    rw [Handles.step]
    split
    · rename_i hi
      exact h.quiet (by simp) (by simp) (size_setHandle hs i .gone) (hsame hi (by simp))
    · exact h.quiet (by simp) (by simp) rfl fun _ ↦ Iff.rfl
  | watch n =>
    rw [Handles.step]
    split <;> exact h.quiet (by simp) (by simp) rfl fun _ ↦ Iff.rfl
  | pollWatch k =>
    rw [Handles.step]
    split
    · exact h.quiet (by simp) (by simp) rfl fun _ ↦ Iff.rfl
    · split <;> exact h.quiet (by simp) (by simp) rfl fun _ ↦ Iff.rfl
  | peer s => exact h.quiet (by simp) (by simp) rfl fun _ ↦ Iff.rfl
  | dropTransport => exact h.quiet (by simp) (by simp) rfl fun _ ↦ Iff.rfl

end FuturesTold

namespace PayloadsAnswered

/-- An answered write stays answered, so new payloads alone need an answer. -/
private theorem of_new (h : PayloadsAnswered hs)
    (hkept : ∀ i head, hs.channel.result? i = some (.ok head) →
      hs'.channel.result? i = some (.ok head))
    (hnew : ∀ i : Nat, hs'.writes[i]? = some WriteHandle.payload →
      hs.writes[i]? = some WriteHandle.payload ∨
        ∃ head, hs'.channel.result? i = some (.ok head)) : PayloadsAnswered hs' := by
  intro i hi
  rcases hnew i hi with hold | hanswered
  · obtain ⟨head, hhead⟩ := h i hold
    exact ⟨head, hkept i head hhead⟩
  · exact hanswered

private theorem released (h : PayloadsAnswered hs) (i : Nat) :
    PayloadsAnswered (hs.setHandle i .gone) := by
  refine h.of_new (fun _ _ hk ↦ hk) fun k hk ↦ Or.inl ?_
  rw [handle?_setHandle] at hk
  split at hk
  · obtain ⟨w, -, hw⟩ := Option.map_eq_some_iff.mp hk
    cases hw
  · exact hk

theorem step (h : PayloadsAnswered hs) (s : Step) : PayloadsAnswered (hs.step s).2 := by
  cases s with
  | peer s => exact h.of_new (fun _ _ hk ↦ Channel.answered_peerStep hk s) fun _ hk ↦ Or.inl hk
  | write r =>
    rw [Handles.step]
    split
    · refine h.of_new (fun _ _ hk ↦ Channel.answered_write_iff.mpr hk) fun k hk ↦ Or.inl ?_
      rw [Array.getElem?_push] at hk
      split at hk
      · cases hk
      · exact hk
    · exact h
  | poll i =>
    rw [Handles.step, poll]
    split
    · split
      · exact h
      · rename_i head hresult
        refine h.of_new (fun _ _ hk ↦ hk) fun k hk ↦ ?_
        rw [handle?_setHandle] at hk
        split at hk
        · rename_i hik
          exact Or.inr ⟨head, hik ▸ hresult⟩
        · exact Or.inl hk
      · exact h.released i
    · exact h
  | read i =>
    rw [Handles.step, read]
    split
    · obtain ⟨⟨item, c⟩, hread⟩ : ∃ found, hs.channel.read i = found := ⟨_, rfl⟩
      have hchannel : PayloadsAnswered { hs with channel := c } := by
        refine h.of_new (fun k _ hk ↦ ?_) fun _ hk ↦ Or.inl hk
        have hresult := hs.channel.result?_read i k
        rw [hread] at hresult
        exact hresult.trans hk
      rw [hread]
      cases item with
      | ended => exact hchannel.released i
      | _ => exact hchannel
    · exact h
  | dropWrite i | dropBody i =>
    rw [Handles.step]
    split
    · exact h.released i
    · exact h
  | watch n =>
    rw [Handles.step]
    split <;> exact h
  | pollWatch k =>
    rw [Handles.step]
    split
    · exact h
    · split <;> exact h
  | dropTransport => exact h

end PayloadsAnswered

/-! ## Steps on other requests -/

/-- The steps that the future of write `i` depends on. -/
def concerns (i : Nat) : Step → Prop
  | .peer s => s = .drop ∨ (s.verdict? i).isSome = true
  | _ => False

private theorem channel_poll (hs : Handles) (i : Nat) : (hs.poll i).2.channel = hs.channel := by
  rw [poll]
  split
  · split <;> rfl
  · rfl

private theorem result?_read (hs : Handles) (j i : Nat) :
    (hs.read j).2.channel.result? i = hs.channel.result? i := by
  rw [read]
  split
  · have hresult := hs.channel.result?_read j i
    generalize hs.channel.read j = found at hresult ⊢
    obtain ⟨item, c⟩ := found
    cases item <;> exact hresult
  · rfl

/-- A step of the peer that does not concern a write may take its request, no more. -/
private theorem result?_peerStep {s : PeerStep} {c : Channel} (h : FatesTold l c)
    (hs' : ¬ concerns i (.peer s)) : (c.peerStep s).2.result? i = c.result? i := by
  obtain ⟨hdrop, hverdict⟩ := not_or.mp hs'
  have hturns := c.turns_peerStep s
  rw [Channel.result?_eq, Channel.result?_eq]
  generalize (c.peerStep s).1 = a at hturns
  generalize (c.peerStep s).2 = c' at hturns ⊢
  cases hturns with
  | kept _ _ hf => rw [hf]
  | took _ hnext _ _ _ hf =>
    rw [hf]
    split
    · rename_i hi
      rw [← hi, (Channel.nextQueued?_eq_some_iff.mp hnext).1]
      rfl
    · rfl
  | concluded hj hsome _ _ _ hf =>
    rw [hf, if_neg]
    rintro rfl
    rw [hsome, if_pos (h.eq_of_pending hj).1.symm] at hverdict
    exact hverdict rfl
  | dropped hs => exact absurd hs hdrop

/-- A step that does not concern a write leaves its result as it is. -/
theorem result?_step (h : Told l hs) (hi : i < hs.channel.writes.size) {s : Step}
    (hs' : ¬ concerns i s) : (hs.step s).2.channel.result? i = hs.channel.result? i := by
  cases s with
  | peer s => exact result?_peerStep h.toFatesTold hs'
  | write r =>
    rw [step]
    split
    · rw [Channel.result?_eq, Channel.fate?_write, if_neg (Nat.ne_of_lt hi), Channel.result?_eq]
    · rfl
  | poll j => exact congrArg (Channel.result? · i) (channel_poll hs j)
  | read j => exact result?_read hs j i
  | dropWrite j | dropBody j | watch n =>
    rw [step]
    split <;> rfl
  | pollWatch k =>
    rw [step]
    split
    · rfl
    · split <;> rfl
  | dropTransport => rfl

/-! ## Every run -/

/-- Whether the peer has torn the channel down or is gone. -/
def isOver (l : Log) : Prop :=
  .close ∈ effects l ∨ resets l ≠ [] ∨ .drop ∈ effects l

instance (l : Log) : Decidable (isOver l) := inferInstanceAs (Decidable (_ ∨ _ ∨ _))

/-- What a peer that looks for the next request is given. -/
def given (l : Log) (otherwise : Channel.PeerAnswer) : Channel.PeerAnswer :=
  match (queue l)[(takes l).length]? with
  | some r => .request (takes l).length r
  | none => otherwise

/-- The items that were handed into the payload of write `i`. -/
def sent (i : Nat) (l : Log) : List (Except TransportError Bytes) :=
  (puts i l).filterMap Put.item?

/-- How a channel serves its writes, by the log `l` that led to `hs`. -/
structure Serves (l : Log) (hs : Handles) : Prop where
  /-- There are as many writes as calls, and each carries the request of its call. -/
  counted : hs.channel.writes.size = (calls l).length ∧ hs.channel.requests.toList = calls l
  /-- A call is queued exactly if the channel was not over. -/
  queued : hs.channel.transport = true → ∀ r,
    (hs.step (.write r)).1 = .write (calls l).length ∧
      (hs.step (.write r)).2.channel.fate? (calls l).length
        = some (if isOver l then .refused else .queued) ∧
      queue (l ++ [(.write r, .write (calls l).length)])
        = queue l ++ if isOver l then [] else [r]
  /-- The peer took the queued requests from the first one on, in their order and each once. -/
  order : takes l <+: queue l
  /-- A step of the peer takes effect, and the peer is told so, exactly if the peer holds what it
  needs: an unanswered request, a payload that has not come to its end, or the peer itself. -/
  heeded : ∀ s, (hs.step (.peer s)).1 = .peer .ok ↔ Holds l s
  /-- Without it the peer is told that it is gone, and nothing changes. -/
  unheeded : ∀ s, ¬ Holds l s → s ≠ .next → s ≠ .await → hs.step (.peer s) = (.peer .gone, hs)
  /-- As long as the peer is there it is given the next of them, under the number of its write. -/
  next : hs.channel.peer = true →
    (hs.step (.peer .next)).1 = .peer (given l .nothing) ∧
      (hs.step (.peer .await)).1
        = .peer (given l (if hs.channel.transport then .pending else .nothing))
  /-- The futures that callers hold are those that were neither resolved nor dropped. -/
  unresolved : ∀ i, hs.writes[i]? = some .future ↔
    i < (calls l).length ∧ (.dropWrite i, .ok) ∉ l ∧
      ∀ a, (.poll i, a) ∈ l → a = .pending ∨ a = .gone
  /-- A poll tells what became of the write. -/
  poll : ∀ i, hs.writes[i]? = some .future →
    (hs.step (.poll i)).1 =
      match fateOf l i with
      | .queued | .taken => .pending
      | .answered head => .head head
      | .failed e => .error e
      | .refused | .lost => .error .closed
  /-- The payload of an answer gives what the peer handed into it, in its order. -/
  payload : ∀ i, hs.writes[i]? = some .payload →
    reads i l <+: sent i l ∧
      (hs.step (.read i)).1 =
        match (sent i l)[(reads i l).length]? with
        | some (.ok bytes) => .chunk bytes
        | some (.error e) => .error e
        | none => if (puts i l).any Put.isLast then .ended else .pending
  /-- The result of a write depends on no other step than those that concern it. -/
  apart : ∀ i < (calls l).length, ∀ s, ¬ concerns i s →
    (hs.step s).2.channel.result? i = hs.channel.result? i

theorem Told.refuses_iff (h : Told l hs) : hs.channel.refuses = decide (isOver l) := by
  rw [h.refuses_eq, Bool.eq_iff_iff, any_tearsDown_iff, decide_eq_true_iff, isOver, resets,
    List.getLast?_isSome]

private theorem write_queued (h : Told l hs) (ht : hs.channel.transport = true) (r : Request) :
    (hs.step (.write r)).1 = .write (calls l).length ∧
      (hs.step (.write r)).2.channel.fate? (calls l).length
        = some (if isOver l then .refused else .queued) ∧
      queue (l ++ [(.write r, .write (calls l).length)])
        = queue l ++ if isOver l then [] else [r] := by
  rw [step, if_pos ht, ← h.handles]
  refine ⟨rfl, ?_, ?_⟩
  · rw [Channel.fate?_write, h.size_eq, ← h.handles, if_pos rfl, h.refuses_iff]
    simp only [decide_eq_true_iff]
  · rw [queue_snoc, ← h.refuses_eq, h.refuses_iff]
    simp only [decide_eq_true_iff]
    rfl

private theorem take_given (h : Told l hs) (hpeer : hs.channel.peer = true)
    (a : Channel.PeerAnswer) : (hs.channel.take a).1 = given l a := by
  have hnext := h.nextQueued?_eq hpeer
  rw [Channel.take, given]
  cases hr : (queue l)[(takes l).length]? with
  | none =>
    rw [if_neg (Nat.not_lt.mpr (List.getElem?_eq_none_iff.mp hr))] at hnext
    rw [hnext]
  | some r =>
    rw [if_pos (List.getElem?_eq_some_iff.mp hr).1] at hnext
    have hrequest : hs.channel.requests[(takes l).length]? = some r := by
      obtain ⟨later, hlater⟩ := queue_prefix_calls l
      rw [← Array.getElem?_toList, h.requests, ← hlater,
        List.getElem?_append_left (List.getElem?_eq_some_iff.mp hr).1, hr]
    rw [Channel.requests, Array.getElem?_map] at hrequest
    obtain ⟨w, hw, rfl⟩ := Option.map_eq_some_iff.mp hrequest
    rw [hnext]
    simp only [hw, h.taken_length]

private theorem poll_fateOf (h : Told l hs) (hi : hs.writes[i]? = some .future) :
    (hs.step (.poll i)).1 =
      match fateOf l i with
      | .queued | .taken => .pending
      | .answered head => .head head
      | .failed e => .error e
      | .refused | .lost => .error .closed := by
  have hlt : i < (calls l).length := h.handles ▸ (Array.getElem?_eq_some_iff.mp hi).1
  rw [step, poll, if_pos hi, Channel.result?_eq, h.fates, if_pos hlt, Option.bind_some]
  cases fateOf l i <;> rfl

/-- A look at the payload of an answer finds the next item that was handed in, or its end. -/
private theorem next_eq {w : Write} {rs : List (Request × Head)} {ps : List Put}
    {removed : List (Except TransportError Bytes)} {head : Head} (h : Carried w rs ps removed)
    (hfate : w.fate = .answered head) :
    w.payload.next.1 =
      match (ps.filterMap Put.item?)[removed.length]? with
      | some (.ok bytes) => .chunk bytes
      | some (.error e) => .error e
      | none => if ps.any Put.isLast then .ended else .pending := by
  have hopen : ps.any Put.isLast = !w.payload.isOpen := by
    rw [Bool.eq_iff_iff, Bool.not_eq_true', ← Bool.not_eq_true, h.isOpen_iff,
      and_iff_right ⟨head, hfate⟩, Bool.not_eq_false]
  rw [hopen, ← h.fifo, List.getElem?_append_right (Nat.le_refl _), Nat.sub_self, Payload.next]
  obtain ⟨r, f, items, isOpen⟩ := w
  cases items with
  | nil => cases isOpen <;> rfl
  | cons item rest => cases item <;> rfl

private theorem read_sent (h : Told l hs) (hanswered : PayloadsAnswered hs)
    (hi : hs.writes[i]? = some .payload) :
    reads i l <+: sent i l ∧
      (hs.step (.read i)).1 =
        match (sent i l)[(reads i l).length]? with
        | some (.ok bytes) => .chunk bytes
        | some (.error e) => .error e
        | none => if (puts i l).any Put.isLast then .ended else .pending := by
  obtain ⟨head, hhead⟩ := hanswered i hi
  obtain ⟨w, hw, hfate⟩ := Channel.result?_eq_ok_iff.mp hhead
  obtain ⟨rs, hcarried⟩ := h.carried i w hw
  refine ⟨hcarried.prefix_of_chunks, ?_⟩
  have hitem := (Channel.read_eq hw).1.trans (next_eq hcarried hfate)
  rw [← sent] at hitem
  rw [step, read, if_pos hi]
  generalize hs.channel.read i = found at hitem ⊢
  obtain ⟨item, c⟩ := found
  obtain rfl := hitem
  cases (sent i l)[(reads i l).length]? with
  | none => cases (puts i l).any Put.isLast <;> rfl
  | some x => cases x <;> rfl

/-- A close and the loss of the peer come after both calls: the request in the peer's hands can
still be answered, and the one it never took is lost. -/
example (r : Request) :
    let hs := ({} : Handles).run [.write r, .write r, .peer .close, .peer .next, .peer .drop,
      .peer (.respond 0 {})]
    (hs.step (.poll 0)).1 = .head {} ∧ (hs.step (.poll 1)).1 = .error .closed :=
  by cbv

end Handles

end BoundedPipelining
