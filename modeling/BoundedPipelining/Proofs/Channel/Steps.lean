import BoundedPipelining.Channel.Basic

/-!
# What a step of the peer reaches

The peer sets a signal by itself or with a head that asks for a close, and never takes one back. The
requests that were written stay as they are, whatever becomes of them. A step can come too late to
have any effect, and then the peer is told so.
-/

namespace BoundedPipelining

deriving instance DecidableEq for Channel.PeerStep

namespace Channel

variable {c : Channel}

/-! ## What the peer has signalled -/

/-- Whether a step of the peer announces a graceful close, by the signal or in a head. -/
def announces (c : Channel) : PeerStep → Bool
  | .announce => c.peer
  | .respond j head | .respondWith j head _ => (c.pending? j).isSome && head.wantsClose
  | _ => false

theorem signals_read (c : Channel) (i : Nat) : (c.read i).2.signals = c.signals := by
  rw [read]
  split <;> rfl

private theorem signals_take (c : Channel) (a : PeerAnswer) : (c.take a).2.signals = c.signals := by
  rw [take]
  split
  · rfl
  · split <;> rfl

private theorem signals_onSending (c : Channel) (j : Nat) (f : Payload → Payload) :
    (c.onSending j f).2.signals = c.signals := by
  rw [onSending]
  split <;> rfl

private theorem signals_asPeer (c : Channel) (act : PeerAnswer × Channel) :
    (c.asPeer act).2.signals = if c.peer then act.2.signals else c.signals := by
  rw [asPeer]
  split <;> rfl

private theorem signals_onPending (c : Channel) (j : Nat) (act : Nat → Channel) :
    (c.onPending j act).2.signals = (c.pending? j).elim c.signals fun i ↦ (act i).signals := by
  rw [onPending]
  split
  · rename_i h
    rw [h]
    rfl
  · rename_i i h
    rw [h]
    rfl

private theorem signals_answer (c : Channel) (i : Nat) (head : Head) (p : Payload) :
    (c.answer i head p).signals
      = { c.signals with closing := c.signals.closing || head.wantsClose } := by
  rw [answer]
  cases head.wantsClose with
  | true => rw [if_pos rfl, Bool.or_true]; rfl
  | false => rw [if_neg Bool.false_ne_true, Bool.or_false]; rfl

/-- What a step of the peer makes of the signals. -/
theorem signals_peerStep (c : Channel) (s : PeerStep) :
    (c.peerStep s).2.signals =
      { closing := c.signals.closing || c.announces s
        closed := c.signals.closed || (c.peer && s matches .close)
        error := match s with
          | .reset e => if c.peer then some e else c.signals.error
          | _ => c.signals.error } := by
  cases s with
  | next | await => simp [peerStep, announces, signals_asPeer, signals_take]
  | respond j head | respondWith j head body =>
    rw [peerStep, signals_onPending]
    cases hj : c.pending? j <;> simp [announces, hj, signals_answer]
  | failWrite j e | dropPending j =>
    rw [peerStep, signals_onPending]
    cases c.pending? j <;> simp [announces, setFate]
  | send j chunk | finish j | failPayload j e => simp [peerStep, announces, signals_onSending]
  | announce | close | reset e =>
    rw [peerStep, signals_asPeer]
    cases hp : c.peer <;> simp [announces, hp]
  | drop => simp [peerStep, announces, dropPeer]

/-! ## Steps that take effect -/

/-- Whether a step of the peer takes effect. -/
def heeds (c : Channel) : PeerStep → Bool
  | .next | .await => false
  | .respond j _ | .respondWith j _ _ | .failWrite j _ | .dropPending j => (c.pending? j).isSome
  | .send j _ | .finish j | .failPayload j _ => (c.sending? j).isSome
  | .announce | .close | .reset _ => c.peer
  | .drop => true

/-- Whether a step announces a graceful close if it takes effect. -/
def PeerStep.announces : PeerStep → Bool
  | announce => true
  | respond _ head | respondWith _ head _ => head.wantsClose
  | _ => false

/-- The error that a reset sets. -/
def PeerStep.reset? : PeerStep → Option TransportError
  | reset e => some e
  | _ => none

private theorem asPeer_ne_ok {c : Channel} {act : PeerAnswer × Channel} (h : act.1 ≠ .ok) :
    (c.asPeer act).1 ≠ .ok := by
  rw [asPeer]
  split
  · exact h
  · simp

private theorem take_ne_ok {c : Channel} {a : PeerAnswer} (h : a ≠ .ok) : (c.take a).1 ≠ .ok := by
  rw [take]
  split
  · exact h
  · split
    · exact h
    · simp

/-- The peer is told which of its steps took effect. -/
theorem peerStep_eq_ok_iff (c : Channel) (s : PeerStep) :
    (c.peerStep s).1 = .ok ↔ c.heeds s = true := by
  cases s with
  | next => exact iff_of_false (asPeer_ne_ok (take_ne_ok (by simp))) Bool.false_ne_true
  | await =>
    exact iff_of_false (asPeer_ne_ok (take_ne_ok (by split <;> simp))) Bool.false_ne_true
  | respond j _ | respondWith j _ _ | failWrite j _ | dropPending j =>
    rw [peerStep, onPending, heeds]
    cases c.pending? j <;> simp
  | send j _ | finish j | failPayload j _ =>
    rw [peerStep, onSending, heeds]
    cases c.sending? j <;> simp
  | announce | close | reset _ =>
    rw [peerStep, asPeer, heeds]
    cases c.peer <;> simp
  | drop => exact iff_of_true rfl rfl

/-- A step that takes no effect leaves the channel as it is; only a peer that looks for a request is
told more than that what it names is gone. -/
theorem peerStep_of_not_heeds {s : PeerStep} (h : ¬ c.heeds s = true) (hnext : s ≠ .next)
    (hawait : s ≠ .await) : c.peerStep s = (.gone, c) := by
  cases s with
  | next => exact absurd rfl hnext
  | await => exact absurd rfl hawait
  | respond j _ | respondWith j _ _ | failWrite j _ | dropPending j =>
    rw [peerStep, onPending, Option.not_isSome_iff_eq_none.mp h]
  | send j _ | finish j | failPayload j _ =>
    rw [peerStep, onSending, Option.not_isSome_iff_eq_none.mp h]
  | announce | close | reset _ => exact if_neg h
  | drop => exact absurd rfl h

theorem signals_of_heeds {s : PeerStep} (h : c.heeds s = true) :
    (c.peerStep s).2.signals =
      { closing := c.signals.closing || s.announces
        closed := c.signals.closed || decide (s = .close)
        error := s.reset?.or c.signals.error } := by
  rw [signals_peerStep]
  cases s with
  | next | await => cases h
  | respond | respondWith => simp_all [heeds, announces, PeerStep.announces, PeerStep.reset?]
  | announce | close | reset => simp_all [heeds, announces, PeerStep.announces, PeerStep.reset?]
  | _ => simp [announces, PeerStep.announces, PeerStep.reset?]

theorem signals_of_not_heeds {s : PeerStep} (h : c.heeds s = false) :
    (c.peerStep s).2.signals = c.signals := by
  rw [signals_peerStep]
  cases s with
  | drop => cases h
  | respond | respondWith => simp_all [heeds, announces]
  | announce | close | reset => simp_all [heeds, announces]
  | _ => simp [announces]

/-! ## What was written -/

/-- The requests that were written, in order. -/
def requests (c : Channel) : Array Request := c.writes.map Write.request

@[simp] theorem size_requests (c : Channel) : c.requests.size = c.writes.size := Array.size_map

@[simp] theorem requests_write (c : Channel) (r : Request) :
    (c.write r).requests = c.requests.push r := by
  rw [requests, write, Array.map_push]
  rfl

/-- Whatever becomes of a write, it stays the write of its request. -/
private theorem requests_modify (ws : Array Write) (i : Nat) {f : Write → Write}
    (hf : ∀ w, (f w).request = w.request) :
    (ws.modify i f).map Write.request = ws.map Write.request := by
  refine Array.ext_getElem? fun j ↦ ?_
  rw [Array.getElem?_map, Array.getElem?_map, Array.getElem?_modify]
  split
  · rw [Option.map_map]
    exact congrArg (fun g ↦ Option.map g ws[j]?) (funext hf)
  · rfl

private theorem requests_setFate (c : Channel) (i : Nat) (f : Fate) :
    (c.setFate i f).requests = c.requests :=
  requests_modify c.writes i (f := fun w ↦ { w with fate := f }) fun _ ↦ rfl

private theorem requests_onPayload (c : Channel) (i : Nat) (f : Payload → Payload) :
    (c.onPayload i f).requests = c.requests :=
  requests_modify c.writes i (f := fun w ↦ { w with payload := f w.payload }) fun _ ↦ rfl

private theorem requests_answer (c : Channel) (i : Nat) (head : Head) (p : Payload) :
    (c.answer i head p).requests = c.requests := by
  have hset := (requests_onPayload (c.setFate i (.answered head)) i fun _ ↦ p).trans
    (requests_setFate c i _)
  rw [answer]
  split <;> exact hset

theorem requests_read (c : Channel) (i : Nat) : (c.read i).2.requests = c.requests := by
  rw [read]
  split
  · rfl
  · rename_i w _
    exact requests_modify c.writes i (f := fun v ↦ { v with payload := w.payload.next.2 })
      fun _ ↦ rfl

private theorem requests_take (c : Channel) (a : PeerAnswer) :
    (c.take a).2.requests = c.requests := by
  rw [take]
  split
  · rfl
  · split
    · rfl
    · exact requests_setFate c _ _

private theorem requests_dropPeer (c : Channel) : c.dropPeer.requests = c.requests := by
  rw [requests, dropPeer, Array.map_map, requests]
  refine congrArg (fun f ↦ c.writes.map f) (funext fun w ↦ ?_)
  rw [Function.comp_apply]
  split <;> rfl

private theorem requests_asPeer {c : Channel} {act : PeerAnswer × Channel}
    (h : act.2.requests = c.requests) : (c.asPeer act).2.requests = c.requests := by
  rw [asPeer]
  split
  · exact h
  · rfl

private theorem requests_onPending {c : Channel} (j : Nat) {act : Nat → Channel}
    (h : ∀ i, (act i).requests = c.requests) : (c.onPending j act).2.requests = c.requests := by
  rw [onPending]
  split
  · rfl
  · exact h _

private theorem requests_onSending (c : Channel) (j : Nat) (f : Payload → Payload) :
    (c.onSending j f).2.requests = c.requests := by
  rw [onSending]
  split
  · rfl
  · exact requests_onPayload c _ _

/-- The peer neither writes nor takes back what was written. -/
theorem requests_peerStep (c : Channel) (s : PeerStep) :
    (c.peerStep s).2.requests = c.requests := by
  cases s with
  | next | await => exact requests_asPeer (requests_take c _)
  | respond | respondWith => exact requests_onPending _ fun i ↦ requests_answer c i _ _
  | failWrite | dropPending => exact requests_onPending _ fun i ↦ requests_setFate c i _
  | send | finish | failPayload => exact requests_onSending c _ _
  | announce | close | reset => exact requests_asPeer rfl
  | drop => exact requests_dropPeer c

end Channel

end BoundedPipelining
