import BoundedPipelining.Proofs.Channel.Steps
import BoundedPipelining.Proofs.Channel.Writes

/-!
# The fates of the writes

The result of a write, the next request for the peer and the question whether anyone is left who
could signal are all read off the fates of the writes. A step of the peer turns them in one of few
ways, by `turns_peerStep`: it takes the oldest queued write, it concludes a taken one, or, when the
peer is dropped, all that is queued is lost. Every other step turns no fate.
-/

namespace BoundedPipelining

/-- The result that a fate amounts to, if it is final. -/
def Fate.result? : Fate → Option (Except TransportError Head)
  | queued | taken => none
  | answered head => some (.ok head)
  | failed e => some (.error e)
  | refused | lost => some (.error .closed)

namespace Channel

variable {c c' : Channel} {i j : Nat} {s : PeerStep}

/-- What became of write `i`, if there is such a write. -/
def fate? (c : Channel) (i : Nat) : Option Fate := (c.writes[i]?).map Write.fate

/-! ## Reading the fates -/

theorem result?_eq (c : Channel) (i : Nat) : c.result? i = (c.fate? i).bind Fate.result? := by
  rw [result?, fate?]
  cases c.writes[i]? with
  | none => rfl
  | some w =>
    obtain ⟨r, f, p⟩ := w
    cases f <;> rfl

theorem fate?_of_pending (h : c.pending? j = some i) : c.fate? i = some .taken := by
  obtain ⟨w, hw, hfate⟩ := pending?_eq_some_iff.mp h
  rw [fate?, takenWrite?_eq_some hw, Option.map_some, hfate]

theorem fate?_eq_some_iff {f : Fate} :
    c.fate? i = some f ↔ ∃ hi : i < c.writes.size, c.writes[i].fate = f := by
  rw [fate?, Option.map_eq_some_iff]
  constructor
  · rintro ⟨w, hw, hfate⟩
    obtain ⟨hi, rfl⟩ := Array.getElem?_eq_some_iff.mp hw
    exact ⟨hi, hfate⟩
  · rintro ⟨hi, hfate⟩
    exact ⟨_, Array.getElem?_eq_getElem hi, hfate⟩

theorem nextQueued?_eq_some_iff :
    c.nextQueued? = some i ↔
      c.fate? i = some .queued ∧ ∀ k < i, c.fate? k ≠ some .queued := by
  rw [nextQueued?, Array.findIdx?_eq_some_iff_getElem]
  constructor
  · rintro ⟨hi, hfate, hfirst⟩
    refine ⟨fate?_eq_some_iff.mpr ⟨hi, beq_iff_eq.mp hfate⟩, fun k hk hqueued ↦ ?_⟩
    obtain ⟨_, hqueued⟩ := fate?_eq_some_iff.mp hqueued
    exact hfirst k hk (beq_iff_eq.mpr hqueued)
  · rintro ⟨hqueued, hfirst⟩
    obtain ⟨hi, hfate⟩ := fate?_eq_some_iff.mp hqueued
    refine ⟨hi, beq_iff_eq.mpr hfate, fun k hk hfound ↦ ?_⟩
    exact hfirst k hk (fate?_eq_some_iff.mpr ⟨Nat.lt_trans hk hi, beq_iff_eq.mp hfound⟩)

theorem nextQueued?_eq_none_iff : c.nextQueued? = none ↔ ∀ i, c.fate? i ≠ some .queued := by
  simp only [nextQueued?, Array.findIdx?_eq_none_iff, fate?]
  constructor
  · intro h i hi
    obtain ⟨w, hw, hfate⟩ := Option.map_eq_some_iff.mp hi
    have hnot := h w (Array.mem_of_getElem? hw)
    rw [hfate] at hnot
    cases hnot
  · intro h w hw
    obtain ⟨i, hi⟩ := Array.mem_iff_getElem?.mp hw
    rw [beq_eq_false_iff_ne]
    intro hfate
    exact h i (by rw [hi, Option.map_some, hfate])

theorem isSignalled_iff :
    c.isSignalled = true ↔ c.peer = true ∨ ∃ i, c.fate? i = some .taken := by
  rw [isSignalled, Bool.or_eq_true, Array.any_eq_true']
  refine or_congr_right ⟨?_, ?_⟩
  · rintro ⟨w, hw, hfate⟩
    obtain ⟨i, hi⟩ := Array.mem_iff_getElem?.mp hw
    exact ⟨i, by rw [fate?, hi, Option.map_some, beq_iff_eq.mp hfate]⟩
  · rintro ⟨i, hi⟩
    obtain ⟨w, hw, hfate⟩ := Option.map_eq_some_iff.mp hi
    exact ⟨w, Array.mem_of_getElem? hw, beq_iff_eq.mpr hfate⟩

/-! ## Turning them -/

theorem fate?_setFate (c : Channel) (j i : Nat) (f : Fate) :
    (c.setFate j f).fate? i = if j = i then (c.fate? i).map fun _ ↦ f else c.fate? i := by
  rw [fate?, setFate, Array.getElem?_modify]
  split
  · rw [Option.map_map, fate?, Option.map_map]
    rfl
  · rfl

theorem fate?_onPayload (c : Channel) (j i : Nat) (f : Payload → Payload) :
    (c.onPayload j f).fate? i = c.fate? i := by
  rw [fate?, onPayload, Array.getElem?_modify]
  split
  · rw [Option.map_map]
    rfl
  · rfl

theorem fate?_answer (c : Channel) (j i : Nat) (head : Head) (p : Payload) :
    (c.answer j head p).fate? i
      = if j = i then (c.fate? i).map fun _ ↦ .answered head else c.fate? i := by
  have hset := (fate?_onPayload (c.setFate j (.answered head)) j i fun _ ↦ p).trans
    (fate?_setFate c j i _)
  rw [answer]
  split <;> exact hset

theorem fate?_dropPeer (c : Channel) (i : Nat) :
    c.dropPeer.fate? i = (c.fate? i).map fun f ↦ if f = .queued then .lost else f := by
  rw [fate?, dropPeer, Array.getElem?_map, Option.map_map, fate?, Option.map_map]
  refine congrArg (fun g ↦ Option.map g c.writes[i]?) (funext fun w ↦ ?_)
  rw [Function.comp_apply, Function.comp_apply]
  split <;> simp [*]

theorem fate?_read (c : Channel) (j i : Nat) : (c.read j).2.fate? i = c.fate? i := by
  rw [read]
  split
  · rfl
  · rename_i w _
    rw [fate?, Array.getElem?_modify]
    split
    · rw [Option.map_map]
      rfl
    · rfl

theorem fate?_write (c : Channel) (r : Request) (i : Nat) :
    (c.write r).fate? i
      = if i = c.writes.size then some (if c.refuses then .refused else .queued)
        else c.fate? i := by
  rw [fate?, write, Array.getElem?_push]
  split <;> rfl

/-- What a step of the peer, if it takes effect, makes of the write behind its `i`-th request. -/
def PeerStep.verdict? (i : Nat) : PeerStep → Option Fate
  | respond j head | respondWith j head _ => if j = i then some (.answered head) else none
  | failWrite j e => if j = i then some (.failed e) else none
  | dropPending j => if j = i then some .lost else none
  | _ => none

/-- What a step of the peer makes of the fates, with its answer. -/
inductive Turns (c : Channel) (s : PeerStep) : PeerAnswer → Channel → Prop
  | kept {a : PeerAnswer} {c' : Channel} (ht : c'.taken = c.taken) (hp : c'.peer = c.peer)
      (hf : ∀ i, c'.fate? i = c.fate? i) (ha : ∀ j r, a ≠ .request j r)
      (hs : a = .ok → s ≠ .drop ∧ ∀ j, s.verdict? j = none) : Turns c s a c'
  | took {i : Nat} {r : Request} {c' : Channel} (hpeer : c.peer = true)
      (hi : c.nextQueued? = some i) (hr : c.requests[i]? = some r)
      (ht : c'.taken = c.taken.push i) (hp : c'.peer = c.peer)
      (hf : ∀ k, c'.fate? k = if i = k then (c.fate? k).map fun _ ↦ .taken else c.fate? k) :
      Turns c s (.request c.taken.size r) c'
  | concluded {i j : Nat} {f : Fate} {c' : Channel} (hj : c.pending? j = some i)
      (hs : ∀ k, s.verdict? k = if j = k then some f else none) (hne : s ≠ .drop)
      (ht : c'.taken = c.taken) (hp : c'.peer = c.peer)
      (hf : ∀ k, c'.fate? k = if i = k then (c.fate? k).map fun _ ↦ f else c.fate? k) :
      Turns c s .ok c'
  | dropped {c' : Channel} (hs : s = .drop) (ht : c'.taken = c.taken) (hp : c'.peer = false)
      (hf : ∀ i, c'.fate? i = (c.fate? i).map fun f ↦ if f = .queued then .lost else f) :
      Turns c s .ok c'

private theorem turns_asPeer {act : PeerAnswer × Channel}
    (h : c.peer = true → c.Turns s act.1 act.2) :
    c.Turns s (c.asPeer act).1 (c.asPeer act).2 := by
  rw [asPeer]
  split
  · rename_i hpeer
    exact h hpeer
  · exact .kept rfl rfl (fun _ ↦ rfl) (by simp) (by simp)

private theorem turns_take {a : PeerAnswer} (ha : a = .nothing ∨ a = .pending)
    (hpeer : c.peer = true) :
    c.Turns s (c.take a).1 (c.take a).2 := by
  have hidle : c.Turns s a c := by
    refine .kept rfl rfl (fun _ ↦ rfl) ?_ ?_
    · rcases ha with rfl | rfl <;> simp
    · rcases ha with rfl | rfl <;> simp
  rw [take]
  split
  · exact hidle
  · rename_i i hi
    split
    · exact hidle
    · rename_i w hw
      refine .took hpeer hi ?_ rfl rfl (fate?_setFate c i · .taken)
      rw [requests, Array.getElem?_map, hw, Option.map_some]

private theorem turns_onPending {f : Fate} {act : Nat → Channel} (hne : s ≠ .drop)
    (hs : ∀ k, s.verdict? k = if j = k then some f else none)
    (hact : ∀ i, (act i).taken = c.taken ∧ (act i).peer = c.peer ∧
      ∀ k, (act i).fate? k = if i = k then (c.fate? k).map fun _ ↦ f else c.fate? k) :
    c.Turns s (c.onPending j act).1 (c.onPending j act).2 := by
  rw [onPending]
  split
  · exact .kept rfl rfl (fun _ ↦ rfl) (by simp) (by simp)
  · rename_i i hi
    obtain ⟨ht, hp, hf⟩ := hact i
    exact .concluded hi hs hne ht hp hf

private theorem turns_onSending (f : Payload → Payload) (hne : s ≠ .drop)
    (hs : ∀ k, s.verdict? k = none) :
    c.Turns s (c.onSending j f).1 (c.onSending j f).2 := by
  rw [onSending]
  split
  · exact .kept rfl rfl (fun _ ↦ rfl) (by simp) (by simp)
  · exact .kept rfl rfl (fun k ↦ fate?_onPayload c _ k f) (by simp) fun _ ↦ ⟨hne, hs⟩

private theorem taken_answer (c : Channel) (i : Nat) (head : Head) (p : Payload) :
    (c.answer i head p).taken = c.taken ∧ (c.answer i head p).peer = c.peer := by
  rw [answer]
  split <;> exact ⟨rfl, rfl⟩

/-- Every step of the peer turns the fates in one of these ways. -/
theorem turns_peerStep (c : Channel) (s : PeerStep) :
    c.Turns s (c.peerStep s).1 (c.peerStep s).2 := by
  have hanswer (p : Payload) (head : Head) (i : Nat) := taken_answer c i head p
  cases s with
  | next => exact turns_asPeer (turns_take (Or.inl rfl))
  | await =>
    refine turns_asPeer (turns_take ?_)
    cases c.transport with
    | true => exact Or.inr rfl
    | false => exact Or.inl rfl
  | respond j head =>
    exact turns_onPending (by simp) (fun _ ↦ rfl) fun i ↦
      ⟨(hanswer _ head i).1, (hanswer _ head i).2, fun k ↦ fate?_answer c i k head _⟩
  | respondWith j head body =>
    exact turns_onPending (by simp) (fun _ ↦ rfl) fun i ↦
      ⟨(hanswer _ head i).1, (hanswer _ head i).2, fun k ↦ fate?_answer c i k head _⟩
  | failWrite j e =>
    exact turns_onPending (by simp) (fun _ ↦ rfl) fun i ↦
      ⟨rfl, rfl, fun k ↦ fate?_setFate c i k _⟩
  | dropPending j =>
    exact turns_onPending (by simp) (fun _ ↦ rfl) fun i ↦
      ⟨rfl, rfl, fun k ↦ fate?_setFate c i k _⟩
  | send | finish | failPayload => exact turns_onSending _ (by simp) fun _ ↦ rfl
  | announce | close | reset =>
    exact turns_asPeer fun _ ↦
      .kept rfl rfl (fun _ ↦ rfl) (by simp) fun _ ↦ ⟨by simp, fun _ ↦ rfl⟩
  | drop => exact .dropped rfl rfl rfl (fate?_dropPeer c)

end Channel

end BoundedPipelining
