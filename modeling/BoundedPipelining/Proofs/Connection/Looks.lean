import BoundedPipelining.Proofs.Channel.Writes
import BoundedPipelining.Proofs.Connection.Handover

/-!
# What the poll of a body looks at

The poll of a body has two sources, the payload and the terminal signal, and neither may be looked
at again once it has said its last word. `pollBodyLooking` is the poll together with the record of
what it looked at and what it found; `pollBodyLooking_snd` says that without the record it is the
poll.

`pollBody_sight` inverts a poll of a body that is not done. Its hypotheses are what holds of such a
body: the exchange is past its headers and has not completed. Without the second the poll could fail
to settle the exchange, because a completed exchange takes neither an end nor a failure any more.

A step polls a body at most once to read it, and to drain it as long as chunks come. Both are the
same iteration with another bound, `polled`, and the record of all its polls is `sights`.
-/

namespace BoundedPipelining

namespace Connection

/-- What a poll of a body looks at, and what it finds there. -/
inductive Look where
  | payload (item : PayloadItem)
  /-- The terminal signal, and the error if it has resolved. -/
  | signal (told : Option ClassifiedError)

/-- Whether this was the last word of what was looked at. -/
def Look.isLast : Look → Bool
  | payload .ended | payload (.error _) | signal (some _) => true
  | payload (.chunk _) | payload .pending | signal none => false

/-- The item of a payload that a look takes out. -/
def Look.item? : Look → Option (Except TransportError Bytes)
  | payload item => item.item?
  | signal _ => none

/-- Whether a body that yields this is done. -/
def BodyItem.isDone : BodyItem → Bool
  | chunk _ | pending => false
  | failed _ | ended | violation _ _ => true

/-- The chunk that a body yields. -/
def BodyItem.chunk? : BodyItem → Option Bytes
  | chunk bytes => some bytes
  | failed _ | ended | pending | violation _ _ => none

/-- The answer to a read that yields this. -/
def BodyItem.answer : BodyItem → Answer
  | chunk bytes => .chunk bytes
  | failed e => .bodyFailed e
  | ended => .ended
  | pending => .pending
  | violation e id => .violation e id

/-- One poll of a body: what it yields and what it looked at. -/
structure Sight where
  item : BodyItem
  looks : List Look

/-- The poll of the body of lane `i`, with the record of what it looks at. -/
def pollBodyLooking (c : Connection) (i : Nat) : List Look × BodyItem × Bool × Connection :=
  match c.lanes[i]? with
  | none => ([], .ended, true, c)
  | some l =>
    match l.exchange.failure? with
    | some e => ([], c.finishBody i e)
    | none =>
      let c := c.onLane i fun l ↦ { l with exchange := l.exchange.draining }
      let (item, channel) := c.channel.read i
      let c := { c with channel }
      match item with
      | .chunk bytes => ([.payload (.chunk bytes)], .chunk bytes, false, c)
      | .error cause =>
        let (e, c) := c.close (some cause)
        ([.payload (.error cause)], c.finishBody i e)
      | .ended => ([.payload .ended], c.completeBody i)
      | .pending =>
        match c.tracker.terminal? with
        | some e => ([.payload .pending, .signal (some e)], c.finishBody i e)
        | none => ([.payload .pending, .signal none], .pending, false, c)

/-- The record changes nothing about the poll. -/
theorem pollBodyLooking_snd (c : Connection) (i : Nat) :
    (c.pollBodyLooking i).2 = c.pollBody i := by
  cases h : c.lanes[i]? with
  | none => simp only [pollBodyLooking, pollBody, h]
  | some l =>
    cases hf : l.exchange.failure? with
    | some e => simp only [pollBodyLooking, pollBody, h, hf]
    | none =>
      simp only [pollBodyLooking, pollBody, h, hf]
      generalize (c.onLane i fun l ↦ { l with exchange := l.exchange.draining }).channel.read i = r
      obtain ⟨item, channel⟩ := r
      cases item with
      | chunk _ | error _ | ended => rfl
      | pending =>
        cases ht : (c.onLane i fun l ↦
          { l with exchange := l.exchange.draining }).tracker.terminal? with
        | none | some _ => simp only

/-- The sight of one poll of the body of lane `i`. -/
def sight (c : Connection) (i : Nat) : Sight :=
  ⟨(c.pollBody i).1, (c.pollBodyLooking i).1⟩

/-- The connection after one poll of the body of lane `i`. -/
def afterPoll (c : Connection) (i : Nat) : Connection := (c.pollBody i).2.2

variable {c c' : Connection} {i : Nat} {l : Lane}

/-! ## One poll -/

/-- The connection after a poll that looked at the payload of lane `i` and left the lane with this
exchange. -/
structure Looked (c : Connection) (i : Nat) (l : Lane) (x : Exchange) (c' : Connection) : Prop where
  lanes : c'.lanes = c.lanes.setIfInBounds i { l with exchange := x }
  calls : c'.calls = c.calls
  channel : c'.channel = (c.channel.read i).2

theorem Looked.lane? {x : Exchange} (hc : Looked c i l x c') (h : c.lanes[i]? = some l) :
    c'.lanes[i]? = some { l with exchange := x } := by
  rw [hc.lanes]
  exact Array.getElem?_setIfInBounds_self_of_lt (Array.getElem?_eq_some_iff.mp h).1

/-- How a poll of the body of lane `i` goes, if the body is not done: what it sees, and in which
state it leaves the connection. -/
inductive BodySight (c : Connection) (i : Nat) (l : Lane) : Sight → Connection → Prop
  /-- The exchange had failed before. -/
  | kept {e : ClassifiedError} (hf : l.exchange.failure? = some e) :
      BodySight c i l ⟨.failed e, []⟩ c
  | chunk {bytes : Bytes} {c' : Connection} (hs : l.exchange.phase.holdsSlot = true)
      (h : (c.channel.read i).1 = .chunk bytes) (hc : Looked c i l l.exchange.draining c') :
      BodySight c i l ⟨.chunk bytes, [.payload (.chunk bytes)]⟩ c'
  /-- The payload failed, and the exchange with it. -/
  | broken {cause : TransportError} {e : ClassifiedError} {x : Exchange} {c' : Connection}
      (hs : l.exchange.phase.holdsSlot = true) (h : (c.channel.read i).1 = .error cause)
      (hx : x.failure? = some e) (hc : Looked c i l x c') :
      BodySight c i l ⟨.failed e, [.payload (.error cause)]⟩ c'
  | ended {x : Exchange} {c' : Connection} (hs : l.exchange.phase.holdsSlot = true)
      (h : (c.channel.read i).1 = .ended) (hx : x.progress = .completed)
      (hc : Looked c i l x c') : BodySight c i l ⟨.ended, [.payload .ended]⟩ c'
  /-- The payload had nothing to say, and the connection has closed. -/
  | told {e : ClassifiedError} {x : Exchange} {c' : Connection}
      (hs : l.exchange.phase.holdsSlot = true) (h : (c.channel.read i).1 = .pending)
      (hx : x.failure? = some e) (hc : Looked c i l x c') :
      BodySight c i l ⟨.failed e, [.payload .pending, .signal (some e)]⟩ c'
  | pending {c' : Connection} (hs : l.exchange.phase.holdsSlot = true)
      (h : (c.channel.read i).1 = .pending) (hc : Looked c i l l.exchange.draining c') :
      BodySight c i l ⟨.pending, [.payload .pending, .signal none]⟩ c'

private theorem holdsSlot_of {x : Exchange} (hf : x.failure? = none)
    (hp : x.progress ≠ .completed) : x.phase.holdsSlot = true := by
  obtain ⟨_, progress, _, _⟩ := x
  cases progress with
  | completed => exact absurd rfl hp
  | failed e => cases hf
  | dispatched | headersReceived | payloadDraining => rfl

/-- The state after the payload was looked at, whatever the tracker and the books are then. -/
private theorem looked_afterRead (c : Connection) (i : Nat) (l : Lane) :
    Looked c i l l.exchange.draining (c.afterRead i l) := ⟨rfl, rfl, rfl⟩

/-- Failing an exchange that holds its slot after the payload was looked at. -/
private theorem looked_finishBody {c₁ : Connection} (h : c.lanes[i]? = some l)
    (hc : Looked c i l l.exchange.draining c₁) (hs : l.exchange.phase.holdsSlot = true)
    (e : ClassifiedError) :
    ∃ x c', c₁.finishBody i e = (.failed e, true, c') ∧ x.failure? = some e ∧
      Looked c i l x c' := by
  have hlane := hc.lane? h
  have hslot : l.exchange.draining.phase.holdsSlot = true := by
    rw [Exchange.holdsSlot_draining, hs]
  rcases l.exchange.draining.fail_cases e c₁.books with ⟨kept, hf, -⟩ | ⟨hp, -⟩ | ⟨-, heq⟩
  · rw [Phase.holdsSlot, Exchange.isTerminal_of_failure? hf] at hslot
    cases hslot
  · rw [Exchange.phase, hp] at hslot
    cases hslot
  · let x := ({ l.exchange.draining with progress := .failed e }).settle .failed c₁.books
    have hx : x.1.progress = .failed e := Exchange.progress_settle _ _ _
    refine ⟨x.1, c₁.put i { l with exchange := x.1 } x.2, ?_,
      Exchange.failure?_eq_some_iff.mpr hx, ?_, hc.calls, hc.channel⟩
    · simp only [finishBody, failExchange_eq_put hlane, heq, x]
    · rw [put, hc.lanes, Array.setIfInBounds_setIfInBounds]

/-- Completing an exchange that holds its slot after the payload was looked at. -/
private theorem looked_completeBody {c₁ : Connection} (h : c.lanes[i]? = some l)
    (hc : Looked c i l l.exchange.draining c₁) (hs : l.exchange.phase.holdsSlot = true) :
    ∃ x c', c₁.completeBody i = (.ended, true, c') ∧ x.progress = .completed ∧
      Looked c i l x c' := by
  have hlane := hc.lane? h
  have hslot : l.exchange.draining.phase.holdsSlot = true := by
    rw [Exchange.holdsSlot_draining, hs]
  rcases l.exchange.draining.complete_cases c₁.books with ⟨e, hf, -⟩ | ⟨-, heq⟩ | ⟨hp, -⟩
  · rw [Phase.holdsSlot, Exchange.isTerminal_of_failure? hf] at hslot
    cases hslot
  · let x := ({ l.exchange.draining with progress := .completed }).settle .completed c₁.books
    have hx : x.1.progress = .completed := Exchange.progress_settle _ _ _
    refine ⟨x.1, c₁.put i { l with exchange := x.1 } x.2, ?_, hx, ?_, hc.calls, hc.channel⟩
    · simp only [completeBody, hlane, heq, putExchange_eq_put hlane, x]
    · rw [put, hc.lanes, Array.setIfInBounds_setIfInBounds]
  · rw [Exchange.phase, hp] at hslot
    cases hslot

/-- What a poll of a body that is not done sees and does. -/
theorem pollBody_sight (h : c.lanes[i]? = some l) (hp : l.exchange.progress ≠ .completed) :
    BodySight c i l (c.sight i) (c.afterPoll i) ∧
      (c.pollBody i).2.1 = (c.sight i).item.isDone := by
  cases hf : l.exchange.failure? with
  | some e =>
    have hpoll : c.pollBodyLooking i = ([], .failed e, true, c) := by
      simp only [pollBodyLooking, h, hf, finishBody, failExchange_eq_put h,
        Exchange.fail_of_failure? hf]
      rw [put_exchange_self h]
    simp only [sight, afterPoll, ← pollBodyLooking_snd, hpoll]
    exact ⟨.kept hf, rfl⟩
  | none =>
    have hs := holdsSlot_of hf hp
    have hpoll : c.pollBodyLooking i =
        match (c.channel.read i).1 with
        | .chunk bytes => ([.payload (.chunk bytes)], .chunk bytes, false, c.afterRead i l)
        | .error cause =>
          ([.payload (.error cause)], ((c.afterRead i l).close (some cause)).2.finishBody i
            ((c.afterRead i l).close (some cause)).1)
        | .ended => ([.payload .ended], (c.afterRead i l).completeBody i)
        | .pending =>
          match c.tracker.terminal? with
          | some e => ([.payload .pending, .signal (some e)], (c.afterRead i l).finishBody i e)
          | none => ([.payload .pending, .signal none], .pending, false, c.afterRead i l) := by
      simp only [pollBodyLooking, h, hf, onLane_eq_put h]
      rfl
    have hread := looked_afterRead c i l
    simp only [sight, afterPoll, ← pollBodyLooking_snd, hpoll]
    cases hitem : (c.channel.read i).1 with
    | chunk bytes => exact ⟨.chunk hs hitem hread, rfl⟩
    | error cause =>
      have hclosed : Looked c i l l.exchange.draining ((c.afterRead i l).close (some cause)).2 :=
        ⟨rfl, rfl, rfl⟩
      obtain ⟨x, c', heq, hx, hc'⟩ := looked_finishBody h hclosed hs
        ((c.afterRead i l).close (some cause)).1
      simp only [heq]
      exact ⟨.broken hs hitem hx hc', rfl⟩
    | ended =>
      obtain ⟨x, c', heq, hx, hc'⟩ := looked_completeBody h hread hs
      simp only [heq]
      exact ⟨.ended hs hitem hx hc', rfl⟩
    | pending =>
      cases ht : c.tracker.terminal? with
      | none => exact ⟨.pending hs hitem hread, rfl⟩
      | some e =>
        obtain ⟨x, c', heq, hx, hc'⟩ := looked_finishBody h hread hs e
        simp only [heq]
        exact ⟨.told hs hitem hx hc', rfl⟩

/-- A poll of a body changes its lane in the exchange only. -/
theorem BodySight.lane? {s : Sight} (hs : BodySight c i l s c') (h : c.lanes[i]? = some l) :
    ∃ x, c'.lanes[i]? = some { l with exchange := x } ∧
      (s.item.isDone = false → x = l.exchange.draining) := by
  cases hs with
  | kept =>
    refine ⟨l.exchange, h, ?_⟩
    intro hdone
    cases hdone
  | chunk _ _ hc | pending _ _ hc => exact ⟨_, hc.lane? h, fun _ ↦ rfl⟩
  | broken _ _ _ hc | ended _ _ _ hc | told _ _ _ hc =>
    refine ⟨_, hc.lane? h, ?_⟩
    intro hdone
    cases hdone

/-! ## The polls of a step -/

/-- The lane whose body a step polls, and how often at most. -/
def polling? (c : Connection) : Step → Option (Nat × Nat)
  | .caller (.read k) =>
    match c.laneOf? k with
    | some (i, l) =>
      match l.caller with
      | .holding false => some (i, 1)
      | _ => none
    | none => none
  | .caller (.drain k) =>
    match c.laneOf? k with
    | some (i, l) =>
      match l.caller with
      | .holding false | .draining _ => some (i, c.waitingItems i + 1)
      | _ => none
    | none => none
  | _ => none

/-- What at most `n` polls of the body of lane `i` see, as long as chunks come. -/
def sights (i : Nat) : Nat → Connection → List Sight
  | 0, _ => []
  | n + 1, c =>
    c.sight i ::
      match (c.sight i).item with
      | .chunk _ => sights i n (c.afterPoll i)
      | _ => []

/-- The connection after these polls. -/
def polled (i : Nat) : Nat → Connection → Connection
  | 0, c => c
  | n + 1, c =>
    match (c.sight i).item with
    | .chunk _ => polled i n (c.afterPoll i)
    | _ => c.afterPoll i

/-- The chunks among what was seen. -/
def chunksOf (ss : List Sight) : List Bytes := ss.filterMap fun s ↦ s.item.chunk?

/-- How a drain that had collected some chunks stands after it has seen `ss`, and what its caller
still holds. -/
inductive DrainEnd (collected : List Bytes) (ss : List Sight) : Drain → Caller → Prop
  | pending (h : ∀ s ∈ ss, s.item.isDone = false) :
      DrainEnd collected ss .pending (.draining (collected ++ chunksOf ss))
  | bytes (h : ∃ s ∈ ss, s.item = .ended) :
      DrainEnd collected ss (.bytes (collected ++ chunksOf ss).flatten) .gone
  | failed {e : ClassifiedError} (h : ∃ s ∈ ss, s.item = .failed e) :
      DrainEnd collected ss (.failed e) .gone
  | violation {e : TransitionError} {id : ExchangeId} (h : ∃ s ∈ ss, s.item = .violation e id) :
      DrainEnd collected ss (.violation e id) .gone

private theorem DrainEnd.cons {collected : List Bytes} {ss : List Sight} {d : Drain} {k : Caller}
    {s : Sight} {bytes : Bytes} (hs : s.item = .chunk bytes)
    (h : DrainEnd (collected ++ [bytes]) ss d k) : DrainEnd collected (s :: ss) d k := by
  have hchunks : collected ++ [bytes] ++ chunksOf ss = collected ++ chunksOf (s :: ss) := by
    simp [chunksOf, hs, BodyItem.chunk?]
  cases h with
  | pending h =>
    rw [hchunks]
    refine .pending ?_
    intro t ht
    rcases List.mem_cons.mp ht with rfl | ht
    · rw [hs]
      rfl
    · exact h t ht
  | bytes h =>
    obtain ⟨t, ht, hitem⟩ := h
    rw [hchunks]
    exact .bytes ⟨t, List.mem_cons_of_mem s ht, hitem⟩
  | failed h =>
    obtain ⟨t, ht, hitem⟩ := h
    exact .failed ⟨t, List.mem_cons_of_mem s ht, hitem⟩
  | violation h =>
    obtain ⟨t, ht, hitem⟩ := h
    exact .violation ⟨t, List.mem_cons_of_mem s ht, hitem⟩

/-- A drain is the iteration, and collects the chunks that it sees. -/
theorem drainWithin_sights (i n : Nat) (collected : List Bytes) (c : Connection) :
    ∃ d k, drainWithin i n collected c = (d, (polled i n c).setCaller i k) ∧
      DrainEnd collected (sights i n c) d k := by
  induction n generalizing collected c with
  | zero =>
    refine ⟨.pending, .draining collected, rfl, ?_⟩
    have hend : DrainEnd collected [] .pending (.draining (collected ++ [])) :=
      .pending fun s hs ↦ by cases hs
    rwa [List.append_nil] at hend
  | succ n ih =>
    have hpoll : c.pollBody i = ((c.sight i).item, (c.pollBody i).2.1, c.afterPoll i) := rfl
    rw [drainWithin, sights, polled, hpoll]
    cases hitem : (c.sight i).item with
    | chunk bytes =>
      obtain ⟨d, k, heq, hend⟩ := ih (collected ++ [bytes]) (c.afterPoll i)
      exact ⟨d, k, heq, hend.cons hitem⟩
    | failed e => exact ⟨_, _, rfl, .failed ⟨_, List.mem_singleton_self _, hitem⟩⟩
    | violation e id => exact ⟨_, _, rfl, .violation ⟨_, List.mem_singleton_self _, hitem⟩⟩
    | ended =>
      refine ⟨_, _, rfl, ?_⟩
      have hnone : chunksOf [c.sight i] = [] := by simp [chunksOf, hitem, BodyItem.chunk?]
      have hend : DrainEnd collected [c.sight i]
          (.bytes (collected ++ chunksOf [c.sight i]).flatten) .gone :=
        .bytes ⟨_, List.mem_singleton_self _, hitem⟩
      rwa [hnone, List.append_nil] at hend
    | pending =>
      refine ⟨_, _, rfl, ?_⟩
      have hnone : chunksOf [c.sight i] = [] := by simp [chunksOf, hitem, BodyItem.chunk?]
      have hend : DrainEnd collected [c.sight i] .pending
          (.draining (collected ++ chunksOf [c.sight i])) := by
        refine .pending ?_
        intro s hs
        rw [List.mem_singleton.mp hs, hitem]
        rfl
      rwa [hnone, List.append_nil] at hend

/-- The polls of a body one after the other, each of the lane as the one before left it. -/
inductive BodyPolls (i : Nat) : Connection → Lane → List Sight → Connection → Lane → Prop
  | nil {c : Connection} {l : Lane} : BodyPolls i c l [] c l
  | cons {c c₁ c₂ : Connection} {l l₁ l₂ : Lane} {s : Sight} {ss : List Sight}
      (h : BodySight c i l s c₁) (hl : c.lanes[i]? = some l) (hl₁ : c₁.lanes[i]? = some l₁)
      (hlast : s.item.isDone = true → ss = []) (t : BodyPolls i c₁ l₁ ss c₂ l₂) :
      BodyPolls i c l (s :: ss) c₂ l₂

/-- The polls of a body that is not done go on while chunks come, and leave it not done. -/
theorem bodyPolls_sights (hl : c.lanes[i]? = some l) (hp : l.exchange.progress ≠ .completed)
    (n : Nat) : ∃ l', (polled i n c).lanes[i]? = some l' ∧
      BodyPolls i c l (sights i n c) (polled i n c) l' := by
  induction n generalizing c l with
  | zero => exact ⟨l, hl, .nil⟩
  | succ n ih =>
    obtain ⟨hsight, -⟩ := pollBody_sight hl hp
    obtain ⟨x, hx, hkept⟩ := hsight.lane? hl
    rw [sights, polled]
    cases hitem : (c.sight i).item with
    | chunk bytes =>
      have hgoes : (c.sight i).item.isDone = false := by rw [hitem]; rfl
      have hp' : x.progress ≠ .completed := by
        rw [hkept hgoes]
        exact fun h ↦ hp (Exchange.completed_draining_iff.mp h)
      obtain ⟨l', hl', hpolls⟩ := ih hx hp'
      refine ⟨l', hl', .cons hsight hl hx ?_ hpolls⟩
      rw [hgoes]
      intro h
      cases h
    | failed _ | ended | pending | violation _ _ =>
      exact ⟨_, hx, .cons hsight hl hx (fun _ ↦ rfl) .nil⟩

/-- The answer to a drain that stands like this. -/
def Drain.answer : Drain → Answer
  | bytes all => .drained all
  | failed e => .bodyFailed e
  | pending => .pending
  | violation e id => .violation e id

theorem answerDrain_eq (d : Drain) (c : Connection) : answerDrain (d, c) = (d.answer, c) := by
  cases d <;> rfl

/-- How a step ends that polls the body of lane `l` and sees `ss`: the answer, and what the caller
holds then. -/
inductive PollEnd (l : Lane) (ss : List Sight) : Step → Answer → Caller → Prop
  | read {k : Nat} {s : Sight} (hk : l.caller = .holding false) (hs : ss = [s]) :
      PollEnd l ss (.caller (.read k)) s.item.answer (.holding s.item.isDone)
  | drain {k : Nat} {collected : List Bytes} {d : Drain} {k' : Caller}
      (hk : l.caller = .holding false ∧ collected = [] ∨ l.caller = .draining collected)
      (h : DrainEnd collected ss d k') : PollEnd l ss (.caller (.drain k)) d.answer k'

private theorem sights_one (c : Connection) (i : Nat) :
    sights i 1 c = [c.sight i] ∧ polled i 1 c = c.afterPoll i := by
  rw [sights, polled]
  cases (c.sight i).item <;> exact ⟨rfl, rfl⟩

private theorem read_polls {k : Nat} (hlane : c.laneOf? k = some (i, l))
    (hk : l.caller = .holding false) (hp : l.exchange.progress ≠ .completed) :
    ∃ k', PollEnd l (sights i 1 c) (.caller (.read k)) (c.read k).1 k' ∧
      (c.read k).2 = (polled i 1 c).setCaller i k' := by
  obtain ⟨-, hdone⟩ := pollBody_sight (laneOf?_eq_some_iff.mp hlane).2 hp
  have hpoll : c.pollBody i = ((c.sight i).item, (c.sight i).item.isDone, c.afterPoll i) := by
    rw [← hdone]
    rfl
  have hread : c.read k = ((c.sight i).item.answer,
      (c.afterPoll i).setCaller i (.holding (c.sight i).item.isDone)) := by
    have hlane' : c.read k = c.readLane i false := by
      obtain ⟨x, r, w, caller, registered⟩ := l
      cases hk
      simp only [read, hlane]
    rw [hlane', readLane, if_neg Bool.false_ne_true, hpoll]
    cases (c.sight i).item <;> rfl
  obtain ⟨hsights, hpolled⟩ := sights_one c i
  rw [hread, hpolled]
  exact ⟨_, .read hk hsights, rfl⟩

private theorem drain_polls {k : Nat} {collected : List Bytes}
    (hlane : c.laneOf? k = some (i, l))
    (hk : l.caller = .holding false ∧ collected = [] ∨ l.caller = .draining collected) :
    ∃ k', PollEnd l (sights i (c.waitingItems i + 1) c) (.caller (.drain k)) (c.drain k).1 k' ∧
      (c.drain k).2 = (polled i (c.waitingItems i + 1) c).setCaller i k' := by
  obtain ⟨d, k', heq, hend⟩ := drainWithin_sights i (c.waitingItems i + 1) collected c
  have hdrain : c.drain k = answerDrain (c.drainOn i collected) := by
    rcases hk with ⟨hk, rfl⟩ | hk
    · simp only [drain, hlane, hk]
    · simp only [drain, hlane, hk]
  rw [hdrain, drainOn, heq, answerDrain_eq]
  exact ⟨k', .drain hk hend, rfl⟩

/-- A step that polls a body ends with what its polls have seen. -/
theorem step_of_polling {s : Step} {n : Nat} (h : c.polling? s = some (i, n))
    (hl : c.lanes[i]? = some l) (hp : l.exchange.progress ≠ .completed) :
    ∃ k', PollEnd l (sights i n c) s (c.step s).1 k' ∧
      (c.step s).2 = ((polled i n c).setCaller i k').reclaim := by
  have hstep (hact : ∃ k', PollEnd l (sights i n c) s (c.act s).1 k' ∧
      (c.act s).2 = (polled i n c).setCaller i k') :
      ∃ k', PollEnd l (sights i n c) s (c.step s).1 k' ∧
        (c.step s).2 = ((polled i n c).setCaller i k').reclaim := by
    obtain ⟨k', hend, heq⟩ := hact
    exact ⟨k', hend, congrArg reclaim heq⟩
  apply hstep
  rw [polling?.eq_def] at h
  split at h
  · split at h
    · rename_i k j l' hlane
      split at h
      · rename_i hk
        cases h
        cases hl.symm.trans (laneOf?_eq_some_iff.mp hlane).2
        exact read_polls hlane hk hp
      · cases h
    · cases h
  · split at h
    · rename_i k j l' hlane
      split at h
      · rename_i hk
        cases h
        cases hl.symm.trans (laneOf?_eq_some_iff.mp hlane).2
        exact drain_polls hlane (Or.inl ⟨hk, rfl⟩)
      · rename_i collected hk
        cases h
        cases hl.symm.trans (laneOf?_eq_some_iff.mp hlane).2
        exact drain_polls hlane (Or.inr hk)
      · cases h
    · cases h
  · cases h

end Connection

end BoundedPipelining
