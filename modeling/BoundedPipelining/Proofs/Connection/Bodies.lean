import BoundedPipelining.Proofs.Connection.Tasks

/-!
# The poll of a body as moves

The poll of a body has five ways to end: a chunk, a failure, the end, a violation of the order of
phases, or nothing yet. Only one of them gives a slot back, the end of the payload, with which the
exchange completes. A drain is a sequence of such polls of which at most the last completes.

Two facts about the other four are used later. A failure tells the terminal error or the error of
the exchange itself, and a poll has nothing to say only while the connection is not closed. For a
drain the second needs a count: every chunk it collects was waiting in the payload, so a drain that
may poll once more than there are chunks does not stop among them.
-/

namespace BoundedPipelining

/-! ## Reading a payload -/

namespace Channel

private theorem modify_payload_self {c : Channel} {i : Nat} {w : Write}
    (h : c.writes[i]? = some w) :
    c.writes.modify i (fun v ↦ { v with payload := w.payload }) = c.writes := by
  refine Array.ext_getElem? fun j ↦ ?_
  rw [Array.getElem?_modify]
  split
  · rename_i hij
    rw [← hij, h]
    rfl
  · rfl

/-- Looking at a payload that has nothing left takes nothing. -/
theorem read_snd_of_ended {c : Channel} {i : Nat} (h : (c.read i).1 = .ended) :
    (c.read i).2 = c := by
  cases hw : c.writes[i]? with
  | none => simp only [read, hw]
  | some w =>
    cases hitems : w.payload.items with
    | nil =>
      have hnext : w.payload.next.2 = w.payload := by simp only [Payload.next, hitems]
      simp only [read, hw, hnext, modify_payload_self hw]
    | cons item rest =>
      exfalso
      cases item <;> simp [read, hw, Payload.next, hitems] at h

end Channel

namespace Connection

variable {c : Connection} {i : Nat} {l : Lane}

/-! ## Polling a body -/

/-- The connection after the payload of lane `i` has been looked at. -/
def afterRead (c : Connection) (i : Nat) (l : Lane) : Connection :=
  { c.put i { l with exchange := l.exchange.draining } c.books with
    channel := (c.channel.read i).2 }

theorem afterRead_moves (h : c.lanes[i]? = some l) (hb : l.caller.hasBody = true) :
    Moves c (c.afterRead i l) :=
  (Moves.lane h (.draining hb)).tail
    (.take (c := c.put i { l with exchange := l.exchange.draining } c.books)
      (lane?_put_self h _ c.books) hb)

theorem lane?_afterRead (h : c.lanes[i]? = some l) :
    (c.afterRead i l).lanes[i]? = some { l with exchange := l.exchange.draining } :=
  lane?_put_self h _ c.books

/-- An error that lane `i` may tell its caller: the terminal error, or its exchange's own. -/
def Tells (c : Connection) (i : Nat) (e : ClassifiedError) : Prop :=
  c.tracker = .closed e ∨ ∃ l, c.lanes[i]? = some l ∧ l.exchange.failure? = some e

/-- How a poll of the body of lane `i` ends: with which item, whether the body is done, and in
which state. -/
inductive BodyPoll (c : Connection) (i : Nat) (l : Lane) : BodyItem → Bool → Connection → Prop
  | chunk {bytes : Bytes} (h : (c.channel.read i).1 = .chunk bytes) :
      BodyPoll c i l (.chunk bytes) false (c.afterRead i l)
  | failed {e : ClassifiedError} {c' : Connection} {l' : Lane} (m : Moves c c')
      (h : Tells c' i e) (hl : c'.lanes[i]? = some l') (hb : l'.caller.hasBody = true) :
      BodyPoll c i l (.failed e) true c'
  | ended {c' : Connection} (h : Completion (c.afterRead i l) i c') : BodyPoll c i l .ended true c'
  | violation {e : TransitionError} {id : ExchangeId} (h : (c.channel.read i).1 = .ended) :
      BodyPoll c i l (.violation e id) true (c.afterRead i l)
  | pending (h : (c.channel.read i).1 = .pending) (ht : c.tracker.isClosed = false) :
      BodyPoll c i l .pending false (c.afterRead i l)

private theorem finishBody_eq (h : c.lanes[i]? = some l) (e : ClassifiedError) :
    c.finishBody i e = (.failed (l.exchange.fail e c.books).1, true,
      c.put i { l with exchange := (l.exchange.fail e c.books).2.1 }
        (l.exchange.fail e c.books).2.2) := by
  simp only [finishBody, failExchange_eq_put h]

/-- A body that ends with a failure tells the terminal error or the exchange's own. -/
private theorem finishBody_poll {c₀ : Connection} {l₀ : Lane} (m : Moves c₀ c)
    (h : c.lanes[i]? = some l) (hb : l.caller.hasBody = true) {e : ClassifiedError}
    (ht : c.tracker = .closed e) :
    BodyPoll c₀ i l₀ (c.finishBody i e).1 (c.finishBody i e).2.1 (c.finishBody i e).2.2 := by
  obtain ⟨hmoves, -, hwhy⟩ := fail_moves h ht
  rw [finishBody_eq h]
  refine .failed (m.trans hmoves) ?_ (lane?_put_self h _ _) hb
  rcases hwhy with hf | ⟨-, hclosed⟩
  · exact Or.inr ⟨_, lane?_put_self h _ _, hf⟩
  · exact Or.inl hclosed

private theorem completeBody_cases (h : c.lanes[i]? = some l) (hb : l.caller.hasBody = true)
    (hf : l.exchange.failure? = none) (hp : l.exchange.progress ≠ .headersReceived)
    (ended : (c.channel.read i).1 = .ended) :
    (∃ c', c.completeBody i = (.ended, true, c') ∧ Completion c i c') ∨
      ∃ e id, c.completeBody i = (.violation e id, true, c) := by
  rcases l.exchange.complete_cases c.books with ⟨e, he, -⟩ | ⟨hs, heq⟩ | ⟨-, e, heq⟩
  · rw [hf] at he
    cases he
  · refine Or.inl ⟨_, ?_, .intro h hb hp hs ended⟩
    simp only [completeBody, h, heq, putExchange_eq_put h]
  · refine Or.inr ⟨e, l.exchange.id, ?_⟩
    simp only [completeBody, h, heq, putExchange_eq_put h]
    rw [put_exchange_self h]

/-- The poll of a body whose exchange has not failed goes by what the payload has to say. -/
theorem pollBody_eq (h : c.lanes[i]? = some l) (hf : l.exchange.failure? = none) :
    c.pollBody i =
      match (c.channel.read i).1 with
      | .chunk bytes => (.chunk bytes, false, c.afterRead i l)
      | .error cause =>
        ((c.afterRead i l).close (some cause)).2.finishBody i
          ((c.afterRead i l).close (some cause)).1
      | .ended => (c.afterRead i l).completeBody i
      | .pending =>
        match c.tracker.terminal? with
        | some e => (c.afterRead i l).finishBody i e
        | none => (.pending, false, c.afterRead i l) := by
  simp only [pollBody, h, hf, onLane_eq_put h]
  rfl

theorem pollBody_cases (h : c.lanes[i]? = some l) (hb : l.caller.hasBody = true) :
    BodyPoll c i l (c.pollBody i).1 (c.pollBody i).2.1 (c.pollBody i).2.2 := by
  cases hf : l.exchange.failure? with
  | some e =>
    have hpoll : c.pollBody i = (.failed e, true, c) := by
      simp only [pollBody, h, hf, finishBody_eq h, Exchange.fail_of_failure? hf]
      rw [put_exchange_self h]
    rw [hpoll]
    exact .failed .refl (Or.inr ⟨l, h, hf⟩) h hb
  | none =>
    have hlane := lane?_afterRead h
    rw [pollBody_eq h hf]
    cases hitem : (c.channel.read i).1 with
    | chunk bytes => exact .chunk hitem
    | error cause =>
      -- The close sees the payload's failure; what was read is taken after it.
      let c₁ := (c.close (some cause)).2
      have hmoves : Moves c (c₁.afterRead i l) :=
        (close_moves (.payload hitem)).trans (afterRead_moves (c := c₁) h hb)
      have hclosed : c₁.tracker = .closed ((c.afterRead i l).close (some cause)).1 := by
        simp [c₁, close, afterRead, put]
      exact finishBody_poll hmoves hlane hb hclosed
    | ended =>
      have hchannel : (c.afterRead i l).channel = c.channel := Channel.read_snd_of_ended hitem
      have hp : l.exchange.draining.progress ≠ .headersReceived := by
        obtain ⟨⟨_, progress, _, _⟩, _, _, _, _⟩ := l
        cases progress <;> simp [Exchange.draining]
      rcases completeBody_cases hlane hb (by rw [Exchange.failure?_draining, hf]) hp
        (by rw [hchannel, hitem]) with ⟨c', heq, hc⟩ | ⟨e, id, heq⟩
      · simp only [heq]
        exact .ended hc
      · simp only [heq]
        exact .violation hitem
    | pending =>
      cases ht : c.tracker.terminal? with
      | none => exact .pending hitem (Tracker.terminal?_eq_none_iff.mp ht)
      | some e =>
        exact finishBody_poll (afterRead_moves h hb) hlane hb
          (Tracker.terminal?_eq_some_iff.mp ht)

/-! ## Draining a body -/

/-- A chunk that is read is taken from those that wait. -/
theorem waitingItems_afterRead {bytes : Bytes} (hread : (c.channel.read i).1 = .chunk bytes) :
    (c.afterRead i l).waitingItems i + 1 = c.waitingItems i := by
  cases hw : c.channel.writes[i]? with
  | none => simp [Channel.read, hw] at hread
  | some w =>
    cases hitems : w.payload.items with
    | nil =>
      simp only [Channel.read, hw, Payload.next, hitems] at hread
      split at hread <;> cases hread
    | cons item rest =>
      have hnext : w.payload.next.2.items = rest := by
        cases item <;> simp [Payload.next, hitems]
      have hafter : (c.afterRead i l).channel.writes[i]?
          = some { w with payload := w.payload.next.2 } := by
        simp [afterRead, Channel.read, hw, Array.getElem?_modify]
      rw [waitingItems, hafter, waitingItems, hw]
      simp [hnext, hitems]

/-- How a drain of the body of lane `i` stands after a poll of it. -/
inductive DrainPoll (c : Connection) (i : Nat) : Drain → Connection → Prop
  | bytes {all : Bytes} {c₁ c₂ c' : Connection} (m : Moves c c₁) (h : Completion c₁ i c₂)
      (m' : Moves c₂ c') (hch : c'.channel = c₁.channel) (ht : c'.tracker = c.tracker) :
      DrainPoll c i (.bytes all) c'
  | failed {e : ClassifiedError} {c₁ c' : Connection} (m : Moves c c₁) (h : Tells c₁ i e)
      (m' : Moves c₁ c') : DrainPoll c i (.failed e) c'
  | violation {e : TransitionError} {id : ExchangeId} {c' : Connection} (m : Moves c c') :
      DrainPoll c i (.violation e id) c'
  | pending {c' : Connection} (m : Moves c c') (ht : c.tracker.isClosed = false) :
      DrainPoll c i .pending c'

/-- A drain goes on after moves that leave the tracker alone. -/
private theorem DrainPoll.of_moves {c₀ c c' : Connection} {d : Drain} (m : Moves c₀ c)
    (ht : c.tracker = c₀.tracker) (h : DrainPoll c i d c') : DrainPoll c₀ i d c' := by
  rcases h with ⟨m₁, h, m', hch, hsame⟩ | ⟨m₁, h, m'⟩ | m₁ | ⟨m₁, hopen⟩
  · exact .bytes (m.trans m₁) h m' hch (hsame.trans ht)
  · exact .failed (m.trans m₁) h m'
  · exact .violation (m.trans m₁)
  · exact .pending (m.trans m₁) (ht ▸ hopen)

/-- The caller of a lane lets go of what it holds. -/
theorem setCaller_gone_moves (c : Connection) (i : Nat) : Moves c (c.setCaller i .gone) := by
  cases h : c.lanes[i]? with
  | none =>
    rw [setCaller, onLane_of_none h]
  | some l =>
    rw [setCaller_eq_put h]
    exact Moves.lane h (.caller (by simp [Caller.isHolding]) (by simp [Caller.hasBody]))

theorem setCaller_body_moves (h : c.lanes[i]? = some l) (hb : l.caller.hasBody = true)
    (k : Caller) : Moves c (c.setCaller i k) := by
  rw [setCaller_eq_put h]
  refine Moves.lane h (.caller (fun _ ↦ ?_) fun _ ↦ Or.inl hb)
  cases hk : l.caller with
  | holding _ | draining _ => rfl
  | waiting | gone => simp [hk, Caller.hasBody] at hb

/-- A drain that may poll the body more often than chunks wait is left pending by a payload that
has nothing to say, and by nothing else. -/
theorem drainWithin_cases {n : Nat} (hn : c.waitingItems i < n) (collected : List Bytes)
    (h : c.lanes[i]? = some l) (hb : l.caller.hasBody = true) :
    DrainPoll c i (drainWithin i n collected c).1 (drainWithin i n collected c).2 := by
  induction n generalizing c l collected with
  | zero => exact absurd hn (Nat.not_lt_zero _)
  | succ n ih =>
    rw [drainWithin]
    have hpoll := pollBody_cases h hb
    have hread := afterRead_moves h hb
    have hlane := lane?_afterRead h
    generalize c.pollBody i = r at hpoll ⊢
    obtain ⟨item, done, c'⟩ := r
    rcases hpoll with hchunk | ⟨m, htells, -, -⟩ | hc | - | ⟨-, ht⟩
    · -- One chunk fewer waits, and one poll fewer is left.
      have hitems := waitingItems_afterRead (l := l) hchunk
      exact (ih (by omega) _ hlane hb).of_moves hread rfl
    · exact .failed m htells (setCaller_gone_moves _ _)
    · exact .bytes hread hc (setCaller_gone_moves _ _) hc.channel hc.tracker
    · exact .violation (hread.trans (setCaller_gone_moves _ _))
    · exact .pending (hread.trans (setCaller_body_moves hlane hb _)) ht

end Connection

end BoundedPipelining
