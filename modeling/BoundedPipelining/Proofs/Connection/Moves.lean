import BoundedPipelining.Connection.Step
import BoundedPipelining.Proofs.Exchange.Outcomes
import Mathlib.Logic.Relation
import Mathlib.Tactic.ByContra

/-!
# What a step can do to a connection

A step of a connection may be one look at a flag or a whole round of polls, and most of them touch
several parts at once. Here every step is cut into *moves*, each a change of one part under the
guard that the code looked at. What is true of all moves is then true of all steps, in any order,
and no later argument opens a step again.

## The kinds of change

A `Move` neither takes a slot nor gives one back, unless the connection has closed. Two changes are
kept apart because they do: an `Admission`, which only a request brings about, and a `Completion`,
which only the poll of a body brings about whose payload has ended. The end of all tasks is the
third thing that is no move, because everything else leaves the tasks at work. `step_cases` says
which steps consist of what.

## Lanes

What happens to a lane happens to the lane and the books together, so a change of a lane is
written `c.put i l b` throughout; the setters of the definitions are rewritten into this form
first. The guards of a lane's move mention the connection it belongs to, because a lane is failed
only with the error its tracker closed with, and hands over only the head its own write received.
-/

namespace BoundedPipelining

/-- Whether the caller holds the body, as a stream or as a running drain. -/
def Caller.hasBody : Caller → Bool
  | holding _ | draining _ => true
  | waiting | gone => false

namespace Connection

/-! ## Putting a lane in place -/

/-- Puts lane `i` and the books in place. -/
def put (c : Connection) (i : Nat) (l : Lane) (b : Books) : Connection :=
  { c with lanes := c.lanes.setIfInBounds i l, books := b }

@[simp] theorem put_put (c : Connection) (i : Nat) (l l' : Lane) (b b' : Books) :
    (c.put i l b).put i l' b' = c.put i l' b' := by
  simp [put]

@[simp] theorem size_lanes_put (c : Connection) (i : Nat) (l : Lane) (b : Books) :
    (c.put i l b).lanes.size = c.lanes.size := by
  simp [put]

theorem lane?_put_self {c : Connection} {i : Nat} {l₀ : Lane} (h : c.lanes[i]? = some l₀)
    (l : Lane) (b : Books) : (c.put i l b).lanes[i]? = some l := by
  have hi : i < c.lanes.size := (Array.getElem?_eq_some_iff.mp h).1
  simp [put, hi]

theorem lane?_put_ne {i j : Nat} (hij : i ≠ j) (c : Connection) (l : Lane) (b : Books) :
    (c.put i l b).lanes[j]? = c.lanes[j]? := by
  simp [put, hij]

/-- Of a lane that is there after a lane was put in place: it is that one, or it was there
before. -/
theorem lane?_put_cases {c : Connection} {i j : Nat} {l₀ l l₁ : Lane} {b : Books}
    (h : c.lanes[i]? = some l₀) (hj : (c.put i l b).lanes[j]? = some l₁) :
    j = i ∧ l₁ = l ∨ i ≠ j ∧ c.lanes[j]? = some l₁ := by
  by_cases hij : i = j
  · subst hij
    exact Or.inl ⟨rfl, Option.some.inj (hj.symm.trans (lane?_put_self h l b))⟩
  · exact Or.inr ⟨hij, (lane?_put_ne hij c l b).symm.trans hj⟩

theorem put_self {c : Connection} {i : Nat} {l : Lane} (h : c.lanes[i]? = some l) :
    c.put i l c.books = c := by
  have hlanes : c.lanes.setIfInBounds i l = c.lanes := by
    refine Array.ext_getElem? fun j ↦ ?_
    by_cases hij : i = j
    · subst hij
      rw [Array.getElem?_setIfInBounds_self, h]
      exact if_pos (Array.getElem?_eq_some_iff.mp h).1
    · rw [Array.getElem?_setIfInBounds_ne hij]
  rw [put, hlanes]

/-- Putting a lane back with the exchange it has changes nothing. -/
theorem put_exchange_self {c : Connection} {i : Nat} {l : Lane} (h : c.lanes[i]? = some l) :
    c.put i { l with exchange := l.exchange } c.books = c := put_self h

theorem onLane_eq_put {c : Connection} {i : Nat} {l : Lane} (h : c.lanes[i]? = some l)
    (f : Lane → Lane) : c.onLane i f = c.put i (f l) c.books := by
  have hlanes : c.lanes.modify i f = c.lanes.setIfInBounds i (f l) := by
    refine Array.ext_getElem? fun j ↦ ?_
    by_cases hij : i = j
    · subst hij
      rw [Array.getElem?_modify, if_pos rfl, Array.getElem?_setIfInBounds_self, h,
        if_pos (Array.getElem?_eq_some_iff.mp h).1]
      rfl
    · rw [Array.getElem?_setIfInBounds_ne hij, Array.getElem?_modify, if_neg hij]
  rw [onLane, put, hlanes]

theorem onLane_of_none {c : Connection} {i : Nat} (h : c.lanes[i]? = none) (f : Lane → Lane) :
    c.onLane i f = c := by
  have hlanes : c.lanes.modify i f = c.lanes := by
    refine Array.ext_getElem? fun j ↦ ?_
    rw [Array.getElem?_modify]
    split
    · rename_i hij
      rw [← hij, h]
      rfl
    · rfl
  rw [onLane, hlanes]

theorem putExchange_eq_put {c : Connection} {i : Nat} {l : Lane} (h : c.lanes[i]? = some l)
    (x : Exchange) (b : Books) :
    c.putExchange i x b = c.put i { l with exchange := x } b := by
  rw [putExchange, onLane_eq_put h]
  rfl

theorem reply_eq_put {c : Connection} {i : Nat} {l : Lane} (h : c.lanes[i]? = some l)
    (r : Reply) : c.reply i r = c.put i { l with reply := r } c.books :=
  onLane_eq_put h _

theorem setCaller_eq_put {c : Connection} {i : Nat} {l : Lane} (h : c.lanes[i]? = some l)
    (k : Caller) : c.setCaller i k = c.put i { l with caller := k } c.books :=
  onLane_eq_put h _

theorem laneOf?_eq_some_iff {c : Connection} {k i : Nat} {l : Lane} :
    c.laneOf? k = some (i, l) ↔ c.calls[k]? = some (.admitted i) ∧ c.lanes[i]? = some l := by
  rw [laneOf?]
  split
  · rename_i j hk
    rw [hk, Option.map_eq_some_iff]
    constructor
    · rintro ⟨a, ha, hpair⟩
      cases hpair
      exact ⟨rfl, ha⟩
    · rintro ⟨hj, hl⟩
      cases hj
      exact ⟨l, hl, rfl⟩
  · rename_i hk
    constructor
    · intro h
      cases h
    · rintro ⟨h, -⟩
      exact absurd h (hk i)

/-! ## The moves -/

/-- Why a request is turned away, and what its caller is told. -/
inductive Refusal (c : Connection) : Rejection → ConnectionError → Prop
  | closed {e : ClassifiedError} (h : c.tracker = .closed e) : Refusal c .closed (.closed e)
  | closing (hp : c.policy = .reject) (h : c.tracker = .closing) :
      Refusal c .closing (.closed (classify true none))
  | full (ho : c.tracker.isClosed = false) (h : c.books.limiter.max.val ≤ c.inFlight) :
      Refusal c .limitExceeded (.limitExceeded ⟨c.books.limiter.max.val⟩)

/-- The peer's announcement of a graceful close is there to be heeded: as a signal, or in a head
that a write received. -/
inductive Announcement (c : Connection) : Prop
  | signal (h : c.channel.signals.closing = true)
  | head {i : Nat} {head : Head} (h : c.channel.result? i = some (.ok head))
      (hw : head.wantsClose = true)

/-- Someone found the channel torn down, with this cause. The monitor looks for the announcement
before it looks for a teardown, so it closes only after it has seen an announcement that is
there. -/
inductive Teardown (c : Connection) : Option TransportError → Prop
  | notice {seen : Bool} (hm : c.monitor = .watching seen)
      (hs : c.channel.notices.closing = true → seen = true)
      (h : c.channel.notices.close = true) : Teardown c none
  | error {seen : Bool} {e : TransportError} (hm : c.monitor = .watching seen)
      (hs : c.channel.notices.closing = true → seen = true)
      (h : c.channel.notices.error = some e) : Teardown c (some e)
  | write {i : Nat} {e : TransportError} (h : c.channel.result? i = some (.error e)) :
      Teardown c (some e)
  | payload {i : Nat} {e : TransportError} (h : (c.channel.read i).1 = .error e) :
      Teardown c (some e)
  | facade (h : c.facade = true) : Teardown c none

/-- One change of lane `i` of a connection, from `l` to the lane and the books given. -/
inductive LaneMove (c : Connection) (i : Nat) (l : Lane) : Lane → Books → Prop
  /-- The dispatch task hands over the head its write received. -/
  | head {head : Head} (hr : l.reply = .awaited) (hp : l.exchange.progress = .dispatched)
      (h : c.channel.result? i = some (.ok head))
      (hw : head.wantsClose = true → c.tracker ≠ .opened) :
      LaneMove c i l
        { l with
          exchange := { l.exchange with progress := .headersReceived }
          reply := .sent (.ok head) }
        c.books
  /-- The dispatch task hands over the error of its exchange, or the terminal error if the exchange
  had completed. -/
  | failure {e : ClassifiedError} (hr : l.reply = .awaited)
      (h : l.exchange.failure? = some e ∨
        l.exchange.progress = .completed ∧ c.tracker = .closed e) :
      LaneMove c i l { l with reply := .sent (.error e) } c.books
  /-- The dispatch task ends without a result, against the order of phases. -/
  | lost (hr : l.reply = .awaited) (hp : l.exchange.progress ≠ .dispatched) :
      LaneMove c i l { l with reply := .lost } c.books
  | draining (hb : l.caller.hasBody = true) :
      LaneMove c i l { l with exchange := l.exchange.draining } c.books
  | caller {k : Caller} (hk : k.isHolding = true → l.caller.isHolding = true)
      (hb : k.hasBody = true → l.caller.hasBody = true ∨ ∃ head, l.reply = .sent (.ok head)) :
      LaneMove c i l { l with caller := k } c.books
  /-- The watcher goes on watching. -/
  | watch {w : Watch} {n : Notice Waiter} (hl : l.watcher.isLive = true) (hw : w.isLive = true)
      (hn : l.exchange.settled.IsQuiet → n.IsQuiet) :
      LaneMove c i l { l with exchange := { l.exchange with settled := n }, watcher := w } c.books
  /-- The watcher ends, and the exchange leaves the registry. -/
  | unwatch {n : Notice Waiter} (hl : l.watcher.isLive = true)
      (h : l.exchange.phase.isTerminal = true ∨ ¬ l.exchange.settled.IsQuiet) :
      LaneMove c i l
        { l with
          exchange := { l.exchange with settled := n }
          watcher := .finished
          registered := false }
        c.books
  | fail {e : ClassifiedError} (ht : c.tracker = .closed e)
      (hs : l.exchange.phase.holdsSlot = true) :
      LaneMove c i l
        { l with
          exchange := (({ l.exchange with progress := .failed e }).settle .failed c.books).1 }
        (({ l.exchange with progress := .failed e }).settle .failed c.books).2
  /-- Nobody holds the exchange any more, and its ticket goes with it. -/
  | giveBack (hr : c.running = false) (hh : c.facade = false ∨ l.registered = false)
      (ht : l.exchange.ticket = true) :
      LaneMove c i l { l with exchange := { l.exchange with ticket := false } } c.books.giveBack

/-- One change of a connection by which no request is admitted and no exchange completes. -/
inductive Move (c : Connection) : Connection → Prop
  | refuse {why : Rejection} {e : ConnectionError} (h : Refusal c why e) :
      Move c ((c.mark (.rejected why)).turnAway e).2
  | told {k : Nat} {e : ConnectionError} (h : c.calls[k]? = some (.refused e)) :
      Move c { c with calls := c.calls.set! k .over }
  | watches (w : Array Bool) : Move c { c with watches := w }
  | peer (s : Channel.PeerStep) : Move c { c with channel := (c.channel.peerStep s).2 }
  | take {i : Nat} {l : Lane} (h : c.lanes[i]? = some l) (hb : l.caller.hasBody = true) :
      Move c { c with channel := (c.channel.read i).2 }
  | heed (h : Announcement c) : Move c { c with tracker := c.tracker.markClosing }
  | monitor {o : Observer} (h : o = .watching true → c.tracker ≠ .opened)
      (hf : o ≠ .finished → c.monitor ≠ .finished)
      (hc : o = .finished → c.tracker.isClosed = true) : Move c { c with monitor := o }
  | close {cause : Option TransportError} (h : Teardown c cause) : Move c (c.close cause).2
  | leave (h : c.tracker.isClosed = true) :
      Move c { c with
        facade := false, monitor := .finished, channel := c.channel.dropTransport }
  | lane {i : Nat} {l l' : Lane} {b : Books} (h : c.lanes[i]? = some l)
      (m : LaneMove c i l l' b) : Move c (c.put i l' b)

/-- Any number of moves. -/
abbrev Moves : Connection → Connection → Prop := Relation.ReflTransGen Move

/-- What one move keeps, any number of moves keeps. -/
theorem Moves.keeps {P : Connection → Prop} (hP : ∀ c c', Move c c' → P c → P c')
    {c c' : Connection} (m : Moves c c') (hc : P c) : P c' := by
  induction m with
  | refl => exact hc
  | tail _ m ih => exact hP _ _ m ih

/-- The connection that admits a request: a slot and a number are taken, and the request is
written. -/
def admitted (c : Connection) (r : Request) : Connection :=
  { c with
    books := c.books.takeSlot.2
    sequence := c.sequence.next.2
    channel := c.channel.write r
    lanes := c.lanes.push (c.newLane c.sequence.next.1)
    calls := c.calls.push (.admitted c.lanes.size) }

/-- A request is admitted. -/
structure Admission (c : Connection) (r : Request) (c' : Connection) : Prop where
  facade : c.facade = true
  isOpen : c.tracker.isClosed = false
  policy : ¬ (c.policy = .reject ∧ c.tracker = .closing)
  room : c.inFlight < c.books.limiter.max.val
  eq : c' = c.admitted r

/-- The exchange of lane `i` completes, because the payload of its write has ended. -/
inductive Completion (c : Connection) (i : Nat) : Connection → Prop
  | intro {l : Lane} (h : c.lanes[i]? = some l) (hb : l.caller.hasBody = true)
      (hp : l.exchange.progress ≠ .headersReceived) (hs : l.exchange.phase.holdsSlot = true)
      (ended : (c.channel.read i).1 = .ended) :
      Completion c i (c.put i
        { l with
          exchange := (({ l.exchange with progress := .completed }).settle .completed c.books).1 }
        (({ l.exchange with progress := .completed }).settle .completed c.books).2)

theorem Completion.channel {c c' : Connection} {i : Nat} (h : Completion c i c') :
    c'.channel = c.channel := by
  cases h
  rfl

theorem Completion.tracker {c c' : Connection} {i : Nat} (h : Completion c i c') :
    c'.tracker = c.tracker := by
  cases h
  rfl

theorem Completion.lane? {c c' : Connection} {i : Nat} (h : Completion c i c') :
    ∃ l, c'.lanes[i]? = some l ∧ l.caller.hasBody = true ∧ l.exchange.progress = .completed := by
  cases h with
  | intro hl hb _ _ _ => exact ⟨_, lane?_put_self hl _ _, hb, by simp⟩

theorem Moves.lane {c : Connection} {i : Nat} {l l' : Lane} {b : Books}
    (h : c.lanes[i]? = some l) (m : LaneMove c i l l' b) : Moves c (c.put i l' b) :=
  .single (.lane h m)

end Connection

end BoundedPipelining
