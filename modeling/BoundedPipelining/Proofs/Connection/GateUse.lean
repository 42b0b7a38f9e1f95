import BoundedPipelining.Proofs.Admission.Tickets
import BoundedPipelining.Proofs.Connection.Soundness

/-!
# A connection as a user of its gate

A gate hands out tickets and relies on those who hold them: a ticket is given up once, and at the
gate that issued it. A connection holds one ticket for each exchange that has not settled and gives
it up when the exchange settles, or when nobody holds the exchange any more.

`gate_used` says that a connection is a user of that kind. Whatever the run, there is a list of uses
of a gate, each an entry or the drop of a ticket, that leaves the gate and its count where the
connection has them and the tickets with the exchanges that have them. Every ticket that is dropped
was issued and not given up before, and its slot was taken (`ProperUse`). None is released, so none
is released at another gate.
-/

namespace BoundedPipelining

/-- What a ledger says of the gate: the slots in use, and how many were admitted and refused. -/
def Ledger.ofGate (m : Ledger) : Option Int × Nat × Nat := (m.slots, m.admitted, m.rejectedLimit)

@[simp] theorem Ledger.ofGate_mark_settled (m : Ledger) (how : Settlement) :
    (m.mark (.settled how)).ofGate = m.ofGate := by
  cases how <;> rfl

@[simp] theorem Ledger.ofGate_mark_closed (m : Ledger) (why : CloseReason) :
    (m.mark (.connectionClosed why)).ofGate = m.ofGate := by
  cases why <;> rfl

/-- A mark changes what a ledger says of the gate by what it said before. -/
theorem Ledger.ofGate_mark_congr {m m' : Ledger} (h : m.ofGate = m'.ofGate) (e : Mark) :
    (m.mark e).ofGate = (m'.mark e).ofGate := by
  simp only [ofGate, Prod.mk.injEq] at h
  obtain ⟨hslots, hadmitted, hrefused⟩ := h
  match e with
  | .admitted => simp [mark, ofGate, hslots, hadmitted, hrefused]
  | .slotTaken | .slotReturned =>
    simp [mark, ofGate, slotsInUse, hslots, hadmitted, hrefused]
  | .rejected .limitExceeded | .rejected .closing | .rejected .closed =>
    simp [mark, ofGate, hslots, hadmitted, hrefused]
  | .settled .completed | .settled .failed | .connectionClosed .gracefulCloseInterrupted
  | .connectionClosed .abruptChannelClosed =>
    simp [mark, ofGate, hslots, hadmitted, hrefused]

/-- Closing a connection is not counted at its gate. -/
theorem Tracker.ofGate_close (t : Tracker) (cause : Option TransportError) (m : Ledger) :
    (t.close cause m).2.2.ofGate = m.ofGate := by
  cases t with
  | closed e => rfl
  | opened | closing => exact m.ofGate_mark_closed _

namespace Gates

/-- A use of the first gate that breaks no contract: an entry, or the drop of a ticket that is held,
at a moment at which a slot is taken. -/
inductive ProperUse (g : Gates) : Step → Prop
  | admitted (h : ∃ n, (g.step (.enter 0)).1 = .ticket n) : ProperUse g (.enter 0)
  | refused (h : ∃ e, (g.step (.enter 0)).1 = .refused e) : ProperUse g (.enter 0)
  | dropped {t : Nat} {gate : Limiter} (h : (g.step (.drop t)).1 = .dropped)
      (hg : g.limiters[0]? = some gate) (hpos : 0 < gate.inFlight) : ProperUse g (.drop t)

/-- Uses of one gate of this depth, none of which breaks a contract. -/
inductive ProperUses (d : Depth) : List Step → Prop
  | nil : ProperUses d []
  | snoc {uses : List Step} {u : Step} (h : ProperUses d uses)
      (hu : ProperUse ((ofDepths [d]).run uses) u) : ProperUses d (uses ++ [u])

end Gates

namespace Connection

variable {c c' : Connection} {i : Nat} {l l' : Lane} {b : Books}

/-- The ticket of a lane, as the gate knows it. -/
def ticketOf (l : Lane) : Option Nat := if l.exchange.ticket then some 0 else none

/-- The gate, its count and the tickets are those of the connection. -/
structure Mirrors (g : Gates) (c : Connection) : Prop where
  gate : g.limiters = #[c.books.limiter]
  tickets : g.tickets = c.lanes.map ticketOf
  ledger : g.ledger.ofGate = c.books.ledger.ofGate

theorem mirrors_ofDepth (d : Depth) (policy : ClosingPolicy) :
    Mirrors (Gates.ofDepths [d]) (ofDepth d policy) := ⟨rfl, by simp [Gates.ofDepths, ofDepth], rfl⟩

variable {g : Gates}

private theorem Mirrors.limiter? (h : Mirrors g c) : g.limiters[0]? = some c.books.limiter := by
  rw [h.gate]
  rfl

/-- A change that leaves the gate, its count and the tickets alone. -/
private theorem Mirrors.kept (h : Mirrors g c) (hgate : c'.books.limiter = c.books.limiter)
    (hledger : c'.books.ledger.ofGate = c.books.ledger.ofGate)
    (htickets : c'.lanes.map ticketOf = c.lanes.map ticketOf) : Mirrors g c' where
  gate := by rw [hgate, h.gate]
  tickets := by rw [htickets, h.tickets]
  ledger := by rw [hledger, h.ledger]

/-- An admission enters the gate and is given the ticket of its lane. -/
private theorem Mirrors.admitted {r : Request} (h : Mirrors g c)
    (hroom : c.inFlight < c.books.limiter.max.val) :
    (∃ n, (g.step (.enter 0)).1 = .ticket n) ∧ Mirrors (g.step (.enter 0)).2 (c.admitted r) := by
  have hnew : ticketOf (c.newLane c.sequence.next.1) = some 0 := by
    rw [ticketOf, ticket_newLane]
    rfl
  rw [Gates.step_enter_of_lt h.limiter? hroom, Connection.admitted, Books.takeSlot_of_lt hroom]
  refine ⟨⟨_, rfl⟩, ?_, ?_, ?_⟩
  · simp only [Gates.admitted, h.gate]
    rfl
  · simp only [Gates.admitted, h.tickets, Array.map_push, hnew]
  · exact Ledger.ofGate_mark_congr (Ledger.ofGate_mark_congr h.ledger _) _

/-- A request that a full gate turns away is refused by the gate. -/
private theorem Mirrors.refused (h : Mirrors g c) (hfull : c.books.limiter.max.val ≤ c.inFlight)
    (e : ConnectionError) :
    (∃ e, (g.step (.enter 0)).1 = .refused e) ∧
      Mirrors (g.step (.enter 0)).2 ((c.mark (.rejected .limitExceeded)).turnAway e).2 := by
  rw [Gates.step_enter_of_le h.limiter? hfull]
  exact ⟨⟨_, rfl⟩, h.gate, h.tickets, Ledger.ofGate_mark_congr h.ledger _⟩

/-- What a change of a lane and of the books does to the ticket and to the gate. -/
def TicketMoved (b b' : Books) (l l' : Lane) : Prop :=
  (l'.exchange.ticket = l.exchange.ticket ∧ b'.limiter = b.limiter ∧
    b'.ledger.ofGate = b.ledger.ofGate) ∨
  (l.exchange.ticket = true ∧ l'.exchange.ticket = false ∧ b'.limiter = b.giveBack.limiter ∧
    b'.ledger.ofGate = b.giveBack.ledger.ofGate)

private theorem ticketMoved_settle (b : Books) (l : Lane) (p : Progress) (how : Settlement) :
    TicketMoved b (({ l.exchange with progress := p }).settle how b).2 l
      { l with exchange := (({ l.exchange with progress := p }).settle how b).1 } := by
  obtain ⟨⟨id, progress, ticket, settled⟩, _, _, _, _⟩ := l
  cases ticket with
  | true => exact Or.inr ⟨rfl, rfl, rfl, Ledger.ofGate_mark_settled _ how⟩
  | false => exact Or.inl ⟨rfl, rfl, Ledger.ofGate_mark_settled _ how⟩

private theorem LaneMove.ticketMoved (m : LaneMove c i l l' b) : TicketMoved c.books b l l' := by
  cases m with
  | head | failure | lost | caller | watch | unwatch => exact Or.inl ⟨rfl, rfl, rfl⟩
  | draining => exact Or.inl ⟨Exchange.ticket_draining _, rfl, rfl⟩
  | fail => exact ticketMoved_settle _ _ _ _
  | giveBack _ _ ht => exact Or.inr ⟨ht, rfl, rfl, rfl⟩

private theorem map_ticketOf_put (c : Connection) (i : Nat) (l : Lane) (b : Books) :
    (c.put i l b).lanes.map ticketOf = (c.lanes.map ticketOf).setIfInBounds i (ticketOf l) :=
  Array.map_setIfInBounds

/-- A slot is taken as long as an exchange holds its ticket. -/
theorem Sound.inFlight_pos (hc : Sound c) (hl : c.lanes[i]? = some l)
    (ht : l.exchange.ticket = true) : 0 < c.inFlight := by
  obtain ⟨hi, heq⟩ := Array.getElem?_eq_some_iff.mp hl
  rw [hc.slots]
  exact Array.countP_pos_iff.mpr ⟨l, heq ▸ Array.getElem_mem hi, ht⟩

/-- A change of a lane leaves its ticket alone, or drops it while its slot is taken. -/
private theorem Mirrors.put (h : Mirrors g c) (hc : Sound c) (hl : c.lanes[i]? = some l)
    (hm : TicketMoved c.books b l l') :
    Mirrors g (c.put i l' b) ∨
      g.ProperUse (.drop i) ∧ Mirrors (g.step (.drop i)).2 (c.put i l' b) := by
  rcases hm with ⟨ht, hgate, hledger⟩ | ⟨ht, ht', hgate, hledger⟩
  · refine Or.inl (h.kept hgate hledger ?_)
    have hself := congrArg (fun x : Connection ↦ x.lanes.map ticketOf) (put_self hl)
    rw [← hself, map_ticketOf_put, map_ticketOf_put, ticketOf, ticketOf, ht]
  · have hissuer : g.issuer? i = some 0 := by
      rw [Gates.issuer?, h.tickets, Array.getElem?_map, hl, Option.map_some, ticketOf, if_pos ht]
      rfl
    have hstep := Gates.step_drop_of_issuer? hissuer
    refine Or.inr ⟨.dropped (by rw [hstep]) h.limiter? (hc.inFlight_pos hl ht), ?_⟩
    rw [hstep]
    refine ⟨?_, ?_, ?_⟩
    · change g.limiters.modify 0 Limiter.giveBack = #[b.limiter]
      rw [h.gate, hgate]
      rfl
    · change g.tickets.setIfInBounds i none = _
      rw [map_ticketOf_put, h.tickets, ticketOf, if_neg (by rw [ht']; exact Bool.false_ne_true)]
    · rw [show (c.put i l' b).books = b from rfl, hledger]
      exact Ledger.ofGate_mark_congr h.ledger _

/-- A change is accounted for by one use of the gate at most. -/
private theorem Mirrors.change (h : Mirrors g c) (hc : Sound c) (hm : Change c c') :
    Mirrors g c' ∨ ∃ u, g.ProperUse u ∧ Mirrors (g.step u).2 c' := by
  rcases hm with m | hadm | hcompletion | hstop
  · cases m with
    | lane hl m =>
      exact (h.put hc hl m.ticketMoved).imp_right fun hdrop ↦ ⟨_, hdrop⟩
    | refuse href =>
      cases href with
      | full _ hfull =>
        obtain ⟨hrefused, hmirrors⟩ := h.refused hfull _
        exact Or.inr ⟨_, .refused hrefused, hmirrors⟩
      | closed | closing => exact Or.inl (h.kept rfl rfl rfl)
    | close =>
      exact Or.inl (h.kept rfl (Tracker.ofGate_close c.tracker _ c.books.ledger) rfl)
    | told | watches | peer | take | heed | monitor | leave => exact Or.inl (h.kept rfl rfl rfl)
  · obtain ⟨hadmitted, hmirrors⟩ := h.admitted (r := _) hadm.room
    exact Or.inr ⟨_, .admitted hadmitted, hadm.eq ▸ hmirrors⟩
  · obtain ⟨hl, -, -, -, -⟩ := hcompletion
    exact (h.put hc hl (ticketMoved_settle _ _ _ _)).imp_right fun hdrop ↦ ⟨_, hdrop⟩
  · rw [hstop]
    refine Or.inl (h.kept rfl rfl ?_)
    rw [stopTasks, Array.map_map]
    rfl

/-- **How a connection uses its gate.** In every reachable state the gate, its count and the tickets
are what some uses of a gate of the same depth leave behind, and none of these uses breaks a
contract: each is an entry, or the drop of a ticket that was held while its slot was taken. -/
theorem gate_used (d : Depth) (policy : ClosingPolicy) (steps : List Step) :
    ∃ uses, Gates.ProperUses d uses ∧
      Mirrors ((Gates.ofDepths [d]).run uses) ((ofDepth d policy).run steps) := by
  have hrun := run_changes (ofDepth d policy) steps
  generalize (ofDepth d policy).run steps = c at hrun
  induction hrun with
  | refl => exact ⟨[], .nil, mirrors_ofDepth d policy⟩
  | @tail c c' hbefore hchange ih =>
    obtain ⟨uses, hproper, hmirrors⟩ := ih
    rcases hmirrors.change ((sound_ofDepth d policy).changes hbefore) hchange with
      hsame | ⟨u, hu, hnext⟩
    · exact ⟨uses, hproper, hsame⟩
    · exact ⟨uses ++ [u], .snoc hproper hu, (Gates.run_snoc _ uses u).symm ▸ hnext⟩

end Connection

end BoundedPipelining
