import BoundedPipelining.Connection.Fleet
import BoundedPipelining.Proofs.Connection.Entries
import BoundedPipelining.Proofs.Connection.Frames

/-!
# The ledger of a fleet is balanced

Any number of connections are counted in one ledger, and no mark says which of them made it. What
holds all the same is that every number of the ledger is a sum over the connections: of their calls,
their slots, their settled exchanges and their closes (`Balanced`). A step of one connection moves
the ledger and this connection by the same marks and leaves the others alone.

From the sums follows the balance between the numbers themselves. Every exchange that was admitted
has completed, has failed, holds its ticket, or has lost it without an end. The last kind is what
the gauge and the two outcomes do not show: when the tasks of a connection are dropped, an exchange
that nobody holds any more gives its slot back and is never settled. While the tasks are run there
is none of that kind.
-/

namespace BoundedPipelining

namespace Connection

variable {c c' : Connection} {i : Nat} {l l' : Lane} {b : Books}

/-- The connection with its books at another ledger. -/
def atLedger (c : Connection) (m : Ledger) : Connection :=
  { c with books := { c.books with ledger := m } }

/-! ## Exchanges that lost their slot -/

/-- Whether an exchange has lost its slot without having settled. -/
def isAbandoned (l : Lane) : Bool := l.exchange.phase.holdsSlot && !l.exchange.ticket

/-- The number of exchanges that lost their slot without having settled. -/
def abandoned (c : Connection) : Nat := c.lanes.countP isAbandoned

/-- Exchanges are abandoned only by a connection whose tasks are not run and whose facade is
gone. -/
def Forsaking (c : Connection) : Prop :=
  ∀ (i : Nat) (l : Lane), c.lanes[i]? = some l → isAbandoned l = true →
    c.running = false ∧ c.facade = false

theorem forsaking_ofDepth (d : Depth) (policy : ClosingPolicy) : Forsaking (ofDepth d policy) := by
  intro i l h
  simp [ofDepth] at h

theorem Forsaking.abandoned_eq_zero (hc : Forsaking c)
    (h : c.running = true ∨ c.facade = true) : c.abandoned = 0 := by
  refine Array.countP_eq_zero.mpr fun l hl ha ↦ ?_
  obtain ⟨i, hi, rfl⟩ := Array.mem_iff_getElem.mp hl
  obtain ⟨hr, hf⟩ := hc i _ (Array.getElem?_eq_getElem hi) ha
  rcases h with h | h
  · rw [hr] at h
    cases h
  · rw [hf] at h
    cases h

/-- Only the loss of a ticket abandons an exchange. -/
private theorem LaneMove.abandons (hc : LaneSound c.running c.tracker i l)
    (m : LaneMove c i l l' b) (h : isAbandoned l' = true) :
    isAbandoned l = true ∨ c.running = false ∧ c.facade = false := by
  cases m with
  | head _ hp _ _ =>
    refine Or.inl ?_
    rw [isAbandoned, Exchange.phase, hp]
    exact h
  | draining =>
    refine Or.inl ?_
    simpa [isAbandoned] using h
  | failure | lost | caller | watch | unwatch => exact Or.inl h
  | fail =>
    simp [isAbandoned, Exchange.phase, Progress.phase, Phase.holdsSlot, Phase.isTerminal] at h
  | giveBack hr hh ht =>
    -- The exchange has not settled, so it is registered and the facade must be gone.
    refine Or.inr ⟨hr, hh.resolve_right fun hlisted ↦ ?_⟩
    rw [hc.listed (hc.ticket ht)] at hlisted
    cases hlisted

private theorem Forsaking.put (hc : Forsaking c) (h : c.lanes[i]? = some l)
    (hl : isAbandoned l' = true → isAbandoned l = true ∨ c.running = false ∧ c.facade = false) :
    Forsaking (c.put i l' b) := by
  intro j l₁ hj ha
  rcases lane?_put_cases h hj with ⟨rfl, rfl⟩ | ⟨-, hj⟩
  · rcases hl ha with hold | hgone
    · exact hc j l h hold
    · exact hgone
  · exact hc j l₁ hj ha

theorem Forsaking.change (hc : Forsaking c) (hs : Sound c) (h : Change c c') : Forsaking c' := by
  rcases h with m | h | h | h
  · cases m with
    | lane h m => exact hc.put h (m.abandons (hs.lane _ _ h))
    | leave => exact fun i l hl ha ↦ ⟨(hc i l hl ha).1, rfl⟩
    | refuse | told | watches | peer | take | heed | monitor | close => exact hc
  · rw [h.eq]
    intro i l hl ha
    change (c.lanes.push _)[i]? = some l at hl
    rw [Array.getElem?_push] at hl
    split at hl
    · cases hl
      rw [isAbandoned, ticket_newLane, Bool.not_true, Bool.and_false] at ha
      cases ha
    · exact hc i l hl ha
  · cases h with
    | intro h _ _ _ _ =>
      refine hc.put h fun ha ↦ ?_
      simp [isAbandoned, Exchange.phase, Progress.phase, Phase.holdsSlot, Phase.isTerminal] at ha
  · rw [h]
    intro i l hl ha
    simp only [stopTasks, Array.getElem?_map, Option.map_eq_some_iff] at hl
    obtain ⟨l₀, h₀, rfl⟩ := hl
    exact ⟨rfl, (hc i l₀ h₀ ha).2⟩

/-- An exchange counts among the completed, the failed, those with a ticket or the abandoned ones,
and among one of them only. -/
private theorem one_of_four
    (hticket : l.exchange.ticket = true → l.exchange.phase.holdsSlot = true) :
    (if l.exchange.outcome? == some .completed then 1 else 0)
      + (if l.exchange.outcome? == some .failed then 1 else 0)
      + (if l.exchange.ticket then 1 else 0) + (if isAbandoned l then 1 else 0) = 1 := by
  cases ho : l.exchange.outcome? with
  | none =>
    have hslot := Exchange.outcome?_eq_none_iff.mp ho
    cases ht : l.exchange.ticket <;> simp [isAbandoned, hslot, ht]
  | some how =>
    have hslot : ¬ l.exchange.phase.holdsSlot = true := by
      rw [← Exchange.outcome?_eq_none_iff, ho]
      simp
    have ht : ¬ l.exchange.ticket = true := fun ht ↦ hslot (hticket ht)
    cases how <;> simp [isAbandoned, hslot, ht]

/-- Every exchange has ended, holds a slot, or is abandoned. -/
theorem Sound.size_lanes (hc : Sound c) :
    c.lanes.size = c.endedAs .completed + c.endedAs .failed + c.inFlight + c.abandoned := by
  have hsound (l : Lane) (hl : l ∈ c.lanes.toList) :
      l.exchange.ticket = true → l.exchange.phase.holdsSlot = true := by
    obtain ⟨i, hi, rfl⟩ := Array.mem_iff_getElem.mp (Array.mem_toList_iff.mp hl)
    exact (hc.lane i _ (Array.getElem?_eq_getElem hi)).ticket
  rw [hc.slots, endedAs, endedAs, abandoned, ← Array.length_toList, ← Array.countP_toList,
    ← Array.countP_toList, ← Array.countP_toList, ← Array.countP_toList]
  generalize c.lanes.toList = lanes at hsound
  induction lanes with
  | nil => rfl
  | cons l lanes ih =>
    have hrest := ih fun l' hl' ↦ hsound l' (List.mem_cons_of_mem _ hl')
    have hone := one_of_four (hsound l List.mem_cons_self)
    rw [List.length_cons, List.countP_cons, List.countP_cons, List.countP_cons, List.countP_cons]
    omega

/-- What is known of each connection of a fleet. -/
structure Member (c : Connection) : Prop where
  sound : Sound c
  forsaking : Forsaking c

theorem member_ofDepth (d : Depth) (policy : ClosingPolicy) : Member (ofDepth d policy) :=
  ⟨sound_ofDepth d policy, forsaking_ofDepth d policy⟩

/-- It does not matter what else was entered in the ledger. -/
theorem Member.atLedger (hc : Member c) (m : Ledger) : Member (c.atLedger m) where
  sound := ⟨hc.sound.lane, hc.sound.slots, hc.sound.room, hc.sound.drawn, hc.sound.facade⟩
  forsaking := hc.forsaking

theorem Member.step (hc : Member c) (s : Step) : Member (c.step s).2 :=
  (step_changes c s).keeps
    (fun _ _ h hx ↦ ⟨hx.sound.change h, hx.forsaking.change hx.sound h⟩) hc

end Connection

namespace Fleet

open Connection (Member)

variable {f : Fleet} {k : Nat} {c : Connection} {g : Connection → Nat}

/-! ## Sums over connections -/

/-- The sum of a number over connections. -/
def sumOf (g : Connection → Nat) (cs : List Connection) : Nat := cs.foldr (fun c n ↦ g c + n) 0

@[simp] theorem sumOf_cons (g : Connection → Nat) (c : Connection) (cs : List Connection) :
    sumOf g (c :: cs) = g c + sumOf g cs := rfl

theorem sumOf_concat (g : Connection → Nat) (cs : List Connection) (c : Connection) :
    sumOf g (cs ++ [c]) = sumOf g cs + g c := by
  induction cs with
  | nil => exact Nat.add_comm _ _
  | cons c₀ cs ih => rw [List.cons_append, sumOf_cons, ih, sumOf_cons, Nat.add_assoc]

private theorem sumOf_set {cs : List Connection} (h : cs[k]? = some c) (g : Connection → Nat)
    (c' : Connection) : sumOf g (cs.set k c') + g c = sumOf g cs + g c' := by
  induction cs generalizing k with
  | nil => cases h
  | cons c₀ cs ih =>
    cases k with
    | zero =>
      cases h
      simp only [List.set_cons_zero, sumOf_cons]
      omega
    | succ k =>
      have hrest := ih (k := k) h
      simp only [List.set_cons_succ, sumOf_cons]
      omega

/-- The sum of a number over all connections. -/
def total (f : Fleet) (g : Connection → Nat) : Nat := sumOf g f.connections.toList

theorem total_set (h : f.connections[k]? = some c) (g : Connection → Nat) (c' : Connection)
    (m : Ledger) : ({ connections := f.connections.set! k c', ledger := m } : Fleet).total g + g c
      = f.total g + g c' := by
  rw [total, total, Array.set!_eq_setIfInBounds, Array.toList_setIfInBounds]
  exact sumOf_set (by rw [Array.getElem?_toList, h]) g c'

theorem total_push (f : Fleet) (g : Connection → Nat) (c : Connection) :
    ({ f with connections := f.connections.push c } : Fleet).total g = f.total g + g c := by
  rw [total, Array.toList_push, sumOf_concat, total]

theorem inFlight_eq_total (f : Fleet) : f.inFlight = f.total Connection.inFlight := rfl

/-! ## What happens to a fleet -/

/-- What an event does: a connection is added, one of them makes a step at the ledger of the fleet,
or nothing happens. -/
theorem step_cases (f : Fleet) (e : Event) :
    (∃ d policy, e = .connect d policy ∧
      f.step e = { f with connections := f.connections.push (.ofDepth d policy) }) ∨
    (∃ k s c, e = .step k s ∧ f.connections[k]? = some c ∧
      f.step e = { connections := f.connections.set! k ((c.atLedger f.ledger).step s).2
                   ledger := ((c.atLedger f.ledger).step s).2.books.ledger }) ∨
    (∃ k s, e = .step k s ∧ f.connection? k = none ∧ f.step e = f) := by
  cases e with
  | connect d policy => exact Or.inl ⟨d, policy, rfl, rfl⟩
  | step k s =>
    refine Or.inr ?_
    cases hk : f.connections[k]? with
    | none =>
      have hnone : f.connection? k = none := by rw [connection?, hk]; rfl
      exact Or.inr ⟨k, s, rfl, hnone, by simp only [step, hnone]⟩
    | some c =>
      have hsome : f.connection? k = some (c.atLedger f.ledger) := by rw [connection?, hk]; rfl
      exact Or.inl ⟨k, s, c, rfl, hk, by simp only [step, hsome]⟩

/-- What is known of each connection that an event leaves, if it is known of those before. -/
private theorem members_step {P : Connection → Prop} (hf : ∀ c ∈ f.connections, P c)
    (e : Event) (hconnect : ∀ d policy, P (.ofDepth d policy))
    (hstep : ∀ k s c, e = .step k s → c ∈ f.connections → P ((c.atLedger f.ledger).step s).2) :
    ∀ c ∈ (f.step e).connections, P c := by
  rcases f.step_cases e with ⟨d, policy, -, hstep'⟩ | ⟨k, s, c₀, he, hk, hstep'⟩ |
    ⟨k, s, -, -, hstep'⟩
  · rw [hstep']
    intro c hc
    rcases Array.mem_push.mp hc with hold | rfl
    · exact hf c hold
    · exact hconnect d policy
  · rw [hstep']
    intro c hc
    rcases Array.mem_or_eq_of_mem_setIfInBounds hc with hold | rfl
    · exact hf c hold
    · exact hstep k s c₀ he (Array.mem_of_getElem? hk)
  · rw [hstep']
    exact hf

/-! ## The balance -/

/-- Every number of the ledger is a sum over the connections. -/
structure Balanced (f : Fleet) : Prop where
  members : ∀ c ∈ f.connections, Member c
  decided : f.ledger.admitted + f.ledger.rejected .limitExceeded + f.ledger.rejected .closing
    + f.ledger.rejected .closed = f.total fun c ↦ c.calls.size
  admitted : f.ledger.admitted = f.total fun c ↦ c.lanes.size
  slots : f.ledger.slotsInUse = f.total Connection.inFlight
  ended : ∀ how, f.ledger.settled how = f.total fun c ↦ c.endedAs how
  closed : ∀ why, f.ledger.connectionsClosed why = f.total fun c ↦ c.closedFor why

theorem balanced_empty : Balanced {} where
  members := by simp
  decided := rfl
  admitted := rfl
  slots := rfl
  ended how := by cases how <;> rfl
  closed why := by cases why <;> rfl

private theorem Balanced.connect (hf : Balanced f) (d : Depth) (policy : ClosingPolicy) :
    Balanced { f with connections := f.connections.push (.ofDepth d policy) } where
  members c hc := by
    rcases Array.mem_push.mp hc with hold | rfl
    · exact hf.members c hold
    · exact Connection.member_ofDepth d policy
  decided := by
    rw [total_push]
    exact hf.decided
  admitted := by
    rw [total_push]
    exact hf.admitted
  slots := by
    rw [total_push]
    exact hf.slots
  ended how := by
    rw [total_push]
    exact (hf.ended how).trans (by simp [Connection.endedAs, Connection.ofDepth])
  closed why := by
    rw [total_push]
    exact (hf.closed why).trans (by
      simp [Connection.closedFor, Connection.ofDepth, Tracker.terminal?])

/-- A step of one connection moves the ledger and the connection's part of each sum by the same
marks. -/
private theorem Balanced.advance (hf : Balanced f) (hk : f.connections[k]? = some c)
    (s : Connection.Step) :
    Balanced { connections := f.connections.set! k ((c.atLedger f.ledger).step s).2
               ledger := ((c.atLedger f.ledger).step s).2.books.ledger } := by
  have hmember := (hf.members c (Array.mem_of_getElem? hk)).atLedger f.ledger
  obtain ⟨es, hes⟩ := Connection.step_entered hmember.sound s
  have hnew := hmember.step s
  generalize ((c.atLedger f.ledger).step s).2 = c' at hes hnew ⊢
  have hledger : c'.books.ledger = f.ledger.enter es := hes.ledger
  refine {
    members := fun x hx ↦ ?_
    decided := ?_
    admitted := ?_
    slots := ?_
    ended := fun how ↦ ?_
    closed := fun why ↦ ?_ }
  · rcases Array.mem_or_eq_of_mem_setIfInBounds hx with hold | rfl
    · exact hf.members x hold
    · exact hnew
  · have hsum := total_set hk (fun c ↦ c.calls.size) c' c'.books.ledger
    have hbefore := hf.decided
    have hcalls : c'.calls.size = c.calls.size + _ + _ + _ + _ := hes.calls
    simp only [hledger, Ledger.admitted_enter, Ledger.rejected_enter] at hsum ⊢
    omega
  · have hsum := total_set hk (fun c ↦ c.lanes.size) c' c'.books.ledger
    have hbefore := hf.admitted
    have hlanes : c'.lanes.size = c.lanes.size + _ := hes.lanes
    simp only [hledger, Ledger.admitted_enter] at hsum ⊢
    omega
  · have hsum := total_set hk Connection.inFlight c' c'.books.ledger
    have hbefore := hf.slots
    have hslots : (c'.inFlight : Int) = c.inFlight + _ - _ := hes.slots
    simp only [hledger, Ledger.slotsInUse_enter] at hsum ⊢
    omega
  · have hsum := total_set hk (fun c ↦ c.endedAs how) c' c'.books.ledger
    have hbefore := hf.ended how
    have hended : c'.endedAs how = c.endedAs how + _ := hes.ended how
    simp only [hledger, Ledger.settled_enter] at hsum ⊢
    omega
  · have hsum := total_set hk (fun c ↦ c.closedFor why) c' c'.books.ledger
    have hbefore := hf.closed why
    have hclosed : c'.closedFor why = c.closedFor why + _ := hes.closed why
    simp only [hledger, Ledger.connectionsClosed_enter] at hsum ⊢
    omega

theorem Balanced.step (hf : Balanced f) (e : Event) : Balanced (f.step e) := by
  rcases f.step_cases e with ⟨d, policy, -, hstep⟩ | ⟨k, s, c, -, hk, hstep⟩ | ⟨k, s, -, -, hstep⟩
  · rw [hstep]
    exact hf.connect d policy
  · rw [hstep]
    exact hf.advance hk s
  · rw [hstep]
    exact hf

theorem balanced_run (hf : Balanced f) (events : List Event) : Balanced (f.run events) := by
  induction events generalizing f with
  | nil => exact hf
  | cons e events ih => exact ih (hf.step e)

/-! ## Which requests were issued -/

/-- Whether an event is a call that issues a request. -/
def issues (f : Fleet) : Event → Bool
  | .connect _ _ => false
  | .step k s => (f.connection? k).any fun c ↦ c.issues s

/-- The number of calls among these events that issue a request. -/
def requestCalls (f : Fleet) : List Event → Nat
  | [] => 0
  | e :: events => (if f.issues e then 1 else 0) + requestCalls (f.step e) events

private theorem total_calls_step (f : Fleet) (e : Event) :
    (f.step e).total (fun c ↦ c.calls.size)
      = f.total (fun c ↦ c.calls.size) + if f.issues e then 1 else 0 := by
  rcases f.step_cases e with ⟨d, policy, rfl, hstep⟩ | ⟨k, s, c, rfl, hk, hstep⟩ |
    ⟨k, s, rfl, hnone, hstep⟩
  · rw [hstep, total_push]
    simp [issues, Connection.ofDepth]
  · have hissues : f.issues (.step k s) = (c.atLedger f.ledger).issues s := by
      rw [issues, connection?, hk]
      rfl
    have hsum := total_set hk (fun c ↦ c.calls.size) ((c.atLedger f.ledger).step s).2
      ((c.atLedger f.ledger).step s).2.books.ledger
    have hcalls := Connection.size_calls_step (c.atLedger f.ledger) s
    have hsame : (c.atLedger f.ledger).calls.size = c.calls.size := rfl
    rw [hissues, hstep]
    omega
  · rw [hstep, issues, hnone]
    simp

theorem total_calls_run (f : Fleet) (events : List Event) :
    (f.run events).total (fun c ↦ c.calls.size)
      = f.total (fun c ↦ c.calls.size) + f.requestCalls events := by
  induction events generalizing f with
  | nil => rfl
  | cons e events ih =>
    refine (ih (f.step e)).trans ?_
    rw [total_calls_step, requestCalls, Nat.add_assoc]

/-! ## Every run -/

/-- The number of exchanges that lost their slot without having settled. -/
def abandoned (f : Fleet) : Nat := f.total Connection.abandoned

/-- As long as no tasks were dropped, they are run on every connection. -/
private theorem running_run {events : List Event} (hf : ∀ c ∈ f.connections, c.running = true)
    (hs : ∀ k, .step k .stopTasks ∉ events) :
    ∀ c ∈ (f.run events).connections, c.running = true := by
  induction events generalizing f with
  | nil => exact hf
  | cons e events ih =>
    refine ih ?_ fun k hmem ↦ hs k (List.mem_cons_of_mem _ hmem)
    refine members_step (P := fun c ↦ c.running = true) hf e (fun _ _ ↦ rfl) fun k s c he hc ↦ ?_
    have hne : s ≠ .stopTasks := by
      rintro rfl
      exact hs k (he ▸ List.mem_cons_self)
    rw [Connection.running_step hne]
    exact hf c hc

private theorem total_eq_zero (h : ∀ c ∈ f.connections, g c = 0) : f.total g = 0 := by
  have hsum (cs : List Connection) (h : ∀ c ∈ cs, g c = 0) : sumOf g cs = 0 := by
    induction cs with
    | nil => rfl
    | cons c cs ih =>
      rw [sumOf_cons, h c List.mem_cons_self, ih fun c' hc' ↦ h c' (List.mem_cons_of_mem _ hc')]
  exact hsum _ fun c hc ↦ h c (Array.mem_toList_iff.mp hc)

/-- A sum of ones and noughts counts the ones. -/
private theorem total_eq_countP {p : Connection → Bool} (h : ∀ c, g c = if p c then 1 else 0) :
    f.total g = f.connections.countP p := by
  rw [total, ← Array.countP_toList]
  induction f.connections.toList with
  | nil => rfl
  | cons c cs ih =>
    rw [sumOf_cons, ih, h, List.countP_cons, Nat.add_comm]

/-- A connection that has closed is counted under one of the two reasons. -/
private theorem countP_isClosed (f : Fleet) :
    f.connections.countP (fun c ↦ c.tracker.terminal?.map ClassifiedError.reason
        == some .gracefulCloseInterrupted)
      + f.connections.countP (fun c ↦ c.tracker.terminal?.map ClassifiedError.reason
        == some .abruptChannelClosed)
      = f.connections.countP fun c ↦ c.tracker.isClosed := by
  rw [← Array.countP_toList, ← Array.countP_toList, ← Array.countP_toList]
  induction f.connections.toList with
  | nil => rfl
  | cons c cs ih =>
    rw [List.countP_cons, List.countP_cons, List.countP_cons, ← ih]
    have hone : (if c.tracker.terminal?.map ClassifiedError.reason
          == some .gracefulCloseInterrupted then 1 else 0)
        + (if c.tracker.terminal?.map ClassifiedError.reason == some .abruptChannelClosed
          then 1 else 0) = if c.tracker.isClosed then 1 else 0 := by
      cases c.tracker with
      | opened | closing => rfl
      | closed e => cases he : e.reason <;> simp [Tracker.terminal?, Tracker.isClosed, he]
    omega

theorem Balanced.admitted_eq (hf : Balanced f) : (f.ledger.admitted : Int)
    = f.ledger.settled .completed + f.ledger.settled .failed + f.ledger.slotsInUse
      + f.abandoned := by
  have hsum (cs : List Connection) (h : ∀ c ∈ cs, Member c) :
      sumOf (fun c ↦ c.lanes.size) cs = sumOf (fun c ↦ c.endedAs .completed) cs
        + sumOf (fun c ↦ c.endedAs .failed) cs + sumOf Connection.inFlight cs
        + sumOf Connection.abandoned cs := by
    induction cs with
    | nil => rfl
    | cons c cs ih =>
      have hrest := ih fun c' hc' ↦ h c' (List.mem_cons_of_mem _ hc')
      have hone := (h c List.mem_cons_self).sound.size_lanes
      simp only [sumOf_cons]
      omega
  have htotal := hsum f.connections.toList fun c hc ↦ hf.members c (Array.mem_toList_iff.mp hc)
  rw [hf.admitted, hf.ended, hf.ended, hf.slots, abandoned]
  simp only [total]
  omega

/-- **Conservation.** Whatever events happen to any number of connections, counted from an empty
ledger on: the requests issued are those admitted and those rejected; the slots in use are the slots
taken over all gates; the requests admitted are the exchanges completed, the exchanges failed, the
slots in use, and the exchanges that were abandoned; and each connection that has closed is counted
once, under the reason of its terminal error. Abandoned are exchanges of connections whose tasks
were dropped and whose facade is gone, and nothing is abandoned as long as no tasks are dropped. -/
theorem metrics_conserved (events : List Event) :
    let f := ({} : Fleet).run events
    ({} : Fleet).requestCalls events = f.ledger.admitted + f.ledger.rejected .limitExceeded
      + f.ledger.rejected .closing + f.ledger.rejected .closed ∧
    f.ledger.slotsInUse = f.inFlight ∧
    (f.ledger.admitted : Int) = f.ledger.settled .completed + f.ledger.settled .failed
      + f.ledger.slotsInUse + f.abandoned ∧
    (∀ c ∈ f.connections, c.abandoned ≠ 0 → c.running = false ∧ c.facade = false) ∧
    ((∀ k, .step k .stopTasks ∉ events) → f.abandoned = 0) ∧
    (∀ why, f.ledger.connectionsClosed why = f.connections.countP fun c ↦
      c.tracker.terminal?.map ClassifiedError.reason == some why) ∧
    f.ledger.connectionsClosed .gracefulCloseInterrupted
      + f.ledger.connectionsClosed .abruptChannelClosed
      = f.connections.countP fun c ↦ c.tracker.isClosed := by
  intro f
  have hf : Balanced f := balanced_run balanced_empty events
  have hclosed (why : CloseReason) : f.ledger.connectionsClosed why = f.connections.countP fun c ↦
      c.tracker.terminal?.map ClassifiedError.reason == some why := by
    rw [hf.closed]
    exact total_eq_countP fun c ↦ by simp [Connection.closedFor]
  refine ⟨?_, ?_, hf.admitted_eq, fun c hc ha ↦ ?_, fun hs ↦ ?_, hclosed, ?_⟩
  · have hcalls := total_calls_run {} events
    rw [show ({} : Fleet).total (fun c ↦ c.calls.size) = 0 from rfl, Nat.zero_add] at hcalls
    rw [← hcalls]
    exact hf.decided.symm
  · rw [inFlight_eq_total]
    exact hf.slots
  · have hforsaking := (hf.members c hc).forsaking
    constructor
    · by_contra hr
      exact ha (hforsaking.abandoned_eq_zero (Or.inl (Bool.not_eq_false _ |>.mp hr)))
    · by_contra hfacade
      exact ha (hforsaking.abandoned_eq_zero (Or.inr (Bool.not_eq_false _ |>.mp hfacade)))
  · exact total_eq_zero fun c hc ↦ (hf.members c hc).forsaking.abandoned_eq_zero
      (Or.inl (running_run (f := {}) (by simp) hs c hc))
  · rw [hclosed, hclosed, countP_isClosed]

/-- The runtime of a connection is dropped while an exchange waits for its response. Once its caller
and the facade are gone nobody holds the exchange, and its slot goes back without an outcome. -/
theorem metrics_not_conserved_without_tasks :
    let f := ({} : Fleet).run [.connect ⟨1, by decide⟩ .accept,
      .step 0 (.caller (.request ⟨"GET", "/", []⟩)), .step 0 .stopTasks,
      .step 0 (.caller (.dropResponse 0)), .step 0 (.caller .drop)]
    (f.ledger.admitted : Int) ≠ f.ledger.settled .completed + f.ledger.settled .failed
      + f.ledger.slotsInUse := by
  decide +kernel

/-- One connection turns a request away and the other closes with one in flight: three requests were
issued, two of them admitted, and one of these has failed. -/
theorem metrics_conserved_of_two :
    let events : List Event := [.connect ⟨1, by decide⟩ .accept, .connect ⟨2, by decide⟩ .reject,
      .step 0 (.caller (.request ⟨"GET", "/a", []⟩)),
      .step 0 (.caller (.request ⟨"GET", "/b", []⟩)),
      .step 1 (.caller (.request ⟨"GET", "/c", []⟩)), .step 1 (.caller .drop), .step 1 .settle]
    let f := ({} : Fleet).run events
    ({} : Fleet).requestCalls events = 3 ∧ f.inFlight = 1 ∧ f.abandoned = 0 := by
  intro events f
  obtain ⟨hcalls, hslots, -, -, habandoned, -, -⟩ := metrics_conserved events
  refine ⟨hcalls.trans (by decide +kernel), ?_, habandoned (by simp [events])⟩
  have hone : f.ledger.slotsInUse = 1 := by decide +kernel
  exact Int.ofNat.inj (hslots.symm.trans hone)

end Fleet

end BoundedPipelining
