import BoundedPipelining.Proofs.Channel.Steps
import BoundedPipelining.Proofs.Channel.Writes
import BoundedPipelining.Proofs.Connection.Soundness

/-!
# The scope of a step

Moves say what a change can be, whoever makes it. Some guarantees need the converse, that a part of
the connection is changed by certain steps only. Four parts matter:

* the calls, which change when a request is issued and when a refusal is told or dropped;
* what the peer has signalled, which only the peer changes, and never takes back;
* what a caller holds, and what waits in the write of its lane, which only the steps of that caller
  and of the peer change;
* the tracker, which closes at a poll of the monitor, of a dispatch task or of a body, or when the
  facade is dropped.

The tasks, the bodies and the clearing up after a step are built from the same few operations on
lanes. So the first three parts are followed through these operations once, as an `Internal` change.
It is internal to the lanes of some callers, and leaves those of all the others aside.
-/

namespace BoundedPipelining

namespace Connection

variable {c c' c₁ c₂ c₃ : Connection} {i k : Nat} {l : Lane} {s : Step}

/-! ## Internal changes -/

/-- A change that leaves alone what the peer has signalled and, but for the lanes in `who`, what
callers hold and what is written. -/
structure Aside (who : Nat → Prop) (c c' : Connection) : Prop where
  signals : c'.channel.signals = c.channel.signals
  caller : ∀ (i : Nat) (l : Lane), ¬ who i → c.lanes[i]? = some l →
    ∃ l', c'.lanes[i]? = some l' ∧ l'.caller = l.caller
  write : ∀ (i : Nat) (w : Write), ¬ who i → c.channel.writes[i]? = some w →
    c'.channel.writes[i]? = some w

/-- A change that in addition touches no call. -/
structure Internal (who : Nat → Prop) (c c' : Connection) : Prop extends Aside who c c' where
  calls : c'.calls = c.calls

/-- No lane at all. -/
def Nobody (_ : Nat) : Prop := False

variable {who who' : Nat → Prop}

theorem Aside.trans (h₁ : Aside who c₁ c₂) (h₂ : Aside who c₂ c₃) : Aside who c₁ c₃ where
  signals := h₂.signals.trans h₁.signals
  caller i l hi hl := by
    obtain ⟨l₂, hl₂, hsame⟩ := h₁.caller i l hi hl
    obtain ⟨l₃, hl₃, hsame'⟩ := h₂.caller i l₂ hi hl₂
    exact ⟨l₃, hl₃, hsame'.trans hsame⟩
  write i w hi hw := h₂.write i w hi (h₁.write i w hi hw)

theorem Aside.mono (h : Aside who c c') (hwho : ∀ i, who i → who' i) : Aside who' c c' where
  signals := h.signals
  caller i l hi hl := h.caller i l (fun hw ↦ hi (hwho i hw)) hl
  write i w hi hw := h.write i w (fun hw ↦ hi (hwho i hw)) hw

theorem Internal.trans (h₁ : Internal who c₁ c₂) (h₂ : Internal who c₂ c₃) : Internal who c₁ c₃ :=
  ⟨h₁.toAside.trans h₂.toAside, h₂.calls.trans h₁.calls⟩

theorem Internal.mono (h : Internal who c c') (hwho : ∀ i, who i → who' i) : Internal who' c c' :=
  ⟨h.toAside.mono hwho, h.calls⟩

/-- A change of nobody's lane is internal for everybody. -/
theorem Internal.of_nobody (h : Internal Nobody c c') : Internal who c c' :=
  h.mono fun _ hi ↦ hi.elim

/-- A change of other parts only. -/
theorem Aside.of_eq (hsignals : c'.channel.signals = c.channel.signals)
    (hwrites : c'.channel.writes = c.channel.writes) (hlanes : c'.lanes = c.lanes) :
    Aside who c c' where
  signals := hsignals
  caller i l _ hl := ⟨l, hlanes ▸ hl, rfl⟩
  write i w _ hw := by rw [hwrites, hw]

theorem Internal.of_eq (hcalls : c'.calls = c.calls)
    (hsignals : c'.channel.signals = c.channel.signals)
    (hwrites : c'.channel.writes = c.channel.writes) (hlanes : c'.lanes = c.lanes) :
    Internal who c c' := ⟨.of_eq hsignals hwrites hlanes, hcalls⟩

theorem Internal.refl (c : Connection) : Internal who c c := .of_eq rfl rfl rfl rfl

private theorem internal_onLane (c : Connection) (i : Nat) (f : Lane → Lane) :
    Internal (· = i) c (c.onLane i f) where
  calls := rfl
  signals := rfl
  caller j l hj hl := ⟨l, by rw [onLane, Array.getElem?_modify, if_neg (Ne.symm hj), hl], rfl⟩
  write _ _ _ hw := hw

/-- A change of a lane and of the books that leaves the caller with what it holds. -/
private theorem internal_lane (c : Connection) (i : Nat) {f : Lane → Lane}
    (hf : ∀ l, (f l).caller = l.caller) (b : Books) :
    Internal who c { c.onLane i f with books := b } where
  calls := rfl
  signals := rfl
  caller j l _ hl := by
    rw [onLane, Array.getElem?_modify, hl]
    split
    · exact ⟨f l, rfl, hf l⟩
    · exact ⟨l, rfl, rfl⟩
  write _ _ _ hw := hw

private theorem internal_tracker (c : Connection) (t : Tracker) :
    Internal who c { c with tracker := t } := .of_eq rfl rfl rfl rfl

private theorem internal_putExchange (c : Connection) (i : Nat) (x : Exchange) (b : Books) :
    Internal who c (c.putExchange i x b) :=
  internal_lane c i (f := fun l ↦ { l with exchange := x }) (fun _ ↦ rfl) b

private theorem internal_close (c : Connection) (cause : Option TransportError) :
    Internal who c (c.close cause).2 := .of_eq rfl rfl rfl rfl

private theorem internal_failExchange (c : Connection) (i : Nat) (e : ClassifiedError) :
    Internal who c (c.failExchange i e).2 := by
  rw [failExchange]
  split
  · exact .refl c
  · exact internal_putExchange c i _ _

/-! ### Tasks -/

private theorem internal_pollMonitor (c : Connection) : Internal who c c.pollMonitor :=
  .of_eq rfl rfl rfl rfl

private theorem internal_reply (c : Connection) (i : Nat) (r : Reply) :
    Internal who c (c.reply i r) :=
  internal_lane c i (f := fun l ↦ { l with reply := r }) (fun _ ↦ rfl) c.books

private theorem internal_acceptHead (c : Connection) (i : Nat) (l : Lane) (head : Head) :
    Internal who c (c.acceptHead i l head) := by
  simp only [acceptHead]
  have hput : Internal who c (c.putExchange i (l.exchange.headersReceived c.books).2.1
      (l.exchange.headersReceived c.books).2.2) := internal_putExchange c i _ _
  split
  · exact hput.trans (internal_reply _ i _)
  · exact hput.trans (internal_reply _ i _)
  · split
    · exact (hput.trans (internal_tracker _ _)).trans (internal_reply _ i _)
    · exact hput.trans (internal_reply _ i _)

private theorem internal_pollDispatch (c : Connection) (i : Nat) :
    Internal who c (c.pollDispatch i) := by
  rw [pollDispatch]
  split
  · exact .refl c
  · split
    · split
      · exact internal_acceptHead c i _ _
      · exact ((internal_close c _).trans (internal_failExchange _ i _)).trans
          (internal_reply _ i _)
      · split
        · exact .refl c
        · exact (internal_failExchange c i _).trans (internal_reply _ i _)
    · exact .refl c

private theorem internal_pollWatcher (c : Connection) (i : Nat) :
    Internal who c (c.pollWatcher i) := by
  rw [pollWatcher]
  split
  · exact .refl c
  · split
    · simp only
      refine internal_lane c i ?_ _
      intro l
      rfl
    · exact .refl c

private theorem internal_poll (c : Connection) : ∀ t : Task, Internal who c (c.poll t)
  | .monitor => internal_pollMonitor c
  | .dispatch i => internal_pollDispatch c i
  | .watcher i => internal_pollWatcher c i

private theorem internal_pollLanes (lanes : List Nat) (c : Connection) :
    Internal who c (lanes.foldl (fun c i ↦ (c.pollDispatch i).pollWatcher i) c) := by
  induction lanes generalizing c with
  | nil => exact .refl c
  | cons i lanes ih =>
    exact ((internal_pollDispatch c i).trans (internal_pollWatcher _ i)).trans (ih _)

private theorem internal_rounds (n : Nat) (c : Connection) : Internal who c (rounds n c) := by
  have hround (c : Connection) : Internal who c c.round :=
    (internal_pollMonitor c).trans (internal_pollLanes _ _)
  induction n generalizing c with
  | zero => exact .refl c
  | succ n ih =>
    rw [rounds]
    split
    · exact (hround c).trans (ih _)
    · exact hround c

private theorem internal_stopTasks (c : Connection) : Internal who c c.stopTasks where
  calls := rfl
  signals := rfl
  caller i l _ hl := by
    rw [stopTasks, Array.getElem?_map, hl]
    exact ⟨_, rfl, rfl⟩
  write _ _ _ hw := hw

private theorem internal_reclaimAt (held : Bool) (c : Connection) (i : Nat) :
    Internal who c (reclaimAt held c i) := by
  rw [reclaimAt]
  split
  · exact .refl c
  · split
    · exact .refl c
    · exact internal_putExchange c i _ _

theorem internal_reclaim (c : Connection) : Internal who c c.reclaim := by
  have hall (held : Bool) (lanes : List Nat) (c : Connection) :
      Internal who c (lanes.foldl (reclaimAt held) c) := by
    induction lanes generalizing c with
    | nil => exact .refl c
    | cons i lanes ih => exact (internal_reclaimAt held c i).trans (ih _)
  rw [reclaim]
  split
  · exact .refl c
  · exact hall _ _ c

/-! ### Callers -/

private theorem internal_readPayload (c : Connection) (i : Nat) :
    Internal (· = i) c { c with channel := (c.channel.read i).2 } where
  calls := rfl
  signals := Channel.signals_read _ i
  caller _ l _ hl := ⟨l, hl, rfl⟩
  write j w hj hw := by rw [Channel.write?_read_ne (Ne.symm hj), hw]

private theorem internal_finishBody (c : Connection) (i : Nat) (e : ClassifiedError) :
    Internal who c (c.finishBody i e).2.2 := internal_failExchange c i e

private theorem internal_completeBody (c : Connection) (i : Nat) :
    Internal who c (c.completeBody i).2.2 := by
  rw [completeBody]
  split
  · exact .refl c
  · simp only
    split <;> exact internal_putExchange c i _ _

private theorem internal_pollBody (c : Connection) (i : Nat) :
    Internal (· = i) c (c.pollBody i).2.2 := by
  rw [pollBody]
  split
  · exact .refl c
  · split
    · exact internal_finishBody c i _
    · have hread := (internal_onLane c i fun l ↦ { l with exchange := l.exchange.draining }).trans
        (internal_readPayload _ i)
      simp only
      split
      · exact hread
      · exact (hread.trans (internal_close _ _)).trans (internal_finishBody _ i _)
      · exact hread.trans (internal_completeBody _ i)
      · split
        · exact hread.trans (internal_finishBody _ i _)
        · exact hread

private theorem internal_drainWithin (i n : Nat) (collected : List Bytes) (c : Connection) :
    Internal (· = i) c (drainWithin i n collected c).2 := by
  induction n generalizing collected c with
  | zero => exact internal_onLane c i _
  | succ n ih =>
    have hpoll := internal_pollBody c i
    rw [drainWithin]
    generalize c.pollBody i = r at hpoll ⊢
    obtain ⟨item, done, c'⟩ := r
    cases item with
    | chunk bytes => exact hpoll.trans (ih _ c')
    | failed _ | ended | pending | violation _ _ => exact hpoll.trans (internal_onLane c' i _)

private theorem internal_awaitLane (c : Connection) (i : Nat) (l : Lane) :
    Internal (· = i) c (c.awaitLane i l).2 := by
  rw [awaitLane]
  split
  · exact .refl c
  · exact internal_onLane c i _
  · exact internal_onLane c i _
  · split
    · exact .refl c
    · exact (internal_failExchange c i _).trans (internal_onLane _ i _)

/-- The call whose future or body a step of a caller works on. -/
def Step.call? : Step → Option Nat
  | .caller (.await k) | .caller (.dropResponse k) | .caller (.read k) | .caller (.drain k)
  | .caller (.dropBody k) => some k
  | _ => none

/-- The lanes that a step works on as a caller's. -/
def Addresses (c : Connection) (s : Step) (i : Nat) : Prop :=
  ∃ k, s.call? = some k ∧ c.calls[k]? = some (.admitted i)

/-- What is done to the lane of a call is done to a lane that the step addresses. -/
private theorem Internal.of_lane (hs : s.call? = some k) (hlane : c.laneOf? k = some (i, l))
    (h : Internal (· = i) c c') : Internal (c.Addresses s) c c' := by
  refine h.mono ?_
  rintro _ rfl
  exact ⟨k, hs, (laneOf?_eq_some_iff.mp hlane).1⟩

private theorem internal_readBody (c : Connection) (k : Nat) :
    Internal (c.Addresses (.caller (.read k))) c (c.read k).2 := by
  rw [read]
  split
  · rename_i i _ _ _ done _ hlane
    rw [readLane]
    split
    · exact .refl c
    · have hpoll := (internal_pollBody c i).trans (internal_onLane (c.pollBody i).2.2 i
        fun l ↦ { l with caller := .holding (c.pollBody i).2.1 })
      refine .of_lane rfl hlane ?_
      simp only
      split <;> exact hpoll
  · exact .refl c

private theorem internal_drain (c : Connection) (k : Nat) :
    Internal (c.Addresses (.caller (.drain k))) c (c.drain k).2 := by
  have hon (i : Nat) (collected : List Bytes) :
      Internal (· = i) c (answerDrain (c.drainOn i collected)).2 := by
    have hdrain := internal_drainWithin i (c.waitingItems i + 1) collected c
    rw [drainOn]
    generalize drainWithin i (c.waitingItems i + 1) collected c = r at hdrain ⊢
    obtain ⟨d, c'⟩ := r
    cases d <;> exact hdrain
  rw [drain]
  split
  · rename_i hlane
    refine .of_lane rfl hlane ?_
    split
    · exact internal_onLane c _ _
    · exact hon _ _
    · exact hon _ _
    · exact .refl c
  · exact .refl c

private theorem internal_dropBody (c : Connection) (k : Nat) :
    Internal (c.Addresses (.caller (.dropBody k))) c (c.dropBody k).2 := by
  rw [dropBody]
  split
  · rename_i hlane
    refine .of_lane rfl hlane ?_
    split
    · exact internal_onLane c _ _
    · exact internal_onLane c _ _
    · exact .refl c
  · exact .refl c

private theorem internal_asFacade {act : Answer × Connection} (h : Internal who c act.2) :
    Internal who c (c.asFacade act).2 := by
  rw [asFacade]
  split
  · exact h
  · exact .refl c

/-! ## What a step can reach -/

/-- What a step makes of the calls, of the signals, and of the lanes and writes that it does not
address. -/
inductive Scope (c : Connection) : Step → Connection → Prop
  | internal {s : Step} {c' : Connection} (h : Internal (c.Addresses s) c c') : Scope c s c'
  | peer {p : Channel.PeerStep} {c' : Connection} (hcalls : c'.calls = c.calls)
      (hcaller : ∀ (i : Nat) (l : Lane), c.lanes[i]? = some l →
        ∃ l', c'.lanes[i]? = some l' ∧ l'.caller = l.caller)
      (h : c'.channel = (c.channel.peerStep p).2) : Scope c (.peer p) c'
  | issued {r : Request} {x : Call} {c' : Connection} (hcalls : c'.calls = c.calls.push x)
      (h : Aside Nobody c c') : Scope c (.caller (.request r)) c'
  /-- A refusal is told, or dropped with its future. -/
  | told {s : Step} {k : Nat} {e : ConnectionError} {c' : Connection}
      (hs : s = .caller (.await k) ∨ s = .caller (.dropResponse k))
      (hk : c.calls[k]? = some (.refused e)) (hcalls : c'.calls = c.calls.set! k .over)
      (h : Aside Nobody c c') : Scope c s c'

private theorem await_scope (c : Connection) (k : Nat) :
    Scope c (.caller (.await k)) (c.await k).2 := by
  rw [await]
  split
  · rename_i e hk
    exact .told (Or.inl rfl) hk rfl (.of_eq rfl rfl rfl)
  · split
    · rename_i hlane
      split
      · exact .internal (.of_lane rfl hlane (internal_awaitLane c _ _))
      · exact .internal (.refl c)
    · exact .internal (.refl c)

private theorem dropResponse_scope (c : Connection) (k : Nat) :
    Scope c (.caller (.dropResponse k)) (c.dropResponse k).2 := by
  rw [dropResponse]
  split
  · rename_i e hk
    exact .told (Or.inr rfl) hk rfl (.of_eq rfl rfl rfl)
  · split
    · rename_i hlane
      split
      · exact .internal (.of_lane rfl hlane (internal_onLane c _ _))
      · exact .internal (.refl c)
    · exact .internal (.refl c)

/-- A new lane and a new write leave those before them alone. -/
private theorem aside_push (c : Connection) (r : Request) (books : Books)
    (sequence : ExchangeSequence) (l : Lane) (x : Call) :
    Aside Nobody c { c with
      books, sequence
      channel := c.channel.write r
      lanes := c.lanes.push l
      calls := c.calls.push x } where
  signals := rfl
  caller i l₀ _ hl := by
    have hi := (Array.getElem?_eq_some_iff.mp hl).1
    exact ⟨l₀, by rw [Array.getElem?_push, if_neg (Nat.ne_of_lt hi), hl], rfl⟩
  write i w _ hw := by
    have hi := (Array.getElem?_eq_some_iff.mp hw).1
    rw [Channel.write, Array.getElem?_push, if_neg (Nat.ne_of_lt hi), hw]

private theorem request_scope (c : Connection) (r : Request) :
    Scope c (.caller (.request r)) (c.asFacade (c.request r)).2 := by
  rw [asFacade]
  split
  · rw [request]
    split
    · exact .issued rfl (.of_eq rfl rfl rfl)
    · split
      · exact .issued rfl (.of_eq rfl rfl rfl)
      · split
        · exact .issued rfl (.of_eq rfl rfl rfl)
        · exact .issued rfl (aside_push c r _ _ _ _)
  · exact .internal (.refl c)

private theorem act_scope (c : Connection) (s : Step) : Scope c s (c.act s).2 := by
  cases s with
  | caller s =>
    cases s with
    | request r => exact request_scope c r
    | await k => exact await_scope c k
    | dropResponse k => exact dropResponse_scope c k
    | read k => exact .internal (internal_readBody c k)
    | drain k => exact .internal (internal_drain c k)
    | dropBody k => exact .internal (internal_dropBody c k)
    | snapshot k => exact .internal (.refl c)
    | watch => exact .internal (internal_asFacade (.of_eq rfl rfl rfl rfl))
    | pollWatch k =>
      rw [act, callerStep]
      split
      · split
        · exact .internal (.refl c)
        · exact .internal (.of_eq rfl rfl rfl rfl)
      · exact .internal (.refl c)
    | waitIdle | stats | describe | pendingExchanges =>
      exact .internal (internal_asFacade (.refl c))
    | drop => exact .internal (internal_asFacade (.of_eq rfl rfl rfl rfl))
  | peer p => exact .peer rfl (fun _ l hl ↦ ⟨l, hl, rfl⟩) rfl
  | poll t => exact .internal (internal_poll c t)
  | settle => exact .internal (internal_rounds _ c)
  | stopTasks => exact .internal (internal_stopTasks c)

theorem step_scope (c : Connection) (s : Step) : Scope c s (c.step s).2 := by
  have hreclaim : Internal Nobody (c.act s).2 (c.act s).2.reclaim := internal_reclaim _
  have hchannel := channel_reclaim (c.act s).2
  have hact := act_scope c s
  change Scope c s (c.act s).2.reclaim
  rcases hact with h | ⟨hcalls, hcaller, h⟩ | ⟨hcalls, h⟩ | ⟨hs, hk, hcalls, h⟩
  · exact .internal (h.trans hreclaim.of_nobody)
  · refine .peer (hreclaim.calls.trans hcalls) (fun i l hl ↦ ?_) (hchannel.trans h)
    obtain ⟨l₁, hl₁, hsame⟩ := hcaller i l hl
    obtain ⟨l₂, hl₂, hsame'⟩ := hreclaim.caller i l₁ id hl₁
    exact ⟨l₂, hl₂, hsame'.trans hsame⟩
  · exact .issued (hreclaim.calls.trans hcalls) (h.trans hreclaim.toAside)
  · exact .told hs hk (hreclaim.calls.trans hcalls) (h.trans hreclaim.toAside)

theorem channel_step_peer (c : Connection) (p : Channel.PeerStep) :
    (c.step (.peer p)).2.channel = (c.channel.peerStep p).2 := channel_reclaim _

/-- Only the peer changes what the peer has signalled. -/
theorem signals_step (c : Connection) (s : Step) :
    (∃ p, s = .peer p ∧ (c.step s).2.channel.signals = (c.channel.peerStep p).2.signals) ∨
      (∀ p, s ≠ .peer p) ∧ (c.step s).2.channel.signals = c.channel.signals := by
  by_cases hs : ∃ p, s = .peer p
  · obtain ⟨p, rfl⟩ := hs
    exact Or.inl ⟨p, rfl, by rw [channel_step_peer]⟩
  have hne (p : Channel.PeerStep) : s ≠ .peer p := fun h ↦ hs ⟨p, h⟩
  refine Or.inr ⟨hne, ?_⟩
  have hscope := step_scope c s
  generalize (c.step s).2 = c' at hscope ⊢
  rcases hscope with h | - | ⟨-, h⟩ | ⟨-, -, -, h⟩
  · exact h.signals
  · exact absurd rfl (hne _)
  · exact h.signals
  · exact h.signals

/-- A refusal waits for its caller. -/
theorem refused_step {e : ConnectionError} (h : c.calls[k]? = some (.refused e))
    (ha : s ≠ .caller (.await k)) (hd : s ≠ .caller (.dropResponse k)) :
    (c.step s).2.calls[k]? = some (.refused e) := by
  have hk := (Array.getElem?_eq_some_iff.mp h).1
  have hscope := step_scope c s
  generalize (c.step s).2 = c' at hscope ⊢
  rcases hscope with hsame | ⟨hcalls, -, -⟩ | ⟨hcalls, -⟩ | @⟨_, j, _, _, hs, -, hcalls, -⟩
  · rw [hsame.calls, h]
  · rw [hcalls, h]
  · rw [hcalls, Array.getElem?_push, if_neg (Nat.ne_of_lt hk), h]
  · have hjk : j ≠ k := by
      rintro rfl
      exact hs.elim ha hd
    rw [hcalls, Array.set!_eq_setIfInBounds, Array.getElem?_setIfInBounds_ne hjk, h]

theorem refused_run {e : ConnectionError} {steps : List Step}
    (h : c.calls[k]? = some (.refused e)) (ha : .caller (.await k) ∉ steps)
    (hd : .caller (.dropResponse k) ∉ steps) : (c.run steps).calls[k]? = some (.refused e) := by
  induction steps generalizing c with
  | nil => exact h
  | cons s steps ih =>
    rw [List.mem_cons, not_or] at ha hd
    exact ih (refused_step h (Ne.symm ha.1) (Ne.symm hd.1)) ha.2 hd.2

/-! ## Who moves the tracker on -/

/-- Whether a step may move the tracker on: it polls the monitor, a dispatch task or a body, or
drops the facade. -/
def Step.reachesTracker : Step → Bool
  | .poll .monitor | .poll (.dispatch _) | .settle => true
  | .caller (.read _) | .caller (.drain _) | .caller .drop => true
  | _ => false

theorem tracker_failExchange (c : Connection) (i : Nat) (e : ClassifiedError) :
    (c.failExchange i e).2.tracker = c.tracker := by
  rw [failExchange]
  split <;> rfl

theorem tracker_pollWatcher (c : Connection) (i : Nat) :
    (c.pollWatcher i).tracker = c.tracker := by
  rw [pollWatcher]
  split
  · rfl
  · split <;> rfl

private theorem tracker_await (c : Connection) (k : Nat) : (c.await k).2.tracker = c.tracker := by
  have hlane (i : Nat) (l : Lane) : (c.awaitLane i l).2.tracker = c.tracker := by
    rw [awaitLane]
    split
    · rfl
    · rfl
    · rfl
    · split
      · rfl
      · exact tracker_failExchange c i _
  rw [await]
  split
  · rfl
  · split
    · split
      · exact hlane _ _
      · rfl
    · rfl

private theorem tracker_dropResponse (c : Connection) (k : Nat) :
    (c.dropResponse k).2.tracker = c.tracker := by
  rw [dropResponse]
  split
  · rfl
  · split
    · split <;> rfl
    · rfl

private theorem tracker_dropBody (c : Connection) (k : Nat) :
    (c.dropBody k).2.tracker = c.tracker := by
  rw [dropBody]
  split
  · split <;> rfl
  · rfl

private theorem tracker_request (c : Connection) (r : Request) :
    (c.request r).2.tracker = c.tracker := by
  rw [request]
  split
  · rfl
  · split
    · rfl
    · split <;> rfl

private theorem tracker_asFacade {act : Answer × Connection} (h : act.2.tracker = c.tracker) :
    (c.asFacade act).2.tracker = c.tracker := by
  rw [asFacade]
  split
  · exact h
  · rfl

/-- Every other step leaves the tracker alone. -/
theorem tracker_step (hs : s.reachesTracker = false) (c : Connection) :
    (c.step s).2.tracker = c.tracker := by
  refine (tracker_reclaim (c.act s).2).trans ?_
  cases s with
  | caller s =>
    cases s with
    | request r => exact tracker_asFacade (tracker_request c r)
    | await k => exact tracker_await c k
    | dropResponse k => exact tracker_dropResponse c k
    | dropBody k => exact tracker_dropBody c k
    | pollWatch k =>
      rw [act, callerStep]
      split
      · split <;> rfl
      · rfl
    | snapshot k => rfl
    | watch | waitIdle | stats | describe | pendingExchanges => exact tracker_asFacade rfl
    | read _ | drain _ | drop => cases hs
  | poll t =>
    cases t with
    | watcher i => exact tracker_pollWatcher c i
    | monitor | dispatch _ => cases hs
  | peer _ | stopTasks => rfl
  | settle => cases hs

end Connection

end BoundedPipelining
