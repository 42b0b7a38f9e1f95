import BoundedPipelining.Proofs.Connection.Bodies

/-!
# Steps as moves

`step_cases` says what a step does, whatever the step and whatever the state. The connection gets
from its old to its new state by moves alone, or by moves and one admission if the step is a
request, or as `BodyStep` says if the step polls a body, and then by moves and one completion at
most; only the end of all tasks is a kind of its own. `run_changes` is the same for a whole run.
-/

namespace BoundedPipelining

open Relation (ReflTransGen)

namespace Connection

variable {c : Connection} {i : Nat} {l : Lane}

/-! ## What callers do -/

theorem request_of_closed {e : ClassifiedError} (ht : c.tracker = .closed e) (r : Request) :
    c.request r = (c.mark (.rejected .closed)).turnAway (.closed e) := by
  simp only [request, ht]

theorem request_of_closing (hp : c.policy = .reject) (ht : c.tracker = .closing) (r : Request) :
    c.request r = (c.mark (.rejected .closing)).turnAway (.closed (classify true none)) := by
  simp only [request, ht, hp, and_self, if_true]

theorem request_of_room {r : Request} (ho : c.tracker.isClosed = false)
    (hp : ¬ (c.policy = .reject ∧ c.tracker = .closing))
    (hroom : c.inFlight < c.books.limiter.max.val) :
    c.request r = (.call c.calls.size, c.admitted r) := by
  have htake := Books.takeSlot_of_lt hroom
  rw [request]
  split
  · rename_i e ht
    simp [ht, Tracker.isClosed] at ho
  · simp only [if_neg hp, htake, admitted]

theorem request_of_full {r : Request} (ho : c.tracker.isClosed = false)
    (hp : ¬ (c.policy = .reject ∧ c.tracker = .closing))
    (hfull : c.books.limiter.max.val ≤ c.inFlight) :
    c.request r = (c.mark (.rejected .limitExceeded)).turnAway
      (.limitExceeded ⟨c.books.limiter.max.val⟩) := by
  have htake := Books.takeSlot_of_le hfull
  rw [request]
  split
  · rename_i e ht
    simp [ht, Tracker.isClosed] at ho
  · simp only [if_neg hp, htake]
    rfl

/-- A request is turned away for one of three reasons or admitted. -/
theorem request_cases (hf : c.facade = true) (r : Request) :
    (∃ why e, Refusal c why e ∧ c.request r = (c.mark (.rejected why)).turnAway e) ∨
      Admission c r (c.request r).2 := by
  by_cases ho : c.tracker.isClosed = false
  · by_cases hp : c.policy = .reject ∧ c.tracker = .closing
    · exact Or.inl ⟨.closing, _, .closing hp.1 hp.2, request_of_closing hp.1 hp.2 r⟩
    · rcases Nat.lt_or_ge c.inFlight c.books.limiter.max.val with hroom | hfull
      · rw [request_of_room ho hp hroom]
        exact Or.inr ⟨hf, ho, hp, hroom, rfl⟩
      · exact Or.inl ⟨.limitExceeded, _, .full ho hfull, request_of_full ho hp hfull⟩
  · cases ht : c.tracker with
    | opened | closing => simp [ht, Tracker.isClosed] at ho
    | closed e => exact Or.inl ⟨.closed, _, .closed ht, request_of_closed ht r⟩

theorem awaitLane_moves (h : c.lanes[i]? = some l) (hw : l.caller = .waiting) :
    Moves c (c.awaitLane i l).2 := by
  cases hr : l.reply with
  | awaited =>
    rw [show c.awaitLane i l = (.pending, c) by simp only [awaitLane, hr]]
  | sent result =>
    cases result with
    | ok head =>
      rw [show c.awaitLane i l = (.head head, c.setCaller i (.holding false)) by
        simp only [awaitLane, hr], setCaller_eq_put h]
      exact Moves.lane h (.caller (fun _ ↦ by simp [hw, Caller.isHolding])
        fun _ ↦ Or.inr ⟨head, hr⟩)
    | error e =>
      rw [show c.awaitLane i l = (.failed (.closed e), c.setCaller i .gone) by
        simp only [awaitLane, hr]]
      exact setCaller_gone_moves c i
  | lost =>
    cases ht : c.tracker.terminal? with
    | none => rw [show c.awaitLane i l = (.pending, c) by simp only [awaitLane, hr, ht]]
    | some e =>
      have heq : (c.awaitLane i l).2 = (c.failExchange i e).2.setCaller i .gone := by
        simp only [awaitLane, hr, ht]
      rw [heq, failExchange_eq_put h]
      exact (fail_moves h (Tracker.terminal?_eq_some_iff.mp ht)).1.trans
        (setCaller_gone_moves _ i)

theorem await_moves (c : Connection) (k : Nat) : Moves c (c.await k).2 := by
  rw [await]
  split
  · rename_i e hk
    exact .single (.told hk)
  · split
    · rename_i i l hlane
      split
      · rename_i hw
        exact awaitLane_moves (laneOf?_eq_some_iff.mp hlane).2 hw
      · exact .refl
    · exact .refl

theorem dropResponse_moves (c : Connection) (k : Nat) : Moves c (c.dropResponse k).2 := by
  rw [dropResponse]
  split
  · rename_i e hk
    exact .single (.told hk)
  · split
    · split
      · exact setCaller_gone_moves c _
      · exact .refl
    · exact .refl

theorem dropBody_moves (c : Connection) (k : Nat) : Moves c (c.dropBody k).2 := by
  rw [dropBody]
  split
  · split
    · exact setCaller_gone_moves c _
    · exact setCaller_gone_moves c _
    · exact .refl
  · exact .refl

theorem drop_moves (hf : c.facade = true) : Moves c c.drop := by
  refine (close_moves (.facade hf)).tail (.leave ?_)
  simp [close, Tracker.isClosed]

/-! ## Steps and runs -/

theorem run_cons (c : Connection) (s : Step) (steps : List Step) :
    c.run (s :: steps) = (c.step s).2.run steps := rfl

theorem run_append (c : Connection) (earlier later : List Step) :
    c.run (earlier ++ later) = (c.run earlier).run later := List.foldl_append

/-- The call whose body a step polls, as a stream or in a drain. -/
def Step.bodyCall? : Step → Option Nat
  | .caller (.read k) | .caller (.drain k) => some k
  | _ => none

/-- Whether an answer says that a payload was taken to its end. -/
def Answer.isEnd : Answer → Bool
  | .ended | .drained _ => true
  | _ => false

/-- What a step that polls the body of call `k` does, and how it answers. -/
inductive BodyStep (c : Connection) (k : Nat) : Answer → Connection → Prop
  | completion {a : Answer} {i : Nat} {c₁ c₂ c' : Connection}
      (hk : c.calls[k]? = some (.admitted i)) (hi : i < c.lanes.size) (ha : a.isEnd = true)
      (m : Moves c c₁) (h : Completion c₁ i c₂) (m' : Moves c₂ c')
      (hch : c'.channel = c₁.channel) (ht : c'.tracker = c.tracker) : BodyStep c k a c'
  | failed {e : ClassifiedError} {i : Nat} {c₁ c' : Connection} (m : Moves c c₁)
      (h : Tells c₁ i e) (m' : Moves c₁ c') : BodyStep c k (.bodyFailed e) c'
  | pending {c' : Connection} (m : Moves c c') (ht : c.tracker.isClosed = false) :
      BodyStep c k .pending c'
  | other {a : Answer} {c' : Connection} (m : Moves c c') (hp : a ≠ .pending)
      (hf : ∀ e, a ≠ .bodyFailed e) : BodyStep c k a c'

/-- What every move keeps and every completion, a step that polls a body keeps. -/
theorem BodyStep.keeps {P : Connection → Prop} (hmove : ∀ c c', Move c c' → P c → P c')
    (hcompletion : ∀ c i c', Completion c i c' → P c → P c') {k : Nat} {a : Answer}
    {c' : Connection} (h : BodyStep c k a c') (hc : P c) : P c' := by
  rcases h with ⟨-, -, -, m, h, m', -⟩ | ⟨m, -, m'⟩ | ⟨m, -⟩ | ⟨m, -, -⟩
  · exact m'.keeps hmove (hcompletion _ _ _ h (m.keeps hmove hc))
  · exact m'.keeps hmove (m.keeps hmove hc)
  · exact m.keeps hmove hc
  · exact m.keeps hmove hc

/-- What a step does to a connection. -/
inductive StepCase (c : Connection) : Step → Answer → Connection → Prop
  | moves {s : Step} {a : Answer} {c' : Connection} (hs : s.bodyCall? = none) (m : Moves c c') :
      StepCase c s a c'
  | admission {r : Request} {a : Answer} {c₁ c' : Connection} (h : Admission c r c₁)
      (m : Moves c₁ c') : StepCase c (.caller (.request r)) a c'
  | body {s : Step} {a : Answer} {k : Nat} {c' : Connection} (hs : s.bodyCall? = some k)
      (h : BodyStep c k a c') : StepCase c s a c'
  | stop {a : Answer} {c' : Connection} (m : Moves c.stopTasks c') : StepCase c .stopTasks a c'

private theorem read_cases (c : Connection) (k : Nat) : BodyStep c k (c.read k).1 (c.read k).2 := by
  rw [read]
  split
  · rename_i i x reply watcher done registered hlane
    obtain ⟨hk, h⟩ := laneOf?_eq_some_iff.mp hlane
    by_cases hdone : done = true
    · rw [readLane, if_pos hdone]
      exact .other .refl (by simp) (by simp)
    · have hpoll := pollBody_cases h rfl
      have hread := afterRead_moves h rfl
      have hlane' := lane?_afterRead h
      rw [readLane, if_neg hdone]
      generalize c.pollBody i = r at hpoll ⊢
      obtain ⟨item, done', c'⟩ := r
      rcases hpoll with - | ⟨m, htells, hl, hb⟩ | hc | - | ⟨-, ht⟩
      · exact .other (hread.trans (setCaller_body_moves hlane' rfl _)) (by simp) (by simp)
      · exact .failed m htells (setCaller_body_moves hl hb _)
      · obtain ⟨l', hl, hb, -⟩ := hc.lane?
        have hi := (Array.getElem?_eq_some_iff.mp h).1
        exact .completion hk hi rfl hread hc (setCaller_body_moves hl hb _) hc.channel hc.tracker
      · exact .other (hread.trans (setCaller_body_moves hlane' rfl _)) (by simp) (by simp)
      · exact .pending (hread.trans (setCaller_body_moves hlane' rfl _)) ht
  · exact .other .refl (by simp) (by simp)

private theorem drainOn_cases {k : Nat} (hk : c.calls[k]? = some (.admitted i))
    (h : c.lanes[i]? = some l) (hb : l.caller.hasBody = true) (collected : List Bytes) :
    BodyStep c k (answerDrain (c.drainOn i collected)).1
      (answerDrain (c.drainOn i collected)).2 := by
  have hdrain := drainWithin_cases (Nat.lt_succ_self (c.waitingItems i)) collected h hb
  rw [drainOn]
  generalize drainWithin i (c.waitingItems i + 1) collected c = r at hdrain ⊢
  obtain ⟨d, c'⟩ := r
  rcases hdrain with ⟨m, hc, m', hch, ht⟩ | ⟨m, htells, m'⟩ | m | ⟨m, ht⟩
  · exact .completion hk (Array.getElem?_eq_some_iff.mp h).1 rfl m hc m' hch ht
  · exact .failed m htells m'
  · exact .other m (by simp [answerDrain]) (by simp [answerDrain])
  · exact .pending m ht

private theorem drain_cases (c : Connection) (k : Nat) :
    BodyStep c k (c.drain k).1 (c.drain k).2 := by
  rw [drain]
  split
  · rename_i i l hlane
    obtain ⟨hk, h⟩ := laneOf?_eq_some_iff.mp hlane
    split
    · exact .other (setCaller_gone_moves c i) (by simp) (by simp)
    · rename_i hcaller
      exact drainOn_cases hk h (by rw [hcaller]; rfl) _
    · rename_i collected hcaller
      exact drainOn_cases hk h (by rw [hcaller]; rfl) _
    · exact .other .refl (by simp) (by simp)
  · exact .other .refl (by simp) (by simp)

private theorem asFacade_moves {act : Answer × Connection}
    (h : c.facade = true → Moves c act.2) : Moves c (c.asFacade act).2 := by
  rw [asFacade]
  split
  · rename_i hf
    exact h hf
  · exact .refl

private theorem callerStep_cases (c : Connection) (s : CallerStep) :
    StepCase c (.caller s) (c.callerStep s).1 (c.callerStep s).2 := by
  cases s with
  | request r =>
    rw [callerStep, asFacade]
    split
    · rename_i hf
      rcases request_cases hf r with ⟨why, e, href, heq⟩ | hadm
      · rw [heq]
        exact .moves rfl (.single (.refuse href))
      · exact .admission hadm .refl
    · exact .moves rfl .refl
  | await k => exact .moves rfl (await_moves c k)
  | dropResponse k => exact .moves rfl (dropResponse_moves c k)
  | read k => exact .body rfl (read_cases c k)
  | drain k => exact .body rfl (drain_cases c k)
  | dropBody k => exact .moves rfl (dropBody_moves c k)
  | snapshot k => exact .moves rfl .refl
  | watch => exact .moves rfl (asFacade_moves fun _ ↦ .single (.watches _))
  | pollWatch k =>
    rw [callerStep]
    split
    · split
      · exact .moves rfl .refl
      · exact .moves rfl (.single (.watches _))
    · exact .moves rfl .refl
  | waitIdle | stats | describe | pendingExchanges =>
    exact .moves rfl (asFacade_moves fun _ ↦ .refl)
  | drop => exact .moves rfl (asFacade_moves drop_moves)

theorem act_cases (c : Connection) (s : Step) : StepCase c s (c.act s).1 (c.act s).2 := by
  cases s with
  | caller s => exact callerStep_cases c s
  | peer s => exact .moves rfl (.single (.peer s))
  | poll t => exact .moves rfl (poll_moves c t)
  | settle => exact .moves rfl (settle_moves c)
  | stopTasks => exact .stop .refl

private theorem BodyStep.reclaim {k : Nat} {a : Answer} {c' : Connection}
    (h : BodyStep c k a c') : BodyStep c k a c'.reclaim := by
  have hreclaim := reclaim_moves c'
  rcases h with ⟨hk, hi, ha, m, h, m', hch, ht⟩ | ⟨m, h, m'⟩ | ⟨m, ht⟩ | ⟨m, hp, hf⟩
  · exact .completion hk hi ha m h (m'.trans hreclaim) ((channel_reclaim c').trans hch)
      ((tracker_reclaim c').trans ht)
  · exact .failed m h (m'.trans hreclaim)
  · exact .pending (m.trans hreclaim) ht
  · exact .other (m.trans hreclaim) hp hf

/-- What one step does. -/
theorem step_cases (c : Connection) (s : Step) : StepCase c s (c.step s).1 (c.step s).2 := by
  have hact := act_cases c s
  have hreclaim := reclaim_moves (c.act s).2
  rw [step]
  generalize c.act s = r at hact hreclaim ⊢
  obtain ⟨a, c'⟩ := r
  -- What is reclaimed after an act is reclaimed by moves, whatever the act.
  rcases hact with ⟨hs, m⟩ | ⟨h, m⟩ | ⟨hs, h⟩ | m
  · exact .moves hs (m.trans hreclaim)
  · exact .admission h (m.trans hreclaim)
  · exact .body hs h.reclaim
  · exact .stop (m.trans hreclaim)

/-- What a step does that polls a body. -/
theorem bodyStep_of_step {s : Step} {k : Nat} (hs : s.bodyCall? = some k) :
    BodyStep c k (c.step s).1 (c.step s).2 := by
  have hstep := step_cases c s
  generalize (c.step s).1 = a at hstep ⊢
  generalize (c.step s).2 = c' at hstep ⊢
  rcases hstep with ⟨hnone, -⟩ | ⟨-, -⟩ | ⟨hs', h⟩ | -
  · rw [hs] at hnone
    cases hnone
  · cases hs
  · cases hs.symm.trans hs'
    exact h
  · cases hs

/-- One change of a connection. -/
inductive Change (c c' : Connection) : Prop
  | move (h : Move c c')
  | admission {r : Request} (h : Admission c r c')
  | completion {i : Nat} (h : Completion c i c')
  | stop (h : c' = c.stopTasks)

/-- Any number of changes. -/
abbrev Changes : Connection → Connection → Prop := Relation.ReflTransGen Change

/-- What one change keeps, any number of changes keeps. -/
theorem Changes.keeps {P : Connection → Prop} (hP : ∀ c c', Change c c' → P c → P c')
    {c c' : Connection} (h : Changes c c') (hc : P c) : P c' := by
  induction h with
  | refl => exact hc
  | tail _ h ih => exact hP _ _ h ih

theorem Moves.changes {c c' : Connection} (m : Moves c c') : Changes c c' :=
  ReflTransGen.mono (p := Change) (fun _ _ h ↦ .move h) c c' m

theorem BodyStep.changes {k : Nat} {a : Answer} {c' : Connection} (h : BodyStep c k a c') :
    Changes c c' := by
  rcases h with ⟨-, -, -, m, h, m', -⟩ | ⟨m, -, m'⟩ | ⟨m, -⟩ | ⟨m, -, -⟩
  · exact (m.changes.tail (.completion h)).trans m'.changes
  · exact m.changes.trans m'.changes
  · exact m.changes
  · exact m.changes

theorem step_changes (c : Connection) (s : Step) : Changes c (c.step s).2 := by
  have hstep := step_cases c s
  generalize (c.step s).1 = a at hstep
  generalize (c.step s).2 = c' at hstep ⊢
  rcases hstep with ⟨-, m⟩ | ⟨h, m⟩ | ⟨-, h⟩ | m
  · exact m.changes
  · exact (ReflTransGen.single (.admission h)).trans m.changes
  · exact h.changes
  · exact (ReflTransGen.single (.stop rfl)).trans m.changes

theorem run_changes (c : Connection) (steps : List Step) : Changes c (c.run steps) := by
  induction steps generalizing c with
  | nil => exact .refl
  | cons s steps ih => exact (step_changes c s).trans (ih _)

end Connection

end BoundedPipelining
