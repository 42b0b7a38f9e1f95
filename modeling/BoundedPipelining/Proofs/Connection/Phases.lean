import BoundedPipelining.Proofs.Connection.Deliveries
import BoundedPipelining.Proofs.Connection.GateUse
import Mathlib.Data.List.Chain

/-!
# The phases an exchange goes through

The order of phases allows an exchange to skip some of them: it may complete as soon as it is
dispatched. That the exchanges of a connection skip none is due to who advances them and when. The
dispatch task hands the head over in the poll in which it moves the exchange to its headers, and
only with the head does a caller get the body; a poll of the body marks the exchange as draining
before it looks at the payload, and only the end of the payload completes it.

A step can take an exchange through several phases: it may poll many tasks, and a drain polls the
body many times. So the run is cut finer than into steps. `stages` lists the states that a step goes
through, one for each poll of a task, and two for each poll of a body, before and after it looks at
the payload. From one stage to the next every exchange stays in its phase or moves along one edge of
the diagram (`Stride`).
-/

namespace BoundedPipelining

/-! ## The diagram -/

/-- The moves from phase to phase that the exchanges of a connection make. -/
inductive Progress.Edge : Progress → Progress → Prop
  | headers : Edge dispatched headersReceived
  | draining : Edge headersReceived payloadDraining
  | completion : Edge payloadDraining completed
  | failure {p : Progress} {e : ClassifiedError} (h : p.phase.holdsSlot = true) : Edge p (failed e)

/-- An exchange stays in its phase or moves along an edge. -/
def Progress.Goes (p q : Progress) : Prop := q = p ∨ Edge p q

namespace Exchange

variable {x : Exchange}

theorem fail_goes (x : Exchange) (e : ClassifiedError) (b : Books) :
    x.progress.Goes (x.fail e b).2.1.progress := by
  rcases x.fail_cases e b with ⟨_, -, heq⟩ | ⟨-, heq⟩ | ⟨hs, heq⟩
  · exact Or.inl (by rw [heq])
  · exact Or.inl (by rw [heq])
  · rw [heq, progress_settle]
    exact Or.inr (.failure hs)

theorem headersReceived_goes (x : Exchange) (b : Books) :
    x.progress.Goes (x.headersReceived b).2.1.progress := by
  rcases x.headersReceived_cases b with ⟨_, -, heq⟩ | ⟨hp, heq⟩ | ⟨-, -, _, heq⟩
  · exact Or.inl (by rw [heq])
  · rw [heq, hp]
    exact Or.inr .headers
  · exact Or.inl (by rw [heq])

theorem draining_goes (x : Exchange) : x.progress.Goes x.draining.progress := by
  obtain ⟨_, progress, _, _⟩ := x
  cases progress with
  | headersReceived => exact Or.inr .draining
  | dispatched | payloadDraining | completed | failed => exact Or.inl rfl

@[simp] theorem draining_draining (x : Exchange) : x.draining.draining = x.draining := by
  obtain ⟨_, progress, _, _⟩ := x
  cases progress <;> rfl

/-- An exchange that is past its headers and whose payload is taken has no other phase to be in. -/
theorem progress_draining_eq (h : x.progress ≠ .dispatched) (hs : x.phase.holdsSlot = true) :
    x.draining.progress = .payloadDraining := by
  obtain ⟨_, progress, _, _⟩ := x
  cases progress with
  | dispatched => exact absurd rfl h
  | headersReceived | payloadDraining => rfl
  | completed | failed => cases hs

end Exchange

/-- A watcher fails its exchange or leaves it in its phase. -/
theorem Watch.poll_goes {w : Watch} (hw : w.isLive = true) (who : Waiter) (x : Exchange)
    (terminal : Option ClassifiedError) (b : Books) :
    x.progress.Goes (w.poll who x terminal b).2.1.progress := by
  obtain ⟨n, -, ⟨heq, -⟩ | ⟨-, heq⟩ | ⟨e, -, heq⟩⟩ := w.poll_cases hw who x terminal b
  · exact Or.inl (by rw [heq])
  · exact Or.inl (by rw [heq])
  · rw [heq]
    exact ({ x with settled := n } : Exchange).fail_goes e b

namespace Connection

variable {c c' c₁ c₂ : Connection} {i k : Nat} {l l' : Lane} {s : Step}

/-! ## One stage to the next -/

/-- Where the exchange of lane `i` stands. -/
def progress? (c : Connection) (i : Nat) : Option Progress :=
  (c.lanes[i]?).map fun l ↦ l.exchange.progress

/-- A lane that is there stays in its phase or moves along an edge, and a new one is dispatched. -/
inductive Goes : Option Progress → Option Progress → Prop
  | kept (p : Option Progress) : Goes p p
  | edge {p q : Progress} (h : p.Edge q) : Goes (some p) (some q)
  | admitted : Goes none (some .dispatched)

/-- Every exchange stays in its phase. -/
def Stays (c c' : Connection) : Prop := ∀ i, c'.progress? i = c.progress? i

/-- No exchange moves along more than one edge. -/
def Advances (c c' : Connection) : Prop := ∀ i, Goes (c.progress? i) (c'.progress? i)

theorem Stays.trans (h₁ : Stays c c₁) (h₂ : Stays c₁ c₂) : Stays c c₂ :=
  fun i ↦ (h₂ i).trans (h₁ i)

theorem Stays.advances (h : Stays c c') : Advances c c' := by
  intro i
  rw [h i]
  exact .kept _

theorem Advances.trans_stays (h₁ : Advances c c₁) (h₂ : Stays c₁ c₂) : Advances c c₂ := by
  intro i
  rw [h₂ i]
  exact h₁ i

theorem Stays.trans_advances (h₁ : Stays c c₁) (h₂ : Advances c₁ c₂) : Advances c c₂ := by
  intro i
  rw [← h₁ i]
  exact h₂ i

theorem stays_of_lanes (h : c'.lanes = c.lanes) : Stays c c' := by
  intro i
  rw [progress?, progress?, h]

theorem stays_onLane (c : Connection) (i : Nat) {f : Lane → Lane}
    (hf : ∀ l, (f l).exchange.progress = l.exchange.progress) : Stays c (c.onLane i f) := by
  intro j
  rw [progress?, progress?, onLane, Array.getElem?_modify]
  split
  · rw [Option.map_map]
    exact congrArg (fun g ↦ Option.map g c.lanes[j]?) (funext hf)
  · rfl

theorem stays_reclaim (c : Connection) : Stays c c.reclaim := by
  by_cases hr : c.running = true
  · rw [reclaim, if_pos hr]
    exact stays_of_lanes rfl
  · intro i
    rw [progress?, progress?, lanes_reclaim (Bool.not_eq_true _ |>.mp hr), Array.getElem?_map,
      Option.map_map]
    refine congrArg (fun g ↦ Option.map g c.lanes[i]?) (funext fun l ↦ ?_)
    rw [Function.comp_apply, letGo]
    split <;> rfl

theorem advances_onLane (h : c.lanes[i]? = some l) {f : Lane → Lane}
    (hf : l.exchange.progress.Goes (f l).exchange.progress) : Advances c (c.onLane i f) := by
  intro j
  rw [onLane_eq_put h, progress?, progress?]
  by_cases hij : i = j
  · subst hij
    rw [lane?_put_self h, h, Option.map_some, Option.map_some]
    rcases hf with hf | hf
    · rw [hf]
      exact .kept _
    · exact .edge hf
  · rw [lane?_put_ne hij]
    exact .kept _

theorem advances_putExchange (h : c.lanes[i]? = some l) {x : Exchange}
    (hx : l.exchange.progress.Goes x.progress) (b : Books) :
    Advances c (c.putExchange i x b) :=
  (advances_onLane h (f := fun l ↦ { l with exchange := x }) hx).trans_stays (stays_of_lanes rfl)

theorem advances_failExchange (c : Connection) (i : Nat) (e : ClassifiedError) :
    Advances c (c.failExchange i e).2 := by
  rw [failExchange]
  split
  · exact (stays_of_lanes rfl).advances
  · rename_i l h
    exact advances_putExchange h (l.exchange.fail_goes e c.books) _

/-! ## The tasks -/

private theorem stays_reply (c : Connection) (i : Nat) (r : Reply) : Stays c (c.reply i r) :=
  stays_onLane c i fun _ ↦ rfl

private theorem stays_setCaller (c : Connection) (i : Nat) (k : Caller) :
    Stays c (c.setCaller i k) := stays_onLane c i fun _ ↦ rfl

private theorem advances_acceptHead (h : c.lanes[i]? = some l) (head : Head) :
    Advances c (c.acceptHead i l head) := by
  have hput := advances_putExchange h (l.exchange.headersReceived_goes c.books)
    (l.exchange.headersReceived c.books).2.2
  simp only [acceptHead]
  split
  · exact hput.trans_stays (stays_reply _ i _)
  · exact hput.trans_stays (stays_reply _ i _)
  · refine hput.trans_stays (Stays.trans ?_ (stays_reply _ i _))
    split <;> exact stays_of_lanes rfl

private theorem advances_pollDispatch (c : Connection) (i : Nat) :
    Advances c (c.pollDispatch i) := by
  have hkept : Advances c c := (stays_of_lanes rfl).advances
  rw [pollDispatch]
  split
  · exact hkept
  · rename_i l h
    split
    · split
      · exact advances_acceptHead h _
      · exact (Stays.trans_advances (stays_of_lanes rfl)
          (advances_failExchange (c.close (some _)).2 i _)).trans_stays (stays_reply _ i _)
      · split
        · exact hkept
        · exact (advances_failExchange c i _).trans_stays (stays_reply _ i _)
    · exact hkept

private theorem advances_pollWatcher (c : Connection) (i : Nat) :
    Advances c (c.pollWatcher i) := by
  have hkept : Advances c c := (stays_of_lanes rfl).advances
  rw [pollWatcher]
  split
  · exact hkept
  · rename_i l h
    split
    · rename_i hw
      have hgoes := Watch.poll_goes hw (.watcher i) l.exchange c.tracker.terminal? c.books
      generalize l.watcher.poll (.watcher i) l.exchange c.tracker.terminal? c.books = r at hgoes ⊢
      obtain ⟨w, x, b⟩ := r
      exact (advances_onLane h (f := fun l ↦
        { l with exchange := x, watcher := w, registered := l.registered && w.isLive })
          hgoes).trans_stays (stays_of_lanes rfl)
    · exact hkept

theorem advances_poll (c : Connection) : ∀ t : Task, Advances c (c.poll t)
  | .monitor => (stays_of_lanes rfl).advances
  | .dispatch i => advances_pollDispatch c i
  | .watcher i => advances_pollWatcher c i

/-! ## The stages of a step -/

/-- The tasks of a connection, in the order in which a round polls them. -/
def tasks (c : Connection) : List Task :=
  .monitor :: (List.range c.lanes.size).flatMap fun i ↦ [.dispatch i, .watcher i]

/-- The states after each poll of these tasks. -/
def turns (c : Connection) : List Task → List Connection
  | [] => []
  | t :: ts => c.poll t :: turns (c.poll t) ts

/-- The states after each poll of at most `n` rounds. -/
def roundTurns : Nat → Connection → List Connection
  | 0, _ => []
  | n + 1, c =>
    c.turns c.tasks ++ if c.round.unfinished < c.unfinished then roundTurns n c.round else []

/-- The connection when the exchange of lane `i` was marked as draining. -/
def marked (c : Connection) (i : Nat) : Connection :=
  c.onLane i fun l ↦ { l with exchange := l.exchange.draining }

/-- The states of at most `n` polls of the body of lane `i`: when the exchange was marked as
draining and the payload was not looked at yet, and after the poll. -/
def pollStages (i : Nat) : Nat → Connection → List Connection
  | 0, _ => []
  | n + 1, c =>
    c.marked i :: c.afterPoll i ::
      match (c.sight i).item with
      | .chunk _ => pollStages i n (c.afterPoll i)
      | _ => []

/-- The states that a step goes through, up to the one that it leaves. -/
def stages (c : Connection) (s : Step) : List Connection :=
  (match s, c.polling? s with
    | .settle, _ => roundTurns (c.unfinished + 1) c
    | _, some (i, n) => pollStages i n c
    | _, none => []) ++ [(c.step s).2]

/-- The states that a run goes through after its first. -/
def course : Connection → List Step → List Connection := history stages

/-- From one stage to the next: no exchange moves along more than one edge. -/
structure Stride (c c' : Connection) : Prop where
  changes : Changes c c'
  advances : Advances c c'

/-- A connection goes through these states, the last of which is the one given. -/
inductive Passes : Connection → List Connection → Connection → Prop
  | nil {c : Connection} : Passes c [] c
  | cons {c c₁ c' : Connection} {cs : List Connection} (h : Stride c c₁) (t : Passes c₁ cs c') :
      Passes c (c₁ :: cs) c'

theorem Passes.single (h : Stride c c') : Passes c [c'] c' := .cons h .nil

theorem Passes.append {cs cs' : List Connection} (h : Passes c cs c₁) (h' : Passes c₁ cs' c₂) :
    Passes c (cs ++ cs') c₂ := by
  induction h with
  | nil => exact h'
  | cons hs _ ih => exact .cons hs (ih h')

/-! ### Polls of tasks -/

theorem turns_passes (ts : List Task) (c : Connection) :
    Passes c (c.turns ts) (ts.foldl poll c) := by
  induction ts generalizing c with
  | nil => exact .nil
  | cons t ts ih => exact .cons ⟨(poll_moves c t).changes, advances_poll c t⟩ (ih _)

theorem round_eq (c : Connection) : c.round = c.tasks.foldl poll c := by
  have hlanes (lanes : List Nat) (c : Connection) :
      lanes.foldl (fun c i ↦ (c.pollDispatch i).pollWatcher i) c
        = (lanes.flatMap fun i ↦ [Task.dispatch i, .watcher i]).foldl poll c := by
    induction lanes generalizing c with
    | nil => rfl
    | cons i lanes ih =>
      rw [List.foldl_cons, ih, List.flatMap_cons, List.foldl_append]
      rfl
  exact hlanes _ c.pollMonitor

theorem rounds_passes (n : Nat) (c : Connection) : Passes c (roundTurns n c) (rounds n c) := by
  induction n generalizing c with
  | zero => exact .nil
  | succ n ih =>
    have hround : Passes c (c.turns c.tasks) c.round := round_eq c ▸ turns_passes c.tasks c
    rw [roundTurns, rounds]
    by_cases hless : c.round.unfinished < c.unfinished
    · rw [if_pos hless]
      simp only [if_pos hless]
      exact hround.append (ih _)
    · rw [if_neg hless]
      simp only [if_neg hless]
      rwa [List.append_nil]

/-! ### Polls of a body -/

private theorem BodyPoll.changes {item : BodyItem} {done : Bool} (hl : c.lanes[i]? = some l)
    (hb : l.caller.hasBody = true) (h : BodyPoll c i l item done c') : Changes c c' := by
  have hread := (afterRead_moves hl hb).changes
  rcases h with - | ⟨m, -, -, -⟩ | h | - | -
  · exact hread
  · exact m.changes
  · exact hread.tail (.completion h)
  · exact hread
  · exact hread

theorem lane?_marked (hl : c.lanes[i]? = some l) :
    (c.marked i).lanes[i]? = some { l with exchange := l.exchange.draining } := by
  rw [marked, onLane_eq_put hl]
  exact lane?_put_self hl _ _

/-- A poll of a body marks its exchange as draining, and goes on as if it had been. -/
theorem pollBody_marked (hl : c.lanes[i]? = some l) : (c.marked i).pollBody i = c.pollBody i := by
  have hagain : (c.marked i).onLane i (fun l ↦ { l with exchange := l.exchange.draining })
      = c.marked i := by
    rw [onLane_eq_put (lane?_marked hl), marked, onLane_eq_put hl, put_put,
      Exchange.draining_draining]
    rfl
  cases hf : l.exchange.failure? with
  | some e =>
    have hsame : c.marked i = c := by
      rw [marked, onLane_eq_put hl,
        Exchange.draining_of_isTerminal (Exchange.isTerminal_of_failure? hf)]
      exact put_exchange_self hl
    rw [hsame]
  | none =>
    have hf' : l.exchange.draining.failure? = none := by rw [Exchange.failure?_draining, hf]
    rw [pollBody, lane?_marked hl]
    simp only [hf', hagain]
    rw [pollBody, hl]
    simp only [hf]
    rfl

private theorem Looked.advances {x : Exchange} (hc : Looked c i l x c') (hl : c.lanes[i]? = some l)
    (hx : l.exchange.progress.Goes x.progress) : Advances c c' := by
  refine (advances_putExchange hl hx c.books).trans_stays (stays_of_lanes ?_)
  rw [hc.lanes, putExchange_eq_put hl]
  rfl

/-- A poll of a body whose exchange was marked as draining moves it along one edge at most. -/
private theorem BodySight.advances {s : Sight} (hs : BodySight c i l s c')
    (hl : c.lanes[i]? = some l) (hmarked : l.exchange.draining = l.exchange)
    (hp : l.exchange.progress ≠ .dispatched) : Advances c c' := by
  have hfails {x : Exchange} {e : ClassifiedError} (hslot : l.exchange.phase.holdsSlot = true)
      (hx : x.failure? = some e) : l.exchange.progress.Goes x.progress := by
    rw [Exchange.failure?_eq_some_iff.mp hx]
    exact Or.inr (.failure hslot)
  cases hs with
  | kept => exact (stays_of_lanes rfl).advances
  | chunk _ _ hc | pending _ _ hc => exact hc.advances hl (Or.inl (by rw [hmarked]))
  | broken hslot _ hx hc | told hslot _ hx hc => exact hc.advances hl (hfails hslot hx)
  | ended hslot _ hx hc =>
    refine hc.advances hl ?_
    rw [← hmarked, Exchange.progress_draining_eq hp hslot, hx]
    exact Or.inr .completion

/-- One poll of a body is two strides: marking its exchange, and the poll itself. -/
private theorem afterPoll_passes (hh : HandedOver c) (hl : c.lanes[i]? = some l)
    (hb : l.caller.hasBody = true) (hp : l.exchange.progress ≠ .completed) :
    Passes c [c.marked i, c.afterPoll i] (c.afterPoll i) := by
  have hmarked := lane?_marked hl
  have hmark : Stride c (c.marked i) := by
    refine ⟨?_, advances_onLane hl l.exchange.draining_goes⟩
    rw [marked, onLane_eq_put hl]
    exact (Moves.lane hl (.draining hb)).changes
  have hdispatched : l.exchange.draining.progress ≠ .dispatched := by
    obtain ⟨head, hr⟩ := ((hh.changes hmark.changes) i _ hmarked).body hb
    exact ((hh.changes hmark.changes i _ hmarked).head head hr).1
  have hpoll : Stride (c.marked i) (c.afterPoll i) := by
    rw [afterPoll, ← pollBody_marked hl]
    refine ⟨(pollBody_cases hmarked hb).changes hmarked hb, ?_⟩
    exact (pollBody_sight hmarked fun h ↦ hp (Exchange.completed_draining_iff.mp h)).1.advances
      hmarked (Exchange.draining_draining _) hdispatched
  exact .cons hmark (.single hpoll)

/-- The polls of a step, as long as chunks come. -/
private theorem polled_passes (hh : HandedOver c) (hl : c.lanes[i]? = some l)
    (hb : l.caller.hasBody = true) (hp : l.exchange.progress ≠ .completed) (n : Nat) :
    Passes c (pollStages i n c) (polled i n c) ∧
      ∃ l', (polled i n c).lanes[i]? = some l' ∧ l'.caller.hasBody = true := by
  induction n generalizing c l with
  | zero => exact ⟨.nil, l, hl, hb⟩
  | succ n ih =>
    have hpoll := afterPoll_passes hh hl hb hp
    obtain ⟨hsight, -⟩ := pollBody_sight hl hp
    obtain ⟨x, hx, hkept⟩ := hsight.lane? hl
    rw [pollStages, polled]
    cases hitem : (c.sight i).item with
    | chunk bytes =>
      have hp' : x.progress ≠ .completed := by
        rw [hkept (by rw [hitem]; rfl)]
        exact fun h ↦ hp (Exchange.completed_draining_iff.mp h)
      have hh' : HandedOver (c.afterPoll i) :=
        hh.changes ((pollBody_cases hl hb).changes hl hb)
      obtain ⟨hrest, l', hl', hb'⟩ := ih hh' hx hb hp'
      exact ⟨hpoll.append hrest, l', hl', hb'⟩
    | failed _ | ended | pending | violation _ _ => exact ⟨hpoll, _, hx, hb⟩

/-! ### Steps that poll no body -/

private theorem advances_self (c : Connection) : Advances c c := (stays_of_lanes rfl).advances

private theorem advances_admitted (c : Connection) (r : Request) : Advances c (c.admitted r) := by
  intro i
  rw [progress?, progress?, admitted, Array.getElem?_push]
  split
  · rename_i hi
    have hnew : (c.newLane c.sequence.next.1).exchange.progress = .dispatched := by
      rw [newLane]
      split <;> rfl
    rw [Array.getElem?_eq_none (Nat.le_of_eq hi.symm), Option.map_some, hnew]
    exact .admitted
  · exact .kept _

private theorem advances_asFacade {act : Answer × Connection}
    (h : c.facade = true → Advances c act.2) : Advances c (c.asFacade act).2 := by
  rw [asFacade]
  split
  · rename_i hf
    exact h hf
  · exact advances_self c

private theorem advances_awaitLane (c : Connection) (i : Nat) (l : Lane) :
    Advances c (c.awaitLane i l).2 := by
  rw [awaitLane]
  split
  · exact advances_self c
  · exact (stays_setCaller c i _).advances
  · exact (stays_setCaller c i _).advances
  · split
    · exact advances_self c
    · exact (advances_failExchange c i _).trans_stays (stays_setCaller _ i _)

private theorem advances_await (c : Connection) (k : Nat) : Advances c (c.await k).2 := by
  rw [await]
  split
  · exact (stays_of_lanes rfl).advances
  · split
    · split
      · exact advances_awaitLane c _ _
      · exact advances_self c
    · exact advances_self c

private theorem stays_dropResponse (c : Connection) (k : Nat) : Stays c (c.dropResponse k).2 := by
  rw [dropResponse]
  split
  · exact stays_of_lanes rfl
  · split
    · split
      · exact stays_setCaller c _ _
      · exact stays_of_lanes rfl
    · exact stays_of_lanes rfl

private theorem stays_dropBody (c : Connection) (k : Nat) : Stays c (c.dropBody k).2 := by
  rw [dropBody]
  split
  · split
    · exact stays_setCaller c _ _
    · exact stays_setCaller c _ _
    · exact stays_of_lanes rfl
  · exact stays_of_lanes rfl

private theorem stays_read (h : c.polling? (.caller (.read k)) = none) : Stays c (c.read k).2 := by
  rw [read]
  split
  · rename_i i x reply watcher done registered hlane
    cases done with
    | true => exact stays_of_lanes rfl
    | false => simp [polling?, hlane] at h
  · exact stays_of_lanes rfl

private theorem stays_drain (h : c.polling? (.caller (.drain k)) = none) :
    Stays c (c.drain k).2 := by
  rw [drain]
  split
  · rename_i i l hlane
    split
    · exact stays_setCaller c i _
    · rename_i hk
      simp [polling?, hlane, hk] at h
    · rename_i hk
      simp [polling?, hlane, hk] at h
    · exact stays_of_lanes rfl
  · exact stays_of_lanes rfl

private theorem advances_callerStep {t : CallerStep} (h : c.polling? (.caller t) = none) :
    Advances c (c.callerStep t).2 := by
  cases t with
  | request r =>
    refine advances_asFacade fun hf ↦ ?_
    rcases request_cases hf r with ⟨why, e, -, heq⟩ | hadm
    · rw [heq]
      exact (stays_of_lanes rfl).advances
    · exact hadm.eq ▸ advances_admitted c r
  | await k => exact advances_await c k
  | dropResponse k => exact (stays_dropResponse c k).advances
  | read k => exact (stays_read h).advances
  | drain k => exact (stays_drain h).advances
  | dropBody k => exact (stays_dropBody c k).advances
  | snapshot k => exact advances_self c
  | watch => exact advances_asFacade fun _ ↦ (stays_of_lanes rfl).advances
  | pollWatch k =>
    rw [callerStep]
    split
    · split
      · exact advances_self c
      · exact (stays_of_lanes rfl).advances
    · exact advances_self c
  | waitIdle | stats | describe | pendingExchanges =>
    exact advances_asFacade fun _ ↦ advances_self c
  | drop => exact advances_asFacade fun _ ↦ (stays_of_lanes rfl).advances

private theorem stays_stopTasks (c : Connection) : Stays c c.stopTasks := by
  intro i
  rw [progress?, progress?, stopTasks, Array.getElem?_map, Option.map_map]
  rfl

/-- A step that neither settles nor polls a body moves no exchange along more than one edge. -/
private theorem advances_step (hs : s ≠ .settle) (h : c.polling? s = none) :
    Advances c (c.step s).2 := by
  refine Advances.trans_stays ?_ (stays_reclaim (c.act s).2)
  cases s with
  | caller t => exact advances_callerStep h
  | peer p => exact (stays_of_lanes rfl).advances
  | poll t => exact advances_poll c t
  | settle => exact absurd rfl hs
  | stopTasks => exact (stays_stopTasks c).advances

/-! ### Every step and every run -/

/-- A step goes through its stages. -/
theorem step_passes (hh : HandedOver c) (hu : Unfinished c) (s : Step) :
    Passes c (c.stages s) (c.step s).2 := by
  rw [stages.eq_def]
  split
  · -- After the last poll the step only clears up.
    exact (rounds_passes _ c).append
      (.single ⟨(reclaim_moves c.settle).changes, (stays_reclaim c.settle).advances⟩)
  · rename_i i n hs hpolling
    obtain ⟨k, l, -, hlane, hb, ho⟩ := polling?_eq_some hpolling
    have hl := (laneOf?_eq_some_iff.mp hlane).2
    obtain ⟨hpasses, l', hl', hb'⟩ := polled_passes hh hl hb (hu i l hl ho) n
    obtain ⟨k', -, heq⟩ := step_of_polling hpolling hl (hu i l hl ho)
    refine hpasses.append (.single ⟨?_, ?_⟩)
    · rw [heq]
      exact (setCaller_body_moves hl' hb' k').changes.trans (reclaim_moves _).changes
    · rw [heq]
      exact ((stays_setCaller _ i k').trans (stays_reclaim _)).advances
  · rename_i s _ _ hs hpolling
    exact .single ⟨step_changes c s, advances_step hs hpolling⟩

/-- A run goes through its course. -/
theorem run_passes (hh : HandedOver c) (hu : Unfinished c) (steps : List Step) :
    Passes c (c.course steps) (c.run steps) := by
  induction steps generalizing c with
  | nil => exact .nil
  | cons s steps ih => exact (step_passes hh hu s).append (ih (hh.step s) (hu.step hh s))

theorem Passes.isChain {cs : List Connection} (h : Passes c cs c') :
    (c :: cs).IsChain Advances := by
  induction h with
  | nil => exact List.isChain_singleton _
  | cons hs t ih => exact .cons_cons hs.advances ih

theorem Passes.changes_of_mem {cs : List Connection} (h : Passes c cs c') (hc : c₁ ∈ cs) :
    Changes c c₁ := by
  induction h with
  | nil => cases hc
  | cons hs _ ih =>
    rcases List.mem_cons.mp hc with rfl | hc
    · exact hs.changes
    · exact hs.changes.trans (ih hc)

/-! ## Nothing is advanced against the order -/

/-- A poll of the dispatch task of lane `i` would move its exchange to the headers against the order
of phases. -/
def HeadOutOfOrder (c : Connection) (i : Nat) : Prop :=
  ∃ l head e, c.lanes[i]? = some l ∧ l.reply = .awaited ∧ c.channel.result? i = some (.ok head) ∧
    (l.exchange.headersReceived c.books).1 = .violation e

theorem HandedOver.not_headOutOfOrder (hc : HandedOver c) (i : Nat) : ¬ HeadOutOfOrder c i := by
  rintro ⟨l, head, e, hl, hr, -, hviolation⟩
  rcases l.exchange.headersReceived_cases c.books with ⟨_, -, heq⟩ | ⟨-, heq⟩ | ⟨hp, hf, -, -⟩
  · rw [heq] at hviolation
    cases hviolation
  · rw [heq] at hviolation
    cases hviolation
  · -- What has handed nothing over is dispatched still, or has failed.
    rcases (hc i l hl).none (by simp [hr]) with hp' | ⟨e', hf'⟩
    · exact hp hp'
    · rw [hf] at hf'
      cases hf'

/-- No poll of a body completes its exchange against the order of phases. -/
private theorem BodyPolls.ne_violation {ss : List Sight} (h : BodyPolls i c l ss c' l') {s : Sight}
    (hs : s ∈ ss) (e : TransitionError) (id : ExchangeId) : s.item ≠ .violation e id := by
  intro hitem
  have hgoes {s : Sight} (hs : s.GoesOn) : s.item ≠ .violation e id := by
    rcases hs.item with hitem | ⟨bytes, hitem⟩
    · simp [hitem]
    · simp [hitem]
  rcases h.goesOn_or_ends with hall | ⟨before, last, rfl, hbefore, hlast⟩
  · exact hgoes (hall s hs) hitem
  · rcases List.mem_append.mp hs with hs | hs
    · exact hgoes (hbefore s hs) hitem
    · rw [List.mem_singleton.mp hs] at hitem
      cases hlast with
      | failed | ended => cases hitem

private theorem asFacade_fst {act : Answer × Connection} {e : TransitionError} {id : ExchangeId}
    (h : act.1 ≠ .violation e id) : (c.asFacade act).1 ≠ .violation e id := by
  rw [asFacade]
  split
  · exact h
  · simp

private theorem act_ne_violation (h : c.polling? s = none) (e : TransitionError)
    (id : ExchangeId) : (c.act s).1 ≠ .violation e id := by
  cases s with
  | caller t =>
    change (c.callerStep t).1 ≠ _
    cases t with
    | request r =>
      refine asFacade_fst ?_
      rw [request]
      split
      · simp [turnAway]
      · split
        · simp [turnAway]
        · split <;> simp [turnAway]
    | await k =>
      rw [callerStep, await]
      split
      · simp
      · split
        · split
          · rw [awaitLane]
            split
            · simp
            · simp
            · simp
            · split <;> simp
          · simp
        · simp
    | dropResponse k =>
      rw [callerStep, dropResponse]
      split
      · simp
      · split
        · split <;> simp
        · simp
    | read k =>
      rw [callerStep, read]
      split
      · rename_i i x reply watcher done registered hlane
        cases done with
        | true => simp [readLane]
        | false => simp [polling?, hlane] at h
      · simp
    | drain k =>
      rw [callerStep, drain]
      split
      · rename_i i l hlane
        split
        · simp
        · rename_i hk
          simp [polling?, hlane, hk] at h
        · rename_i hk
          simp [polling?, hlane, hk] at h
        · simp
      · simp
    | dropBody k =>
      rw [callerStep, dropBody]
      split
      · split <;> simp
      · simp
    | snapshot k =>
      rw [callerStep, snapshot]
      split
      · split <;> simp
      · simp
    | pollWatch k =>
      rw [callerStep]
      split
      · split <;> simp
      · simp
    | watch | waitIdle | stats | describe | pendingExchanges | drop => exact asFacade_fst (by simp)
  | peer _ | poll _ | settle | stopTasks => simp [act]

/-- No step answers that an exchange was completed against the order of phases. -/
theorem step_ne_violation (hu : Unfinished c) (s : Step) (e : TransitionError) (id : ExchangeId) :
    (c.step s).1 ≠ .violation e id := by
  cases hpolling : c.polling? s with
  | none => exact act_ne_violation hpolling e id
  | some p =>
    obtain ⟨i, n⟩ := p
    obtain ⟨k, l, -, hlane, -, ho⟩ := polling?_eq_some hpolling
    have hl := (laneOf?_eq_some_iff.mp hlane).2
    obtain ⟨l', -, hpolls⟩ := bodyPolls_sights hl (hu i l hl ho) n
    obtain ⟨k', hend, -⟩ := step_of_polling hpolling hl (hu i l hl ho)
    intro ha
    rw [ha] at hend
    generalize hviolation : Answer.violation e id = a at hend
    cases hend with
    | @read _ x _ hss =>
      refine hpolls.ne_violation (hss ▸ List.mem_singleton_self x) e id ?_
      cases hitem : x.item with
      | violation =>
        rw [hitem] at hviolation
        cases hviolation
        rfl
      | chunk | failed | ended | pending =>
        rw [hitem] at hviolation
        cases hviolation
    | @drain _ _ d _ _ hend =>
      cases hend with
      | violation hsaw =>
        obtain ⟨x, hx, hitem⟩ := hsaw
        exact hpolls.ne_violation hx _ _ hitem
      | pending | bytes | failed => cases hviolation

/-- **The phases of an exchange.** Along the course of every run each exchange, once it is
dispatched, stays in its phase or moves along one edge of the diagram from one state to the next. No
contract is broken on the way: the headers never come to an exchange that is past them, in no state
of the course; no exchange is completed against the order of phases, in no step; and the gate is
used as its contract demands, with no slot given back that is not taken and no ticket released
elsewhere. -/
theorem phases_in_order (d : Depth) (policy : ClosingPolicy) (steps : List Step) :
    let c := ofDepth d policy
    (∀ i, ((c :: c.course steps).map fun x ↦ x.progress? i).IsChain Goes) ∧
    (∀ x ∈ c :: c.course steps, ∀ i, ¬ HeadOutOfOrder x i) ∧
    (∀ s e id, ((c.run steps).step s).1 ≠ .violation e id) ∧
    ∃ uses, Gates.ProperUses d uses ∧
      Mirrors ((Gates.ofDepths [d]).run uses) (c.run steps) := by
  intro c
  have hh : HandedOver c := handedOver_ofDepth d policy
  have hpasses := run_passes hh (unfinished_run d policy []) steps
  refine ⟨fun i ↦ ?_, ?_, step_ne_violation (unfinished_run d policy steps),
    gate_used d policy steps⟩
  · exact List.isChain_map_of_isChain _ (fun _ _ h ↦ h i) hpasses.isChain
  · rw [List.forall_mem_cons]
    exact ⟨hh.not_headOutOfOrder, fun x hx ↦
      (hh.changes (hpasses.changes_of_mem hx)).not_headOutOfOrder⟩

/-- A body is drained: within the drain its exchange goes through the last two phases. -/
theorem phases_in_order_of_drain :
    let c := ofDepth ⟨1, by decide⟩ .accept
    let steps : List Step := [.caller (.request ⟨"GET", "/a", []⟩), .peer .next,
      .peer (.respondWith 0 {} [104]), .poll (.dispatch 0), .caller (.await 0), .caller (.drain 0)]
    let phases := (c :: c.course steps).map fun x ↦ x.progress? 0
    phases.IsChain Goes ∧
    phases = [none, some .dispatched, some .dispatched, some .dispatched, some .headersReceived,
      some .headersReceived, some .payloadDraining, some .payloadDraining, some .payloadDraining,
      some .completed, some .completed] := by
  intro c steps phases
  exact ⟨(phases_in_order ⟨1, by decide⟩ .accept steps).1 0, by decide +kernel⟩

end Connection

end BoundedPipelining
