import BoundedPipelining.Connection.Body
import BoundedPipelining.Connection.Tasks

/-!
# Everything that can happen to a connection

A step is something a caller does, something the peer does, or a poll of one background task. A run
is a list of steps, in any order; `settle` is the run in which every task gets its turn until none
can move.

A request is decided by the call itself, in this order: a closed connection answers with its
terminal error, a closing one may turn the request away, a full gate refuses it, and otherwise it
is admitted and written. A refused request is counted under its reason and changes nothing else.
-/

namespace BoundedPipelining

namespace Connection

/-- What a caller can do. -/
inductive CallerStep where
  | request (r : Request)
  | await (call : Nat)
  | dropResponse (call : Nat)
  | read (call : Nat)
  | drain (call : Nat)
  | dropBody (call : Nat)
  | snapshot (call : Nat)
  | watch
  | pollWatch (watch : Nat)
  | waitIdle
  | stats
  | describe
  | pendingExchanges
  | drop

/-- One step of a run. -/
inductive Step where
  | caller (s : CallerStep)
  | peer (s : Channel.PeerStep)
  | poll (t : Task)
  | settle
  | stopTasks

/-- What is learnt from a step. -/
inductive Answer where
  | peer (a : Channel.PeerAnswer)
  | call (number : Nat)
  | head (h : Head)
  | failed (e : ConnectionError)
  | chunk (bytes : Bytes)
  | bodyFailed (e : ClassifiedError)
  | ended
  | drained (bytes : Bytes)
  /-- An exchange whose body is held, and whether that body is done. -/
  | snapshot (x : Exchange) (done : Bool)
  | watch (number : Nat)
  | closedWith (e : ClassifiedError)
  | idle (yes : Bool)
  | stats (s : ConnectionStats)
  /-- The connection is to be shown. -/
  | described
  | pendingExchanges (l : List PendingExchange)
  /-- An exchange was completed against the order of phases. -/
  | violation (e : TransitionError) (id : ExchangeId)
  | pending
  | ok
  | gone

/-! ## Issuing requests -/

/-- A request that the call itself turns away. -/
def turnAway (c : Connection) (e : ConnectionError) : Answer × Connection :=
  (.call c.calls.size, { c with calls := c.calls.push (.refused e) })

/-- The lane of a newly admitted request. When no task is run, its tasks are dropped at once. -/
def newLane (c : Connection) (id : ExchangeId) : Lane :=
  if c.running then { exchange := { id } }
  else { exchange := { id }, reply := .lost, watcher := .finished }

/-- Issues a request. -/
def request (c : Connection) (r : Request) : Answer × Connection :=
  match c.tracker with
  | .closed e => (c.mark (.rejected .closed)).turnAway (.closed e)
  | t =>
    if c.policy = .reject ∧ t = .closing then
      (c.mark (.rejected .closing)).turnAway (.closed (classify true none))
    else
      match c.books.takeSlot with
      | (.error e, books) => { c with books }.turnAway (.limitExceeded e)
      | (.ok _, books) =>
        let (id, sequence) := c.sequence.next
        (.call c.calls.size,
          { c with
            books, sequence
            channel := c.channel.write r
            lanes := c.lanes.push (c.newLane id)
            calls := c.calls.push (.admitted c.lanes.size) })

/-- Polls the response future of lane `i`. When the dispatch task was dropped without a result,
the terminal error is awaited instead. -/
def awaitLane (c : Connection) (i : Nat) (l : Lane) : Answer × Connection :=
  match l.reply with
  | .awaited => (.pending, c)
  | .sent (.ok head) => (.head head, c.setCaller i (.holding false))
  | .sent (.error e) => (.failed (.closed e), c.setCaller i .gone)
  | .lost =>
    match c.tracker.terminal? with
    | none => (.pending, c)
    | some e =>
      let (e, c) := c.failExchange i e
      (.failed (.closed e), c.setCaller i .gone)

/-- The lane of an admitted call. -/
def laneOf? (c : Connection) (call : Nat) : Option (Nat × Lane) :=
  match c.calls[call]? with
  | some (.admitted i) => (c.lanes[i]?).map fun l ↦ (i, l)
  | _ => none

/-- Polls the response future of a call. -/
def await (c : Connection) (call : Nat) : Answer × Connection :=
  match c.calls[call]? with
  | some (.refused e) => (.failed e, { c with calls := c.calls.set! call .over })
  | _ =>
    match c.laneOf? call with
    | some (i, l) =>
      match l.caller with
      | .waiting => c.awaitLane i l
      | _ => (.gone, c)
    | none => (.gone, c)

/-- Drops the response future of a call. -/
def dropResponse (c : Connection) (call : Nat) : Answer × Connection :=
  match c.calls[call]? with
  | some (.refused _) => (.ok, { c with calls := c.calls.set! call .over })
  | _ =>
    match c.laneOf? call with
    | some (i, l) =>
      match l.caller with
      | .waiting => (.ok, c.setCaller i .gone)
      | _ => (.gone, c)
    | none => (.gone, c)

/-! ## Taking bodies -/

/-- Takes one item of the body of lane `i`. A body that is done stays at its end. -/
def readLane (c : Connection) (i : Nat) (done : Bool) : Answer × Connection :=
  if done then (.ended, c)
  else
    let (item, done, c) := c.pollBody i
    let c := c.setCaller i (.holding done)
    match item with
    | .chunk bytes => (.chunk bytes, c)
    | .failed e => (.bodyFailed e, c)
    | .ended => (.ended, c)
    | .pending => (.pending, c)
    | .violation e id => (.violation e id, c)

/-- Takes one item of the body of a call. -/
def read (c : Connection) (call : Nat) : Answer × Connection :=
  match c.laneOf? call with
  | some (i, ⟨_, _, _, .holding done, _⟩) => c.readLane i done
  | _ => (.gone, c)

/-- The answer to a drain. -/
def answerDrain : Drain × Connection → Answer × Connection
  | (.bytes all, c) => (.drained all, c)
  | (.failed e, c) => (.bodyFailed e, c)
  | (.pending, c) => (.pending, c)
  | (.violation e id, c) => (.violation e id, c)

/-- Starts or continues to drain the body of a call. -/
def drain (c : Connection) (call : Nat) : Answer × Connection :=
  match c.laneOf? call with
  | some (i, l) =>
    match l.caller with
    | .holding true => (.drained [], c.setCaller i .gone)
    | .holding false => answerDrain (c.drainOn i [])
    | .draining collected => answerDrain (c.drainOn i collected)
    | _ => (.gone, c)
  | none => (.gone, c)

/-- Drops the body of a call, or the drain that took it over. -/
def dropBody (c : Connection) (call : Nat) : Answer × Connection :=
  match c.laneOf? call with
  | some (i, l) =>
    match l.caller with
    | .holding _ | .draining _ => (.ok, c.setCaller i .gone)
    | _ => (.gone, c)
  | none => (.gone, c)

/-- Looks at the exchange whose body a call holds. -/
def snapshot (c : Connection) (call : Nat) : Answer :=
  match c.laneOf? call with
  | some (_, l) =>
    match l.caller with
    | .holding done => .snapshot l.exchange done
    | _ => .gone
  | none => .gone

/-! ## The facade -/

/-- Drops the facade: the connection closes, the monitor stops and the transport goes away. -/
def drop (c : Connection) : Connection :=
  let c := (c.close none).2
  { c with facade := false, monitor := .finished, channel := c.channel.dropTransport }

/-- A step that needs the facade. -/
def asFacade (c : Connection) (act : Answer × Connection) : Answer × Connection :=
  if c.facade then act else (.gone, c)

/-- One step of a caller. -/
def callerStep (c : Connection) : CallerStep → Answer × Connection
  | .request r => c.asFacade (c.request r)
  | .await k => c.await k
  | .dropResponse k => c.dropResponse k
  | .read k => c.read k
  | .drain k => c.drain k
  | .dropBody k => c.dropBody k
  | .snapshot k => (c.snapshot k, c)
  | .watch => c.asFacade (.watch c.watches.size, { c with watches := c.watches.push true })
  | .pollWatch k =>
    if c.watches[k]? = some true then
      match c.tracker.terminal? with
      | none => (.pending, c)
      | some e => (.closedWith e, { c with watches := c.watches.set! k false })
    else (.gone, c)
  | .waitIdle => c.asFacade (.idle (c.inFlight == 0), c)
  | .stats => c.asFacade (.stats c.stats, c)
  | .describe => c.asFacade (.described, c)
  | .pendingExchanges => c.asFacade (.pendingExchanges c.pendingExchanges, c)
  | .drop => c.asFacade (.ok, c.drop)

/-- One step, before the exchanges nobody holds are reclaimed. -/
def act (c : Connection) : Step → Answer × Connection
  | .caller s => c.callerStep s
  | .peer s =>
    let (a, channel) := c.channel.peerStep s
    (.peer a, { c with channel })
  | .poll t => (.ok, c.poll t)
  | .settle => (.ok, c.settle)
  | .stopTasks => (.ok, c.stopTasks)

/-- One step. -/
def step (c : Connection) (s : Step) : Answer × Connection :=
  let (a, c) := c.act s
  (a, c.reclaim)

/-- The connection after a list of steps. -/
def run (c : Connection) (steps : List Step) : Connection :=
  steps.foldl (fun c s ↦ (c.step s).2) c

end Connection

end BoundedPipelining
