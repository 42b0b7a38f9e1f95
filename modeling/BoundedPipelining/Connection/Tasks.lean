import BoundedPipelining.Connection.Basic

/-!
# The background tasks of a connection

Each task is polled by a function that moves the connection on as far as the task can go. A
dispatch task looks at its write before it looks at the terminal error, and a close watcher looks
at its exchange first, so whatever already happened to a request counts before the close.

`settle` polls every task until none can move. A poll that changes a task lowers the number of
changes its task has left, so the rounds come to an end.
-/

namespace BoundedPipelining

namespace Connection

/-- The background tasks. -/
inductive Task where
  | monitor
  | dispatch (lane : Nat)
  | watcher (lane : Nat)
  deriving DecidableEq

/-- Polls the monitor. -/
def pollMonitor (c : Connection) : Connection :=
  let (monitor, tracker, ledger) := c.monitor.poll c.channel.notices c.tracker c.books.ledger
  { c with monitor, tracker, books := { c.books with ledger } }

/-- Hands a result to the caller of lane `i`, which ends the dispatch task. -/
def reply (c : Connection) (i : Nat) (r : Reply) : Connection :=
  c.onLane i fun l ↦ { l with reply := r }

/-- The response of lane `i` arrived with this head. A head that asks for a close is heeded before
the caller can see it. -/
def acceptHead (c : Connection) (i : Nat) (l : Lane) (head : Head) : Connection :=
  let (a, x, b) := l.exchange.headersReceived c.books
  let c := c.putExchange i x b
  match a with
  | .failed e => c.reply i (.sent (.error e))
  | .violation _ => c.reply i .lost
  | .ok =>
    let c := if head.wantsClose then { c with tracker := c.tracker.markClosing } else c
    c.reply i (.sent (.ok head))

/-- Polls the dispatch task of lane `i`. -/
def pollDispatch (c : Connection) (i : Nat) : Connection :=
  match c.lanes[i]? with
  | none => c
  | some l =>
    if l.reply.isAwaited then
      match c.channel.result? i with
      | some (.ok head) => c.acceptHead i l head
      | some (.error cause) =>
        let (e, c) := c.close (some cause)
        let (e, c) := c.failExchange i e
        c.reply i (.sent (.error e))
      | none =>
        match c.tracker.terminal? with
        | none => c
        | some e =>
          let (e, c) := c.failExchange i e
          c.reply i (.sent (.error e))
    else c

/-- Polls the close watcher of lane `i`; when it ends, the exchange leaves the registry. -/
def pollWatcher (c : Connection) (i : Nat) : Connection :=
  match c.lanes[i]? with
  | none => c
  | some l =>
    if l.watcher.isLive then
      let (w, x, books) := l.watcher.poll (.watcher i) l.exchange c.tracker.terminal? c.books
      { c.onLane i (fun l ↦
          { l with exchange := x, watcher := w, registered := l.registered && w.isLive }) with
        books }
    else c

/-- Polls one task. -/
def poll (c : Connection) : Task → Connection
  | .monitor => c.pollMonitor
  | .dispatch i => c.pollDispatch i
  | .watcher i => c.pollWatcher i

/-! ## Settling -/

/-- Polls every task once: the monitor, then lane by lane. -/
def round (c : Connection) : Connection :=
  (List.range c.lanes.size).foldl (fun c i ↦ (c.pollDispatch i).pollWatcher i) c.pollMonitor

/-- How many changes the tasks have left. -/
def unfinished (c : Connection) : Nat :=
  c.lanes.foldl (fun n l ↦ n + l.reply.remaining + l.watcher.remaining) c.monitor.remaining

/-- Rounds of polls until a round changes nothing, at most `n` of them. -/
def rounds : Nat → Connection → Connection
  | 0, c => c
  | n + 1, c =>
    let c' := c.round
    if c'.unfinished < c.unfinished then rounds n c' else c'

/-- Lets every task run until none can move. -/
def settle (c : Connection) : Connection :=
  rounds (c.unfinished + 1) c

/-! ## The end of the tasks -/

/-- Whether someone still holds the exchange of a lane, given whether the registry is held. -/
def isHeld (registryHeld : Bool) (l : Lane) : Bool :=
  (registryHeld && l.registered) || l.watcher.isLive || l.reply.isAwaited || l.caller.isHolding

/-- Whether someone still holds the registry: the facade, or a watcher. -/
def isRegistryHeld (c : Connection) : Bool :=
  c.facade || c.lanes.any fun l ↦ l.watcher.isLive

/-- Gives back the slot of lane `i` if nobody holds its exchange any more. -/
def reclaimAt (registryHeld : Bool) (c : Connection) (i : Nat) : Connection :=
  match c.lanes[i]? with
  | none => c
  | some l =>
    if isHeld registryHeld l then c
    else
      let (x, b) := l.exchange.giveBack c.books
      c.putExchange i x b

/-- Gives back the slots of exchanges nobody holds any more. While the tasks run, a watcher holds
every exchange that has not settled, so there is nothing to give back. -/
def reclaim (c : Connection) : Connection :=
  if c.running then c
  else (List.range c.lanes.size).foldl (reclaimAt c.isRegistryHeld) c

/-- Drops every task where it stands; from now on none is run. -/
def stopTasks (c : Connection) : Connection :=
  { c with
    running := false
    monitor := .finished
    lanes := c.lanes.map fun l ↦
      { l with
        reply := if l.reply.isAwaited then .lost else l.reply
        watcher := .finished } }

end Connection

end BoundedPipelining
