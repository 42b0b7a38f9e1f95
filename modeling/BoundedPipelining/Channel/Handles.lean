import BoundedPipelining.Channel.Basic

/-!
# A channel and the handles on it

A caller who works on a bare channel holds the futures of its writes, the payloads of the answers
it received and the notifications it watches. Each handle is named by the number of the write or
watch it came from. A future is gone once it resolved or was dropped, and so is a payload once it
ended.
-/

namespace BoundedPipelining

/-- What is left of a caller's handle on a write. -/
inductive WriteHandle where
  /-- The future has not resolved. -/
  | future
  /-- The answer's payload can be read. -/
  | payload
  | gone
  deriving DecidableEq

/-- The three notifications of a channel. -/
inductive Notification where
  | closing
  | close
  | error
  deriving DecidableEq

/-- A channel and its caller's handles. -/
structure Handles where
  channel : Channel := {}
  /-- For each write what its caller still holds. -/
  writes : Array WriteHandle := #[]
  /-- For each watch its notification, until it fires. -/
  watches : Array (Option Notification) := #[]

namespace Handles

/-- What can be done with a bare channel. -/
inductive Step where
  | peer (s : Channel.PeerStep)
  | write (r : Request)
  | poll (write : Nat)
  | dropWrite (write : Nat)
  | read (write : Nat)
  | dropBody (write : Nat)
  | watch (n : Notification)
  | pollWatch (watch : Nat)
  | dropTransport

/-- What is learnt from a step. -/
inductive Answer where
  | peer (a : Channel.PeerAnswer)
  | write (number : Nat)
  | head (h : Head)
  | error (e : TransportError)
  | chunk (bytes : Bytes)
  | ended
  | watch (number : Nat)
  | fired
  /-- The notification of an abrupt failure, with its error. -/
  | firedWith (e : TransportError)
  | pending
  | ok
  | gone

/-- Whether a notification is ready, and what it tells. -/
def ready? (n : Notices) : Notification → Option Answer
  | .closing => if n.closing then some .fired else none
  | .close => if n.close then some .fired else none
  | .error => n.error.map .firedWith

/-- Leaves only `w` of the handle on write `i`. -/
def setHandle (h : Handles) (i : Nat) (w : WriteHandle) : Handles :=
  { h with writes := h.writes.set! i w }

/-- Polls the future of write `i`. -/
def poll (h : Handles) (i : Nat) : Answer × Handles :=
  if h.writes[i]? = some .future then
    match h.channel.result? i with
    | none => (.pending, h)
    | some (.ok head) => (.head head, h.setHandle i .payload)
    | some (.error e) => (.error e, h.setHandle i .gone)
  else (.gone, h)

/-- Takes one item of the payload of write `i`. -/
def read (h : Handles) (i : Nat) : Answer × Handles :=
  if h.writes[i]? = some .payload then
    let (item, channel) := h.channel.read i
    let h := { h with channel }
    match item with
    | .chunk bytes => (.chunk bytes, h)
    | .error e => (.error e, h)
    | .ended => (.ended, h.setHandle i .gone)
    | .pending => (.pending, h)
  else (.gone, h)

/-- One step. -/
def step (h : Handles) : Step → Answer × Handles
  | .peer s =>
    let (a, channel) := h.channel.peerStep s
    (.peer a, { h with channel })
  | .write r =>
    if h.channel.transport then
      (.write h.writes.size,
        { h with channel := h.channel.write r, writes := h.writes.push .future })
    else (.gone, h)
  | .poll i => h.poll i
  | .dropWrite i =>
    if h.writes[i]? = some .future then (.ok, h.setHandle i .gone) else (.gone, h)
  | .read i => h.read i
  | .dropBody i =>
    if h.writes[i]? = some .payload then (.ok, h.setHandle i .gone) else (.gone, h)
  | .watch n =>
    if h.channel.transport then
      (.watch h.watches.size, { h with watches := h.watches.push (some n) })
    else (.gone, h)
  | .pollWatch k =>
    match (h.watches[k]?).join with
    | none => (.gone, h)
    | some n =>
      match ready? h.channel.notices n with
      | none => (.pending, h)
      | some a => (a, { h with watches := h.watches.set! k none })
  | .dropTransport => (.ok, { h with channel := h.channel.dropTransport })

/-- The state after a list of steps. -/
def run (h : Handles) (steps : List Step) : Handles :=
  steps.foldl (fun h s ↦ (h.step s).2) h

end Handles

end BoundedPipelining
