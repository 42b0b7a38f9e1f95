import BoundedPipelining.Failure.Cause
import BoundedPipelining.Lifecycle.Observer
import BoundedPipelining.Message.Request

/-!
# A channel held in memory

A `Channel` connects a transport, which writes requests, with a peer, which takes them in the order
written and answers, fails or drops each. An answer has a head and a payload of chunks, which the
peer goes on sending until it finishes the payload or fails it.

Every write has an entry in the channel, and its `Fate` says what became of it: a write is refused
at once if the channel was torn down or the peer is gone, and otherwise waits for the peer. Three
signals tell the transport of an announced close, a teardown and an abrupt failure. They are levels,
not edges: whoever looks late sees them at once. The teardown signal is also on when nobody is left
who could set it.
-/

namespace BoundedPipelining

/-- What the peer has signalled. -/
structure Signals where
  closing : Bool := false
  closed : Bool := false
  error : Option TransportError := none
  deriving DecidableEq

/-- What became of a write. -/
inductive Fate where
  /-- The channel was torn down before the write. -/
  | refused
  /-- Waiting for the peer to take it. -/
  | queued
  /-- In the peer's hands, unanswered. -/
  | taken
  | answered (head : Head)
  | failed (error : TransportError)
  /-- Dropped by the peer, taken or not. -/
  | lost
  deriving DecidableEq

/-- The payload of an answer, as far as it has not been read. -/
structure Payload where
  items : List (Except TransportError Bytes) := []
  /-- Whether the peer may still send. -/
  isOpen : Bool := false

/-- What a look at a payload finds. -/
inductive PayloadItem where
  | chunk (bytes : Bytes)
  | error (e : TransportError)
  | ended
  | pending

/-- Takes the next item of a payload. -/
def Payload.next (p : Payload) : PayloadItem × Payload :=
  match p.items with
  | .ok bytes :: rest => (.chunk bytes, { p with items := rest })
  | .error e :: rest => (.error e, { p with items := rest })
  | [] => (if p.isOpen then .pending else .ended, p)

/-- One write. -/
structure Write where
  request : Request
  fate : Fate
  payload : Payload := {}

/-- A channel, its transport and its peer. -/
structure Channel where
  signals : Signals := {}
  /-- Every write, in order. -/
  writes : Array Write := #[]
  /-- The writes the peer took, in the order of taking. -/
  taken : Array Nat := #[]
  /-- Whether the transport is still held. -/
  transport : Bool := true
  /-- Whether the peer is still held. -/
  peer : Bool := true

namespace Channel

/-! ## The transport's side -/

/-- Whether a write is refused: the channel is torn down, or nobody would take it. -/
def refuses (c : Channel) : Bool :=
  c.signals.closed || c.signals.error.isSome || !c.peer

/-- Writes a request. -/
def write (c : Channel) (r : Request) : Channel :=
  { c with writes := c.writes.push ⟨r, if c.refuses then .refused else .queued, {}⟩ }

/-- The result of a write, once it has one: its own head if it was answered, its own error if it
was failed, and otherwise that the channel is closed. -/
def result? (c : Channel) (i : Nat) : Option (Except TransportError Head) :=
  match c.writes[i]? with
  | none => none
  | some w =>
    match w.fate with
    | .queued | .taken => none
    | .answered head => some (.ok head)
    | .failed e => some (.error e)
    | .refused | .lost => some (.error .closed)

/-- Takes the next item of the payload of write `i`. -/
def read (c : Channel) (i : Nat) : PayloadItem × Channel :=
  match c.writes[i]? with
  | none => (.ended, c)
  | some w =>
    let (item, payload) := w.payload.next
    (item, { c with writes := c.writes.modify i fun w ↦ { w with payload } })

/-- Whether anyone is left who could set a signal: the peer, or a taken request. -/
def isSignalled (c : Channel) : Bool :=
  c.peer || c.writes.any fun w ↦ w.fate == .taken

/-- The notifications that are ready. -/
def notices (c : Channel) : Notices :=
  { closing := c.signals.closing
    close := c.signals.closed || !c.isSignalled
    error := c.signals.error }

/-- The transport is dropped, and nothing will be written any more. -/
def dropTransport (c : Channel) : Channel :=
  { c with transport := false }

/-! ## The peer's side -/

/-- The oldest write that waits for the peer. -/
def nextQueued? (c : Channel) : Option Nat :=
  c.writes.findIdx? fun w ↦ w.fate == .queued

/-- Changes the fate of write `i`. -/
def setFate (c : Channel) (i : Nat) (f : Fate) : Channel :=
  { c with writes := c.writes.modify i fun w ↦ { w with fate := f } }

/-- Changes the payload of write `i`. -/
def onPayload (c : Channel) (i : Nat) (f : Payload → Payload) : Channel :=
  { c with writes := c.writes.modify i fun w ↦ { w with payload := f w.payload } }

/-- The write behind the `j`-th taken request. -/
def takenWrite? (c : Channel) (j : Nat) : Option (Nat × Write) :=
  match c.taken[j]? with
  | none => none
  | some i => (c.writes[i]?).map fun w ↦ (i, w)

/-- The write behind the `j`-th taken request, if the request is still unanswered. -/
def pending? (c : Channel) (j : Nat) : Option Nat :=
  match c.takenWrite? j with
  | some (i, w) => if w.fate = .taken then some i else none
  | none => none

/-- The write behind the `j`-th taken request, if its payload may still be sent. -/
def sending? (c : Channel) (j : Nat) : Option Nat :=
  match c.takenWrite? j with
  | some (i, w) => if w.payload.isOpen then some i else none
  | none => none

/-- What a peer can do. -/
inductive PeerStep where
  /-- Takes the next request if one is queued. -/
  | next
  /-- Waits for the next request, once. -/
  | await
  | respond (pending : Nat) (head : Head)
  | respondWith (pending : Nat) (head : Head) (body : Bytes)
  | failWrite (pending : Nat) (e : TransportError)
  | dropPending (pending : Nat)
  | send (pending : Nat) (chunk : Bytes)
  | finish (pending : Nat)
  | failPayload (pending : Nat) (e : TransportError)
  | announce
  | close
  | reset (e : TransportError)
  | drop

/-- What the peer learns. -/
inductive PeerAnswer where
  | request (pending : Nat) (r : Request)
  /-- Nothing is queued, and a waiting peer will never see anything again. -/
  | nothing
  | pending
  | ok
  | gone

/-- Takes the oldest queued write, or answers `otherwise`. -/
def take (c : Channel) (otherwise : PeerAnswer) : PeerAnswer × Channel :=
  match c.nextQueued? with
  | none => (otherwise, c)
  | some i =>
    match c.writes[i]? with
    | none => (otherwise, c)
    | some w =>
      (.request c.taken.size w.request, { c.setFate i .taken with taken := c.taken.push i })

/-- Answers write `i`; a head that asks for a close also signals it. -/
def answer (c : Channel) (i : Nat) (head : Head) (p : Payload) : Channel :=
  let c := (c.setFate i (.answered head)).onPayload i fun _ ↦ p
  if head.wantsClose then { c with signals := { c.signals with closing := true } } else c

/-- Drops the peer, and with it every request it has not taken. -/
def dropPeer (c : Channel) : Channel :=
  { c with
    peer := false
    writes := c.writes.map fun w ↦ if w.fate = .queued then { w with fate := .lost } else w }

/-- A step that needs the peer. -/
def asPeer (c : Channel) (act : PeerAnswer × Channel) : PeerAnswer × Channel :=
  if c.peer then act else (.gone, c)

/-- A step on an unanswered request. -/
def onPending (c : Channel) (j : Nat) (act : Nat → Channel) : PeerAnswer × Channel :=
  match c.pending? j with
  | none => (.gone, c)
  | some i => (.ok, act i)

/-- A step on a payload that may still be sent. -/
def onSending (c : Channel) (j : Nat) (act : Payload → Payload) : PeerAnswer × Channel :=
  match c.sending? j with
  | none => (.gone, c)
  | some i => (.ok, c.onPayload i act)

/-- One step of the peer. -/
def peerStep (c : Channel) : PeerStep → PeerAnswer × Channel
  | .next => c.asPeer (c.take .nothing)
  | .await => c.asPeer (c.take (if c.transport then .pending else .nothing))
  | .respond j head => c.onPending j fun i ↦ c.answer i head { isOpen := true }
  | .respondWith j head body => c.onPending j fun i ↦ c.answer i head { items := [.ok body] }
  | .failWrite j e => c.onPending j fun i ↦ c.setFate i (.failed e)
  | .dropPending j => c.onPending j fun i ↦ c.setFate i .lost
  | .send j chunk => c.onSending j fun p ↦ { p with items := p.items ++ [.ok chunk] }
  | .finish j => c.onSending j fun p ↦ { p with isOpen := false }
  | .failPayload j e => c.onSending j fun p ↦ { items := p.items ++ [.error e], isOpen := false }
  | .announce => c.asPeer (.ok, { c with signals := { c.signals with closing := true } })
  | .close => c.asPeer (.ok, { c with signals := { c.signals with closed := true } })
  | .reset e => c.asPeer (.ok, { c with signals := { c.signals with error := some e } })
  | .drop => (.ok, c.dropPeer)

end Channel

end BoundedPipelining
