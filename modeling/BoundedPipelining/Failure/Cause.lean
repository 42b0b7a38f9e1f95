import BoundedPipelining.Text.Quoted

/-!
# What went wrong on the channel

A `TransportError` is the raw failure of a channel: it was already torn down, the peer broke the
framing rules, or an input or output operation failed. An operation's failure says its kind and
may carry a text or a further transport error, to any depth.

Two texts are read off an error. `message` is what it says about itself, and `chain` lists the
messages of the error and of everything under it, outermost first; each step inward drops one
`I/O error: ` in front.
-/

namespace BoundedPipelining

/-- The kinds of failed input or output operations. -/
inductive IoKind where
  | notFound
  | permissionDenied
  | connectionRefused
  | connectionReset
  | connectionAborted
  | notConnected
  | brokenPipe
  | invalidData
  | timedOut
  | writeZero
  | interrupted
  | unexpectedEof
  | other
  deriving DecidableEq

namespace IoKind

/-- Every kind, in the order of the declaration. -/
def all : List IoKind :=
  [notFound, permissionDenied, connectionRefused, connectionReset, connectionAborted,
    notConnected, brokenPipe, invalidData, timedOut, writeZero, interrupted, unexpectedEof, other]

/-- The name of a kind, as diagnostics write it. -/
def name : IoKind → String
  | notFound => "NotFound"
  | permissionDenied => "PermissionDenied"
  | connectionRefused => "ConnectionRefused"
  | connectionReset => "ConnectionReset"
  | connectionAborted => "ConnectionAborted"
  | notConnected => "NotConnected"
  | brokenPipe => "BrokenPipe"
  | invalidData => "InvalidData"
  | timedOut => "TimedOut"
  | writeZero => "WriteZero"
  | interrupted => "Interrupted"
  | unexpectedEof => "UnexpectedEof"
  | other => "Other"

/-- The sentence a failure of this kind says when it carries no text of its own. -/
def sentence : IoKind → String
  | notFound => "entity not found"
  | permissionDenied => "permission denied"
  | connectionRefused => "connection refused"
  | connectionReset => "connection reset"
  | connectionAborted => "connection aborted"
  | notConnected => "not connected"
  | brokenPipe => "broken pipe"
  | invalidData => "invalid data"
  | timedOut => "timed out"
  | writeZero => "write zero"
  | interrupted => "operation interrupted"
  | unexpectedEof => "unexpected end of file"
  | other => "other error"

/-- The kind with a given name. -/
def ofName? (s : String) : Option IoKind :=
  all.find? fun k ↦ k.name == s

end IoKind

/-- A raw failure of the channel. -/
inductive TransportError where
  /-- The channel was already torn down. -/
  | closed
  /-- The peer violated framing or protocol rules. -/
  | protocol (text : String)
  /-- An operation failed, and its kind is all that is known. -/
  | ioBare (kind : IoKind)
  /-- An operation failed with a text of its own. -/
  | ioText (kind : IoKind) (text : String)
  /-- An operation failed because of a further transport error. -/
  | ioOver (kind : IoKind) (inner : TransportError)
  deriving DecidableEq

namespace TransportError

/-- The three families of transport errors. -/
inductive Family where
  | closed
  | io
  | protocol
  deriving DecidableEq

/-- The family of an error. -/
def family : TransportError → Family
  | closed => .closed
  | protocol _ => .protocol
  | ioBare _ | ioText _ _ | ioOver _ _ => .io

/-- The mark in front of every failed operation's message. -/
def ioMark : String := "I/O error: "

/-- What an error says about itself. -/
def message : TransportError → String
  | closed => "channel closed"
  | protocol text => "protocol error: " ++ text
  | ioBare kind => ioMark ++ kind.sentence
  | ioText _ text => ioMark ++ text
  | ioOver _ inner => ioMark ++ inner.message

/-- The messages of an error and of everything under it, outermost first. An operation's failure
that carries another error shows that error's own chain next. -/
def chain : TransportError → List String
  | closed => [closed.message]
  | protocol text => [(protocol text).message]
  | ioBare kind => [(ioBare kind).message, kind.sentence]
  | ioText kind text => [(ioText kind text).message, text]
  | ioOver kind inner => (ioOver kind inner).message :: inner.chain

/-- The number of failed operations wrapped around the innermost failure. -/
def layers : TransportError → Nat
  | closed | protocol _ => 0
  | ioBare _ | ioText _ _ => 1
  | ioOver _ inner => inner.layers + 1

/-- The structure of an error, for diagnostics. -/
def structureText : TransportError → String
  | closed => "Closed"
  | protocol text => "Protocol(" ++ Quoted.encode text ++ ")"
  | ioBare kind => "Io(Kind(" ++ kind.name ++ "))"
  | ioText kind text =>
    "Io(Custom \x7b kind: " ++ kind.name ++ ", error: " ++ Quoted.encode text ++ " \x7d)"
  | ioOver kind inner =>
    "Io(Custom \x7b kind: " ++ kind.name ++ ", error: " ++ inner.structureText ++ " \x7d)"

theorem length_chain (e : TransportError) : e.chain.length = e.layers + 1 := by
  induction e with
  | closed => rfl
  | protocol text => rfl
  | ioBare kind => rfl
  | ioText kind text => rfl
  | ioOver kind inner ih => simp [chain, layers, ih]

theorem head?_chain (e : TransportError) : e.chain.head? = some e.message := by
  cases e <;> rfl

end TransportError

end BoundedPipelining
