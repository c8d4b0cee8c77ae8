import NbReq.Types

/-!
# Connections of the native reactor

`native.rs`, one connection at a time: its queued output, the writes and what they report. What the operating system
answers is an argument.
-/

namespace NbReq.Native

/-- `native::SlotId`. -/
structure SlotId where
  index : Nat
  generation : Nat
deriving DecidableEq, Repr

/-- `native::NativeFailureKind`. -/
inductive NativeFailureKind where
  | connect | read | write | outboundQueueFull | receiveLimit | bodyBudget | internal
deriving DecidableEq, Repr

/-- `native::NativeFailure`, without the kind of the system's error. -/
structure NativeFailure where
  kind : NativeFailureKind
  message : String
deriving DecidableEq, Repr

def NativeFailure.internal (message : String) : NativeFailure := ⟨.internal, message⟩

/-- `native::NativeEvent`. -/
inductive NativeEvent where
  | connected (id : SlotId)
  | writeProgress (id : SlotId) (count : Nat)
  | writeDrained (id : SlotId)
  | data (id : SlotId) (bytes : Bytes)
  | peerClosed (id : SlotId)
  | failed (id : SlotId) (failure : NativeFailure)
  | deadlineExpired (id : SlotId)
deriving DecidableEq, Repr

/-- A range of a request body that is queued without being copied: the buffer it is in, by its address, and its ends. -/
structure BodyWindow where
  owner : Nat
  start : Nat
  stop : Nat
deriving DecidableEq, Repr

/-- `native::Connection`. The buffer that a body is read into matters only by its budget: whether there is one, and
whether it is limited. -/
structure Connection where
  token : Nat
  registered : Bool
  connected : Bool
  peerReadClosed : Bool
  outbound : Bytes
  body : Option BodyWindow
  budgetLimited : Option Bool
  outboundLimit : Nat
  received : Nat
  receiveLimit : Nat
  readAllowance : Option Nat
  deadline : Option Nat
deriving DecidableEq, Repr

/-- How one write to a socket turns out, and where the ring buffer of the queue wraps then. -/
inductive Attempt where
  | wrote (wrap count : Nat)
  | failed (failure : NativeFailure)
deriving DecidableEq, Repr

/-- What flushing the queue leaves of the connection, the events it pushes, and the bytes that the socket took. -/
structure Flushed where
  connection : Option Connection
  events : List NativeEvent
  sent : Bytes
deriving DecidableEq, Repr

namespace Connection

def outboundLen (c : Connection) : Nat :=
  c.outbound.length + (c.body.map fun window => window.stop - window.start).getD 0

def outboundEmpty (c : Connection) : Bool := c.outboundLen == 0

/-- `connection_interest` is not `None`. -/
def interested (c : Connection) : Bool :=
  !c.connected || (!c.peerReadClosed && c.readAllowance != some 0) || !c.outboundEmpty

/-- `NativeReactor::reregister` on a live connection, and how the call of the poll turns out if one is made. -/
def reregister (c : Connection) (poll : Option NativeFailure) : Connection × Except NativeFailure Unit :=
  if !c.registered && !c.interested then (c, .ok ())
  else match poll with
    | some failure => (c, .error failure)
    | none => ({ c with registered := c.interested }, .ok ())

/-- `NativeReactor::queue_write` on a live connection, up to `reregister`. -/
def queueWrite (c : Connection) (bytes : Bytes) : Except NativeFailure Connection :=
  if c.body.isSome && !bytes.isEmpty then
    .error (.internal "owned output cannot overtake a queued body window")
  else if bytes.length > c.outboundLimit - c.outboundLen then
    .error ⟨.outboundQueueFull, "native outbound queue limit exceeded"⟩
  else
    .ok { c with outbound := c.outbound ++ bytes }

section

variable (buffers : Nat → Bytes)

/-- `NativeReactor::queue_body` on a live connection, up to `reregister`. `buffers` are the shared buffers by their
address, so that `Arc::ptr_eq` compares the owners. -/
def queueBody (c : Connection) (owner start stop : Nat) : Except NativeFailure Connection :=
  if start > stop ∨ stop > (buffers owner).length ∨ stop - start > c.outboundLimit - c.outboundLen then
    .error (.internal "invalid buffered body window")
  else match c.body with
    | none => .ok { c with body := some ⟨owner, start, stop⟩ }
    | some window =>
      if window.owner = owner ∧ window.stop = start then .ok { c with body := some { window with stop := stop } }
      else .error (.internal "buffered body windows are not contiguous")

def window (c : Connection) : Bytes :=
  (c.body.map fun window => ((buffers window.owner).take window.stop).drop window.start).getD []

/-- The slices that `flush_write` offers to the socket, the ring buffer having its first slice up to where it wraps; the
first slice is empty only if the buffer is. -/
def offered (c : Connection) (wrap : Nat) : Bytes :=
  let front := c.outbound.take (max 1 wrap)
  let back := c.outbound.drop (max 1 wrap)
  let body := c.window buffers
  if !body.isEmpty && !front.isEmpty then front ++ back ++ body else if front.isEmpty then body else front

/-- The accounting of `flush_write` after a write. -/
def wrote (c : Connection) (written : Nat) : Connection :=
  let headerWritten := min written c.outbound.length
  { c with
    outbound := c.outbound.drop headerWritten
    body :=
      if written > headerWritten then
        c.body.bind fun window =>
          let start := window.start + (written - headerWritten)
          if start = window.stop then none else some { window with start := start }
      else c.body }

/-- The loop of `flush_write`, `wroteBytes` having been written before. The attempts end with one that would block. -/
def flushLoop (id : SlotId) : List Attempt → Connection → Nat → Flushed
  | attempts, c, wroteBytes =>
    if c.outbound.isEmpty && (c.window buffers).isEmpty then ended c wroteBytes
    else match attempts with
      | [] => ended c wroteBytes
      | .failed failure :: _ => ⟨none, [.failed id failure], []⟩
      | .wrote wrap count :: rest =>
        let taken := (c.offered buffers wrap).take count
        if taken.isEmpty then ⟨none, [.failed id ⟨.write, "native socket write made no progress"⟩], []⟩
        else
          let flushed := flushLoop id rest (c.wrote taken.length) (wroteBytes + taken.length)
          { flushed with sent := taken ++ flushed.sent }
where
  /-- What is reported after the loop. -/
  ended (c : Connection) (wroteBytes : Nat) : Flushed :=
    let events :=
      if c.outboundEmpty then [.writeDrained id] else if wroteBytes ≠ 0 then [.writeProgress id wroteBytes] else []
    ⟨some c, events, []⟩

/-- `NativeReactor::flush_write` on a live connection. -/
def flushWrite (id : SlotId) (attempts : List Attempt) (c : Connection) : Flushed :=
  if !c.connected || c.outboundEmpty then ⟨some c, [], []⟩ else flushLoop buffers id attempts c 0

end

end Connection

end NbReq.Native
