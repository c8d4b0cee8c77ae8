import NbReq.Operation
import NbReq.Lib.Chunks

/-!
# Live TCP sessions

The queues and the shutdown protocol of one live TCP session (`tcp/io.rs`). The user half sends, reads
and finishes; the owner half is the reactor's pump. A session ends once: `take_release_locked` hands out
the release closure to exactly one caller, either because the session was aborted or because both
directions ended. The closure is the list of the permits it drops, in order; it then removes the session
from the registry.

Every section returns the new session and what has to run after the session lock is released.
-/

namespace NbReq

/-- `tcp::io::TcpAbort`. -/
inductive TcpAbort where
  | reset
  | cancelled
  | failed (error : Error)
  | engineStopped
deriving DecidableEq, Repr

/-- `tcp::TcpSendErrorKind`, the ones a session returns. -/
inductive TcpSendErrorKind where
  | chunkTooLarge | wouldBlock | closed | cancelled | reset | engineStopped | wrongMode
deriving DecidableEq, Repr

/-- `tcp::TcpStreamError`. -/
inductive TcpStreamError where
  | failed (error : Error)
  | cancelled
  | reset
deriving DecidableEq, Repr

/-- `tcp::TcpRead`, with the bytes copied out. -/
inductive TcpRead where
  | pending
  | data (bytes : Bytes)
  | eof
deriving DecidableEq, Repr

/-- `tcp::io::TcpIoState` with the release closure and the flag of `TcpIoShared`. -/
structure TcpIo where
  id : RequestId
  sendWindow : Nat
  receiveWindow : Nat
  outbound : List Bytes := []
  outboundBytes : Nat := 0
  outboundTlsOffset : Nat := 0
  pump : List Bytes := []
  pumpOffset : Nat := 0
  pumpBytes : Nat := 0
  inbound : List Bytes := []
  inboundOffset : Nat := 0
  inboundBytes : Nat := 0
  writeFinishRequested : Bool := false
  writeFinished : Bool := false
  peerFin : Bool := false
  readEofObserved : Bool := false
  upgrading : Bool := false
  aborted : Option TcpAbort := none
  finishCallbackRegistered : Bool := false
  finishCallback : Option Callback := none
  finishCallbackPermit : Option Permit := none
  finishCallbackActive : Bool := false
  onRelease : Option (List Permit)
  released : Bool := false

/-- What runs after a section on a session: the release closure and the finish job it took, and
whether one of its `expect`s failed. -/
structure IoEffect where
  release : Option (List Permit) := none
  job : Option CallbackJob := none
  panicked : Bool := false

namespace TcpIo

def permits (io : TcpIo) : List Permit :=
  io.onRelease.getD [] ++ io.finishCallbackPermit.toList

/-! ## Release and abort -/

def finishAbort : TcpAbort → TcpFinishError
  | .reset => .reset
  | .cancelled => .cancelled
  | .engineStopped => .engineStopped
  | .failed error => .failed error

def abortError : TcpAbort → Error
  | .engineStopped => Error.new .engineStopped "the owning Engine has stopped"
  | .failed error => error
  | .reset => Error.new .transport "TCP connection was reset"
  | .cancelled => Error.new .internal "TCP connection was cancelled"

def streamAbort : TcpAbort → TcpStreamError
  | .reset => .reset
  | .cancelled => .cancelled
  | .engineStopped => .failed (Error.new .engineStopped "the owning Engine has stopped")
  | .failed error => .failed error

def sendAbortKind : TcpAbort → TcpSendErrorKind
  | .reset => .reset
  | .cancelled => .cancelled
  | .engineStopped => .engineStopped
  | .failed _ => .closed

/-- `take_release_locked`: a compare-and-exchange on `released`, then the closure. -/
def takeRelease (io : TcpIo) : TcpIo × Option (List Permit) :=
  if io.released then (io, none) else ({ io with released := true, onRelease := none }, io.onRelease)

/-- `maybe_take_release_locked`. -/
def maybeTakeRelease (io : TcpIo) : TcpIo × Option (List Permit) :=
  if io.aborted.isNone && io.writeFinished && io.readEofObserved then io.takeRelease else (io, none)

/-- `take_finish_job_locked`; `self` is the reference to this session. -/
def takeFinishJob (self : Nat) (io : TcpIo) : TcpIo × Option CallbackJob × Bool :=
  if !io.finishCallbackActive then
    (io, none, false)
  else
    let result : Option (Except TcpFinishError Unit) :=
      match io.aborted with
      | some abort => some (.error (finishAbort abort))
      | none => if io.writeFinished then some (.ok ()) else none
    match result, io.finishCallback with
    | none, _ => (io, none, false)
    | some _, none => (io, none, false)
    | some result, some callback =>
      match io.finishCallbackPermit with
      | some permit =>
        ({ io with finishCallback := none, finishCallbackPermit := none },
          some (CallbackJob.new io.id callback (.finish self result) [permit]), false)
      | none => ({ io with finishCallback := none }, none, true)

/-- `TcpIoShared::abort`. -/
def abort (self : Nat) (io : TcpIo) (kind : TcpAbort) : TcpIo × IoEffect :=
  if io.aborted.isSome then
    (io, {})
  else
    let io := { io with aborted := some kind, outbound := [], outboundBytes := 0, pump := [],
                        pumpOffset := 0, pumpBytes := 0, inbound := [], inboundOffset := 0,
                        inboundBytes := 0 }
    let (io, release) := io.takeRelease
    let (io, job, panicked) := io.takeFinishJob self
    (io, { release := release, job := job, panicked := panicked })

/-- `writer_dropped`: whether it goes on to abort the session as cancelled. -/
def writerDropAborts (io : TcpIo) : Bool :=
  !(io.writeFinishRequested || io.writeFinished) && io.aborted.isNone

/-- `reader_dropped`: whether it goes on to abort the session as cancelled. -/
def readerDropAborts (io : TcpIo) : Bool := !io.readEofObserved && io.aborted.isNone

/-- `TcpIoOwner::drop`: whether it goes on to abort the session as stopped. -/
def ownerDropAborts (io : TcpIo) : Bool :=
  io.aborted.isNone && !(io.writeFinished && io.readEofObserved)

/-! ## The TLS upgrade -/

def beginUpgrade (io : TcpIo) : Except Error TcpIo :=
  if io.aborted.isSome || io.upgrading || io.writeFinishRequested || io.writeFinished ||
      io.peerFin || io.readEofObserved || io.inboundBytes != 0 || io.outboundBytes != 0 ||
      io.pumpBytes != 0 then
    .error (Error.new .invalidRequest
      "TLS upgrade requires an open, idle, unsplit TCP connection with no unread bytes")
  else
    .ok { io with upgrading := true }

/-- `attach_tls_reserve`: the reserve is dropped before what the closure dropped so far. -/
def attachTlsReserve (io : TcpIo) (reserve : List Permit) : Except Error TcpIo :=
  if io.aborted.isSome || !io.upgrading || io.released then
    .error (Error.new .invalidRequest "the TLS upgrade connection was released")
  else
    match io.onRelease with
    | none => .error (Error.new .internal "live TCP release callback missing")
    | some prior => .ok { io with onRelease := some (reserve ++ prior) }

def completeUpgrade (io : TcpIo) : TcpIo := { io with upgrading := false }

/-! ## The user half -/

def trySend (io : TcpIo) (bytes : Bytes) : TcpIo × Except TcpSendErrorKind Unit :=
  if bytes.isEmpty then
    (io, .ok ())
  else if bytes.length > io.sendWindow then
    (io, .error .chunkTooLarge)
  else
    match io.aborted with
    | some abort => (io, .error (sendAbortKind abort))
    | none =>
      if io.writeFinishRequested || io.writeFinished then
        (io, .error .closed)
      else if bytes.length > io.sendWindow - (io.outboundBytes + io.pumpBytes) then
        (io, .error .wouldBlock)
      else
        ({ io with outboundBytes := io.outboundBytes + bytes.length,
                   outbound := io.outbound ++ [bytes] }, .ok ())

/-- Copying out of a queue of chunks whose first `offset` bytes are gone: the bytes, the chunks left
and the new offset. -/
def drainChunks (space : Nat) (chunks : List Bytes) (offset : Nat) : Bytes × List Bytes × Nat :=
  Chunks.drain space chunks offset

/-- The EOF branch of `try_read`. -/
def observeEof (io : TcpIo) : TcpIo × IoEffect × Except TcpStreamError TcpRead :=
  let (io, release) := { io with readEofObserved := true }.maybeTakeRelease
  (io, { release := release }, .ok .eof)

/-- `try_read` into a destination of `space` bytes. -/
def tryRead (io : TcpIo) (space : Nat) : TcpIo × IoEffect × Except TcpStreamError TcpRead :=
  match io.aborted with
  | some abort => (io, {}, .error (streamAbort abort))
  | none =>
    if io.inboundBytes = 0 then
      if io.peerFin then io.observeEof else (io, {}, .ok .pending)
    else if space = 0 then
      (io, {}, .ok (.data []))
    else
      let (bytes, inbound, offset) := drainChunks space io.inbound io.inboundOffset
      ({ io with inbound := inbound, inboundOffset := offset,
                 inboundBytes := io.inboundBytes - bytes.length }, {}, .ok (.data bytes))

/-- `try_finish`: `ok` with whether the write half is already shut down. -/
def tryFinish (io : TcpIo) : TcpIo × Except TcpFinishError Bool :=
  match io.aborted with
  | some abort => (io, .error (finishAbort abort))
  | none => if io.writeFinished then (io, .ok true) else ({ io with writeFinishRequested := true }, .ok false)

/-- The registration section of `finish_with`; `none` when a callback is registered already. -/
def registerFinish (io : TcpIo) (callback : Callback) (permit : Permit) : Option TcpIo :=
  if io.finishCallbackRegistered then
    none
  else
    some { io with
      writeFinishRequested :=
        io.writeFinishRequested || (io.aborted.isNone && !io.writeFinished)
      finishCallbackRegistered := true
      finishCallback := some callback
      finishCallbackPermit := some permit }

/-- The activation section of `finish_with`. -/
def activateFinish (self : Nat) (io : TcpIo) : TcpIo × IoEffect :=
  let (io, job, panicked) := { io with finishCallbackActive := true }.takeFinishJob self
  (io, { job := job, panicked := panicked })

/-! ## The owner half -/

def closeWriteAdmissionIfIdle (io : TcpIo) : TcpIo × Bool :=
  ({ io with writeFinishRequested := true }, io.outboundBytes == 0 && io.pumpBytes == 0)

/-- Handing a chunk to the pump: it leaves the outbound window's queue but not the window. -/
def toPump (io : TcpIo) (chunk : Bytes) : TcpIo :=
  { io with pumpBytes := io.pumpBytes + chunk.length, pump := io.pump ++ [chunk] }

def takeOutbound (io : TcpIo) : TcpIo × Option Bytes :=
  match io.outbound with
  | [] => (io, none)
  | chunk :: rest =>
    ({ io with outbound := rest, outboundBytes := io.outboundBytes - chunk.length }.toPump chunk,
      some chunk)

def takeOutboundUpTo (io : TcpIo) (capacity : Nat) : TcpIo × Option Bytes :=
  if capacity = 0 || io.upgrading then
    (io, none)
  else
    match io.outbound with
    | [] => (io, none)
    | front :: rest =>
      let chunk := front.take capacity
      let rest := if front.length ≤ capacity then rest else front.drop capacity :: rest
      ({ io with outbound := rest, outboundBytes := io.outboundBytes - chunk.length }.toPump chunk,
        some chunk)

/-- `take_tls_outbound_up_to`: the source chunk keeps its whole allocation charged until its last
byte was taken. -/
def takeTlsOutboundUpTo (io : TcpIo) (capacity : Nat) : TcpIo × Option Bytes :=
  if capacity = 0 || io.upgrading then
    (io, none)
  else
    match io.outbound with
    | [] => (io, none)
    | front :: rest =>
      let chunk := (front.drop io.outboundTlsOffset).take capacity
      let offset := io.outboundTlsOffset + chunk.length
      if offset = front.length then
        ({ io with outbound := rest, outboundBytes := io.outboundBytes - front.length,
                   outboundTlsOffset := 0 }.toPump chunk, some chunk)
      else
        ({ io with outboundTlsOffset := offset }.toPump chunk, some chunk)

def writeProgress (io : TcpIo) (nbytes : Nat) : TcpIo :=
  let (written, pump, offset) := drainChunks nbytes io.pump io.pumpOffset
  { io with pump := pump, pumpOffset := offset, pumpBytes := io.pumpBytes - written.length }

def completeWriteShutdown (self : Nat) (io : TcpIo) : TcpIo × IoEffect × Except Error Unit :=
  match io.aborted with
  | some abort => (io, {}, .error (abortError abort))
  | none =>
    if !io.writeFinishRequested then
      (io, {}, .error (Error.new .internal "write shutdown requires an accepted finish request"))
    else if io.outboundBytes != 0 || io.pumpBytes != 0 then
      (io, {}, .error (Error.new .internal "write shutdown requires drained accepted output"))
    else
      let (io, release) := { io with writeFinished := true }.maybeTakeRelease
      let (io, job, panicked) := io.takeFinishJob self
      (io, { release := release, job := job, panicked := panicked }, .ok ())

def pushInbound (io : TcpIo) (bytes : Bytes) : TcpIo × Except Error Unit :=
  if bytes.isEmpty then
    (io, .ok ())
  else if io.upgrading then
    (io, .error (Error.new .invalidRequest "cleartext arrived across the TLS upgrade boundary"))
  else
    match io.aborted with
    | some abort => (io, .error (abortError abort))
    | none =>
      if io.peerFin then
        (io, .error (Error.new .internal "inbound data after peer FIN"))
      else if bytes.length > io.receiveWindow - io.inboundBytes then
        (io, .error (Error.new .internal "inbound push exceeds the unread receive window"))
      else
        ({ io with inboundBytes := io.inboundBytes + bytes.length,
                   inbound := io.inbound ++ [bytes] }, .ok ())

def peerClosed (io : TcpIo) : TcpIo := if io.aborted.isSome then io else { io with peerFin := true }

end TcpIo

end NbReq
