import NbReq.Dispatch

/-!
# The streamed response

The response half of a streaming request (`stream.rs`): the state its three owners share, the sink the
transport pushes into, the control the registry cancels through, and the reader the caller drains. Each
definition is one section of the lock; the wake-up generation and the condition variable, which say when to look
again, are in `NbReq.Stream.Response`.

`StreamTerminal::Complete` is the completion with the `body` payload.
-/

namespace NbReq

/-- `stream::ResponseHead`. -/
structure ResponseHead where
  status : Nat
  headers : List Header
deriving DecidableEq, Repr

/-- `stream::ResponseState` with the two constants of `ResponseShared`. -/
structure ResponseState where
  head : Option ResponseHead
  noBody : Bool
  queue : List Bytes
  queuedBytes : Nat
  receivedBytes : Nat
  terminal : Option Done
  readerAlive : Bool
  queueCapacity : Nat
  totalLimit : Nat
deriving DecidableEq, Repr

/-- `stream::ResponseReader`: what the reader keeps on its own side. -/
structure ResponseReader where
  head : Option ResponseHead
  current : Option (Bytes × Nat)
  bodyStarted : Bool
  eofReached : Bool
deriving DecidableEq, Repr

/-- What `response_pair` creates: the shared state, the sink's `terminal` flag and the reader. -/
structure ResponsePair where
  state : ResponseState
  sinkTerminal : Bool
  reader : ResponseReader
deriving DecidableEq, Repr

/-- `stream::response_pair`. -/
def responsePair (queueCapacity totalLimit : Nat) : Except Error ResponsePair :=
  if queueCapacity = 0 then
    .error (Error.limit .streamingQueueBytes
      "a streaming response queue capacity must be greater than zero")
  else
    .ok {
      state := ⟨none, false, [], 0, 0, none, true, queueCapacity, totalLimit⟩
      sinkTerminal := false
      reader := ⟨none, none, false, false⟩ }

namespace ResponsePair

/-! ## Committing the terminal state

`ResponseControl::commit_terminal` and `ResponseSink::commit_terminal`. The returned flag says that this
call committed, which is when `record_terminal` counts the outcome. -/

def controlCommit (pair : ResponsePair) (terminal : Done) : ResponsePair × Bool :=
  if pair.state.terminal.isSome then
    (pair, false)
  else
    ({ pair with state := { pair.state with
        queue := [], queuedBytes := 0, terminal := some terminal } }, true)

def sinkCommit (pair : ResponsePair) (terminal : Done) : ResponsePair × Bool :=
  if pair.state.terminal.isSome then
    (pair, false)
  else
    let keep := match terminal with
      | .completed _ => true
      | _ => false
    ({ pair with
        state := { pair.state with
          queue := if keep then pair.state.queue else []
          queuedBytes := if keep then pair.state.queuedBytes else 0
          terminal := some terminal }
        sinkTerminal := true }, true)

/-- The error `ResponseSink::drop` commits. -/
def droppedSinkError : Error :=
  Error.new .internal "streaming response producer ended without a terminal result"

/-- `ResponseSink::drop`. -/
def sinkDrop (pair : ResponsePair) : ResponsePair × Bool :=
  if pair.sinkTerminal then (pair, false) else pair.sinkCommit (.failed droppedSinkError)

/-! ## The sink -/

/-- `ResponseSink::publish_head`: whether the head was published, and whether that completed a
bodiless response. -/
def publishHead (pair : ResponsePair) (head : ResponseHead) (noBody : Bool) :
    ResponsePair × Bool × Bool :=
  if pair.state.head.isSome || pair.state.terminal.isSome || !pair.state.readerAlive then
    (pair, false, false)
  else
    ({ pair with
        state := { pair.state with
          head := some head
          noBody := noBody
          terminal := if noBody then some (.completed .body) else pair.state.terminal }
        sinkTerminal := pair.sinkTerminal || noBody }, true, noBody)

/-- `stream::ResponsePushError`, without the chunk handed back. -/
inductive PushError where
  | wouldBlock
  | closed
  | protocol
  | limit
deriving DecidableEq, Repr

/-- `ResponseSink::try_push`. -/
def tryPush (width : PointerWidth) (pair : ResponsePair) (chunk : Bytes) :
    Except PushError ResponsePair :=
  if !pair.state.readerAlive || pair.state.terminal.isSome then
    .error .closed
  else if pair.state.head.isNone then
    .error .protocol
  else
    match checkedAdd width pair.state.receivedBytes chunk.length with
    | none => .error .limit
    | some nextTotal =>
      if nextTotal > pair.state.totalLimit then
        .error .limit
      else if chunk.length > pair.state.queueCapacity - pair.state.queuedBytes then
        .error .wouldBlock
      else
        .ok { pair with state := { pair.state with
          receivedBytes := nextTotal
          queuedBytes := pair.state.queuedBytes + chunk.length
          queue := if chunk.isEmpty then pair.state.queue else pair.state.queue ++ [chunk] } }

/-! ## The reader -/

/-- `stream::StreamRead`, with the bytes copied out. -/
inductive StreamRead where
  | pending
  | data (bytes : Bytes)
  | eof
deriving DecidableEq, Repr

/-- `stream::StreamError`. -/
inductive StreamError where
  | failed (error : Error)
  | cancelled
  | operation (error : Error)
deriving DecidableEq, Repr

/-- `stream::terminal_error_without_head`. -/
def terminalErrorWithoutHead : Done → StreamError
  | .failed error => .failed error
  | .cancelled => .cancelled
  | .completed _ =>
    .operation (Error.new .internal "streaming response completed without a final head")

/-- `ResponseReader::try_head`: `ok` with whether a head is available. -/
def tryHead (pair : ResponsePair) : ResponsePair × Except StreamError Bool :=
  if pair.reader.head.isSome then
    (pair, .ok true)
  else
    match pair.state.head, pair.state.terminal with
    | some head, terminal =>
      let eof := pair.state.noBody && terminal == some (.completed .body)
      ({ pair with reader := { pair.reader with
          head := some head, eofReached := pair.reader.eofReached || eof } }, .ok true)
    | none, some terminal => (pair, .error (terminalErrorWithoutHead terminal))
    | none, none => (pair, .ok false)

/-- The part of `ResponseReader::try_read` that copies out of the current chunk. -/
def readCurrent (pair : ResponsePair) (queue : List Bytes) (chunk : Bytes) (offset space : Nat) :
    ResponsePair × Except StreamError StreamRead :=
  let count := min space (chunk.length - offset)
  let chunkDone := offset + count = chunk.length
  let eof := decide chunkDone && queue.isEmpty &&
    pair.state.terminal == some (.completed .body)
  ({ pair with
      state := { pair.state with queue := queue, queuedBytes := pair.state.queuedBytes - count }
      reader := { pair.reader with
        current := if chunkDone then none else some (chunk, offset + count)
        bodyStarted := pair.reader.bodyStarted || count != 0
        eofReached := pair.reader.eofReached || eof } },
    .ok (.data ((chunk.drop offset).take count)))

/-- `ResponseReader::try_read` into a destination of `space` bytes, once the head is known. -/
def readBody (pair : ResponsePair) (space : Nat) : ResponsePair × Except StreamError StreamRead :=
  if pair.reader.eofReached then
    (pair, .ok .eof)
  else if space = 0 then
    (pair, .ok (.data []))
  else
    match pair.state.terminal with
    | some (.failed error) =>
      ({ pair with reader := { pair.reader with current := none } }, .error (.failed error))
    | some .cancelled =>
      ({ pair with reader := { pair.reader with current := none } }, .error .cancelled)
    | terminal =>
      match pair.reader.current, pair.state.queue with
      | some (chunk, offset), queue => pair.readCurrent queue chunk offset space
      | none, chunk :: queue => pair.readCurrent queue chunk 0 space
      | none, [] =>
        if terminal = some (.completed .body) then
          ({ pair with reader := { pair.reader with eofReached := true } }, .ok .eof)
        else
          (pair, .ok .pending)

/-- The first part of `ResponseReader::drop`; the caller cancels the request unless EOF is known. -/
def readerDrop (pair : ResponsePair) : ResponsePair :=
  { pair with state := { pair.state with readerAlive := false, queue := [], queuedBytes := 0 } }

/-- The terminal outcome that a read result tells the reader, if it tells one. -/
def observed : Except StreamError StreamRead → Option Done
  | .ok .eof => some (.completed .body)
  | .error (.failed error) => some (.failed error)
  | .error .cancelled => some .cancelled
  | _ => none

end ResponsePair

end NbReq
