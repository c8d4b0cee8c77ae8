import NbReq.Registry.Accept

/-!
# The engine's critical sections as actions

An action is one critical section: what a thread does between taking and releasing one lock, or one atomic
operation. `exec` runs it and returns the actions that the same thread takes next, so that a call of the
source unfolds into its sections and other threads may run in between.

`Act` lists the sections of the registry, of the sessions, of the callback dispatcher, of the reactor's loop
and of `Engine::shutdown`. What the source leaves to a `HashMap`'s iteration order, to the backend or to the
clock is resolved by an `Oracle`. An action that ends in `Return` marks the point where a call returns.
-/

namespace NbReq

/-! ## Actions -/

/-- The sections on one session that the user half and the owner half run. -/
inductive IoOp where
  | trySend (bytes : Bytes)
  | tryRead (space : Nat)
  | tryFinish
  | takeOutbound
  | takeOutboundUpTo (capacity : Nat)
  | takeTlsOutboundUpTo (capacity : Nat)
  | writeProgress (nbytes : Nat)
  | completeWriteShutdown
  | pushInbound (bytes : Bytes)
  | peerClosed
  | closeWriteAdmissionIfIdle

inductive SinkOp where
  | publishHead (head : ResponseHead) (noBody : Bool)
  | push (chunk : Bytes)
  | commit (completion : Done)
  | drop

/-- How far the heaps had grown when a call took its snapshot. -/
structure Mark where
  ops : Nat
  ios : Nat
deriving DecidableEq, Repr

inductive ShutdownPath where
  | stop
  | failure
  | manual
deriving DecidableEq, Repr

inductive Act where
  -- submissions
  | accept (request : Request) (callback : Option Callback)
  | acceptStream (request : StreamRequest)
  | acceptResolve (request : ResolveRequest) (callback : Option Callback) (maxResolveResults : Nat)
  | acceptTcpConnect (request : TcpConnectRequest) (callback : Option Callback)
  | acceptTlsConnect (request : TcpConnectRequest) (options : TlsOptions) (clockRoom : Nat)
      (callback : Option Callback)
  | acceptTlsUpgrade (io : Nat) (options : TlsOptions) (clockRoom : Nat) (callback : Option Callback)
  | activateCallback (op : Nat)
  | finishActivation
  | stuck
  -- terminal commits
  | cancel (id : RequestId)
  | cancelAll
  | cancelAllReturn (mark : Mark)
  | beginShutdown
  | setStopped
  | beginShutdownReturn
  | failAll (error : Error)
  | markStopped
  | complete (op : Nat) (completion : Done)
  | removeOp (op : Nat)
  | transportReady (op : Nat)
  | completeTcpConnected (op : Nat)
  | completeTlsTransportConnected (op : Nat)
  | completeTlsConnected (op : Nat)
  | completeTcpState (op : Nat) (completion : Done)
  | completeTlsState (op : Nat) (completion : Done)
  | publish (op : Nat)
  | publishAll (ops : List Nat) (jobs : List CallbackJob)
  | commitStream (op : Nat) (completion : Done)
  | releasePermits (op : Nat)
  | sink (op : Nat) (sinkOp : SinkOp)
  | cancelSink (op : Nat)
  -- waiters and readers
  | tryCompletion (op : Nat)
  | readStream (op : Nat) (space : Nat)
  | readBody (op : Nat) (space : Nat)
  | dropReader (op : Nat)
  -- sessions
  | session (io : Nat) (ioOp : IoOp)
  | abort (io : Nat) (kind : TcpAbort)
  | dropWriter (io : Nat)
  | dropTcpReader (io : Nat)
  | dropOwner (io : Nat)
  | dropPermit (permit : Permit)
  | releaseLiveTcp (id : RequestId)
  | finishWith (io : Nat) (callback : Callback)
  | beginCallbackEvent (io : Nat) (callback : Callback)
  | registerFinish (io : Nat) (callback : Callback) (permit : Permit)
  | activateFinish (io : Nat)
  -- callback dispatch
  | enqueue (job : CallbackJob)
  | work
  | drainInline
  | invoke (job : CallbackJob)
  | jobDone (id : RequestId)
  -- the reactor
  | createBackend
  | drive (mode : RunMode)
  | submit (submission : Submission)
  | reapCancelled
  | reapStreams
  | reapStream (op : Nat)
  | poll (mode : RunMode)
  | backendCompletion (op : Nat) (completion : Done)
  | driveDone (mode : RunMode)
  | drainShutdown
  | shutdownSubmission (submission : Submission)
  | clearActive
  | backendShutdown (path : ShutdownPath)
  | reactorReturn (ok : Bool)
  -- `Engine::shutdown`
  | joinReactor
  | waitForCallbackActivations
  | seal
  | markStoppedIfOk
  | awaitCallbacks
  | shutdownReturn

/-- What `Backend::poll` returns. -/
inductive PollOutcome where
  | ready (completions : List (Nat × Done))
  | failed (error : Error)

structure Oracle where
  /-- The iteration order of a `HashMap`. -/
  order : List Nat → List Nat
  order_perm : ∀ refs, (order refs).Perm refs
  factory : Option Error
  wakeFailure : Option Error
  /-- What `Backend::submit` returns at once. -/
  immediate : Option Done
  poll : PollOutcome
  backendShutdownOk : Bool

namespace Shared

/-! ## Sections on one operation -/

def enqueueActs (job : Option CallbackJob) : List Act := (job.map Act.enqueue).toList

/-- `complete_tcp_state_locked`, `complete_tls_state_locked`: commit if the map still holds this record, and
take it out of the map. -/
def completeLocked (sh : Shared) (kind : OpKind) (ref : Nat) (completion : Done) : Shared × Bool :=
  if sh.current kind ref then
    match sh.op? ref, sh.commitOp ref completion with
    | some op, (sh, effect) =>
      if effect.won then ({ sh with core := sh.core.remove kind op.id }, true) else (sh, false)
    | none, _ => (sh, false)
  else
    (sh, false)

/-- The loop of `complete_*_state_locked` over a snapshot; the operations whose commit won, in order. -/
def completeAllLocked (kind : OpKind) (completion : Done) : List Nat → Shared → Shared × List Nat
  | [], sh => (sh, [])
  | ref :: refs, sh =>
    let (sh, won) := sh.completeLocked kind ref completion
    let (sh, winners) := completeAllLocked kind completion refs sh
    (sh, if won then ref :: winners else winners)

/-- `complete_state`, `complete_resolve_state`. -/
def completeState (sh : Shared) (ref : Nat) (completion : Done) : Shared × List Act :=
  let (sh, effect) := sh.commitOp ref completion
  (sh, if effect.won then Act.removeOp ref :: enqueueActs effect.job else [])

/-- A section on one operation that may take its job. -/
def sectionOn (sh : Shared) (ref : Nat) (run : Op → Op × Effect) : Shared × Option CallbackJob :=
  match sh.ops[ref]? with
  | none => (sh, none)
  | some entry =>
    let (op, effect) := run entry.op
    (sh.update ref { entry with op := op } effect, effect.job)

/-- A section on one streamed response; `committed` is the outcome it committed, if it did. -/
def streamSection (sh : Shared) (ref : Nat)
    (run : ResponsePair → ResponsePair × Option Done × Option Done) : Shared :=
  match sh.ops[ref]? with
  | some ⟨.stream s, origin, attempts, received⟩ =>
    let (pair, committed, observed) := run s.response
    sh.update ref
      ⟨.stream { s with response := pair }, origin, attempts ++ committed.toList,
        received ++ observed.toList⟩
      { counted := committed.map fun completion => (.request, completion.outcome) }
  | _ => sh

def sinkSection (width : PointerWidth) (sinkOp : SinkOp) (pair : ResponsePair) :
    ResponsePair × Option Done × Option Done :=
  match sinkOp with
  | .publishHead head noBody =>
    let (pair, _, completed) := pair.publishHead head noBody
    (pair, if completed then some (.completed .body) else none, none)
  | .push chunk =>
    match pair.tryPush width chunk with
    | .ok pair => (pair, none, none)
    | .error _ => (pair, none, none)
  | .commit completion =>
    let (pair, won) := pair.sinkCommit completion
    (pair, if won then some completion else none, none)
  | .drop =>
    let (pair, won) := pair.sinkDrop
    (pair, if won then some (.failed ResponsePair.droppedSinkError) else none, none)

/-! ## Sweeps over all operations -/

/-- What the locked part of `cancel_all`, `begin_shutdown` and `fail_all` collects. -/
structure Swept where
  requests : List Nat
  streams : List Nat
  resolutions : List Nat
  tcpTerminals : List Nat
  tlsStates : List Nat
  live : List Nat

/-- The references of a table whose id is selected, in the iteration order. -/
def selected (ω : Oracle) (select : RequestId → Bool) (table : Table) : List Nat :=
  ω.order ((table.entries.filter fun entry => select entry.1).map Sigma.snd)

/-- The locked part: pending TLS and TCP connects are committed, everything else is collected. -/
def sweep (sh : Shared) (ω : Oracle) (select : RequestId → Bool) (tlsDone tcpDone : Done) :
    Shared × Swept :=
  let (sh₁, tlsStates) :=
    completeAllLocked .tls tlsDone (selected ω select sh.core.tlsConnects) sh
  let (sh₂, tcpTerminals) :=
    completeAllLocked .connect tcpDone (selected ω select sh₁.core.connects) sh₁
  (sh₂, {
    requests := selected ω select sh₂.core.requests
    streams := selected ω select sh₂.core.streamRequests
    resolutions := selected ω select sh₂.core.resolutions
    tcpTerminals := tcpTerminals
    tlsStates := tlsStates
    live := selected ω select sh₂.core.liveTcp })

/-- What follows the locked part, outside the lock and in this order. -/
def Swept.acts (swept : Swept) (done : Done) (abort : TcpAbort) : List Act :=
  swept.requests.map (.complete · done) ++ swept.streams.map (.commitStream · done) ++
    swept.resolutions.map (.complete · done) ++ [.publishAll swept.tcpTerminals []] ++
    swept.live.map (.abort · abort) ++ swept.tlsStates.map .publish

def cancelAll (sh : Shared) (ω : Oracle) : Shared × List Act :=
  let barrier := sh.core.nextSequence - 1
  let (sh', swept) := sh.sweep ω (·.sequence ≤ barrier) .cancelled .cancelled
  (sh', swept.acts .cancelled .cancelled ++ [.cancelAllReturn ⟨sh.ops.length, sh.ios.length⟩])

def tlsStoppedError : Error :=
  Error.new .engineStopped "the owning Engine stopped during TLS establishment"

def tcpStoppedError : Error :=
  Error.new .engineStopped "the owning Engine stopped during TCP connection establishment"

/-- The first statement of `begin_shutdown`. -/
def closeAdmission (sh : Shared) : Shared :=
  { sh with core := { sh.core with
      lifecycle := if sh.core.lifecycle = .running then .shuttingDown else sh.core.lifecycle } }

def beginShutdown (sh : Shared) (ω : Oracle) : Shared × List Act :=
  let (sh, swept) :=
    sh.closeAdmission.sweep ω (fun _ => true) (.failed tlsStoppedError) (.failed tcpStoppedError)
  (sh, swept.acts .cancelled .engineStopped ++ [.setStopped, .beginShutdownReturn])

def failAll (sh : Shared) (ω : Oracle) (error : Error) : Shared × List Act :=
  let (sh, swept) := sh.sweep ω (fun _ => true) (.failed error) (.failed error)
  (sh, swept.acts (.failed error) (.failed error))

/-- The arms of `cancel` for an id that is not a pending connect's. -/
def cancelOther (sh : Shared) (id : RequestId) (live : Option Nat) : List Act :=
  match live, sh.core.requests.lookup id, sh.core.streamRequests.lookup id with
  | some io, _, _ => [.abort io .cancelled]
  | none, some ref, _ => [.complete ref .cancelled]
  | none, none, some ref => [.commitStream ref .cancelled]
  | none, none, none => []

def cancel (sh : Shared) (id : RequestId) : Shared × List Act :=
  if id.engine ≠ sh.config.id then
    (sh, [])
  else
    let connect := sh.core.connects.lookup id
    let tls := sh.core.tlsConnects.lookup id
    let (sh, tcpWon) := match connect with
      | some ref => sh.completeLocked .connect ref .cancelled
      | none => (sh, false)
    let (sh, tlsWon) := match tls with
      | some ref => sh.completeLocked .tls ref .cancelled
      | none => (sh, false)
    let live := if tcpWon then none else sh.core.liveTcp.lookup id
    let first :=
      if tcpWon then (connect.map Act.publish).toList
      else if tlsWon then
        (live.map (Act.abort · .cancelled)).toList ++ (tls.map Act.publish).toList
      else sh.cancelOther id live
    (sh, first ++ ((sh.core.resolutions.lookup id).map (Act.complete · .cancelled)).toList)

/-! ## Connected transports -/

/-- The session that `TcpIoShared::pair` creates for a connect, owning its reservations. -/
def newSession (s : ConnectState) (release : List Permit) : TcpIo :=
  { id := s.id, sendWindow := s.sendWindow, receiveWindow := s.receiveWindow,
    onRelease := some release }

/-- `Shared::complete_tcp_connected`: the reservations move into the session's release closure. -/
def completeTcpConnected (sh : Shared) (ref : Nat) : Shared × List Act :=
  match sh.ops[ref]? with
  | some ⟨.connect s, origin, attempts, received⟩ =>
    if sh.core.lifecycle ≠ .running || !sh.current .connect ref || s.terminal then
      (sh, [])
    else
      match s.occupancyPermit, s.queuedBytesPermit, s.metricBytesPermit with
      | some occupancy, some queued, some metric =>
        let io := sh.ios.length
        let completion : Done := .completed (.session io)
        let (s', effect) := { s with occupancyPermit := none, queuedBytesPermit := none,
                                     metricBytesPermit := none, terminal := true,
                                     completion := some completion,
                                     deliveryReady := true }.takeTerminalJob ref
        let sh := sh.update ref ⟨.connect s', origin, attempts ++ [completion], received⟩
          { effect with counted := some (.tcpConnect, .completed) }
        let core := sh.core.remove .connect s.id
        ({ sh with
            core := { core with liveTcp := core.liveTcp.insert s.id io }
            ios := sh.ios ++ [newSession s [occupancy, queued, metric]] },
          enqueueActs effect.job)
      | _, _, _ => ({ sh with panicked := true }, [])
  | _ => (sh, [])

/-- `Shared::complete_tls_transport_connected`: the operation stays pending until it is verified. -/
def completeTlsTransportConnected (sh : Shared) (ref : Nat) : Shared × List Act :=
  match sh.ops[ref]? with
  | some ⟨.tls s, origin, attempts, received⟩ =>
    if sh.core.lifecycle ≠ .running || s.upgrade || !sh.current .tls ref || s.terminal then
      (sh, [])
    else
      let taken : TlsConnectState := { s with occupancyPermit := none, queuedBytesPermit := none,
                                              metricBytesPermit := none }
      match s.occupancyPermit, s.queuedBytesPermit, s.metricBytesPermit with
      | some occupancy, some queued, some metric =>
        ({ sh.update ref ⟨.tls taken, origin, attempts, received⟩ {} with
            core := { sh.core with liveTcp := sh.core.liveTcp.insert s.id sh.ios.length }
            ios := sh.ios ++ [newSession s.toConnectState [occupancy, queued, metric]] }, [])
      -- A missing permit ends the call; those taken before it are dropped.
      | occupancy, queued, none =>
        if occupancy.isSome && queued.isSome then
          (sh.update ref ⟨.tls taken, origin, attempts, received⟩
            { dropped := queued.toList ++ occupancy.toList }, [])
        else if occupancy.isSome then
          (sh.update ref ⟨.tls { s with occupancyPermit := none }, origin, attempts, received⟩
            { dropped := occupancy.toList }, [])
        else (sh, [])
      | some occupancy, none, some _ =>
        (sh.update ref ⟨.tls { s with occupancyPermit := none }, origin, attempts, received⟩
          { dropped := [occupancy] }, [])
      | none, _, some _ => (sh, [])
  | _ => (sh, [])

/-- `Shared::complete_tls_connected`. Were the commit to lose, the connection inside the completion would be
dropped under the lock, and its destructor would lock the core again. -/
def completeTlsConnected (sh : Shared) (ref : Nat) : Shared × List Act :=
  match sh.op? ref with
  | some (.tls s) =>
    if sh.core.lifecycle ≠ .running || !sh.current .tls ref then
      (sh, [])
    else
      match sh.core.liveTcp.lookup s.id with
      | none => (sh, [])
      | some io =>
        match sh.ios[io]? with
        | none => (sh, [])
        | some session =>
          if session.released then
            (sh, [])
          else
            let session := if s.upgrade then session.completeUpgrade else session
            let sh := { sh with ios := sh.ios.set io session }
            let (sh, effect) := sh.commitOp ref (.completed (.session io))
            if effect.won then
              ({ sh with core := sh.core.remove .tls s.id }, [.publish ref])
            else
              ({ sh with deadlock := some ⟨[], false⟩ }, [.stuck])
  | _ => (sh, [])

def completeTcpState (sh : Shared) (ref : Nat) (completion : Done) : Shared × List Act :=
  let (sh, won) := sh.completeLocked .connect ref completion
  (sh, if won then [.publish ref] else [])

/-- The abort that `complete_tls_state` gives the session of a failed or cancelled connect. -/
def tlsAbort : Done → Option TcpAbort
  | .completed _ => none
  | .failed error => some (.failed error)
  | .cancelled => some .cancelled

def completeTlsState (sh : Shared) (ref : Nat) (completion : Done) : Shared × List Act :=
  match sh.op? ref with
  | none => (sh, [])
  | some op =>
    if sh.current .tls ref then
      let io := (tlsAbort completion).bind fun abort =>
        (sh.core.liveTcp.lookup op.id).map (Act.abort · abort)
      let (sh, won) := sh.completeLocked .tls ref completion
      (sh, io.toList ++ (if won then [.publish ref] else []))
    else
      (sh, [])

/-! ## Sections on one session -/

/-- What runs after a section on a session: the release closure, then the finish job. -/
def ioActs (id : RequestId) (effect : IoEffect) : List Act :=
  (match effect.release with
    | some permits => permits.map .dropPermit ++ [.releaseLiveTcp id]
    | none => []) ++ enqueueActs effect.job

def ioSection (sh : Shared) (io : Nat) (run : TcpIo → TcpIo × IoEffect) : Shared × List Act :=
  match sh.ios[io]? with
  | none => (sh, [])
  | some session =>
    let (session', effect) := run session
    ({ sh with ios := sh.ios.set io session', panicked := sh.panicked || effect.panicked },
      ioActs session.id effect)

def runIoOp (self : Nat) (ioOp : IoOp) (io : TcpIo) : TcpIo × IoEffect :=
  match ioOp with
  | .trySend bytes => ((io.trySend bytes).1, {})
  | .tryRead space => let (io, effect, _) := io.tryRead space; (io, effect)
  | .tryFinish => (io.tryFinish.1, {})
  | .takeOutbound => (io.takeOutbound.1, {})
  | .takeOutboundUpTo capacity => ((io.takeOutboundUpTo capacity).1, {})
  | .takeTlsOutboundUpTo capacity => ((io.takeTlsOutboundUpTo capacity).1, {})
  | .writeProgress nbytes => (io.writeProgress nbytes, {})
  | .completeWriteShutdown => let (io, effect, _) := io.completeWriteShutdown self; (io, effect)
  | .pushInbound bytes => ((io.pushInbound bytes).1, {})
  | .peerClosed => (io.peerClosed, {})
  | .closeWriteAdmissionIfIdle => (io.closeWriteAdmissionIfIdle.1, {})

/-- A check of a session under its lock, followed by an abort in a section of its own. -/
def abortIf (sh : Shared) (io : Nat) (test : TcpIo → Bool) (kind : TcpAbort) : List Act :=
  match sh.ios[io]? with
  | some session => if test session then [.abort io kind] else []
  | none => []

end Shared

end NbReq
