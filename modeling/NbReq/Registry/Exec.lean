import NbReq.Registry.Action
import NbReq.Lib.Tasks

/-!
# Running the engine

`exec` runs one action, `Jump` says which calls user code, the backend and the engine's owner may start and
how a panic of the reactor unwinds, and `engine` puts them together as a system of tasks. Task 0 is the
reactor's thread (idle on a manual engine), task 1 the engine's owner; the callback workers follow, and any
number of client threads may join.
-/

namespace NbReq

namespace Shared

/-! ## Programs of several sections -/

/-- What follows the locked part of an `accept*` call. -/
def acceptActs (sh : Shared) : CallResult → List Act
  | .accepted op =>
    match sh.ops[op]? with
    | some entry => if entry.origin.isSome then [.activateCallback op] else []
    | none => []
  | .rejected _ => []
  | .panicked => []
  | .stuck => [.stuck]

/-- `ReactorCore::shutdown`. -/
def reactorShutdown (path : ShutdownPath) : List Act :=
  [.drainShutdown, .reapCancelled, .reapStreams, .clearActive, .backendShutdown path]

/-- What a failed `drive` leads to: the failure path of `spawned_main_inner`, or a return to the caller of a
manual drive. -/
def driveFailed (mode : RunMode) (error : Error) : List Act :=
  match mode with
  | .spawned => .failAll error :: reactorShutdown .failure
  | .manual => [.drainInline]

/-- `finish_stream_state`. -/
def finishStream (op : Nat) : List Act := [.releasePermits op, .removeOp op]

def reactorPanickedError : Error := Error.new .internal "NBReq reactor thread panicked"

def isTerminal (sh : Shared) (ref : Nat) : Bool := (sh.op? ref).any Op.isTerminal

/-- The arm of `ReactorCore::drive` for one submission. -/
def submitActs (sh : Shared) (ω : Oracle) (submission : Submission) : Shared × List Act :=
  match submission with
  | .buffered _ op =>
    if sh.isTerminal op then (sh, [])
    else match ω.immediate with
      | some completion => (sh, [.complete op completion])
      | none => ({ sh with reactor := { sh.reactor with active := op :: sh.reactor.active } }, [])
  | .stream _ op =>
    if sh.isTerminal op then (sh, [.sink op (.commit .cancelled), .sink op .drop])
    else ({ sh with reactor := { sh.reactor with activeStreams := op :: sh.reactor.activeStreams } }, [])
  | .resolve _ op _ =>
    if sh.isTerminal op then (sh, [])
    else match ω.immediate with
      | some completion => (sh, [.complete op completion])
      | none =>
        ({ sh with reactor := { sh.reactor with activeResolves := op :: sh.reactor.activeResolves } }, [])
  | .connect _ _ | .tlsConnect _ _ _ | .tlsUpgrade _ _ => (sh, [])

/-- The arm of `ReactorCore::shutdown` for one submission. -/
def shutdownActs (sh : Shared) (submission : Submission) : List Act :=
  match submission with
  | .stream _ op => [.cancelSink op, .sink op .drop]
  | .buffered _ op | .resolve _ op _ => if sh.isTerminal op then [] else [.complete op .cancelled]
  | .connect _ op =>
    if sh.isTerminal op then [] else [.completeTcpState op (.failed tcpStoppedError)]
  | .tlsConnect _ _ op | .tlsUpgrade _ op =>
    if sh.isTerminal op then [] else [.completeTlsState op (.failed tlsStoppedError)]

/-- Handing a job to the dispatcher; a sealed dispatcher refuses it, and it is dropped with everything its
closure captured. -/
def enqueue (sh : Shared) (job : CallbackJob) : Shared × List Act :=
  match sh.dispatch.enqueueTerminal job with
  | some dispatch => ({ sh with dispatch := dispatch }, [])
  | none =>
    ({ sh with discarded := sh.discarded ++ [job] },
      job.permits.map .dropPermit ++
        match job.body with
        | .operation _ (.completed (.session io)) => [.dropWriter io, .dropTcpReader io]
        | _ => [])

/-- Running a callback: it receives its completion; its permits are dropped when it returns. -/
def invoke (sh : Shared) (job : CallbackJob) : Shared :=
  match job.body with
  | .operation op completion =>
    match sh.ops[op]? with
    | some entry =>
      { sh with ops := sh.ops.set op { entry with received := entry.received ++ [completion] } }
    | none => sh
  | .finish _ _ => sh

def waiterRead (sh : Shared) (ref : Nat) : Shared :=
  match sh.ops[ref]? with
  | none => sh
  | some entry =>
    let (op, seen) := entry.op.tryCompletion
    { sh with ops := sh.ops.set ref { entry with op := op, received := entry.received ++ seen.toList } }

/-- `release_dns_borrow`, which the backend calls before it reports a connected transport. -/
def releaseDnsBorrow (sh : Shared) (ref : Nat) : Shared × List Act :=
  match sh.ops[ref]? with
  | some ⟨.connect s, origin, attempts, received⟩ =>
    let (s, dropped) := s.releaseDnsBorrow
    (sh.update ref ⟨.connect s, origin, attempts, received⟩ { dropped := dropped },
      [.completeTcpConnected ref])
  | some ⟨.tls s, origin, attempts, received⟩ =>
    let (c, dropped) := s.toConnectState.releaseDnsBorrow
    (sh.update ref ⟨.tls { s with toConnectState := c }, origin, attempts, received⟩
      { dropped := dropped }, [.completeTlsTransportConnected ref])
  | _ => (sh, [])

/-- `StreamRequestState::release_permits`. -/
def releasePermits (sh : Shared) (ref : Nat) : Shared :=
  match sh.ops[ref]? with
  | some ⟨.stream s, origin, attempts, received⟩ =>
    let (s, dropped) := s.releasePermits
    sh.update ref ⟨.stream s, origin, attempts, received⟩ { dropped := dropped }
  | _ => sh

def removeOp (sh : Shared) (ref : Nat) : Shared :=
  match sh.op? ref with
  | some op => { sh with core := sh.core.remove op.kind op.id }
  | none => sh

/-- `try_begin_callback_event`. -/
def beginCallbackEvent (sh : Shared) (io : Nat) (callback : Callback) : Shared × List Act :=
  if sh.core.lifecycle ≠ .running then
    (sh, [])
  else
    match sh.acquire .callbackInflight with
    | none => (sh, [])
    | some (sh, permit) =>
      ({ sh with callbackActivations := sh.callbackActivations + 1 },
        [.registerFinish io callback permit])

/-- The registration section of `finish_with`. -/
def registerFinish (sh : Shared) (io : Nat) (callback : Callback) (permit : Permit) :
    Shared × List Act :=
  match sh.ios[io]?.bind (·.registerFinish callback permit) with
  | some session =>
    ({ sh with ios := sh.ios.set io session }, [.activateFinish io])
  | none => (sh, [.dropPermit permit, .finishActivation])

/-- The loop bodies of `worker` and `drain_inline`: the actions of a job, before `again`. -/
def takeJob (sh : Shared) (again : Act) (otherwise : Shared) : Shared × List Act :=
  match sh.dispatch.takeRunnable with
  | some (job, dispatch) =>
    ({ sh with dispatch := dispatch }, [.invoke job, again])
  | none => (otherwise, [])

end Shared

open Shared in
def exec (ω : Oracle) (act : Act) (sh : Shared) : Shared × List Act :=
  match act with
  | .accept request callback =>
    let (sh, result) := sh.accept request callback; (sh, sh.acceptActs result)
  | .acceptStream request => let (sh, result) := sh.acceptStream request; (sh, sh.acceptActs result)
  | .acceptResolve request callback maxResults =>
    let (sh, result) := sh.acceptResolve request callback maxResults; (sh, sh.acceptActs result)
  | .acceptTcpConnect request callback =>
    let (sh, result) := sh.acceptTcpConnect request callback; (sh, sh.acceptActs result)
  | .acceptTlsConnect request options clockRoom callback =>
    let (sh, result) := sh.acceptTlsConnect request options clockRoom callback
    (sh, sh.acceptActs result)
  | .acceptTlsUpgrade io options clockRoom callback =>
    let (sh, result) := sh.acceptTlsUpgrade io options clockRoom callback
    (sh, sh.acceptActs result)
  | .activateCallback op =>
    let (sh, job) := sh.sectionOn op (·.activateCallback op)
    (sh, enqueueActs job ++ [.finishActivation])
  | .finishActivation => ({ sh with callbackActivations := sh.callbackActivations - 1 }, [])
  | .stuck => (sh, [.stuck])
  | .cancel id => sh.cancel id
  | .cancelAll => sh.cancelAll ω
  | .cancelAllReturn _ => (sh, [])
  | .beginShutdown => sh.beginShutdown ω
  | .setStopped => ({ sh with stopped := true }, [])
  | .beginShutdownReturn => (sh, [])
  | .failAll error => sh.failAll ω error
  | .markStopped => ({ sh with core := { sh.core with lifecycle := .stopped } }, [.setStopped])
  | .complete op completion => sh.completeState op completion
  | .removeOp op => (sh.removeOp op, [])
  | .transportReady op => sh.releaseDnsBorrow op
  | .completeTcpConnected op => sh.completeTcpConnected op
  | .completeTlsTransportConnected op => sh.completeTlsTransportConnected op
  | .completeTlsConnected op => sh.completeTlsConnected op
  | .completeTcpState op completion => sh.completeTcpState op completion
  | .completeTlsState op completion => sh.completeTlsState op completion
  | .publish op => let (sh, job) := sh.sectionOn op (·.publishTerminal op); (sh, enqueueActs job)
  | .publishAll [] jobs => (sh, jobs.map .enqueue)
  | .publishAll (op :: ops) jobs =>
    let (sh, job) := sh.sectionOn op (·.publishTerminal op)
    (sh, [.publishAll ops (jobs ++ job.toList)])
  | .commitStream op completion =>
    let (sh, effect) := sh.commitOp op completion
    (sh, if effect.won then .releasePermits op :: finishStream op else [])
  | .releasePermits op => (sh.releasePermits op, [])
  | .sink op sinkOp => (sh.streamSection op (sinkSection sh.config.width sinkOp), [])
  | .cancelSink op =>
    (sh.streamSection op (sinkSection sh.config.width (.commit .cancelled)), finishStream op)
  | .tryCompletion op => (sh.waiterRead op, [])
  | .readStream op space =>
    let (sh', known) := match sh.ops[op]? with
      | some ⟨.stream s, _, _, _⟩ => (sh.streamSection op fun pair =>
          let (pair, result) := pair.tryHead
          (pair, none, ResponsePair.observed (result.map fun _ => .pending)),
          match s.response.tryHead.2 with | .ok known => known | .error _ => false)
      | _ => (sh, false)
    (sh', if known then [.readBody op space] else [])
  | .readBody op space =>
    (sh.streamSection op fun pair =>
      let (pair, result) := pair.readBody space
      (pair, none, ResponsePair.observed result), [])
  | .dropReader op =>
    (sh.streamSection op fun pair => (pair.readerDrop, none, none),
      match sh.op? op with
      | some (.stream s) => if s.response.reader.eofReached then [] else [.cancel s.id]
      | _ => [])
  | .session io ioOp => sh.ioSection io (runIoOp io ioOp)
  | .abort io kind => sh.ioSection io (·.abort io kind)
  | .dropWriter io => (sh, sh.abortIf io (·.writerDropAborts) .cancelled)
  | .dropTcpReader io => (sh, sh.abortIf io (·.readerDropAborts) .cancelled)
  | .dropOwner io => (sh, sh.abortIf io (·.ownerDropAborts) .engineStopped)
  | .dropPermit permit => (sh.dropPermits [permit], [])
  | .releaseLiveTcp id =>
    ({ sh with core := { sh.core with liveTcp := sh.core.liveTcp.erase id } }, [])
  | .finishWith io callback =>
    (sh, if sh.ios[io]?.all (·.finishCallbackRegistered) then [] else [.beginCallbackEvent io callback])
  | .beginCallbackEvent io callback => sh.beginCallbackEvent io callback
  | .registerFinish io callback permit => sh.registerFinish io callback permit
  | .activateFinish io =>
    let (sh, acts) := sh.ioSection io (·.activateFinish io); (sh, acts ++ [.finishActivation])
  | .enqueue job => sh.enqueue job
  | .work => sh.takeJob .work { sh with dispatch := sh.dispatch.workerExit }
  | .drainInline =>
    if sh.config.callbackWorkers = 0 then
      sh.takeJob .drainInline { sh with dispatch := sh.dispatch.maybeComplete }
    else
      (sh, [])
  | .invoke job =>
    (sh.invoke job, job.permits.reverse.map .dropPermit ++ [.jobDone job.requestId])
  | .jobDone id => ({ sh with dispatch := sh.dispatch.jobDone id }, [])
  | .createBackend =>
    (sh, match ω.factory with
      | some error => [.failAll error, .markStopped, .reactorReturn false]
      | none => [.drive .spawned])
  | .drive mode =>
    match ω.wakeFailure with
    | some error => (sh, driveFailed mode error)
    | none =>
      ({ sh with queue := [] },
        sh.queue.map .submit ++ [.reapCancelled, .reapStreams, .poll mode])
  | .submit submission => sh.submitActs ω submission
  | .reapCancelled =>
    ({ sh with reactor := { sh.reactor with
        active := sh.reactor.active.filter (!sh.isTerminal ·)
        activeResolves := sh.reactor.activeResolves.filter (!sh.isTerminal ·) } }, [])
  | .reapStreams => (sh, sh.reactor.activeStreams.map .reapStream)
  | .reapStream op =>
    if sh.isTerminal op then
      ({ sh with reactor := { sh.reactor with
          activeStreams := sh.reactor.activeStreams.filter (· ≠ op) } }, finishStream op)
    else
      (sh, [])
  | .poll mode =>
    match ω.poll with
    | .failed error => (sh, driveFailed mode error)
    | .ready completions =>
      (sh, completions.map (fun (op, completion) => .backendCompletion op completion) ++
        [.reapCancelled, .reapStreams, .driveDone mode])
  | .backendCompletion op completion =>
    if sh.reactor.active.contains op || sh.reactor.activeResolves.contains op then
      ({ sh with reactor := { sh.reactor with
          active := sh.reactor.active.filter (· ≠ op)
          activeResolves := sh.reactor.activeResolves.filter (· ≠ op) } }, [.complete op completion])
    else
      (sh, [])
  | .driveDone .manual => (sh, [.drainInline])
  | .driveDone .spawned =>
    (sh, if sh.stopped then reactorShutdown .stop else [.drive .spawned])
  | .drainShutdown => ({ sh with queue := [] }, sh.queue.map .shutdownSubmission)
  | .shutdownSubmission submission => (sh, sh.shutdownActs submission)
  | .clearActive => ({ sh with reactor := ⟨[], [], []⟩ }, [])
  | .backendShutdown .stop =>
    (sh, if ω.backendShutdownOk then [.markStopped, .reactorReturn true] else [.reactorReturn false])
  | .backendShutdown .failure => (sh, [.markStopped, .reactorReturn false])
  | .backendShutdown .manual => ({ sh with reactorResult := some ω.backendShutdownOk }, [])
  | .reactorReturn ok => ({ sh with reactorResult := some ok }, [])
  | .joinReactor => (sh, [])
  | .waitForCallbackActivations => (sh, [])
  | .seal => ({ sh with dispatch := sh.dispatch.seal }, [])
  | .markStoppedIfOk => (sh, if sh.reactorResult = some true then [.markStopped] else [])
  | .awaitCallbacks => (sh, [])
  | .shutdownReturn => (sh, [])

/-! ## Blocking -/

def Act.locksCore : Act → Bool
  | .accept _ _ | .acceptStream _ | .acceptResolve _ _ _ | .acceptTcpConnect _ _
  | .acceptTlsConnect _ _ _ _ | .acceptTlsUpgrade _ _ _ _ | .cancel _ | .cancelAll | .beginShutdown
  | .failAll _ | .markStopped | .removeOp _ | .completeTcpConnected _
  | .completeTlsTransportConnected _ | .completeTlsConnected _ | .completeTcpState _ _
  | .completeTlsState _ _ | .releaseLiveTcp _ | .beginCallbackEvent _ _ => true
  | _ => false

/-- An action can be taken: the core is not held for ever, and what a waiting action waits for has
happened. -/
def Act.enabled (act : Act) (sh : Shared) : Prop :=
  (act.locksCore → sh.deadlock.isNone) ∧
  match act with
  | .stuck => False
  | .work => (sh.dispatch.takeRunnable).isSome ∨ (sh.dispatch.isSealed ∧ sh.dispatch.queue = [])
  | .joinReactor => sh.reactorResult.isSome
  | .waitForCallbackActivations => sh.callbackActivations = 0
  | .awaitCallbacks => sh.dispatch.complete
  | _ => True

/-! ## Calls -/

/-- The calls that user code makes. A waiter exists only for an operation without a callback. -/
inductive Act.ClientCall (sh : Shared) : Act → Prop
  | accept (request callback) : ClientCall sh (.accept request callback)
  | acceptStream (request) : ClientCall sh (.acceptStream request)
  | acceptResolve (request callback maxResults) :
      ClientCall sh (.acceptResolve request callback maxResults)
  | acceptTcpConnect (request callback) : ClientCall sh (.acceptTcpConnect request callback)
  | acceptTlsConnect (request options clockRoom callback) :
      ClientCall sh (.acceptTlsConnect request options clockRoom callback)
  | acceptTlsUpgrade (io options clockRoom callback) :
      ClientCall sh (.acceptTlsUpgrade io options clockRoom callback)
  | cancel (id) : ClientCall sh (.cancel id)
  | cancelAll : ClientCall sh .cancelAll
  | tryCompletion {op entry} (found : sh.ops[op]? = some entry) (waiter : entry.origin = none) :
      ClientCall sh (.tryCompletion op)
  | readStream (op space) : ClientCall sh (.readStream op space)
  | dropReader (op) : ClientCall sh (.dropReader op)
  | session (io ioOp) : ClientCall sh (.session io ioOp)
  | dropWriter (io) : ClientCall sh (.dropWriter io)
  | dropTcpReader (io) : ClientCall sh (.dropTcpReader io)
  | finishWith (io callback) : ClientCall sh (.finishWith io callback)

/-- The calls that the backend makes while it is polled, given a submission or shut down. -/
inductive Act.BackendCall : Act → Prop
  | transportReady (op) : BackendCall (.transportReady op)
  | verified (op) : BackendCall (.completeTlsConnected op)
  | failTcp (op error) : BackendCall (.completeTcpState op (.failed error))
  | failTls (op error) : BackendCall (.completeTlsState op (.failed error))
  | sink (op sinkOp) : BackendCall (.sink op sinkOp)
  | session (io ioOp) : BackendCall (.session io ioOp)
  | abort (io kind) : BackendCall (.abort io kind)
  | dropOwner (io) : BackendCall (.dropOwner io)

/-- The actions of the reactor in which backend code runs, and may panic. -/
def Act.runsBackend : Act → Bool
  | .createBackend | .submit _ | .reapCancelled | .reapStreams | .reapStream _ | .poll _ | .clearActive
  | .backendShutdown _ => true
  | _ => false

/-- The sinks that the unwinding of the reactor drops with the submissions it had drained. -/
def unwind (acts : List Act) : List Act :=
  acts.filterMap fun
    | .submit (.stream _ op) | .shutdownSubmission (.stream _ op) => some (.sink op .drop)
    | _ => none

/-- `Engine::shutdown`; the last three sections are those of the drop of the engine it consumed. -/
def shutdownProgram (mode : RunMode) : List Act :=
  .beginShutdown ::
    (match mode with
      | .spawned => [.joinReactor]
      | .manual => Shared.reactorShutdown .manual) ++
    [.waitForCallbackActivations, .seal, .markStoppedIfOk, .seal, .drainInline, .awaitCallbacks,
      .beginShutdown, .waitForCallbackActivations, .markStoppedIfOk, .shutdownReturn]

/-- How a task may replace its remaining actions. -/
inductive Jump (sh : Shared) : Nat → List Act → List Act → Prop
  | call {task : Nat} {act : Act} (user : 1 ≤ task) (call : act.ClientCall sh) :
      Jump sh task [] [act]
  | backend {task : Nat} {act here : Act} {rest : List Act} (running : here.runsBackend)
      (call : act.BackendCall) : Jump sh task (here :: rest) (act :: here :: rest)
  | panic {here : Act} {rest : List Act} (running : here.runsBackend) :
      Jump sh 0 (here :: rest)
        (unwind (here :: rest) ++
          [.failAll Shared.reactorPanickedError, .markStopped, .reactorReturn false])
  | drive (manual : sh.config.runMode = .manual) : Jump sh 1 [] [.drive .manual]
  | shutdown : Jump sh 1 [] (shutdownProgram sh.config.runMode)

/-- What changes without any of the modelled threads: the use of the body budget, and the support flags that
the backend sets. -/
inductive Drift (sh : Shared) : Shared → Prop
  | body (used : Nat) : Drift sh { sh with bodyUsed := used }
  | support (resolver tcp : Bool) :
      Drift sh { sh with nativeResolverSupported := resolver, standaloneTcpSupported := tcp }

def engine : TaskSystem Shared Act Oracle where
  enabled := Act.enabled
  exec := exec
  jump := Jump
  drift := Drift

/-- A new engine: the reactor's thread of a spawned engine, the owner, and the callback workers. -/
def start (config : EngineConfig) : TaskSystem.Config Shared Act where
  shared := Shared.new config
  tasks := (match config.runMode with
    | .spawned => [.createBackend]
    | .manual => []) :: [] :: List.replicate config.callbackWorkers [.work]

/-- The configurations that a run of the engine reaches, every step of it being allowed. -/
def ReachableBy (allowed : TaskSystem.Config Shared Act → TaskSystem.Label Act → Prop)
    (config : EngineConfig) (c : TaskSystem.Config Shared Act) : Prop :=
  TaskSystem.Run engine allowed (start config) c

def Reachable (config : EngineConfig) (c : TaskSystem.Config Shared Act) : Prop :=
  ReachableBy TaskSystem.anyStep config c

end NbReq
