import NbReq.TcpIo
import NbReq.Request
import Mathlib.Data.List.AList

/-!
# The registry's state

`registry::Shared` as one record. Operation records and sessions are shared by `Arc` in the source; here
they live in two append-only heaps, an `Arc` is a position in one of them, and `Arc::ptr_eq` is equality
of positions. The maps of `CoreState` send a request id to such a position.

An entry of the operation heap carries two histories that the program does not have: the terminal commits
that were attempted on the operation, in lock order, and the outcomes that a waiter, reader or callback
received for it.

A thread that locks the core mutex while it holds it never returns and never unlocks it; `deadlock`
records that, with the permits its frame keeps.
-/

namespace NbReq

/-! ## Configuration -/

/-- The parts of `EngineConfig` and of the target that admission reads. -/
structure EngineConfig where
  width : PointerWidth
  id : Nat
  runMode : RunMode
  callbackWorkers : Nat
  commandQueueCapacity : Nat
  callbackQueueCapacity : Nat
  maxInflightRequests : Nat
  maxInflightResolutions : Nat
  maxRequestBodyBytes : Nat
  maxResponseBodyBytes : Nat
  maxBufferedBodyBytes : Option Nat
  maxStreamQueueBytesPerRequest : Nat
  maxStreamQueuedBytes : Nat
  maxQueuedBytes : Nat
  maxStandaloneTcpConnections : Nat
  maxTcpQueueBytesPerConnection : Nat
  maxResolveResults : Nat
  maxHeaderBytes : Nat
  maxHeaderCount : Nat
  streamingSupported : Bool

def EngineConfig.limit (config : EngineConfig) : Counter → Nat
  | .inflight => config.maxInflightRequests
  | .resolutionInflight => config.maxInflightResolutions
  | .callbackInflight => config.callbackQueueCapacity
  | .streamQueuedBytes => config.maxStreamQueuedBytes
  | .queuedBytes => config.maxQueuedBytes
  | .tcpConnections => config.maxStandaloneTcpConnections
  | .tcpQueuedBytes => config.width.usizeMax

/-! ## Operations of any kind -/

/-- The maps of `CoreState` that hold operations, one for each kind. -/
inductive OpKind where
  | request | stream | resolve | connect | tls
deriving DecidableEq, Repr

inductive Op where
  | request (s : RequestState)
  | stream (s : StreamRequestState)
  | resolve (s : ResolveState)
  | connect (s : ConnectState)
  | tls (s : TlsConnectState)

namespace Op

def kind : Op → OpKind
  | request _ => .request
  | stream _ => .stream
  | resolve _ => .resolve
  | connect _ => .connect
  | tls _ => .tls

def id : Op → RequestId
  | request s => s.id
  | stream s => s.id
  | resolve s => s.id
  | connect s => s.id
  | tls s => s.id

/-- `is_terminal` of each kind. -/
def isTerminal : Op → Bool
  | request s => s.terminal
  | stream s => s.response.state.terminal.isSome
  | resolve s => s.completion.isSome
  | connect s => s.terminal
  | tls s => s.terminal

def callback : Op → Option Callback
  | request s => s.callback
  | stream _ => none
  | resolve s => s.callback
  | connect s => s.callback
  | tls s => s.callback

def permits : Op → List Permit
  | request s => s.permits
  | stream s => s.permitList
  | resolve s => s.permits
  | connect s => s.permits
  | tls s => s.permits

/-- The family whose counters the operation's outcome goes into; a TLS upgrade has none. -/
def family : Op → Option Family
  | request _ => some .request
  | stream _ => some .request
  | resolve _ => some .resolution
  | connect _ => some .tcpConnect
  | tls s => if s.upgrade then none else some .tcpConnect

/-- The terminal commit of each kind; for a streaming request the one through its control. -/
def commit (self : Nat) (op : Op) (completion : Done) : Op × Effect :=
  match op with
  | request s => let (s, effect) := s.commit self completion; (request s, effect)
  | resolve s => let (s, effect) := s.commit self completion; (resolve s, effect)
  | connect s => let (s, effect) := s.commit true completion; (connect s, effect)
  | tls s =>
    let (c, effect) := s.toConnectState.commit (!s.upgrade) completion
    (tls { s with toConnectState := c }, effect)
  | stream s =>
    let (pair, won) := s.response.controlCommit completion
    (stream { s with response := pair },
      { won := won, counted := if won then some (.request, completion.outcome) else none })

/-- `activate_callback` of each kind that has callbacks. -/
def activateCallback (self : Nat) (op : Op) : Op × Effect :=
  match op with
  | request s => let (s, effect) := s.activateCallback self; (request s, effect)
  | resolve s => let (s, effect) := s.activateCallback self; (resolve s, effect)
  | connect s => let (s, effect) := s.activateCallback self; (connect s, effect)
  | tls s =>
    let (c, effect) := s.toConnectState.activateCallback self
    (tls { s with toConnectState := c }, effect)
  | stream s => (stream s, {})

/-- `publish_terminal` of the two-phase kinds. -/
def publishTerminal (self : Nat) (op : Op) : Op × Effect :=
  match op with
  | connect s => let (s, effect) := s.publishTerminal self; (connect s, effect)
  | tls s =>
    let (c, effect) := s.toConnectState.publishTerminal self
    (tls { s with toConnectState := c }, effect)
  | op => (op, {})

def tryCompletion (op : Op) : Op × Option Done :=
  match op with
  | request s => let (s, seen) := s.tryCompletion; (request s, seen)
  | resolve s => (resolve s, s.completion)
  | connect s => let (s, seen) := s.tryCompletion; (connect s, seen)
  | tls s =>
    let (c, seen) := s.toConnectState.tryCompletion
    (tls { s with toConnectState := c }, seen)
  | stream s => (stream s, none)

end Op

/-- An accepted operation: its record, the callback it was accepted with, and its histories. -/
structure OpEntry where
  op : Op
  origin : Option Callback
  attempts : List Done := []
  received : List Done := []

/-! ## The command queue -/

/-- `registry::Submission`. -/
inductive Submission where
  | buffered (request : Request) (op : Nat)
  | stream (request : StreamRequest) (op : Nat)
  | resolve (request : ResolveRequest) (op : Nat) (maxResults : Nat)
  | connect (request : TcpConnectRequest) (op : Nat)
  | tlsConnect (request : TcpConnectRequest) (options : TlsOptions) (op : Nat)
  | tlsUpgrade (options : TlsOptions) (op : Nat)

def Submission.op : Submission → Nat
  | buffered _ op => op
  | stream _ op => op
  | resolve _ op _ => op
  | connect _ op => op
  | tlsConnect _ _ op => op
  | tlsUpgrade _ op => op

/-! ## Core and shared state -/

/-- `registry::LifecycleState`. -/
inductive Lifecycle where
  | running | shuttingDown | stopped
deriving DecidableEq, Repr

/-- A `HashMap` from request ids to references. -/
abbrev Table := AList fun _ : RequestId => Nat

/-- `registry::CoreState`. -/
structure CoreState where
  lifecycle : Lifecycle
  nextSequence : Nat
  requests : Table
  streamRequests : Table
  resolutions : Table
  connects : Table
  tlsConnects : Table
  liveTcp : Table

def CoreState.table (core : CoreState) : OpKind → Table
  | .request => core.requests
  | .stream => core.streamRequests
  | .resolve => core.resolutions
  | .connect => core.connects
  | .tls => core.tlsConnects

def CoreState.setTable (core : CoreState) (kind : OpKind) (table : Table) : CoreState :=
  match kind with
  | .request => { core with requests := table }
  | .stream => { core with streamRequests := table }
  | .resolve => { core with resolutions := table }
  | .connect => { core with connects := table }
  | .tls => { core with tlsConnects := table }

def CoreState.insert (core : CoreState) (kind : OpKind) (id : RequestId) (op : Nat) : CoreState :=
  core.setTable kind ((core.table kind).insert id op)

def CoreState.remove (core : CoreState) (kind : OpKind) (id : RequestId) : CoreState :=
  core.setTable kind ((core.table kind).erase id)

theorem CoreState.table_setTable (core : CoreState) (kind kind' : OpKind) (table : Table) :
    (core.setTable kind table).table kind' = if kind' = kind then table else core.table kind' := by
  cases kind <;> cases kind' <;> rfl

theorem CoreState.lookup_insert (core : CoreState) (kind kind' : OpKind) (id id' : RequestId) (op : Nat) :
    ((core.insert kind id op).table kind').lookup id' =
      if kind' = kind ∧ id' = id then some op else (core.table kind').lookup id' := by
  rw [insert, table_setTable]
  by_cases sameKind : kind' = kind
  · subst sameKind
    by_cases sameId : id' = id
    · subst sameId
      simp
    · simp [sameId]
  · simp [sameKind]

theorem CoreState.lookup_remove (core : CoreState) (kind kind' : OpKind) (id id' : RequestId) :
    ((core.remove kind id).table kind').lookup id' =
      if kind' = kind ∧ id' = id then none else (core.table kind').lookup id' := by
  rw [remove, table_setTable]
  by_cases sameKind : kind' = kind
  · subst sameKind
    by_cases sameId : id' = id
    · subst sameId
      simp
    · simp [sameId]
  · simp [sameKind]

theorem CoreState.setTable_table (core : CoreState) (kind : OpKind) :
    core.setTable kind (core.table kind) = core := by
  cases kind <;> rfl

theorem CoreState.setTable_setTable (core : CoreState) (kind : OpKind) (table table' : Table) :
    (core.setTable kind table).setTable kind table' = core.setTable kind table' := by
  cases kind <;> rfl

/-- Removing an entry that was just added to a map without it restores the map. -/
theorem CoreState.remove_insert (core : CoreState) {kind : OpKind} {id : RequestId} (op : Nat)
    (free : (core.table kind).lookup id = none) : (core.insert kind id op).remove kind id = core := by
  have absent : id ∉ (core.table kind).keys := by
    rw [← AList.mem_keys, ← AList.lookup_isSome, free]
    simp
  have same : ((core.table kind).insert id op).erase id = core.table kind := by
    apply AList.ext
    show List.kerase id ((core.table kind).insert id op).entries = _
    rw [AList.entries_insert_of_notMem absent]
    exact List.kerase_cons_eq rfl
  rw [remove, insert, table_setTable, if_pos rfl, setTable_setTable, same, setTable_table]

section Frame

variable (core : CoreState) (kind : OpKind) (id : RequestId) (op : Nat)

@[simp] theorem CoreState.remove_nextSequence :
    (core.remove kind id).nextSequence = core.nextSequence := by
  cases kind <;> rfl
@[simp] theorem CoreState.insert_nextSequence :
    (core.insert kind id op).nextSequence = core.nextSequence := by
  cases kind <;> rfl
end Frame

/-- What a thread that relocked the core keeps for ever. -/
structure Deadlock where
  permits : List Permit
  /-- The response sink of a rejected streaming request has counted a failed request. -/
  sinkFailed : Bool

/-- The reactor's own maps (`reactor::ReactorCore`), as lists of references. -/
structure ReactorCore where
  active : List Nat
  activeStreams : List Nat
  activeResolves : List Nat

/-- `registry::Shared` and the heaps it points into. -/
structure Shared where
  config : EngineConfig
  core : CoreState
  ops : List OpEntry
  ios : List TcpIo
  counters : Counters
  bodyUsed : Nat
  queue : List Submission
  metrics : Metrics
  callbackActivations : Nat
  dispatch : DispatchState
  stopped : Bool
  nativeResolverSupported : Bool
  standaloneTcpSupported : Bool
  reactor : ReactorCore
  /-- The result of the reactor's main function, or of its shutdown on a manual engine. -/
  reactorResult : Option Bool
  /-- Jobs that a sealed dispatcher refused. -/
  discarded : List CallbackJob
  deadlock : Option Deadlock
  /-- Some `expect` failed. -/
  panicked : Bool

/-- `Shared::new`, with the dispatcher's workers started. -/
def Shared.new (config : EngineConfig) : Shared where
  config := config
  core := ⟨.running, 1, ∅, ∅, ∅, ∅, ∅, ∅⟩
  ops := []
  ios := []
  counters := .zero
  bodyUsed := 0
  queue := []
  metrics := .zero
  callbackActivations := 0
  dispatch := ⟨config.callbackQueueCapacity, false, [], [], 0, config.callbackWorkers, false⟩
  stopped := false
  nativeResolverSupported := false
  standaloneTcpSupported := false
  reactor := ⟨[], [], []⟩
  reactorResult := none
  discarded := []
  deadlock := none
  panicked := false

namespace Shared

def dropPermits (sh : Shared) (permits : List Permit) : Shared :=
  { sh with counters := sh.counters.releaseAll sh.config.width permits }

def op? (sh : Shared) (ref : Nat) : Option Op := sh.ops[ref]?.map OpEntry.op

def count (metrics : Metrics) : Option (Family × Outcome) → Metrics
  | some (family, outcome) => metrics.countTerminal family outcome
  | none => metrics

/-- A section on one operation: its entry is replaced, and its effect on counters, metrics and the
panic flag takes place. The job it took is left to the caller. -/
def update (sh : Shared) (ref : Nat) (entry : OpEntry) (effect : Effect) : Shared :=
  { sh with
    ops := sh.ops.set ref entry
    counters := sh.counters.releaseAll sh.config.width effect.dropped
    metrics := count sh.metrics effect.counted
    panicked := sh.panicked || effect.panicked }

/-- One attempt to commit `completion` on an operation. -/
def commitOp (sh : Shared) (ref : Nat) (completion : Done) : Shared × Effect :=
  match sh.ops[ref]? with
  | none => (sh, {})
  | some entry =>
    let (op, effect) := entry.op.commit ref completion
    (sh.update ref { entry with op := op, attempts := entry.attempts ++ [completion] } effect, effect)

/-- `Arc::ptr_eq(core.table.get(&id), state)`. -/
def current (sh : Shared) (kind : OpKind) (ref : Nat) : Bool :=
  match sh.op? ref with
  | some op => (sh.core.table kind).lookup op.id == some ref
  | none => false

end Shared

end NbReq
