import NbReq.Registry.Change
import NbReq.Registry.Session
import NbReq.Lib.Ledger

/-!
# The moves of the engine

Everything that any thread of the engine does is a sequence of the moves below, and every invariant is proved
by going through them once. A thread that stands between two sections owns the permits it will drop and the
jobs it will hand over, and knows what it has checked; the tokens say so.

A permit in a local variable is a token from the moment it is acquired, so that the early returns of the
`accept*` functions and the moves of permits between records, jobs and sessions are all exchanges of tokens.
-/

namespace NbReq

/-! ## Tokens -/

/-- What a thread knows; such knowledge never becomes false. -/
inductive Fact where
  /-- The operation is a buffered request or a resolution. -/
  | onePhase (op : Nat)
  /-- The operation is a streaming request. -/
  | streaming (op : Nat)
  /-- The operation is terminal. -/
  | terminal (op : Nat)
  /-- The connect is terminal or has given its DNS share back. -/
  | dnsReleased (op : Nat)
  /-- The operation was accepted without a callback. -/
  | waiter (op : Nat)
  /-- The submission belongs to an operation of its kind. -/
  | submitted (submission : Submission)

/-- What a thread owns or knows between two of its sections. -/
inductive Token where
  /-- A permit in a local variable. -/
  | permit (permit : Permit)
  /-- A job that was taken and not yet handed to the dispatcher. -/
  | job (job : CallbackJob)
  /-- A job that a worker took and has not yet called. -/
  | running (job : CallbackJob)
  | known (fact : Fact)

def permitTokens (permits : List Permit) : Multiset Token := (permits.map Token.permit : List Token)

def jobTokens (job : Option CallbackJob) : Multiset Token := ((job.map Token.job).toList : List Token)

/-- What the thread owns and knows whose next action this is. -/
def Act.tokens : Act → Multiset Token
  | .registerFinish _ _ permit => {.permit permit}
  | .complete op _ => {.known (.onePhase op)}
  | .commitStream op _ => {.known (.streaming op)}
  | .completeTcpConnected op => {.known (.dnsReleased op)}
  | .completeTlsTransportConnected op => {.known (.dnsReleased op)}
  | .publish op => {.known (.terminal op)}
  | .publishAll ops jobs =>
    (ops.map fun op => Token.known (.terminal op) : List Token) + (jobs.map Token.job : List Token)
  | .tryCompletion op => {.known (.waiter op)}
  | .dropPermit permit => {.permit permit}
  | .enqueue job => {.job job}
  | .invoke job => {.running job}
  | .submit submission => {.known (.submitted submission)}
  | .shutdownSubmission submission => {.known (.submitted submission)}
  | _ => 0

/-! ## Views of a record -/

/-- Connects deliver in a second section after their commit. -/
def OpKind.twoPhase : OpKind → Bool
  | .connect | .tls => true
  | _ => false

def Submission.kind : Submission → OpKind
  | .buffered _ _ => .request
  | .stream _ _ => .stream
  | .resolve _ _ _ => .resolve
  | .connect _ _ => .connect
  | .tlsConnect _ _ _ | .tlsUpgrade _ _ => .tls

def Fact.Holds (ops : List OpEntry) : Fact → Prop
  | .onePhase op => ∃ entry, ops[op]? = some entry ∧ (entry.op.kind = .request ∨ entry.op.kind = .resolve)
  | .streaming op => ∃ entry, ops[op]? = some entry ∧ entry.op.kind = .stream
  | .terminal op => ∃ entry, ops[op]? = some entry ∧ entry.op.isTerminal = true
  | .dnsReleased op => ∃ entry, ops[op]? = some entry ∧ entry.op.DnsReleased
  | .waiter op => ∃ entry, ops[op]? = some entry ∧ entry.origin = none
  | .submitted submission => ∃ entry, ops[submission.op]? = some entry ∧
      entry.op.kind = submission.kind

/-! ## Sections on one operation -/

/-- What a section counts: the winner, if it is this section that made the operation terminal. -/
def OpEntry.settlement (entry entry' : OpEntry) : Option (Family × Outcome) :=
  match entry.winner, entry'.winner with
  | none, some winner => entry.op.family.map (·, winner.outcome)
  | _, _ => none

/-- A section on the entry of `ref` that dropped and handed over permits and took at most its job. -/
structure Section (ref : Nat) (entry entry' : OpEntry) (effect : Effect) (moved : List Permit) : Prop where
  change : OpChange entry entry'
  calm : effect.panicked = false
  job : ∀ job ∈ effect.job, job.Reports ref entry.op.id entry'.winner entry.origin
  permits : ∀ k, held k entry.op.permits = held k entry'.op.permits + held k (jobPermits effect.job) +
    held k effect.dropped + held k moved
  counted : effect.counted = entry.settlement entry'

/-- The section committed a connect, which leaves its map in the same section. -/
def OpEntry.leavesMap (entry entry' : OpEntry) : Bool :=
  entry.op.kind.twoPhase && !entry.op.isTerminal && entry'.op.isTerminal

def Shared.afterSection (sh : Shared) (ref : Nat) (entry entry' : OpEntry) (effect : Effect) : Shared :=
  { sh.update ref entry' effect with
    core := if entry.leavesMap entry' then sh.core.remove entry.op.kind entry.op.id else sh.core }

/-! ## The rest of the registry -/

/-- The parts of the registry that no operation, session, job or permit depends on. -/
structure Surroundings where
  lifecycle : Lifecycle
  callbackActivations : Nat
  nextSequence : Nat
  queue : List Submission
  bodyUsed : Nat
  stopped : Bool
  nativeResolverSupported : Bool
  standaloneTcpSupported : Bool
  reactor : ReactorCore
  reactorResult : Option Bool

def Shared.surroundings (sh : Shared) : Surroundings where
  lifecycle := sh.core.lifecycle
  callbackActivations := sh.callbackActivations
  nextSequence := sh.core.nextSequence
  queue := sh.queue
  bodyUsed := sh.bodyUsed
  stopped := sh.stopped
  nativeResolverSupported := sh.nativeResolverSupported
  standaloneTcpSupported := sh.standaloneTcpSupported
  reactor := sh.reactor
  reactorResult := sh.reactorResult

def Shared.within (sh : Shared) (s : Surroundings) : Shared :=
  { sh with
    core := { sh.core with lifecycle := s.lifecycle, nextSequence := s.nextSequence }
    callbackActivations := s.callbackActivations
    queue := s.queue
    bodyUsed := s.bodyUsed
    stopped := s.stopped
    nativeResolverSupported := s.nativeResolverSupported
    standaloneTcpSupported := s.standaloneTcpSupported
    reactor := s.reactor
    reactorResult := s.reactorResult }

/-- The reactor's maps of buffered requests and resolutions hold such operations. -/
structure ReactorCore.Sane (ops : List OpEntry) (reactor : ReactorCore) : Prop where
  active : ∀ op ∈ reactor.active, (Fact.onePhase op).Holds ops
  resolves : ∀ op ∈ reactor.activeResolves, (Fact.onePhase op).Holds ops

/-- How the surroundings may change: ids are never reused, and submissions only leave the queue. -/
structure Surroundings.Advances (ops : List OpEntry) (s s' : Surroundings) : Prop where
  sequence : s.nextSequence ≤ s'.nextSequence
  bound : s'.nextSequence ≤ max s.nextSequence u64Max
  queue : ∀ submission ∈ s'.queue, submission ∈ s.queue
  reactor : s.reactor.Sane ops → s'.reactor.Sane ops

/-! ## Moves -/

/-- The id of a new operation: the next of the sequence, or for a TLS upgrade the id of its session. -/
inductive NewIdentity (sh : Shared) (op : Op) : Nat → Prop
  | sequence (counted : op.family.isSome) (id : op.id = sh.nextId) (room : sh.core.nextSequence < u64Max) :
      NewIdentity sh op (sh.core.nextSequence + 1)
  | upgrade (uncounted : op.family = none) (free : (sh.core.table op.kind).lookup op.id = none)
      (session : ∃ io ∈ sh.ios, io.id = op.id) : NewIdentity sh op sh.core.nextSequence

def Shared.afterAccept (sh : Shared) (op : Op) (submission : Submission) (counted : Option Family)
    (next : Nat) : Shared :=
  { sh with
    core := { sh.core with nextSequence := next }.insert op.kind op.id sh.ops.length
    ops := sh.ops ++ [{ op := op, origin := op.callback }]
    queue := sh.queue ++ [submission]
    metrics := match counted with
      | some family => sh.metrics.countAccepted family
      | none => sh.metrics
    callbackActivations := sh.callbackActivations + (if op.callback.isSome then 1 else 0) }

inductive Move : Shared → Multiset Token → Shared → Multiset Token → Prop
  -- knowledge
  | learn {sh : Shared} (fact : Fact) (holds : fact.Holds sh.ops) : Move sh 0 sh {.known fact}
  | forget {sh : Shared} (fact : Fact) : Move sh {.known fact} sh 0
  | surroundings {sh : Shared} (s : Surroundings) (advances : sh.surroundings.Advances sh.ops s) :
      Move sh 0 (sh.within s) 0
  -- permits
  | acquire {sh : Shared} (permit : Permit)
      (fits : sh.counters.used permit.counter + permit.amount ≤ sh.config.limit permit.counter) :
      Move sh 0 { sh with counters := sh.counters.charge permit } {.permit permit}
  | release {sh : Shared} (permit : Permit) : Move sh {.permit permit} (sh.dropPermits [permit]) 0
  | hang {sh : Shared} (permits : List Permit) (free : sh.deadlock = none) :
      Move sh (permitTokens permits) { sh with deadlock := some ⟨permits, false⟩ } 0
  | hangSink {sh : Shared} (free : sh.deadlock = none) (room : sh.core.nextSequence < u64Max) :
      Move sh 0 { sh with
        core := { sh.core with nextSequence := sh.core.nextSequence + 1 }
        metrics := sh.metrics.countTerminal .request .failed
        deadlock := some ⟨[], true⟩ } 0
  -- operations
  | accept {sh : Shared} (op : Op) (submission : Submission) (counted : Option Family) {next : Nat}
      (fresh : OpEntry.Fresh { op := op, origin := op.callback }) (identity : NewIdentity sh op next)
      (submitted : submission.op = sh.ops.length ∧ submission.kind = op.kind) :
      Move sh (permitTokens op.permits) (sh.afterAccept op submission counted next) 0
  | section {sh : Shared} {ref : Nat} {entry entry' : OpEntry} {effect : Effect} {moved : List Permit}
      (found : sh.ops[ref]? = some entry) (sound : Section ref entry entry' effect moved) :
      Move sh 0 (sh.afterSection ref entry entry' effect) (jobTokens effect.job + permitTokens moved)
  | remove {sh : Shared} (ref : Nat) : Move sh 0 (sh.removeOp ref) 0
  | deliver {sh : Shared} (job : CallbackJob) :
      Move sh {.running job} (sh.invoke job) (permitTokens job.permits)
  -- sessions
  | openSession {sh : Shared} (session : TcpIo) (coherent : session.Coherent)
      (owner : ∃ entry ∈ sh.ops, entry.op.id = session.id) :
      Move sh (permitTokens session.permits) { sh with
        ios := sh.ios ++ [session]
        core := { sh.core with liveTcp := sh.core.liveTcp.insert session.id sh.ios.length } } 0
  | session {sh : Shared} {io : Nat} {session session' : TcpIo} {effect : IoEffect}
      (found : sh.ios[io]? = some session) (sound : IoSound io session (session', effect)) :
      Move sh 0 { sh with
        ios := sh.ios.set io session'
        panicked := sh.panicked || effect.panicked }
        (permitTokens (effect.release.getD []) + jobTokens effect.job)
  | endow {sh : Shared} {io : Nat} {session session' : TcpIo} (permits : List Permit)
      (found : sh.ios[io]? = some session) (coherent : session'.Coherent) (id : session'.id = session.id)
      (owns : ∀ k, held k session'.permits = held k session.permits + held k permits) :
      Move sh (permitTokens permits) { sh with ios := sh.ios.set io session' } 0
  | closeSession {sh : Shared} (id : RequestId) :
      Move sh 0 { sh with core := { sh.core with liveTcp := sh.core.liveTcp.erase id } } 0
  -- callbacks
  | enqueue {sh : Shared} (job : CallbackJob) {dispatch : DispatchState}
      (taken : sh.dispatch.enqueueTerminal job = some dispatch) :
      Move sh {.job job} { sh with dispatch := dispatch } 0
  | discard {sh : Shared} (job : CallbackJob) :
      Move sh {.job job} { sh with discarded := sh.discarded ++ [job] } (permitTokens job.permits)
  | take {sh : Shared} (job : CallbackJob) {dispatch : DispatchState}
      (taken : sh.dispatch.takeRunnable = some (job, dispatch)) :
      Move sh 0 { sh with dispatch := dispatch } {.running job}
  | dispatch {sh : Shared} (dispatch : DispatchState) (queue : dispatch.queue = sh.dispatch.queue) :
      Move sh 0 { sh with dispatch := dispatch } 0

end NbReq
