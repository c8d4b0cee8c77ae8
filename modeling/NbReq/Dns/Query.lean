import NbReq.Dns.Session

/-!
# The resolver's state

The queries in flight and the maps that index them (`ResolverState` of `native_dns.rs`), the configuration, and how a
query is prepared with an unused transaction id. What the resolver asks its surroundings for, the time and entropy, is
answered by an `Env`, one question after another; what the network does comes with the events of the loop.

`Resolver` holds the variables of `resolver_main`, what it has sent and a history that no function reads.
-/

namespace NbReq.Dns

/-- `native_dns::ResolveKey`. -/
structure ResolveKey where
  value : Nat
deriving DecidableEq, Repr

/-- `std::net::SocketAddr`. -/
structure SocketAddr where
  ip : IpAddr
  port : UInt16
deriving DecidableEq, Repr

/-- What the surroundings answer: the clock and the operating system's entropy, by the number of the question, and what
is fixed by the platform. -/
structure Env where
  clock : Nat → Instant
  clock_mono : Monotone clock
  entropy : Nat → Except String (UInt16 × UInt16)
  latest : Instant
  width : PointerWidth
  showAddress : SocketAddr → String

/-! ## Configuration -/

/-- `native_dns::ResolverConfigSource`. -/
inductive ResolverConfigSource where
  | static | system
deriving DecidableEq, Repr

/-- `native_dns::ResolverSnapshot`. -/
structure ResolverSnapshot where
  nameservers : List SocketAddr
  searchSuffixes : List Bytes
  attemptTimeout : Duration
  attempts : Nat
deriving DecidableEq, Repr

/-- `native_dns::ResolverConfig`: the snapshot in use and where it came from. -/
structure ResolverConfig where
  snapshot : ResolverSnapshot
  source : ResolverConfigSource
deriving DecidableEq, Repr

def systemConfigRefreshInterval : Duration := .fromSecs 30

def ResolverConfig.refreshInterval (config : ResolverConfig) : Option Duration :=
  match config.source with
  | .system => some systemConfigRefreshInterval
  | .static => none

def ResolverConfig.retry (config : ResolverConfig) : RetryPolicy :=
  ⟨config.snapshot.attempts, config.snapshot.attemptTimeout⟩

/-! ## Queries -/

/-- `native_dns::QueryPolicy`. -/
inductive QueryPolicy where
  | http (retry : RetryPolicy)
  | publicLookup (session : PublicSession)
deriving DecidableEq, Repr

/-- `QueryPolicy::Public`. -/
def QueryPolicy.isPublic : QueryPolicy → Bool
  | .publicLookup _ => true
  | .http _ => false

/-- The retry policy that `prepare_name_query` takes from a policy. -/
def QueryPolicy.retry : QueryPolicy → RetryPolicy
  | .http retry => retry
  | .publicLookup session => ⟨session.attemptLimit, session.attemptTimeout⟩

/-- The history of a public lookup counts its queries. -/
def QueryPolicy.issuing (issued : Nat) : QueryPolicy → QueryPolicy
  | .http retry => .http retry
  | .publicLookup session => .publicLookup { session with issued }

/-- `native_dns::TcpFallback`; the stream's behaviour comes with the events. -/
structure TcpFallback where
  token : Nat
  outbound : Bytes
  written : Nat
  inbound : Bytes
  expected : Option Nat
deriving DecidableEq, Repr

/-- `native_dns::QueryTransport`. -/
inductive QueryTransport where
  | udp
  | tcp (fallback : TcpFallback)
deriving DecidableEq, Repr

def QueryTransport.token : QueryTransport → Option Nat
  | .udp => none
  | .tcp fallback => some fallback.token

/-- What the history says about a query: the name the lookup asked for before any alias was followed, and how many
queries the lookup has made with this one. -/
structure Trace where
  subject : Name
  issued : Nat
deriving DecidableEq, Repr

/-- `native_dns::PendingQuery`. Its trace is kept for the history only, and so is `sent`, the nameserver of each
datagram that was sent for it. -/
structure PendingQuery extends Trace where
  key : ResolveKey
  host : Name
  recordType : RecordType
  cnameHops : Nat
  wire : Bytes
  attemptsSent : Nat
  attemptLimit : Nat
  attemptTimeout : Duration
  serversTried : Nat
  lastUdpGeneration : Nat
  nextAttempt : Instant
  transport : QueryTransport
  policy : QueryPolicy
  sent : List Nat
deriving DecidableEq, Repr

/-- `native_dns::ResolverState`. -/
structure ResolverState where
  pending : AList fun _ : UInt16 => PendingQuery
  byKey : AList fun _ : ResolveKey => UInt16
  tcpByToken : AList fun _ : Nat => UInt16
  nextTcpToken : Nat
  currentNameserver : Nat
  udpGeneration : Nat
  configGeneration : Nat
  configAvailable : Bool
  configError : Option Error
  configDirty : Bool
  nextConfigRefresh : Option Instant
  cache : DnsCache

/-- `native_dns::ResolveResult`. `session` is kept for the history only: the session of a public lookup that completed. -/
structure ResolveResult where
  key : ResolveKey
  result : Except ResolveFailure ResolveAnswer
  publicOutcome : Option PublicLookupOutcome
  session : Option PublicSession
deriving DecidableEq

def ResolveResult.http (key : ResolveKey) (result : Except ResolveFailure ResolveAnswer) : ResolveResult :=
  ⟨key, result, none, none⟩

/-- `ResolveResult::public`. -/
def ResolveResult.ofPublic (key : ResolveKey) (outcome : PublicLookupOutcome) : ResolveResult :=
  ⟨key, .error (.new "public lookup"), some outcome, none⟩

def ResolveResult.completed (key : ResolveKey) (session : PublicSession) : ResolveResult :=
  { ofPublic key (completePublicSession session) with session := some session }

inductive CacheEvent where
  /-- A network exchange for a name and an address family completed at an instant. `kept` says that the answer was
  stored under that name. -/
  | exchanged (name : Name) (recordType : RecordType) (at_ : Instant) (kept : Bool)
  /-- A public lookup in mode `Use` took what it says about a name and a family from the cache. `borrowed` says that it
  is what the cache holds for the other family. -/
  | served (name : Name) (recordType : RecordType) (stored : Instant) (borrowed : Bool)
deriving DecidableEq, Repr

/-- The resolver thread: its state and the variables of `resolver_main`, the results and controls it has sent, and how
many questions it has asked its surroundings. The rest is history: the lookups it has accepted, those it has taken back
without a result and those whose cancel it has processed, what went into and out of the cache, and the public lookups
with the search suffixes they started with. -/
structure Resolver extends ResolverState where
  config : ResolverConfig
  socket : Bool
  results : List ResolveResult
  controls : List Nat
  asked : Nat
  accepted : List ResolveKey
  withdrawn : List ResolveKey
  cancelled : List ResolveKey
  cacheEvents : List CacheEvent
  requests : List (ResolveKey × PublicResolveSpec × List Bytes)

namespace Resolver

/-- `Instant::now`. -/
def now (env : Env) (r : Resolver) : Instant := env.clock r.asked

def tick (r : Resolver) : Resolver := { r with asked := r.asked + 1 }

def sendResult (result : ResolveResult) (r : Resolver) : Resolver := { r with results := r.results ++ [result] }

/-- The lookup is settled with a failure, as its kind reports it. -/
def failLookup (key : ResolveKey) (policy : QueryPolicy) (failure : ResolveFailure) (r : Resolver) : Resolver :=
  match policy with
  | .http _ => r.sendResult (.http key (.error failure))
  | .publicLookup _ => r.sendResult (.ofPublic key (.failed (publicError failure)))

def emitFailure (query : PendingQuery) (failure : ResolveFailure) (r : Resolver) : Resolver :=
  r.failLookup query.key query.policy failure

/-- `state.by_key.remove`. -/
def forgetKey (key : ResolveKey) (r : Resolver) : Resolver := { r with byKey := r.byKey.erase key }

def removeQuery (id : UInt16) (r : Resolver) : Resolver × Option PendingQuery :=
  match r.pending.lookup id with
  | none => (r, none)
  | some query =>
    match query.transport with
    | .udp => ({ r with pending := r.pending.erase id }, some query)
    | .tcp fallback =>
      ({ r with pending := r.pending.erase id, tcpByToken := r.tcpByToken.erase fallback.token }, some query)

end Resolver

/-! ## Transaction ids -/

def dnsTransactionIdSpace : Nat := 65536

def httpDnsTxidReserve : Nat := 1024

def publicTxidAvailableCounts (httpCount total : Nat) : Bool :=
  if total ≥ dnsTransactionIdSpace then false
  else decide (dnsTransactionIdSpace - total > httpDnsTxidReserve - httpCount)

def publicTxidAvailable (pending : AList fun _ : UInt16 => PendingQuery) : Bool :=
  publicTxidAvailableCounts (pending.entries.countP fun entry => !entry.2.policy.isPublic) pending.keys.length

/-- The loop of `allocate_id_with_random`: the first unused id on an odd stride, in at most that many steps. -/
def findUnusedId (pending : AList fun _ : UInt16 => PendingQuery) (stride : UInt16) : Nat → UInt16 → Option UInt16
  | 0, _ => none
  | steps + 1, candidate =>
    if (pending.lookup candidate).isNone then some candidate
    else findUnusedId pending stride steps (candidate + stride)

/-- `allocate_id_with_random`, with the entropy it draws if it gets that far. -/
def allocateIdWithRandom (pending : AList fun _ : UInt16 => PendingQuery) (isPublic : Bool)
    (random : Except String (UInt16 × UInt16)) : Except ResolveFailure (Option UInt16) :=
  if isPublic && !publicTxidAvailable pending then .ok none
  else if pending.keys.length ≥ dnsTransactionIdSpace then .ok none
  else
    match random with
    | .error error => .error (.new ("native resolver transaction randomization failed: " ++ error))
    | .ok (candidate, stride) => .ok (findUnusedId pending (stride ||| 1) dnsTransactionIdSpace candidate)

def prepareNameQuery (env : Env) (key : ResolveKey) (name : Name) (recordType : RecordType) (cnameHops : Nat)
    (policy : QueryPolicy) (trace : Trace) (r : Resolver) : Resolver × Except ResolveFailure (UInt16 × PendingQuery) :=
  match allocateIdWithRandom r.pending policy.isPublic (env.entropy r.asked) with
  | .error failure => (r.tick, .error failure)
  | .ok none =>
    (r.tick, .error (.classified .protocol
      (if policy.isPublic then
        "the native resolver public transaction space is reserved from HTTP-internal DNS"
      else "the native resolver transaction space is exhausted")))
  | .ok (some id) =>
    match encodeQuery id name recordType with
    | .error _ => (r.tick, .error (.classified .protocol "the DNS query could not be encoded"))
    | .ok wire =>
      (r.tick.tick, .ok (id,
        { trace with
          key, host := name, recordType, cnameHops, wire, attemptsSent := 0, attemptLimit := policy.retry.attemptLimit
          attemptTimeout := policy.retry.attemptTimeout, serversTried := 1, lastUdpGeneration := 0
          nextAttempt := r.tick.now env, transport := .udp, policy := policy.issuing trace.issued, sent := [] }))

def Resolver.launch (id : UInt16) (query : PendingQuery) (r : Resolver) : Resolver :=
  { r with byKey := r.byKey.insert query.key id, pending := r.pending.insert id query }

end NbReq.Dns
