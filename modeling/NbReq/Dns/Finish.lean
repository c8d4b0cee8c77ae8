import NbReq.Dns.Query

/-!
# What an answer does to a lookup

The functions of `native_dns.rs` that take a lookup from one query to the next or settle it: the candidates of a public
lookup (`start_current_candidate`, `after_candidate_families_complete`), an answer for it (`finish_public_answer`) and
an answer for an HTTP lookup (`finish_http_answer`).
-/

namespace NbReq.Dns

def parseDnsName (host : Bytes) : Except ResolveFailure Name :=
  match Name.fromAscii host with
  | .ok name => .ok name
  | .error _ => .error (.classified .protocol "the DNS hostname is invalid")

/-- The block that the source repeats where a lookup goes on with another query: the query replaces the one that was
answered, or the lookup fails. -/
def requery (env : Env) (query : PendingQuery) (name : Name) (recordType : RecordType) (cnameHops : Nat)
    (policy : QueryPolicy) (r : Resolver) : Resolver :=
  match prepareNameQuery env query.key name recordType cnameHops policy
      ⟨query.subject, query.issued + 1⟩ r with
  | (r, .ok (next, replacement)) => r.launch next replacement
  | (r, .error failure) => (r.forgetKey query.key).emitFailure query failure

/-- `follow_canonical`; the hops are a saturating `u8`. -/
def followCanonical (env : Env) (query : PendingQuery) (target : Name) (hops : Nat) (r : Resolver) : Resolver :=
  requery env query target query.recordType (min 255 (query.cnameHops + hops)) query.policy r

namespace Resolver

/-- The answer to the query is stored under the name that was asked for: it came without an alias, with a TTL that is
not zero, and its expiry can be represented. -/
def keeps (env : Env) (query : PendingQuery) (ttl : Option Duration) (maximumTtl : Duration) (r : Resolver) : Bool :=
  query.cnameHops == 0 && ttl.any fun ttl => ttl != 0 && decide (r.now env + min ttl maximumTtl ≤ env.latest)

/-- The history of a completed exchange: it is one for the name of the query and, if an alias led there, for the name
that the lookup asked for. -/
def noteExchange (env : Env) (query : PendingQuery) (kept : Bool) (r : Resolver) : Resolver :=
  { r with
    cacheEvents := r.cacheEvents ++ .exchanged query.host query.recordType (r.now env) kept ::
      if query.subject = query.host then [] else [.exchanged query.subject query.recordType (r.now env) false] }

/-- `insert_family` at the current time. -/
def storeFamily (env : Env) (name : Name) (recordType : RecordType) (record : CachedFamily)
    (ttl maximumTtl : Duration) (now : Instant) (r : Resolver) : Resolver × Option Instant :=
  let (cache, expires) := r.cache.insertFamily env.latest name recordType record ttl maximumTtl now
  ({ r with cache }, expires)

/-- `insert` at the current time. -/
def storeHttp (env : Env) (name : Name) (result : Except ResolveFailure ResolveAnswer) (ttl maximumTtl : Duration)
    (now : Instant) (r : Resolver) : Resolver :=
  { r with cache := r.cache.insert env.latest name result ttl maximumTtl now }

/-- `publish_http_view` at the current time. -/
def publish (env : Env) (name : Name) (session : PublicSession) (r : Resolver) : Resolver :=
  { r.tick with
    cache := publishHttpView r.cache env.latest name session (r.now env) }

end Resolver

/-! ## Candidates -/

def AddressFamily.wants : AddressFamily → RecordType → Bool
  | .ipv4, .a | .ipv6, .aaaa | .both, _ => true
  | .ipv4, .aaaa | .ipv6, .a => false

/-- The read of one family by `start_current_candidate`. -/
def takeFamily (name : Name) (recordType : RecordType) (now : Instant) (taken : PublicSession × DnsCache) :
    PublicSession × DnsCache :=
  let (session, cache) := taken
  if session.family.wants recordType then
    match cache.getFamily name recordType now with
    | (cache, some entry) => (session.withOutcome recordType (cachedFamilyOutcome entry), cache)
    | (cache, none) => (session, cache)
  else (session, cache)

/-- A name that does not exist in one family does not exist in the other. -/
def shareNameNotFound (session : PublicSession) : PublicSession :=
  if session.family = .both then
    if isNameNotFound session.ipv4 then { session with ipv6 := session.ipv4 }
    else if isNameNotFound session.ipv6 then { session with ipv4 := session.ipv6 }
    else session
  else session

/-- The history of what a lookup took from the cache: what it found for a family, or shared from the other one. -/
def servedEvents (name : Name) (found shared : PublicSession) : List CacheEvent :=
  [RecordType.a, .aaaa].filterMap fun recordType =>
    ((shared.outcome recordType).bind (·.stored)).map fun stored =>
      .served name recordType stored (found.outcome recordType != shared.outcome recordType)

/-- What `start_current_candidate` reads from the cache in mode `Use`. -/
def readCachedFamilies (env : Env) (name : Name) (session : PublicSession) (r : Resolver) : PublicSession × Resolver :=
  let (found, cache) := takeFamily name .aaaa (r.now env) (takeFamily name .a (r.now env) (session, r.cache))
  let shared := shareNameNotFound found
  (shared, { r.tick with cache, cacheEvents := r.cacheEvents ++ servedEvents name found shared })

/-- The cache is only read in mode `Use`. -/
def consultCache (env : Env) (name : Name) (session : PublicSession) (r : Resolver) : PublicSession × Resolver :=
  if session.cacheMode = .use then readCachedFamilies env name session r else (session, r)

/-- A completed candidate is published unless the lookup bypasses the cache. -/
def Resolver.publishUnlessBypass (env : Env) (name : Name) (session : PublicSession) (r : Resolver) : Resolver :=
  if session.cacheMode = .bypass then r else r.publish env name session

/-- `if let Some(query) = query { state.by_key.remove(&query.key) }`. -/
def Resolver.forgetQuery (query : Option PendingQuery) (r : Resolver) : Resolver :=
  match query with
  | some query => r.forgetKey query.key
  | none => r

/-- `after_candidate_families_complete`. `next` is the next search candidate, if there is one, and how it is
started. -/
def afterCandidateFamiliesComplete (env : Env) (key : ResolveKey) (query : Option PendingQuery)
    (session : PublicSession) (name : Name) (next : Option (Bytes × (PublicSession → Resolver → Resolver)))
    (r : Resolver) : Resolver :=
  let (status, _, validUntil) := session.response
  let r := r.publishUnlessBypass env name session
  if status = .answer then
    (r.forgetQuery query).sendResult (.completed key session)
  else
    let session := recordSearchNegative session status validUntil
    match next with
    | some (candidate, start) =>
      start { session with candidateIndex := session.candidateIndex + 1, candidate } (r.forgetQuery query)
    | none => (r.forgetQuery query).sendResult (.completed key session)

def PublicSession.cleared (session : PublicSession) : PublicSession := { session with ipv4 := none, ipv6 := none }

/-- The session of a lookup that could not be answered from the cache. -/
def PublicSession.uncached (session : PublicSession) : PublicSession :=
  if session.cacheMode = .use then { session with fromCache := false } else session

/-- The body of `start_current_candidate`, over the next candidate and how it is started. -/
def startCandidate (env : Env) (key : ResolveKey) (next : Option (Bytes × (PublicSession → Resolver → Resolver)))
    (session : PublicSession) (r : Resolver) : Resolver :=
  let session := session.cleared
  match parseDnsName session.candidate with
  | .error failure => r.sendResult (.ofPublic key (.failed (publicError failure)))
  | .ok name =>
    let (session, r) := consultCache env name session r
    match session.needs with
    | none => afterCandidateFamiliesComplete env key none session name next r
    | some recordType =>
      match prepareNameQuery env key name recordType 0 (.publicLookup session.uncached)
          ⟨name, session.issued + 1⟩ r with
      | (r, .ok (id, query)) => r.launch id query
      | (r, .error failure) => r.sendResult (.ofPublic key (.failed (publicError failure)))

/-- `start_current_candidate`. The list holds the search candidates after the current one. -/
def startCurrentCandidate (env : Env) (key : ResolveKey) : List Bytes → PublicSession → Resolver → Resolver
  | [] => startCandidate env key none
  | next :: rest => startCandidate env key (some (next, startCurrentCandidate env key rest))

/-- The next candidate of a session and how it is started. -/
def nextCandidate (env : Env) (key : ResolveKey) (session : PublicSession) :
    Option (Bytes × (PublicSession → Resolver → Resolver)) :=
  match session.candidates.drop (session.candidateIndex + 1) with
  | [] => none
  | next :: rest => some (next, startCurrentCandidate env key rest)

def PublicSession.new (spec : PublicResolveSpec) (candidates : List Bytes) (first : Bytes) (retry : RetryPolicy) :
    PublicSession :=
  { identity := spec.host, candidate := first, candidates, candidateIndex := 0, family := spec.family
    order := spec.order, cacheMode := spec.cacheMode, maxResults := spec.maxResults, ipv4 := none, ipv6 := none
    fromCache := spec.cacheMode = .use, sawNodata := false, negativeValidity := none
    attemptLimit := retry.attemptLimit, attemptTimeout := retry.attemptTimeout, issued := 0, heard := [] }

def Resolver.noteRequest (key : ResolveKey) (spec : PublicResolveSpec) (searchSuffixes : List Bytes) (r : Resolver) :
    Resolver :=
  { r with requests := r.requests ++ [(key, spec, searchSuffixes)] }

def beginPublicResolve (env : Env) (key : ResolveKey) (spec : PublicResolveSpec) (searchSuffixes : List Bytes)
    (retry : RetryPolicy) (r : Resolver) : Resolver :=
  let r := r.noteRequest key spec searchSuffixes
  let candidates := publicSearchCandidates spec.host spec.expandSearch searchSuffixes
  match candidates with
  | [] =>
    r.sendResult (.ofPublic key (.failed (publicError
      (.classified .protocol "the public resolver produced no DNS search candidates"))))
  | first :: later => startCurrentCandidate env key later (.new spec candidates first retry) r

/-! ## Answers -/

/-- `native_dns::PublicFamilyUpdate`. -/
structure PublicFamilyUpdate where
  recordType : RecordType
  status : ResolveStatus
  addresses : List IpAddr
  ttl : Option Duration
  cacheable : Bool

def PublicFamilyUpdate.cached (update : PublicFamilyUpdate) : CachedFamily :=
  match update.status with
  | .answer => .answer update.addresses
  | .nameNotFound => .nameNotFound
  | .noData => .noData

def PublicFamilyUpdate.maximumTtl (update : PublicFamilyUpdate) : Duration :=
  if update.status = .answer then maxPositiveCacheTtl else maxNegativeCacheTtl

def recordPublicFamily (env : Env) (session : PublicSession) (update : PublicFamilyUpdate) (name : Name)
    (r : Resolver) : PublicSession × Resolver :=
  match if update.cacheable && session.cacheMode != .bypass then update.ttl else none with
  | none => (session.withOutcome update.recordType ⟨update.status, update.addresses, none, none⟩, r)
  | some ttl =>
    let (stored, validUntil) :=
      r.tick.storeFamily env name update.recordType update.cached ttl update.maximumTtl (r.now env)
    (session.withOutcome update.recordType ⟨update.status, update.addresses, validUntil, none⟩, stored)

def continueOrCompletePublic (env : Env) (query : PendingQuery) (session : PublicSession) (r : Resolver) : Resolver :=
  match session.needs with
  | some recordType => requery env query query.host recordType 0 (.publicLookup session) r
  | none =>
    afterCandidateFamiliesComplete env query.key (some query) session query.host
      (nextCandidate env query.key session) r

def unexpectedlyTruncated : ResolveFailure :=
  .classified .truncated "the DNS-over-TCP response was unexpectedly truncated"

/-- What `finish_public_answer` stores for a name that does not exist: both families, at one time. -/
def storeNameNotFound (env : Env) (query : PendingQuery) (session : PublicSession) (negativeTtl : Option Duration)
    (r : Resolver) : Resolver × Option Instant :=
  match if query.cnameHops == 0 && session.cacheMode != .bypass then negativeTtl else none with
  | none => (r, none)
  | some ttl =>
    let (first, ipv4) := r.tick.storeFamily env query.host .a .nameNotFound ttl maxNegativeCacheTtl (r.now env)
    let (second, ipv6) := first.storeFamily env query.host .aaaa .nameNotFound ttl maxNegativeCacheTtl (r.now env)
    (second, ipv6 <|> ipv4)

/-- The session of a name that does not exist, as the answer for a family says. -/
def PublicSession.notFound (session : PublicSession) (recordType : RecordType) (validUntil : Option Instant) :
    PublicSession :=
  { session.hear recordType ⟨.nameNotFound, [], validUntil, none⟩ with
    ipv4 := some ⟨.nameNotFound, [], validUntil, none⟩, ipv6 := some ⟨.nameNotFound, [], validUntil, none⟩ }

/-- The exchange is one that the cache mode of the lookup lets into the cache. -/
def noteUnlessBypass (env : Env) (query : PendingQuery) (session : PublicSession) (ttl : Option Duration)
    (maximumTtl : Duration) (r : Resolver) : Resolver :=
  if session.cacheMode = .bypass then r else r.noteExchange env query (r.keeps env query ttl maximumTtl)

def finishPublicAnswer (env : Env) (query : PendingQuery) (session : PublicSession)
    (result : Except ResolveFailure ParsedAnswer) (r : Resolver) : Resolver :=
  match result with
  | .ok (.canonical target hops) => followCanonical env query target hops r
  | .ok .truncated => (r.forgetKey query.key).emitFailure query unexpectedlyTruncated
  | .error failure => (r.forgetKey query.key).emitFailure query failure
  | .ok (.answer answer) =>
    let r := noteUnlessBypass env query session (some answer.ttl) maxPositiveCacheTtl r
    let (session, r) := recordPublicFamily env session
      ⟨query.recordType, .answer, answer.addresses, some answer.ttl, query.cnameHops == 0⟩ query.host r
    continueOrCompletePublic env query session r
  | .ok (.noRecords negativeTtl) =>
    let r := noteUnlessBypass env query session negativeTtl maxNegativeCacheTtl r
    let (session, r) := recordPublicFamily env session
      ⟨query.recordType, .noData, [], negativeTtl, query.cnameHops == 0⟩ query.host r
    continueOrCompletePublic env query session r
  | .ok (.negative _ negativeTtl) =>
    let r := noteUnlessBypass env query session negativeTtl maxNegativeCacheTtl r
    let (r, validUntil) := storeNameNotFound env query session negativeTtl r
    let session := session.notFound query.recordType validUntil
    afterCandidateFamiliesComplete env query.key (some query) session query.host
      (nextCandidate env query.key session) r

def noUsableRecords : ResolveFailure := .new "the DNS response contained no usable A or AAAA records"

def finishHttpAnswer (env : Env) (query : PendingQuery) (result : Except ResolveFailure ParsedAnswer) (r : Resolver) :
    Resolver :=
  match result with
  | .ok (.answer answer) =>
    let r := (r.noteExchange env query (r.keeps env query (some answer.ttl) maxPositiveCacheTtl)).forgetKey query.key
    let r :=
      if query.cnameHops = 0 then
        ((r.tick.storeHttp env query.host (.ok answer) answer.ttl maxPositiveCacheTtl (r.now env)).storeFamily env
          query.host query.recordType (.answer answer.addresses) answer.ttl maxPositiveCacheTtl (r.now env)).1
      else r
    r.sendResult (.http query.key (.ok answer))
  | .ok (.canonical target hops) => followCanonical env query target hops r
  | .ok (.noRecords negativeTtl) =>
    let r := r.noteExchange env query (r.keeps env query negativeTtl maxNegativeCacheTtl)
    match query.recordType with
    | .a =>
      let r :=
        match if query.cnameHops = 0 then negativeTtl else none with
        | none => r
        | some ttl => (r.tick.storeFamily env query.host .a .noData ttl maxNegativeCacheTtl (r.now env)).1
      requery env query query.host .aaaa query.cnameHops query.policy r
    | .aaaa =>
      let r := r.forgetKey query.key
      let r :=
        match if query.cnameHops = 0 then negativeTtl else none with
        | none => r
        | some ttl =>
          ((r.tick.storeHttp env query.host (.error noUsableRecords) ttl maxNegativeCacheTtl (r.now env)).storeFamily
            env query.host query.recordType .noData ttl maxNegativeCacheTtl (r.now env)).1
      r.sendResult (.http query.key (.error noUsableRecords))
  | .ok (.negative failure negativeTtl) =>
    let r := (r.noteExchange env query (r.keeps env query negativeTtl maxNegativeCacheTtl)).forgetKey query.key
    let r :=
      match if query.cnameHops = 0 then negativeTtl else none with
      | none => r
      | some ttl =>
        let stored := r.tick.storeHttp env query.host (.error failure) ttl maxNegativeCacheTtl (r.now env)
        let stored := (stored.storeFamily env query.host .a .nameNotFound ttl maxNegativeCacheTtl (r.now env)).1
        (stored.storeFamily env query.host .aaaa .nameNotFound ttl maxNegativeCacheTtl (r.now env)).1
    r.sendResult (.http query.key (.error failure))
  | .error failure => (r.forgetKey query.key).emitFailure query failure
  | .ok .truncated => (r.forgetKey query.key).emitFailure query unexpectedlyTruncated

def finishAnswer (env : Env) (query : PendingQuery) (result : Except ResolveFailure ParsedAnswer) (r : Resolver) :
    Resolver :=
  match query.policy with
  | .publicLookup session => finishPublicAnswer env query session result r
  | .http _ => finishHttpAnswer env query result r

end NbReq.Dns
