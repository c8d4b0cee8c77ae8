import NbReq.Dns.Cache

/-!
# Public lookups

The session that a public lookup carries from query to query (`PublicSession` of `native_dns.rs`): what it has found
for each address family, which search candidate it is at, how the families are combined into an answer, and what a
completed candidate puts into the cache that HTTP lookups read. The model is of the build with the `resolver` feature.
-/

namespace NbReq.Dns

/-- `dns::AddressFamily`. -/
inductive AddressFamily where
  | both | ipv4 | ipv6
deriving DecidableEq, Repr

/-- `dns::AddressOrder`. -/
inductive AddressOrder where
  | ipv4ThenIpv6 | ipv6ThenIpv4
deriving DecidableEq, Repr

/-- `dns::CacheMode`. -/
inductive CacheMode where
  | use | refresh | bypass
deriving DecidableEq, Repr

/-- `dns::ResolveStatus`. -/
inductive ResolveStatus where
  | answer | nameNotFound | noData
deriving DecidableEq, Repr

/-- `native_dns::FamilyOutcome`. `stored` is kept for the history only: when what it says was put into the cache, if it
was read from there. -/
structure FamilyOutcome where
  status : ResolveStatus
  addresses : List IpAddr
  validUntil : Option Instant
  stored : Option Instant
deriving DecidableEq, Repr

/-- What a lookup was told about a family of one of its search candidates. -/
structure Heard where
  candidateIndex : Nat
  recordType : RecordType
  outcome : FamilyOutcome
deriving DecidableEq, Repr

/-- `native_dns::RetryPolicy`. -/
structure RetryPolicy where
  attemptLimit : Nat
  attemptTimeout : Duration
deriving DecidableEq, Repr

/-- `native_dns::PublicSession`. The last two fields are kept for the history only: how many queries the lookup has
made, and what the cache and the servers told it. -/
structure PublicSession where
  identity : Bytes
  candidate : Bytes
  candidates : List Bytes
  candidateIndex : Nat
  family : AddressFamily
  order : AddressOrder
  cacheMode : CacheMode
  maxResults : Nat
  ipv4 : Option FamilyOutcome
  ipv6 : Option FamilyOutcome
  fromCache : Bool
  sawNodata : Bool
  negativeValidity : Option (Option Instant)
  attemptLimit : Nat
  attemptTimeout : Duration
  issued : Nat
  heard : List Heard
deriving DecidableEq, Repr

/-- `native_dns::PublicResolveSpec`. -/
structure PublicResolveSpec where
  host : Bytes
  family : AddressFamily
  order : AddressOrder
  cacheMode : CacheMode
  maxResults : Nat
  expandSearch : Bool
  unavailableIsUnsupported : Bool
deriving DecidableEq, Repr

/-- `native_dns::PublicLookupOutcome`. -/
inductive PublicLookupOutcome where
  | completed (name : Bytes) (status : ResolveStatus) (addresses : List IpAddr) (validUntil : Option Instant)
      (fromCache : Bool) (candidateName : Option Bytes)
  | failed (error : Error)
deriving DecidableEq, Repr

def cachedFamilyOutcome (entry : Cached CachedFamily) : FamilyOutcome :=
  match entry.value with
  | .answer addresses => ⟨.answer, addresses, some entry.expires, some entry.stored⟩
  | .nameNotFound => ⟨.nameNotFound, [], some entry.expires, some entry.stored⟩
  | .noData => ⟨.noData, [], some entry.expires, some entry.stored⟩

/-- `public_search_candidates`: the search suffixes that give a valid new name. -/
def expandSuffixes (identity : Bytes) : List Bytes → List Bytes → List Bytes
  | _, [] => []
  | seen, suffix :: rest =>
    match normalizeDnsName (identity ++ [0x2E] ++ suffix) with
    | .error _ => expandSuffixes identity seen rest
    | .ok parsed =>
      if parsed.identity ∈ seen then expandSuffixes identity seen rest
      else parsed.identity :: expandSuffixes identity (parsed.identity :: seen) rest

def publicSearchCandidates (identity : Bytes) (expandSearch : Bool) (suffixes : List Bytes) : List Bytes :=
  if !expandSearch then [identity]
  else
    let candidates :=
      (if identity.contains 0x2E then [identity] else []) ++ expandSuffixes identity [identity] suffixes
    if candidates.isEmpty then [identity] else candidates

namespace PublicSession

/-- `session_needs`. -/
def needs (session : PublicSession) : Option RecordType :=
  match session.family with
  | .ipv4 => if session.ipv4.isNone then some .a else none
  | .ipv6 => if session.ipv6.isNone then some .aaaa else none
  | .both =>
    if session.ipv4.isNone then some .a else if session.ipv6.isNone then some .aaaa else none

def outcome (session : PublicSession) : RecordType → Option FamilyOutcome
  | .a => session.ipv4
  | .aaaa => session.ipv6

def hear (session : PublicSession) (recordType : RecordType) (outcome : FamilyOutcome) : PublicSession :=
  { session with heard := session.heard ++ [⟨session.candidateIndex, recordType, outcome⟩] }

def withOutcome (session : PublicSession) (recordType : RecordType) (outcome : FamilyOutcome) : PublicSession :=
  match recordType with
  | .a => { session.hear .a outcome with ipv4 := some outcome }
  | .aaaa => { session.hear .aaaa outcome with ipv6 := some outcome }

end PublicSession

def familyResponse : Option FamilyOutcome → ResolveStatus × List IpAddr × Option Instant
  | some outcome => (outcome.status, outcome.addresses, outcome.validUntil)
  | none => (.noData, [], none)

def minValidUntil (ipv4 ipv6 : Option FamilyOutcome) : Option Instant :=
  match ipv4.bind (·.validUntil), ipv6.bind (·.validUntil) with
  | some left, some right => some (min left right)
  | some left, none => if ipv6.isNone then some left else none
  | none, some right => if ipv4.isNone then some right else none
  | none, none => none

def isNameNotFound (outcome : Option FamilyOutcome) : Bool := outcome.any (·.status == .nameNotFound)

def answeredAddresses (outcome : Option FamilyOutcome) : List IpAddr :=
  ((outcome.filter (·.status == .answer)).map (·.addresses)).getD []

/-- The two families cut to the caller's limit, the preferred one first. -/
def truncateBoth (order : AddressOrder) (maxResults : Nat) (ipv4 ipv6 : List IpAddr) : List IpAddr × List IpAddr :=
  if ipv4.length + ipv6.length > maxResults then
    match order with
    | .ipv4ThenIpv6 => (ipv4.take maxResults, ipv6.take (maxResults - (ipv4.take maxResults).length))
    | .ipv6ThenIpv4 => (ipv4.take (maxResults - (ipv6.take maxResults).length), ipv6.take maxResults)
  else (ipv4, ipv6)

def orderBoth (order : AddressOrder) (ipv4 ipv6 : List IpAddr) : List IpAddr :=
  match order with
  | .ipv4ThenIpv6 => ipv4 ++ ipv6
  | .ipv6ThenIpv4 => ipv6 ++ ipv4

def combineBoth (session : PublicSession) : ResolveStatus × List IpAddr × Option Instant :=
  if isNameNotFound session.ipv4 || isNameNotFound session.ipv6 then
    (.nameNotFound, [], minValidUntil session.ipv4 session.ipv6)
  else
    let (ipv4, ipv6) := truncateBoth session.order session.maxResults (answeredAddresses session.ipv4)
      (answeredAddresses session.ipv6)
    if ipv4.isEmpty && ipv6.isEmpty then (.noData, [], minValidUntil session.ipv4 session.ipv6)
    else (.answer, orderBoth session.order ipv4 ipv6, minValidUntil session.ipv4 session.ipv6)

/-- What the families of the session say together. -/
def PublicSession.response (session : PublicSession) : ResolveStatus × List IpAddr × Option Instant :=
  match session.family with
  | .ipv4 => familyResponse session.ipv4
  | .ipv6 => familyResponse session.ipv6
  | .both => combineBoth session

def completePublicSession (session : PublicSession) : PublicLookupOutcome :=
  let (status, addresses, familyValidUntil) := session.response
  let addresses := addresses.take session.maxResults
  if status = .answer then
    .completed session.identity status addresses familyValidUntil session.fromCache (some session.candidate)
  else
    .completed session.identity (if session.sawNodata then .noData else .nameNotFound) addresses
      session.negativeValidity.join session.fromCache none

def recordSearchNegative (session : PublicSession) (status : ResolveStatus) (validUntil : Option Instant) :
    PublicSession :=
  { session with
    sawNodata := session.sawNodata || status == .noData
    negativeValidity := some <|
      match session.negativeValidity, validUntil with
      | none, until_ => until_
      | some none, _ | some _, none => none
      | some (some previous), some expires => some (min previous expires) }

/-! ## What HTTP sees of a completed candidate -/

/-- `Instant::checked_duration_since`, when the result is not zero. -/
def remainingTtl (validUntil : Option Instant) (now : Instant) : Option Duration :=
  validUntil.bind fun expires => if now < expires then some (expires - now) else none

/-- Stores what HTTP lookups of the name get while it is valid, or forgets what they got if it is not valid any more. -/
def publishWhileValid (cache : DnsCache) (latest : Instant) (name : Name) (validUntil : Option Instant)
    (result : Duration → Except ResolveFailure ResolveAnswer) (maximumTtl : Duration) (now : Instant) : DnsCache :=
  match remainingTtl validUntil now with
  | none => cache.removeHttp name
  | some ttl => cache.insert latest name (result ttl) ttl maximumTtl now

def publishHttpFamily (cache : DnsCache) (latest : Instant) (name : Name) (outcome : FamilyOutcome) (now : Instant) :
    DnsCache :=
  match outcome.status with
  | .noData => cache.removeHttp name
  | .answer =>
    publishWhileValid cache latest name outcome.validUntil (fun ttl => .ok ⟨outcome.addresses, ttl⟩)
      maxPositiveCacheTtl now
  | .nameNotFound =>
    publishWhileValid cache latest name outcome.validUntil (fun _ => .error (.new "the DNS server returned NXDomain"))
      maxNegativeCacheTtl now

/-- The addresses that HTTP gets for a name of both families: those of IPv4 if it answered, in full, else the ones that
the caller gets. -/
def httpAddresses (session : PublicSession) (addresses : List IpAddr) : List IpAddr :=
  match session.ipv4 with
  | some outcome => if outcome.status = .answer then outcome.addresses else addresses
  | none => addresses

def publishHttpView (cache : DnsCache) (latest : Instant) (name : Name) (session : PublicSession) (now : Instant) :
    DnsCache :=
  match session.family with
  | .ipv6 => cache
  | .ipv4 =>
    match session.ipv4 with
    | some outcome => publishHttpFamily cache latest name outcome now
    | none => cache.removeHttp name
  | .both =>
    let (status, addresses, validUntil) := combineBoth session
    match status with
    | .answer =>
      publishWhileValid cache latest name validUntil (fun ttl => .ok ⟨httpAddresses session addresses, ttl⟩)
        maxPositiveCacheTtl now
    | .nameNotFound =>
      publishWhileValid cache latest name validUntil (fun _ => .error (.new "the DNS server returned NXDomain"))
        maxNegativeCacheTtl now
    | .noData =>
      publishWhileValid cache latest name validUntil
        (fun _ => .error (.new "the DNS response contained no usable A or AAAA records")) maxNegativeCacheTtl now

end NbReq.Dns
