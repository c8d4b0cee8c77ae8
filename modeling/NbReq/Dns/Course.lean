import NbReq.Dns.Stamped

/-!
# The course of a lookup

What a lookup does between its command and its result, apart from what other lookups do meanwhile: `Begins` and
`Completes` say how a public lookup goes on from one of its search candidates, `Continues` and `Ends` what an answer
makes of the query it is for. They are seen from the step that the lookup takes (`Scene`): what the cache holds during
it is all that they need to know about the rest of the resolver.
-/

namespace NbReq.Dns

/-! ## The next query -/

theorem findUnusedId_unused {pending : AList fun _ : UInt16 => PendingQuery} {stride id : UInt16} :
    ∀ {steps : Nat} {candidate : UInt16}, findUnusedId pending stride steps candidate = some id →
      pending.lookup id = none := by
  intro steps
  induction steps with
  | zero => exact nofun
  | succ steps ih =>
    intro candidate found
    rw [findUnusedId] at found
    split at found
    · rename_i unused
      rw [← Option.some.inj found]
      exact Option.isNone_iff_eq_none.mp unused
    · exact ih found

theorem allocateIdWithRandom_unused {pending : AList fun _ : UInt16 => PendingQuery} {isPublic : Bool} {id : UInt16}
    {random : Except String (UInt16 × UInt16)} (ok : allocateIdWithRandom pending isPublic random = .ok (some id)) :
    pending.lookup id = none := by
  unfold allocateIdWithRandom at ok
  split at ok
  · cases ok
  split at ok
  · cases ok
  split at ok
  · cases ok
  · exact findUnusedId_unused (Except.ok.inj ok)

/-- A query that was just prepared: what it asks for, and that nothing was sent for it yet. -/
structure Prepared (key : ResolveKey) (name : Name) (recordType : RecordType) (cnameHops : Nat) (policy : QueryPolicy)
    (trace : Trace) (query : PendingQuery) : Prop where
  isKey : query.key = key
  isHost : query.host = name
  isType : query.recordType = recordType
  hops : query.cnameHops = cnameHops
  isTrace : query.toTrace = trace
  isPolicy : query.policy = policy.issuing trace.issued
  limit : query.attemptLimit = policy.retry.attemptLimit
  unsent : query.attemptsSent = 0 ∧ query.serversTried = 1 ∧ query.sent = []
  udp : query.transport = .udp

/-- What `prepare_name_query` may do: fail, or give a query that is not in flight yet, under an allocated id. -/
theorem prepareNameQuery_cases (env : Env) (key : ResolveKey) (name : Name) (recordType : RecordType)
    (cnameHops : Nat) (policy : QueryPolicy) (trace : Trace) (r : Resolver) :
    ∃ asked, r.asked ≤ asked ∧
      ((∃ failure, prepareNameQuery env key name recordType cnameHops policy trace r =
          ({ r with asked }, .error failure)) ∨
        ∃ id query, prepareNameQuery env key name recordType cnameHops policy trace r =
            ({ r with asked }, .ok (id, query)) ∧
          allocateIdWithRandom r.pending policy.isPublic (env.entropy r.asked) = .ok (some id) ∧
          Prepared key name recordType cnameHops policy trace query) := by
  unfold prepareNameQuery
  split
  · exact ⟨_, Nat.le_succ _, .inl ⟨_, rfl⟩⟩
  · exact ⟨_, Nat.le_succ _, .inl ⟨_, rfl⟩⟩
  rename_i id allocated
  split
  · exact ⟨_, Nat.le_succ _, .inl ⟨_, rfl⟩⟩
  · exact ⟨r.asked + 1 + 1, by omega, .inr ⟨id, _, rfl, allocated,
      ⟨rfl, rfl, rfl, rfl, rfl, rfl, rfl, ⟨rfl, rfl, rfl⟩, rfl⟩⟩⟩

/-! ## The step of a lookup -/

/-- The surroundings of a step and the time it starts at. -/
structure Moment where
  env : Env
  now : Instant

/-- A step: what the cache holds for public lookups while it is taken, and which addresses HTTP lookups of a name may be
given. -/
structure Scene extends Moment where
  holds : Name × RecordType → Cached CachedFamily → Prop
  serves : Name → IpAddr → Prop
  /-- When an entry was used does not matter. -/
  same : ∀ {key entry entry'}, entry'.Same entry → holds key entry → holds key entry'
  /-- HTTP lookups may be given what is held for public ones. -/
  reads : ∀ {name recordType entry addresses}, holds (name, recordType) entry → entry.value = .answer addresses →
    ∀ address ∈ addresses, serves name address

/-- An entry for a family that the lookup wants, which is valid when the step starts. -/
def Scene.Readable (scene : Scene) (family : AddressFamily) (key : Name × RecordType) (entry : Cached CachedFamily) :
    Prop :=
  family.wants key.2 = true ∧ scene.holds key entry ∧ scene.now < entry.expires

/-! ## The candidates of a public lookup -/

/-- What reading the cache at the start of a candidate may do to the session. -/
inductive Consulted (scene : Scene) (name : Name) (session : PublicSession) : PublicSession → Prop where
  | unread (mode : session.cacheMode ≠ .use) : Consulted scene name session session
  | read {ipv4 ipv6 : Option (Cached CachedFamily)} (mode : session.cacheMode = .use)
      (readable4 : ∀ entry ∈ ipv4, scene.Readable session.family (name, .a) entry)
      (readable6 : ∀ entry ∈ ipv6, scene.Readable session.family (name, .aaaa) entry) :
      Consulted scene name session (shareNameNotFound ((session.readFamily .a ipv4).readFamily .aaaa ipv6))

def PublicSession.negative (session : PublicSession) : PublicSession :=
  recordSearchNegative session session.response.1 session.response.2.2

def PublicSession.next (session : PublicSession) (candidate : Bytes) : PublicSession :=
  { session.negative with candidateIndex := session.negative.candidateIndex + 1, candidate }

def PublicSession.following (session : PublicSession) : Option Bytes :=
  session.candidates[session.candidateIndex + 1]?

/-- What comes next for a lookup: a query for a family of the name of its candidate, or its end. -/
inductive Onward where
  | asks (session : PublicSession) (name : Name) (recordType : RecordType)
  | ends (session : PublicSession)

/-- How a lookup goes on once it knows the families of its candidate. -/
inductive Completes (scene : Scene) : PublicSession → Onward → Prop where
  | answered {session : PublicSession} (answer : session.response.1 = .answer) :
      Completes scene session (.ends session)
  | exhausted {session : PublicSession} (noAnswer : session.response.1 ≠ .answer) (last : session.following = none) :
      Completes scene session (.ends session.negative)
  | asks {session read : PublicSession} {candidate : Bytes} {name : Name} {recordType : RecordType}
      (noAnswer : session.response.1 ≠ .answer) (more : session.following = some candidate)
      (isName : parseDnsName candidate = .ok name) (consulted : Consulted scene name (session.next candidate).cleared read)
      (needs : read.needs = some recordType) : Completes scene session (.asks read.uncached name recordType)
  | goesOn {session read : PublicSession} {candidate : Bytes} {name : Name} {onward : Onward}
      (noAnswer : session.response.1 ≠ .answer) (more : session.following = some candidate)
      (isName : parseDnsName candidate = .ok name) (consulted : Consulted scene name (session.next candidate).cleared read)
      (known : read.needs = none) (completes : Completes scene read onward) : Completes scene session onward

/-- How a lookup goes on from the start of a candidate. -/
inductive Begins (scene : Scene) (session : PublicSession) : Onward → Prop where
  | asks {read : PublicSession} {name : Name} {recordType : RecordType}
      (isName : parseDnsName session.candidate = .ok name) (consulted : Consulted scene name session.cleared read)
      (needs : read.needs = some recordType) : Begins scene session (.asks read.uncached name recordType)
  | known {read : PublicSession} {name : Name} {onward : Onward} (isName : parseDnsName session.candidate = .ok name)
      (consulted : Consulted scene name session.cleared read) (known : read.needs = none)
      (completes : Completes scene read onward) : Begins scene session onward

theorem Completes.of_begins {scene : Scene} {session : PublicSession} {candidate : Bytes} {onward : Onward}
    (noAnswer : session.response.1 ≠ .answer) (more : session.following = some candidate)
    (begins : Begins scene (session.next candidate) onward) : Completes scene session onward := by
  cases begins with
  | asks isName consulted needs => exact .asks noAnswer more isName consulted needs
  | known isName consulted known completes => exact .goesOn noAnswer more isName consulted known completes

/-! ## Answers -/

def Moment.expires (moment : Moment) (query : PendingQuery) (session : PublicSession) (ttl : Option Duration)
    (maximumTtl : Duration) : Option Instant :=
  (if query.cnameHops == 0 && session.cacheMode != .bypass then ttl else none).bind fun ttl =>
    if ttl = 0 then none else checkedAddInstant moment.env.latest moment.now (min ttl maximumTtl)

/-- What an answer tells a public lookup about the family of the query. -/
inductive Told (moment : Moment) (query : PendingQuery) (session : PublicSession) :
    Except ResolveFailure ParsedAnswer → PublicSession → Prop where
  | answer {answer : ResolveAnswer} : Told moment query session (.ok (.answer answer))
      (session.withOutcome query.recordType ⟨.answer, answer.addresses,
        moment.expires query session (some answer.ttl) maxPositiveCacheTtl, none⟩)
  | noRecords {ttl : Option Duration} : Told moment query session (.ok (.noRecords ttl))
      (session.withOutcome query.recordType ⟨.noData, [], moment.expires query session ttl maxNegativeCacheTtl, none⟩)
  | negative {failure : ResolveFailure} {ttl : Option Duration} :
      Told moment query session (.ok (.negative failure ttl))
        (session.notFound query.recordType (moment.expires query session ttl maxNegativeCacheTtl))

/-- What an answer puts into the cache for public lookups, under the name of the query, if no alias led to it. -/
inductive Stores (query : PendingQuery) : Except ResolveFailure ParsedAnswer → RecordType → CachedFamily → Prop where
  | answer {answer : ResolveAnswer} (direct : query.cnameHops = 0) :
      Stores query (.ok (.answer answer)) query.recordType (.answer answer.addresses)
  | noRecords {ttl : Option Duration} : Stores query (.ok (.noRecords ttl)) query.recordType .noData
  | negative {failure : ResolveFailure} {ttl : Option Duration} {recordType : RecordType} :
      Stores query (.ok (.negative failure ttl)) recordType .nameNotFound

/-- The address is one that a completed candidate gives to HTTP lookups: all that the session says is in the cache. -/
def PublicSession.Publishes (session : PublicSession) (address : IpAddr) : Prop :=
  (∀ recordType outcome, session.family.wants recordType = true → session.outcome recordType = some outcome →
    outcome.validUntil ≠ none) ∧
  ∃ recordType outcome, session.family.wants recordType = true ∧ session.outcome recordType = some outcome ∧
    address ∈ outcome.addresses

def AsksNext (key : ResolveKey) (goesOn : Onward → Prop) (query : PendingQuery) : Prop :=
  ∃ session name recordType, goesOn (.asks session name recordType) ∧
    Prepared key name recordType 0 (.publicLookup session) ⟨name, session.issued + 1⟩ query

def EndsNow (key : ResolveKey) (goesOn : Onward → Prop) (result : ResolveResult) : Prop :=
  ∃ session, goesOn (.ends session) ∧ result = .completed key session

/-- What an answer makes of a query: the next query of the lookup. -/
inductive Continues (scene : Scene) (old : PendingQuery) : Except ResolveFailure ParsedAnswer → PendingQuery → Prop where
  | followed {target : Name} {hops : Nat} {new : PendingQuery}
      (prepared : Prepared old.key target old.recordType (min 255 (old.cnameHops + hops)) old.policy
        ⟨old.subject, old.issued + 1⟩ new) :
      Continues scene old (.ok (.canonical target hops)) new
  | httpFamily {retry : RetryPolicy} {ttl : Option Duration} {new : PendingQuery} (isHttp : old.policy = .http retry)
      (isA : old.recordType = .a)
      (prepared : Prepared old.key old.host .aaaa old.cnameHops old.policy ⟨old.subject, old.issued + 1⟩ new) :
      Continues scene old (.ok (.noRecords ttl)) new
  | family {session told : PublicSession} {result : Except ResolveFailure ParsedAnswer} {recordType : RecordType}
      {new : PendingQuery} (isPublic : old.policy = .publicLookup session)
      (isTold : Told scene.toMoment old session result told) (needs : told.needs = some recordType)
      (prepared : Prepared old.key old.host recordType 0 (.publicLookup told) ⟨old.subject, old.issued + 1⟩ new) :
      Continues scene old result new
  | candidate {session told : PublicSession} {result : Except ResolveFailure ParsedAnswer} {new : PendingQuery}
      (isPublic : old.policy = .publicLookup session) (isTold : Told scene.toMoment old session result told)
      (known : told.needs = none) (next : AsksNext old.key (Completes scene told) new) : Continues scene old result new

/-- What an answer makes of a query: the end of the lookup, unless it fails. -/
inductive Ends (scene : Scene) (old : PendingQuery) (parsed : Except ResolveFailure ParsedAnswer)
    (result : ResolveResult) : Prop where
  | completed {session told : PublicSession} (isPublic : old.policy = .publicLookup session)
      (isTold : Told scene.toMoment old session parsed told) (known : told.needs = none)
      (ends : EndsNow old.key (Completes scene told) result) : Ends scene old parsed result
  | http {retry : RetryPolicy} {answer : ResolveAnswer} (isHttp : old.policy = .http retry)
      (isAnswer : parsed = .ok (.answer answer)) (isResult : result = .http old.key (.ok answer)) :
      Ends scene old parsed result

/-! ## What a lookup keeps -/

/-- What the request and the configuration fix for a whole public lookup. -/
structure Terms where
  identity : Bytes
  candidates : List Bytes
  family : AddressFamily
  order : AddressOrder
  cacheMode : CacheMode
  maxResults : Nat
  retry : RetryPolicy

def PublicSession.terms (session : PublicSession) : Terms where
  identity := session.identity
  candidates := session.candidates
  family := session.family
  order := session.order
  cacheMode := session.cacheMode
  maxResults := session.maxResults
  retry := ⟨session.attemptLimit, session.attemptTimeout⟩

def Onward.session : Onward → PublicSession
  | .asks session _ _ => session
  | .ends session => session

section

variable {scene : Scene} {moment : Moment} {name : Name} {session read told : PublicSession} {onward : Onward}
  {query : PendingQuery} {recordType : RecordType} {result : Except ResolveFailure ParsedAnswer}

/-- Reading the cache changes only what the session knows about its candidate. -/
theorem Consulted.fields (consulted : Consulted scene name session read) :
    ∃ ipv4 ipv6 heard, read = { session with ipv4, ipv6, heard } := by
  cases consulted with
  | unread => exact ⟨_, _, _, rfl⟩
  | @read ipv4 ipv6 =>
    unfold shareNameNotFound
    cases ipv4 <;> cases ipv6 <;> (repeat' split) <;> exact ⟨_, _, _, rfl⟩

theorem Consulted.terms (consulted : Consulted scene name session read) : read.terms = session.terms := by
  obtain ⟨ipv4, ipv6, heard, rfl⟩ := consulted.fields
  rfl

/-- What the session says about its candidate after it has read the cache, it has read there. -/
theorem Consulted.outcome {outcome : FamilyOutcome} (consulted : Consulted scene name session.cleared read)
    (isOutcome : read.outcome recordType = some outcome) :
    ∃ other entry, scene.Readable session.family (name, other) entry ∧ outcome = cachedFamilyOutcome entry := by
  cases consulted with
  | unread => cases recordType <;> cases isOutcome
  | @read ipv4 ipv6 _ readable4 readable6 =>
    have own : ∀ recordType, ((session.cleared.readFamily .a ipv4).readFamily .aaaa ipv6).outcome recordType =
        some outcome → ∃ other entry, scene.Readable session.family (name, other) entry ∧
          outcome = cachedFamilyOutcome entry := by
      intro recordType isOwn
      cases recordType with
      | a =>
        obtain ⟨entry, isEntry, rfl⟩ := Option.map_eq_some_iff.mp (readFamily_outcome.1.symm.trans isOwn)
        exact ⟨.a, entry, readable4 entry isEntry, rfl⟩
      | aaaa =>
        obtain ⟨entry, isEntry, rfl⟩ := Option.map_eq_some_iff.mp (readFamily_outcome.2.symm.trans isOwn)
        exact ⟨.aaaa, entry, readable6 entry isEntry, rfl⟩
    unfold shareNameNotFound at isOutcome
    split at isOutcome
    · split at isOutcome
      · cases recordType <;> exact own .a isOutcome
      · split at isOutcome
        · cases recordType <;> exact own .aaaa isOutcome
        · exact own recordType isOutcome
    · exact own recordType isOutcome

theorem cachedFamilyOutcome_addresses {entry : Cached CachedFamily} {address : IpAddr}
    (mem : address ∈ (cachedFamilyOutcome entry).addresses) :
    ∃ addresses, entry.value = .answer addresses ∧ address ∈ addresses := by
  unfold cachedFamilyOutcome at mem
  split at mem
  · rename_i addresses isAnswer
    exact ⟨addresses, isAnswer, mem⟩
  · cases mem
  · cases mem

/-- A candidate that was read from the cache says what HTTP lookups may be given. -/
theorem Consulted.served {address : IpAddr} (consulted : Consulted scene name session.cleared read)
    (publishes : read.Publishes address) : scene.serves name address := by
  obtain ⟨-, recordType, outcome, -, isOutcome, mem⟩ := publishes
  obtain ⟨other, entry, ⟨-, holds, -⟩, rfl⟩ := consulted.outcome isOutcome
  obtain ⟨addresses, isAnswer, isAddress⟩ := cachedFamilyOutcome_addresses mem
  exact scene.reads holds isAnswer address isAddress

theorem uncached_terms : session.uncached.terms = session.terms := by
  unfold PublicSession.uncached
  split <;> rfl

theorem Completes.terms (completes : Completes scene session onward) : onward.session.terms = session.terms := by
  induction completes with
  | answered | exhausted => rfl
  | asks _ _ _ consulted _ => exact uncached_terms.trans consulted.terms
  | goesOn _ _ _ consulted _ _ ih => exact ih.trans consulted.terms

theorem Begins.terms (begins : Begins scene session onward) : onward.session.terms = session.terms := by
  cases begins with
  | asks _ consulted _ => exact uncached_terms.trans consulted.terms
  | known _ consulted _ completes => exact completes.terms.trans consulted.terms

/-- An answer changes only what the session knows about its candidate. -/
theorem Told.fields (isTold : Told moment query session result told) :
    ∃ ipv4 ipv6 heard, told = { session with ipv4, ipv6, heard } := by
  cases isTold with
  | answer | noRecords => cases query.recordType <;> exact ⟨_, _, _, rfl⟩
  | negative => exact ⟨_, _, _, rfl⟩

theorem Told.terms (isTold : Told moment query session result told) : told.terms = session.terms := by
  obtain ⟨ipv4, ipv6, heard, rfl⟩ := isTold.fields
  rfl

/-- An answer with addresses puts them into the cache if no alias led to the query. -/
theorem Stores.addresses {addresses : List IpAddr} (stores : Stores query result recordType (.answer addresses)) :
    query.cnameHops = 0 ∧ ∃ answer, result = .ok (.answer answer) ∧ answer.addresses = addresses := by
  generalize isValue : CachedFamily.answer addresses = value at stores
  cases stores with
  | @answer answer direct => exact ⟨direct, answer, rfl, (CachedFamily.answer.inj isValue).symm⟩
  | noRecords => cases isValue
  | negative => cases isValue

theorem notFound_needs {validUntil : Option Instant} : (session.notFound recordType validUntil).needs = none := by
  unfold PublicSession.needs
  split <;> rfl

end

/-! ## What a lookup was told -/

/-- What an answer says about the family of the query that it is for. -/
def Moment.outcome (moment : Moment) (query : PendingQuery) (session : PublicSession) :
    ParsedAnswer → Option FamilyOutcome
  | .answer answer =>
    some ⟨.answer, answer.addresses, moment.expires query session (some answer.ttl) maxPositiveCacheTtl, none⟩
  | .noRecords ttl => some ⟨.noData, [], moment.expires query session ttl maxNegativeCacheTtl, none⟩
  | .negative _ ttl => some ⟨.nameNotFound, [], moment.expires query session ttl maxNegativeCacheTtl, none⟩
  | .canonical _ _ | .truncated => none

/-- What a session was told is as `tells` says, and so is what it says about its candidate. -/
structure Informed (tells : Heard → Prop) (session : PublicSession) : Prop where
  heard : ∀ told ∈ session.heard, tells told
  known : ∀ recordType outcome, session.outcome recordType = some outcome →
    ∃ other, tells ⟨session.candidateIndex, other, outcome⟩

/-- What a session may read in a step, about its candidates from the given one on, is as `tells` says. -/
def PublicSession.Reads (scene : Scene) (tells : Heard → Prop) (first : Nat) (session : PublicSession) : Prop :=
  session.cacheMode = .use → ∀ index candidate name recordType entry, first ≤ index →
    session.candidates[index]? = some candidate → parseDnsName candidate = .ok name →
    scene.Readable session.family (name, recordType) entry → tells ⟨index, recordType, cachedFamilyOutcome entry⟩

section

variable {scene : Scene} {moment : Moment} {name : Name} {session read told : PublicSession} {onward : Onward}
  {query : PendingQuery} {recordType : RecordType} {tells tells' : Heard → Prop} {outcome : FamilyOutcome}

theorem Informed.mono (informed : Informed tells session) (more : ∀ told, tells told → tells' told) :
    Informed tells' session where
  heard := fun told mem => more told (informed.heard told mem)
  known := fun recordType outcome isOutcome => (informed.known recordType outcome isOutcome).imp fun _ => more _

theorem Informed.withOutcome (informed : Informed tells session)
    (isNew : tells ⟨session.candidateIndex, recordType, outcome⟩) :
    Informed tells (session.withOutcome recordType outcome) := by
  have heard := List.forall_mem_append.mpr ⟨informed.heard, List.forall_mem_singleton.mpr isNew⟩
  have own : ∀ said, some outcome = some said → ∃ other, tells ⟨session.candidateIndex, other, said⟩ := by
    rintro _ ⟨⟩
    exact ⟨recordType, isNew⟩
  cases recordType with
  | a =>
    refine ⟨heard, fun other said isSaid => ?_⟩
    cases other with
    | a => exact own said isSaid
    | aaaa => exact informed.known .aaaa said isSaid
  | aaaa =>
    refine ⟨heard, fun other said isSaid => ?_⟩
    cases other with
    | a => exact informed.known .a said isSaid
    | aaaa => exact own said isSaid

theorem Consulted.informed (consulted : Consulted scene name session.cleared read)
    (heard : ∀ told ∈ session.heard, tells told)
    (reads : session.cacheMode = .use → ∀ recordType entry, scene.Readable session.family (name, recordType) entry →
      tells ⟨session.candidateIndex, recordType, cachedFamilyOutcome entry⟩) : Informed tells read := by
  have cleared : Informed tells session.cleared := ⟨heard, fun recordType _ known => by cases recordType <;> cases known⟩
  cases consulted with
  | unread => exact cleared
  | @read ipv4 ipv6 mode readable4 readable6 =>
    have reading : ∀ (middle : PublicSession) recordType entry, middle.candidateIndex = session.candidateIndex →
        (∀ read ∈ entry, scene.Readable session.family (name, recordType) read) → Informed tells middle →
        Informed tells (middle.readFamily recordType entry) := by
      intro middle recordType entry index readable informed
      cases entry with
      | none => exact informed
      | some entry => exact informed.withOutcome (index ▸ reads mode recordType entry (readable entry rfl))
    have index : (session.cleared.readFamily .a ipv4).candidateIndex = session.candidateIndex := by cases ipv4 <;> rfl
    obtain ⟨heard, known⟩ := reading _ .aaaa ipv6 index readable6 (reading _ .a ipv4 rfl readable4 cleared)
    unfold shareNameNotFound
    repeat' split
    all_goals refine ⟨heard, fun recordType outcome isOutcome => ?_⟩
    · cases recordType <;> exact known .a outcome isOutcome
    · cases recordType <;> exact known .aaaa outcome isOutcome
    all_goals exact known recordType outcome isOutcome

theorem Informed.uncached (informed : Informed tells session) : Informed tells session.uncached := by
  unfold PublicSession.uncached
  split <;> exact ⟨informed.heard, informed.known⟩

theorem Completes.informed (completes : Completes scene session onward) (informed : Informed tells session)
    (reads : session.Reads scene tells (session.candidateIndex + 1)) : Informed tells onward.session := by
  have next : ∀ {session read : PublicSession} {candidate name}, Informed tells session →
      session.Reads scene tells (session.candidateIndex + 1) → session.following = some candidate →
      parseDnsName candidate = .ok name → Consulted scene name (session.next candidate).cleared read →
      Informed tells read := fun informed reads more isName consulted =>
    consulted.informed informed.heard fun mode _ _ readable => reads mode _ _ _ _ _ le_rfl more isName readable
  induction completes with
  | answered | exhausted => exact ⟨informed.heard, informed.known⟩
  | asks _ more isName consulted _ => exact (next informed reads more isName consulted).uncached
  | goesOn _ more isName consulted _ _ ih =>
    refine ih (next informed reads more isName consulted) ?_
    obtain ⟨ipv4, ipv6, heard, rfl⟩ := consulted.fields
    exact fun mode index candidate name recordType entry later => reads mode index _ _ _ _ (Nat.le_of_succ_le later)

theorem Begins.informed (begins : Begins scene session onward)
    (candidate : session.candidates[session.candidateIndex]? = some session.candidate)
    (heard : ∀ told ∈ session.heard, tells told) (reads : session.Reads scene tells session.candidateIndex) :
    Informed tells onward.session := by
  have first : ∀ {name read}, parseDnsName session.candidate = .ok name → Consulted scene name session.cleared read →
      Informed tells read := fun isName consulted =>
    consulted.informed heard fun mode _ _ readable => reads mode _ _ _ _ _ le_rfl candidate isName readable
  cases begins with
  | asks isName consulted _ => exact (first isName consulted).uncached
  | known isName consulted _ completes =>
    refine completes.informed (first isName consulted) ?_
    obtain ⟨ipv4, ipv6, heard, rfl⟩ := consulted.fields
    exact fun mode index candidate name recordType entry later => reads mode index _ _ _ _ (Nat.le_of_succ_le later)

theorem Told.informed {parsed : ParsedAnswer} (isTold : Told moment query session (.ok parsed) told)
    (informed : Informed tells session) (isSaid : ∀ outcome, moment.outcome query session parsed = some outcome →
      tells ⟨session.candidateIndex, query.recordType, outcome⟩) : Informed tells told := by
  cases isTold with
  | answer | noRecords => exact informed.withOutcome (isSaid _ rfl)
  | negative =>
    refine ⟨List.forall_mem_append.mpr ⟨informed.heard, List.forall_mem_singleton.mpr (isSaid _ rfl)⟩, ?_⟩
    intro other outcome isOutcome
    cases other <;> cases isOutcome <;> exact ⟨_, isSaid _ rfl⟩

/-- A lookup goes on at one of its candidates, and asks for the name of it. -/
structure Onward.Placed (onward : Onward) : Prop where
  candidate : onward.session.candidates[onward.session.candidateIndex]? = some onward.session.candidate
  named : ∀ session name recordType, onward = .asks session name recordType → parseDnsName session.candidate = .ok name

theorem Consulted.placed (consulted : Consulted scene name session.cleared read)
    (candidate : session.candidates[session.candidateIndex]? = some session.candidate)
    (isName : parseDnsName session.candidate = .ok name) : (Onward.asks read.uncached name recordType).Placed := by
  obtain ⟨ipv4, ipv6, heard, rfl⟩ := consulted.fields
  unfold PublicSession.uncached
  split
  all_goals
    refine ⟨candidate, ?_⟩
    rintro _ _ _ ⟨⟩
    exact isName

theorem Completes.placed (completes : Completes scene session onward)
    (candidate : session.candidates[session.candidateIndex]? = some session.candidate) : onward.Placed := by
  induction completes with
  | answered | exhausted => exact ⟨candidate, fun _ _ _ no => (by cases no)⟩
  | asks _ more isName consulted _ => exact consulted.placed more isName
  | goesOn _ more _ consulted _ _ ih =>
    obtain ⟨ipv4, ipv6, heard, rfl⟩ := consulted.fields
    exact ih more

theorem Begins.placed (begins : Begins scene session onward)
    (candidate : session.candidates[session.candidateIndex]? = some session.candidate) : onward.Placed := by
  cases begins with
  | asks isName consulted _ => exact consulted.placed candidate isName
  | known isName consulted _ completes =>
    obtain ⟨ipv4, ipv6, heard, rfl⟩ := consulted.fields
    exact completes.placed candidate

end

end NbReq.Dns
