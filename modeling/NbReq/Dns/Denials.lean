import NbReq.Dns.Search

/-!
# Old denials

Once the cache denies a name for one family, a lookup of both families takes the denial for both, even if an address of
the other family has been stored since (`an_old_denial_is_believed`). `answer_not_denied` says when that does not
happen: the denial has expired when the lookup is submitted, or the lookup does not use the cache, and no server denies
the name.
-/

namespace NbReq.Dns

/-! ## Denials that a lookup hears -/

def DnsCache.Undenied (cache : DnsCache) (name : Name) (now : Instant) : Prop :=
  ∀ recordType entry, cache.familyEntries.lookup (name, recordType) = some entry → now < entry.expires →
    entry.value ≠ .nameNotFound

variable {now : Instant} {name : Name}

variable {result : Except ResolveFailure ParsedAnswer}

/-- What was told is no denial of the first candidate. -/
def Heard.Harmless (told : Heard) : Prop :=
  told.candidateIndex = 0 → told.outcome.status ≠ .nameNotFound

/-- The lookup was not told that its first candidate does not exist. -/
abbrev Spared : PublicSession → Prop :=
  Informed Heard.Harmless

section

variable {scene : Scene} {moment : Moment} {session told : PublicSession} {onward : Onward} {query : PendingQuery}

theorem Completes.spared (completes : Completes scene session onward) (spared : Spared session) :
    Spared onward.session := by
  refine completes.informed spared fun _ index _ _ _ _ later _ _ _ first => ?_
  rw [show index = 0 from first] at later
  exact absurd later (Nat.not_succ_le_zero _)

theorem Told.spared (isTold : Told moment query session result told) (spared : Spared session)
    (harmless : ∀ failure ttl, result = .ok (.negative failure ttl) → session.candidateIndex ≠ 0) : Spared told := by
  obtain ⟨parsed, rfl⟩ : ∃ parsed, result = .ok parsed := by cases isTold <;> exact ⟨_, rfl⟩
  refine isTold.informed spared fun outcome isOutcome first => ?_
  cases parsed with
  | negative failure ttl => exact absurd first (harmless failure ttl rfl)
  | answer | noRecords =>
    cases isOutcome
    exact nofun
  | canonical | truncated => cases isOutcome

end

/-! ## The first candidate -/

theorem expandSuffixes_unseen {identity : Bytes} {suffixes : List Bytes} :
    ∀ seen, ∀ candidate ∈ expandSuffixes identity seen suffixes, candidate ∉ seen := by
  induction suffixes with
  | nil => exact fun _ _ => nofun
  | cons suffix rest ih =>
    intro seen candidate mem
    unfold expandSuffixes at mem
    split at mem
    · exact ih seen candidate mem
    split at mem
    · exact ih seen candidate mem
    rename_i isNew
    rcases List.mem_cons.mp mem with rfl | later
    · exact isNew
    · exact fun isSeen => ih _ candidate later (List.mem_cons_of_mem _ isSeen)

/-- If a name is one of its own search candidates, it is the first. -/
theorem publicSearchCandidates_self {identity : Bytes} {expandSearch : Bool} {suffixes : List Bytes}
    (mem : identity ∈ publicSearchCandidates identity expandSearch suffixes) :
    ∃ later, publicSearchCandidates identity expandSearch suffixes = identity :: later := by
  have unseen : identity ∉ expandSuffixes identity [identity] suffixes :=
    fun isNew => expandSuffixes_unseen _ identity isNew (List.mem_singleton_self _)
  unfold publicSearchCandidates at mem ⊢
  split at mem
  · rename_i single
    rw [if_pos single]
    exact ⟨[], rfl⟩
  rename_i expands
  rw [if_neg expands]
  dsimp only at mem ⊢
  by_cases dotted : identity.contains 0x2E = true
  · rw [if_pos dotted]
    exact ⟨_, rfl⟩
  rw [if_neg dotted, List.nil_append] at mem ⊢
  cases isExpanded : expandSuffixes identity [identity] suffixes with
  | nil => exact ⟨[], rfl⟩
  | cons first rest =>
    rw [isExpanded] at mem unseen
    exact absurd mem unseen

def PublicLookupOutcome.status : PublicLookupOutcome → Option ResolveStatus
  | .completed _ status _ _ _ _ => some status
  | .failed _ => none

/-- If a lookup reports that its name does not exist, some family of its first candidate has said so. -/
theorem SearchRule.denied {spec : PublicResolveSpec} {candidates : List Bytes} {said : Nat → Sayings} {fromCache : Bool}
    {outcome : PublicLookupOutcome} (rule : SearchRule spec candidates said fromCache outcome)
    (denies : outcome.status = some .nameNotFound) (nonempty : candidates ≠ []) :
    ∃ recordType outcome, said 0 recordType = some outcome ∧ outcome.status = .nameNotFound := by
  unfold SearchRule at rule
  split at rule
  · obtain ⟨-, validUntil, rfl⟩ := rule
    cases denies
  rename_i none
  obtain ⟨-, rfl⟩ := rule
  have first : 0 ∈ List.range candidates.length := List.mem_range.mpr (List.length_pos_of_ne_nil nonempty)
  have notAnswer : verdict spec.family (said 0) ≠ .answer := by simpa using List.find?_eq_none.mp none 0 first
  have notNoData : verdict spec.family (said 0) ≠ .noData := by
    intro isNoData
    have some : ((List.range candidates.length).any fun index =>
        verdict spec.family (said index) == .noData) = true :=
      List.any_eq_true.mpr ⟨0, first, beq_iff_eq.mpr isNoData⟩
    rw [PublicLookupOutcome.status, if_pos some] at denies
    cases denies
  cases isDenial : denial spec.family (said 0) with
  | none =>
    unfold verdict at notAnswer notNoData
    rw [isDenial, if_neg (by simp)] at notAnswer notNoData
    split at notAnswer
    · exact absurd rfl notAnswer
    · rename_i noAddresses
      rw [if_neg noAddresses] at notNoData
      exact absurd rfl notNoData
  | some outcome =>
    obtain ⟨missing, recordType, -, isSaid⟩ := denial_said isDenial
    exact ⟨recordType, outcome, isSaid, missing⟩

/-! ## Runs -/

def QueryPolicy.Spared : QueryPolicy → Prop
  | .http _ => True
  | .publicLookup session => Dns.Spared session

/-- The lookup with the key was not told that its name does not exist. -/
structure Watched (key : ResolveKey) (r : Resolver) : Prop where
  pending : ∀ id query, r.pending.lookup id = some query → query.key = key → query.policy.Spared
  results : ∀ result ∈ r.results, result.key = key → ∀ session ∈ result.session, Spared session

/-- The event does not deny the name that the lookup with the key is for. -/
def Event.Spares (key : ResolveKey) (event : Event) (thread : Thread) : Prop :=
  ∀ query session failure ttl, event.Answers thread query (.ok (.negative failure ttl)) → query.key = key →
    query.policy = .publicLookup session → session.candidateIndex ≠ 0

/-- A step in which no server denies the name that the lookup with the key is for. -/
def Thread.SparingStep (env : Env) (key : ResolveKey) (thread thread' : Thread) : Prop :=
  ∃ event : Event, event.Spares key thread ∧ thread.step env event = some thread'

section

variable {env : Env} {key : ResolveKey} {r : Resolver} {thread thread' last : Thread} {event : Event}
  {spec : PublicResolveSpec} {retried : Bool} {old new query : PendingQuery} {goesOn : Onward → Prop}

theorem Prepared.spared {name subject : Name} {recordType : RecordType} {cnameHops issued : Nat}
    {policy : QueryPolicy} (prepared : Prepared key name recordType cnameHops policy ⟨subject, issued⟩ query)
    (spared : policy.Spared) : query.policy.Spared := by
  rw [prepared.isPolicy]
  cases policy with
  | http => trivial
  | publicLookup => exact ⟨spared.heard, spared.known⟩

theorem AsksNext.isKey (next : AsksNext key goesOn query) : query.key = key := by
  obtain ⟨_, _, _, -, prepared⟩ := next
  exact prepared.isKey

theorem AsksNext.spared (next : AsksNext key goesOn query)
    (spared : ∀ onward, goesOn onward → Spared onward.session) : query.policy.Spared := by
  obtain ⟨session, name, recordType, isNext, prepared⟩ := next
  exact prepared.spared (spared _ isNext)

theorem ResolveResult.Failed.spared {result : ResolveResult} (failed : result.Failed) :
    ∀ session ∈ result.session, Spared session := by
  intro session isSession
  rw [failed.session] at isSession
  cases isSession

theorem EndsNow.isKey {result : ResolveResult} (ends : EndsNow key goesOn result) : result.key = key := by
  obtain ⟨session, -, rfl⟩ := ends
  rfl

theorem EndsNow.spared {result : ResolveResult} (ends : EndsNow key goesOn result)
    (spared : ∀ onward, goesOn onward → Spared onward.session) : ∀ session ∈ result.session, Spared session := by
  obtain ⟨session, isLast, rfl⟩ := ends
  rintro _ ⟨⟩
  exact spared _ isLast

theorem Watched.kept {id : UInt16} (watched : Watched key r) (isOld : r.pending.lookup id = some old)
    (kept : Kept retried old new) (isKey : new.key = key) : new.policy.Spared := by
  have sameKey : new.key = old.key := congrArg (fun query => query.key) kept.core
  have policy : new.policy = old.policy := congrArg (fun query => query.policy) kept.core
  rw [policy]
  exact watched.pending id old isOld (sameKey.symm.trans isKey)

/-- A key that was not used yet. -/
theorem Searching.watched {past : List (Thread × Event)} (searching : Searching env past thread)
    (fresh : key ∉ thread.resolver.requests.map (·.1)) : Watched key thread.resolver where
  pending := by
    intro id query found isKey
    cases isPolicy : query.policy with
    | http => trivial
    | publicLookup session =>
      obtain ⟨-, ⟨_, _, ⟨_, _, _, _, mem, -⟩, -⟩, -⟩ := searching.pending id query found session isPolicy
      rw [isKey] at mem
      exact absurd (List.mem_map_of_mem mem) fresh
  results := by
    intro result mem isKey session isSession
    rcases searching.results result mem with ⟨none, -⟩ | ⟨_, _, rfl, ⟨_, _, ⟨_, _, _, _, mem, -⟩, -⟩, -⟩
    · rw [none] at isSession
      cases isSession
    · cases isKey
      exact absurd (List.mem_map_of_mem mem) fresh

/-! ### The lookup is submitted -/

/-- A public lookup of a name is submitted, and the name is among its search candidates. -/
structure Thread.Submits (env : Env) (thread : Thread) (key : ResolveKey) (spec : PublicResolveSpec) (name : Name)
    (submitted : Thread) : Prop where
  step : thread.step env (.command (.publicResolve key spec)) = some submitted
  available : thread.resolver.configAvailable = true
  positive : 0 < spec.maxResults
  isName : parseDnsName spec.host = .ok name
  candidate : spec.host ∈
    publicSearchCandidates spec.host spec.expandSearch thread.resolver.config.snapshot.searchSuffixes

/-- The lookup that is submitted goes on without having been told a denial of its name. -/
theorem Thread.Submits.spared {submitted : Thread} {other : ResolveKey} {onward : Onward}
    (submits : thread.Submits env key spec name submitted)
    (undenied : spec.cacheMode = .use → thread.resolver.cache.Undenied name (thread.resolver.now env))
    (starts : Event.Starts env (.command (.publicResolve key spec)) thread other onward) : Spared onward.session := by
  obtain ⟨session, ⟨asked, suffixes, first, rest, mem, isFirst, rfl⟩, begins⟩ := starts
  obtain ⟨same, rfl⟩ := Event.mem_requests mem
  cases same
  obtain ⟨later, candidates⟩ := publicSearchCandidates_self submits.candidate
  cases candidates.symm.trans isFirst
  refine begins.informed rfl nofun fun mode index candidate named recordType entry _ isCandidate isNamed readable => ?_
  obtain ⟨-, ⟨found, isSame⟩ | ⟨answers, -⟩, valid⟩ := readable
  · rintro (rfl : index = 0) isDenial
    cases isCandidate
    cases submits.isName.symm.trans isNamed
    refine undenied mode recordType _ found (isSame.2.1 ▸ valid) ?_
    rw [← isSame.1]
    unfold cachedFamilyOutcome at isDenial
    split at isDenial
    · cases isDenial
    · assumption
    · cases isDenial
  · exact answers.elim

theorem Thread.Submits.watched {submitted : Thread} (submits : thread.Submits env key spec name submitted)
    (undenied : spec.cacheMode = .use → thread.resolver.cache.Undenied name (thread.resolver.now env))
    (watched : Watched key thread.resolver) : Watched key submitted.resolver := by
  have origin := (Thread.stepped submits.step).origin
  refine ⟨?_, ?_⟩
  · intro id query found isKey
    rcases origin.pending id query found with ⟨old, isOld, kept⟩ | ⟨answers, -⟩ | ⟨isCommand, -⟩ | asks
    · exact watched.kept isOld kept isKey
    · exact answers.elim
    · cases isCommand
    · exact asks.spared fun _ => submits.spared undenied
  · intro result mem isKey
    rcases origin.results result mem with old | failed | ⟨answers, -⟩ | ⟨isCommand, -⟩ | ends
    · exact watched.results result old isKey
    · exact failed.spared
    · exact answers.elim
    · cases isCommand
    · exact ends.spared fun _ => submits.spared undenied

/-! ### The lookup goes on -/

theorem Continues.isKey {scene : Scene} (continues : Continues scene old result new) : new.key = old.key := by
  cases continues with
  | followed prepared | httpFamily _ _ prepared | family _ _ _ prepared => exact prepared.isKey
  | candidate _ _ _ next => exact next.isKey

/-- What an answer that does not deny the name leaves a lookup with. -/
theorem Event.Spares.told {session told : PublicSession}
    (spares : event.Spares key thread) (answers : event.Answers thread old result) (isKey : old.key = key)
    (isPublic : old.policy = .publicLookup session) (spared : old.policy.Spared)
    (isTold : Told (thread.moment env) old session result told) : Spared told := by
  rw [isPublic] at spared
  refine isTold.spared spared ?_
  rintro failure ttl rfl
  exact spares old session failure ttl answers isKey isPublic

theorem Watched.step (watched : Watched key thread.resolver) (origin : Origin env event thread thread')
    (spares : event.Spares key thread) (others : key ∉ (event.requests thread).map (·.1)) :
    Watched key thread'.resolver where
  pending := by
    intro id query found isKey
    rcases origin.pending id query found with ⟨old, isOld, kept⟩ | launches
    · exact watched.kept isOld kept isKey
    cases launches with
    | continues answers continues =>
      obtain ⟨oldId, isOld⟩ := answers.found
      have sameKey := continues.isKey.symm.trans isKey
      have spared := watched.pending oldId _ isOld sameKey
      cases continues with
      | followed prepared | httpFamily _ _ prepared => exact prepared.spared spared
      | family isPublic isTold _ prepared =>
        exact prepared.spared (spares.told answers sameKey isPublic spared isTold)
      | candidate isPublic isTold _ next =>
        exact next.spared fun _ completes => completes.spared (spares.told answers sameKey isPublic spared isTold)
    | http _ asks =>
      obtain ⟨name, -, prepared⟩ := asks
      exact prepared.spared trivial
    | ofPublic asks =>
      have sameKey := asks.isKey
      obtain ⟨_, _, _, ⟨_, ⟨_, _, _, _, mem, -⟩, -⟩, -⟩ := asks
      rw [← sameKey, isKey] at mem
      exact absurd (List.mem_map_of_mem mem) others
  results := by
    intro result mem isKey
    rcases origin.results result mem with old | sends
    · exact watched.results result old isKey
    cases sends with
    | failed failed => exact failed.spared
    | ends answers ends =>
      obtain ⟨oldId, isOld⟩ := answers.found
      cases ends with
      | completed isPublic isTold _ ends =>
        have sameKey := ends.isKey.symm.trans isKey
        have spared := watched.pending oldId _ isOld sameKey
        exact ends.spared fun _ completes => completes.spared (spares.told answers sameKey isPublic spared isTold)
      | http _ _ isResult =>
        rw [isResult]
        exact fun _ no => (by cases no)
    | http _ ends =>
      obtain ⟨_, _, -, rfl, -⟩ := ends
      exact fun _ no => (by cases no)
    | ofPublic ends =>
      obtain ⟨_, ⟨_, ⟨_, _, _, _, isAdded, -⟩, -⟩, rfl⟩ := ends
      cases isKey
      exact absurd (List.mem_map_of_mem isAdded) others

theorem Thread.SparingStep.step (step : Thread.SparingStep env key thread thread') :
    Thread.Step env thread thread' := by
  obtain ⟨event, -, step⟩ := step
  exact ⟨event, step⟩

theorem requests_grow (steps : Relation.ReflTransGen (Thread.Step env) thread last) :
    thread.resolver.requests <+: last.resolver.requests := by
  induction steps with
  | refl => exact List.prefix_rfl
  | tail _ step ih =>
    obtain ⟨event, step⟩ := step
    rw [(Thread.stepped step).origin.requests]
    exact ih.trans (List.prefix_append _ _)

/-- No step of the run denies the name, and the key is not used again. -/
theorem Watched.steps (watched : Watched key thread.resolver) (listed : key ∈ thread.resolver.requests.map (·.1))
    (steps : Relation.ReflTransGen (Thread.SparingStep env key) thread last)
    (fresh : (last.resolver.requests.map (·.1)).Nodup) : Watched key last.resolver := by
  induction steps with
  | refl => exact watched
  | @tail middle last steps step ih =>
    obtain ⟨event, spares, step⟩ := step
    have before : Relation.ReflTransGen (Thread.Step env) thread middle :=
      Relation.ReflTransGen.mono (fun _ _ => Thread.SparingStep.step) _ _ steps
    have origin := (Thread.stepped step).origin
    rw [origin.requests, List.map_append, List.nodup_append] at fresh
    refine (ih fresh.1).step origin spares fun again => ?_
    exact fresh.2.2 key (((requests_grow before).map _).subset listed) key again rfl

end

/-! ## Answers and denials -/

def RecordType.other : RecordType → RecordType
  | .a => .aaaa
  | .aaaa => .a

/-- The cache holds a valid answer for one family of a name that was stored later than its denial of the other. -/
structure DnsCache.Overtaken (cache : DnsCache) (name : Name) (now : Instant) (recordType : RecordType)
    (answer denial : Cached CachedFamily) : Prop where
  isAnswer : cache.familyEntries.lookup (name, recordType) = some answer
  positive : ∃ addresses, answer.value = .answer addresses
  valid : now < answer.expires
  isDenial : cache.familyEntries.lookup (name, recordType.other) = some denial
  negative : denial.value = .nameNotFound
  newer : denial.stored < answer.stored

theorem DnsCache.Overtaken.undenied {cache : DnsCache} {recordType : RecordType}
    {answer denial : Cached CachedFamily} (overtaken : cache.Overtaken name now recordType answer denial)
    (expired : denial.expires ≤ now) : cache.Undenied name now := by
  intro found entry isEntry valid
  by_cases same : found = recordType
  · rw [same, overtaken.isAnswer] at isEntry
    obtain ⟨addresses, isAnswer⟩ := overtaken.positive
    cases isEntry
    rw [isAnswer]
    exact nofun
  · have isOther : found = recordType.other := by
      cases found <;> cases recordType <;> first | rfl | exact absurd rfl same
    rw [isOther, overtaken.isDenial] at isEntry
    cases isEntry
    exact absurd valid (Nat.not_lt.mpr expired)

/-- If the cache holds a valid answer that is newer than its denial of the other family, a lookup of the name that is
submitted then does not report that the name does not exist: provided that the denial has expired or the lookup does not
use the cache, and that no server denies the name to the lookup. -/
theorem Reached.answer_not_denied {env : Env} {thread submitted last : Thread} {key : ResolveKey}
    {spec : PublicResolveSpec} {name : Name} {recordType : RecordType} {answer denial : Cached CachedFamily}
    (reached : Reached (Thread.Step env) thread)
    (overtaken : thread.resolver.cache.Overtaken name (thread.resolver.now env) recordType answer denial)
    (submits : thread.Submits env key spec name submitted)
    (expired : spec.cacheMode = .use → denial.expires ≤ thread.resolver.now env)
    (steps : Relation.ReflTransGen (Thread.SparingStep env key) submitted last)
    (fresh : (last.resolver.requests.map (·.1)).Nodup) :
    ∀ result ∈ last.resolver.results, result.key = key →
      result.publicOutcome.bind (·.status) ≠ some .nameNotFound := by
  have plainSteps : Relation.ReflTransGen (Thread.Step env) submitted last :=
    Relation.ReflTransGen.mono (fun _ _ => Thread.SparingStep.step) _ _ steps
  obtain ⟨past, came⟩ := reached.came
  have requests : submitted.resolver.requests = thread.resolver.requests ++
      [(key, spec, thread.resolver.config.snapshot.searchSuffixes)] := by
    rw [(Thread.stepped submits.step).origin.requests]
    exact congrArg _ (if_pos submits.available)
  have grows := requests_grow plainSteps
  have listed : (key, spec, thread.resolver.config.snapshot.searchSuffixes) ∈ submitted.resolver.requests := by
    rw [requests]
    exact List.mem_append_right _ (List.mem_singleton_self _)
  have unused : key ∉ thread.resolver.requests.map (·.1) := by
    have once := fresh.sublist (grows.sublist.map (·.1))
    rw [requests, List.map_append, List.nodup_append] at once
    exact fun used => once.2.2 key used key (List.mem_singleton_self _) rfl
  have watched := submits.watched (fun mode => overtaken.undenied (expired mode)) (came.searching.watched unused)
  have lastWatched := watched.steps (List.mem_map_of_mem listed) steps fresh
  obtain ⟨_, lastCame⟩ := (came.step submits.step).steps plainSteps
  intro result sent isKey denies
  rcases lastCame.searching.results result sent with ⟨-, fails⟩ | ⟨_, session, rfl, pursues⟩
  · obtain ⟨outcome, isOutcome, status⟩ := Option.bind_eq_some_iff.mp denies
    obtain ⟨error, rfl⟩ := fails outcome isOutcome
    cases status
  cases isKey
  obtain ⟨⟨retry, start, requested, terms⟩, -, -, goes⟩ := pursues
  obtain ⟨asked, suffixes, first, later, isRequest, candidates, rfl⟩ := requested
  obtain ⟨-, rfl, -⟩ : _ ∧ asked = spec ∧ _ := by
    simpa using List.inj_on_of_nodup_map fresh isRequest (grows.subset listed) rfl
  have nonempty : session.candidates ≠ [] := by
    rw [show session.candidates = first :: later from congrArg Terms.candidates terms]
    exact List.cons_ne_nil _ _
  have positive : 0 < session.maxResults := by
    rw [show session.maxResults = asked.maxResults from congrArg Terms.maxResults terms]
    exact submits.positive
  obtain ⟨recordType, outcome, isSaid, missing⟩ := ((goes positive).rule terms).denied denies nonempty
  exact (lastWatched.results _ sent rfl session rfl).heard _ (mem_of_sayings isSaid) rfl missing

/-! ## Samples -/

/-- The response that denies `h.t`, for a minute. -/
def sampleDenial : Bytes :=
  [0, 7, 0x81, 0x83, 0, 1, 0, 0, 0, 1, 0, 0, 1, 0x68, 1, 0x74, 0, 0, 1, 0, 1,
    0, 0, 6, 0, 1, 0, 0, 0, 60, 0, 22, 0, 0, 0, 0, 0, 1, 0, 0, 0, 1, 0, 0, 0, 1, 0, 0, 0, 1, 0, 0, 0, 60]

/-- The IPv6 address of `h.t`, for an hour. -/
def sampleIpv6Answer : Bytes :=
  [0, 7, 0x81, 0x80, 0, 1, 0, 1, 0, 0, 0, 0, 1, 0x68, 1, 0x74, 0, 0, 28, 0, 1,
    0xC0, 12, 0, 28, 0, 1, 0, 0, 14, 16, 0, 16, 0, 0, 0, 0, 0, 0, 0, 0, 0, 0, 0, 0, 0, 0, 0, 1]

/-- `h.t` is denied, and then gets an IPv6 address. -/
def sampleOvertaken : List Event :=
  sampleExchange (.publicResolve ⟨1⟩ sampleLookup) sampleDenial ++
    sampleExchange (.publicResolve ⟨2⟩ { sampleLookup with family := .ipv6, cacheMode := .refresh }) sampleIpv6Answer ++
    [.wake false sampleRefresh]

/-- What the cache holds for `h.t`, and when. -/
def Resolver.sampleEntries (env : Env) (r : Resolver) :
    Option (Cached CachedFamily) × Option (Cached CachedFamily) × Instant :=
  (r.cache.familyEntries.lookup (sampleName, .a), r.cache.familyEntries.lookup (sampleName, .aaaa), r.now env)

/-- Surroundings in which eight seconds pass between two looks at the clock. -/
def sampleHasty : Env :=
  { sampleEnv with
    clock := fun question => question * Duration.fromSecs 8
    clock_mono := fun _ _ le => Nat.mul_le_mul_right _ le }

theorem Resolver.sampleEntries_overtaken {env : Env} {r : Resolver} {answer denial : Cached CachedFamily}
    (entries : r.sampleEntries env = (some denial, some answer, now))
    (facts : answer.value = .answer [.v6 1] ∧ now < answer.expires ∧ denial.value = .nameNotFound ∧
      denial.stored < answer.stored) : r.cache.Overtaken sampleName (r.now env) .aaaa answer denial := by
  obtain ⟨isDenial, entries⟩ := Prod.mk.inj entries
  obtain ⟨isAnswer, isNow⟩ := Prod.mk.inj entries
  obtain ⟨positive, valid, negative, newer⟩ := facts
  rw [← isNow] at valid
  exact ⟨isAnswer, ⟨_, positive⟩, valid, isDenial, negative, newer⟩

theorem answer_not_denied_sample : ∃ thread submitted answer denial,
    Reached (Thread.Step sampleHasty) thread ∧
    thread.resolver.cache.Overtaken sampleName (thread.resolver.now sampleHasty) .aaaa answer denial ∧
    thread.Submits sampleHasty ⟨3⟩ sampleLookup sampleName submitted ∧
    denial.expires ≤ thread.resolver.now sampleHasty ∧
    ∀ result ∈ submitted.resolver.results, result.key = ⟨3⟩ →
      result.publicOutcome.bind (·.status) ≠ some .nameNotFound := by
  obtain ⟨thread, reached, entries, available, suffixes, after⟩ :=
    sample_reached (Event.turn sampleHasty) sampleOvertaken
      (fun thread => thread.resolver.sampleEntries sampleHasty =
          (some ⟨.nameNotFound, 100000000000, 1, 40000000000⟩,
            some ⟨.answer [.v6 1], 3688000000000, 4, 88000000000⟩, 112000000000) ∧
        thread.resolver.configAvailable = true ∧ thread.resolver.config.snapshot.searchSuffixes = [] ∧
        (thread.step sampleHasty (.command (.publicResolve ⟨3⟩ sampleLookup))).map (·.resolver.requests.map (·.1)) =
          some [⟨1⟩, ⟨2⟩, ⟨3⟩]) (by decide +kernel)
  obtain ⟨submitted, step, keys⟩ := Option.map_eq_some_iff.mp after
  have overtaken := Resolver.sampleEntries_overtaken entries (by decide)
  have submits : thread.Submits sampleHasty ⟨3⟩ sampleLookup sampleName submitted :=
    ⟨step, available, by decide, ok_of_toOption (by decide +kernel), by rw [suffixes]; decide⟩
  have isNow : thread.resolver.now sampleHasty = 112000000000 := congrArg (·.2.2) entries
  have expired : (100000000000 : Instant) ≤ thread.resolver.now sampleHasty := by
    rw [isNow]
    decide
  exact ⟨thread, submitted, _, _, reached, overtaken, submits, expired,
    reached.answer_not_denied overtaken submits (fun _ => expired) .refl (by rw [keys]; decide)⟩

/-- A lookup of both families reports that `h.t` does not exist, while the IPv6 address that was found later is still
valid. -/
theorem an_old_denial_is_believed : ∃ thread submitted answer denial,
    Reached (Thread.Step sampleEnv) thread ∧
    thread.resolver.cache.Overtaken sampleName (thread.resolver.now sampleEnv) .aaaa answer denial ∧
    thread.Submits sampleEnv ⟨3⟩ sampleLookup sampleName submitted ∧ sampleLookup.family = .both ∧
    (∃ result ∈ submitted.resolver.results, result.key = ⟨3⟩ ∧
      result.publicOutcome.bind (·.status) = some .nameNotFound) ∧
    submitted.resolver.now sampleEnv < answer.expires := by
  obtain ⟨thread, reached, entries, available, suffixes, after⟩ :=
    sample_reached (Event.turn sampleEnv) sampleOvertaken
      (fun thread => thread.resolver.sampleEntries sampleEnv =
          (some ⟨.nameNotFound, 60000000005, 1, 5⟩, some ⟨.answer [.v6 1], 3600000000011, 4, 11⟩, 14) ∧
        thread.resolver.configAvailable = true ∧ thread.resolver.config.snapshot.searchSuffixes = [] ∧
        (thread.step sampleEnv (.command (.publicResolve ⟨3⟩ sampleLookup))).map (fun thread =>
          (thread.resolver.results.map (fun result => (result.key, result.publicOutcome.bind (·.status))),
            thread.resolver.now sampleEnv)) =
          some ([(⟨1⟩, some .nameNotFound), (⟨2⟩, some .answer), (⟨3⟩, some .nameNotFound)], 16)) (by decide +kernel)
  obtain ⟨submitted, step, facts⟩ := Option.map_eq_some_iff.mp after
  obtain ⟨results, isNow⟩ := Prod.mk.inj facts
  have reported : ((⟨3⟩, some .nameNotFound) : ResolveKey × Option ResolveStatus) ∈
      submitted.resolver.results.map (fun result => (result.key, result.publicOutcome.bind (·.status))) := by
    rw [results]
    decide
  obtain ⟨result, sent, isResult⟩ := List.mem_map.mp reported
  obtain ⟨isKey, denies⟩ := Prod.mk.inj isResult
  refine ⟨thread, submitted, _, _, reached, Resolver.sampleEntries_overtaken entries (by decide),
    ⟨step, available, by decide, ok_of_toOption (by decide +kernel), by rw [suffixes]; decide⟩, rfl,
    ⟨result, sent, isKey, denies⟩, ?_⟩
  rw [isNow]
  decide

end NbReq.Dns
