import NbReq.Dns.Course

/-!
# What the handlers do about a lookup

The functions of `native_dns.rs` that start a lookup or take an answer for it, read once. Each of them does some things
that touch no other lookup (`Prelude`: the key may be forgotten, the cache is read and written), and then sends the
result of the lookup or launches its next query (`Finishes`). Which query or result that is, the course of the lookup
says.
-/

namespace NbReq.Dns

/-! ## Failures -/

structure ResolveResult.Failed (result : ResolveResult) : Prop where
  session : result.session = none
  outcome : ∀ outcome ∈ result.publicOutcome, ∃ error, outcome = .failed error
  result : ∀ answer, result.result ≠ .ok answer

def PendingQuery.failed (failure : ResolveFailure) (query : PendingQuery) : ResolveResult :=
  match query.policy with
  | .http _ => .http query.key (.error failure)
  | .publicLookup _ => .ofPublic query.key (.failed (publicError failure))

section

variable {key : ResolveKey} {r : Resolver} {query : PendingQuery} {failure : ResolveFailure}

theorem http_failed : (ResolveResult.http key (.error failure)).Failed :=
  ⟨rfl, fun _ isNone => (by cases isNone), fun _ isOk => (by cases isOk)⟩

theorem public_failed {error : Error} : (ResolveResult.ofPublic key (.failed error)).Failed := by
  refine ⟨rfl, ?_, fun _ isOk => (by cases isOk)⟩
  rintro _ ⟨⟩
  exact ⟨error, rfl⟩

theorem failed_failed : (query.failed failure).Failed := by
  unfold PendingQuery.failed
  split
  · exact http_failed
  · exact public_failed

theorem failed_key : (query.failed failure).key = query.key := by
  unfold PendingQuery.failed
  split <;> rfl

theorem emitFailure_eq : r.emitFailure query failure = r.sendResult (query.failed failure) := by
  unfold Resolver.emitFailure Resolver.failLookup PendingQuery.failed
  cases query.policy <;> rfl

end

/-! ## Preludes -/

/-- The cache of the resolver holds what the step lets it hold. -/
structure Scene.Stocks (scene : Scene) (r : Resolver) : Prop where
  later : scene.now ≤ r.now scene.env
  family : ∀ key entry, r.cache.familyEntries.lookup key = some entry → scene.holds key entry
  http : ∀ name entry answer, r.cache.entries.lookup name = some entry → entry.value = .ok answer →
    ∀ address ∈ answer.addresses, scene.serves name address

/-- The resolver apart from the index of its lookups, the cache with its history, and the clock. -/
def Resolver.still (r : Resolver) : Resolver := { r with byKey := ∅, cache := .new, asked := 0, cacheEvents := [] }

/-- What may be done for a lookup before its result is sent or its next query is launched. -/
structure Prelude (scene : Scene) (key : ResolveKey) (r r' : Resolver) : Prop where
  still : r'.still = r.still
  byKey : r'.byKey = r.byKey ∨ r'.byKey = r.byKey.erase key
  advances : Advances scene.env r r'
  stocks : scene.Stocks r → scene.Stocks r'

/-- What is done for a lookup: its result is sent or its next query is launched, and nothing else happens to the
lookups. If the key of the lookup was `idle`, it is when the result is sent. -/
inductive Finishes (scene : Scene) (key : ResolveKey) (idle : Prop) (asks : PendingQuery → Prop)
    (ends : ResolveResult → Prop) (r : Resolver) : Resolver → Prop where
  | sent {middle : Resolver} {result : ResolveResult} (prelude : Prelude scene key r middle)
      (forgotten : idle → middle.byKey.lookup key = none) (isKey : result.key = key)
      (kind : result.Failed ∨ ends result) : Finishes scene key idle asks ends r (middle.sendResult result)
  | launched {middle : Resolver} {id : UInt16} {query : PendingQuery} (prelude : Prelude scene key r middle)
      (unused : middle.pending.lookup id = none) (isKey : query.key = key) (udp : query.transport = .udp)
      (isNew : asks query) : Finishes scene key idle asks ends r (middle.launch id query)

def Scene.any (env : Env) (now : Instant) : Scene :=
  ⟨⟨env, now⟩, fun _ _ => True, fun _ _ => True, fun _ _ => trivial, fun _ _ _ _ => trivial⟩

section

variable {scene : Scene} {key : ResolveKey} {id : UInt16} {r r' r'' : Resolver} {query : PendingQuery}
  {session : PublicSession} {name : Name} {recordType : RecordType} {idle idle' : Prop}
  {asks asks' : PendingQuery → Prop} {ends ends' : ResolveResult → Prop} {failure : ResolveFailure}
  {result : Except ResolveFailure ParsedAnswer}

/-- The new entries of the cache are such as the step lets it hold. -/
theorem Scene.Stocks.fills {newFamily : Name × RecordType → Cached CachedFamily → Prop}
    {newHttp : Name → Cached (Except ResolveFailure ResolveAnswer) → Prop} (stocks : scene.Stocks r)
    (asked : r.asked ≤ r'.asked) (family : Fills newFamily r.cache.familyEntries r'.cache.familyEntries)
    (http : Fills newHttp r.cache.entries r'.cache.entries)
    (holds : ∀ key entry, newFamily key entry → scene.holds key entry)
    (serves : ∀ name entry answer, newHttp name entry → entry.value = .ok answer →
      ∀ address ∈ answer.addresses, scene.serves name address) : scene.Stocks r' where
  later := stocks.later.trans (scene.env.clock_mono asked)
  family := by
    intro key entry found
    rcases family key entry found with ⟨own, isOwn, same⟩ | isNew
    · exact scene.same same (stocks.family key own isOwn)
    · exact holds key entry isNew
  http := by
    intro name entry answer found isAnswer
    rcases http name entry found with ⟨own, isOwn, same⟩ | isNew
    · exact stocks.http name own answer isOwn (same.1.symm.trans isAnswer)
    · exact serves name entry answer isNew isAnswer

theorem Scene.Stocks.wears (stocks : scene.Stocks r) (wears : r.cache.Wears r'.cache) (asked : r.asked ≤ r'.asked) :
    scene.Stocks r' :=
  stocks.fills asked wears.family.fills wears.http.fills (fun _ _ => False.elim) fun _ _ _ => False.elim

theorem Prelude.of_wears (still : r'.still = r.still) (byKey : r'.byKey = r.byKey ∨ r'.byKey = r.byKey.erase key)
    (wears : r.cache.Wears r'.cache) (events : r'.cacheEvents = r.cacheEvents) (asked : r.asked ≤ r'.asked) :
    Prelude scene key r r' :=
  ⟨still, byKey, .quiet wears.family events asked, fun stocks => stocks.wears wears asked⟩

theorem Prelude.refl : Prelude scene key r r := .of_wears rfl (.inl rfl) .refl rfl (Nat.le_refl _)

theorem Prelude.trans (first : Prelude scene key r r') (second : Prelude scene key r' r'') : Prelude scene key r r'' := by
  refine ⟨second.still.trans first.still, ?_, first.advances.trans second.advances, second.stocks ∘ first.stocks⟩
  rcases second.byKey with same | erased
  · rw [same]
    exact first.byKey
  rcases first.byKey with same | gone
  · exact .inr (by rw [erased, same])
  · have absent : (r.byKey.erase key).lookup key = none := AList.lookup_erase _ _
    exact .inr (by rw [erased, gone, AList.erase_of_lookup_none absent])

theorem Finishes.after (finishes : Finishes scene key idle' asks ends r' r'') (prelude : Prelude scene key r r')
    (idles : idle → idle') : Finishes scene key idle asks ends r r'' := by
  cases finishes with
  | sent rest forgotten isKey kind => exact .sent (prelude.trans rest) (forgotten ∘ idles) isKey kind
  | launched rest unused isKey udp isNew => exact .launched (prelude.trans rest) unused isKey udp isNew

theorem Finishes.mono (finishes : Finishes scene key idle asks ends r r')
    (asksToo : ∀ query, asks query → asks' query) (endsToo : ∀ result, ends result → ends' result) :
    Finishes scene key idle asks' ends' r r' := by
  cases finishes with
  | sent prelude forgotten isKey kind => exact .sent prelude forgotten isKey (kind.imp_right (endsToo _))
  | launched prelude unused isKey udp isNew => exact .launched prelude unused isKey udp (asksToo _ isNew)

theorem forgetKey_prelude : Prelude scene key r (r.forgetKey key) :=
  .of_wears rfl (.inr rfl) .refl rfl (Nat.le_refl _)

theorem asked_prelude {asked : Nat} (later : r.asked ≤ asked) : Prelude scene key r { r with asked } :=
  .of_wears rfl (.inl rfl) .refl rfl later

theorem failed_finishes :
    Finishes scene query.key idle asks ends r ((r.forgetKey query.key).emitFailure query failure) := by
  rw [emitFailure_eq]
  exact .sent forgetKey_prelude (fun _ => AList.lookup_erase _ _) failed_key (.inl failed_failed)

theorem requery_finishes {cnameHops : Nat} {policy : QueryPolicy}
    (isNew : ∀ new, Prepared query.key name recordType cnameHops policy ⟨query.subject, query.issued + 1⟩ new →
      asks new) :
    Finishes scene query.key idle asks ends r (requery scene.env query name recordType cnameHops policy r) := by
  unfold requery
  obtain ⟨asked, later, ⟨failure, prepared⟩ | ⟨id, next, prepared, allocated, isPrepared⟩⟩ :=
    prepareNameQuery_cases scene.env query.key name recordType cnameHops policy ⟨query.subject, query.issued + 1⟩ r
  · rw [prepared]
    exact failed_finishes.after (asked_prelude later) fun isIdle => isIdle
  · rw [prepared]
    exact .launched (asked_prelude later) (allocateIdWithRandom_unused allocated) isPrepared.isKey isPrepared.udp
      (isNew next isPrepared)

/-! ## What HTTP lookups are given -/

theorem minValidUntil_some {ipv4 ipv6 : Option FamilyOutcome} (valid : minValidUntil ipv4 ipv6 ≠ none) :
    (∀ outcome ∈ ipv4, outcome.validUntil ≠ none) ∧ ∀ outcome ∈ ipv6, outcome.validUntil ≠ none := by
  refine ⟨?_, ?_⟩
  all_goals
    rintro outcome ⟨⟩ isNone
    simp only [minValidUntil, Option.bind_some, isNone] at valid
    split at valid <;> simp at *

theorem mem_answeredAddresses {outcome : Option FamilyOutcome} {address : IpAddr}
    (mem : address ∈ answeredAddresses outcome) : ∃ said, outcome = some said ∧ address ∈ said.addresses := by
  unfold answeredAddresses at mem
  cases outcome with
  | none => cases mem
  | some said =>
    refine ⟨said, rfl, ?_⟩
    rw [Option.filter_some] at mem
    split at mem
    · exact mem
    · cases mem

theorem mem_combineBoth {address : IpAddr} (mem : address ∈ (combineBoth session).2.1) :
    address ∈ answeredAddresses session.ipv4 ∨ address ∈ answeredAddresses session.ipv6 := by
  have cut : ∀ ipv4 ipv6, address ∈ orderBoth session.order (truncateBoth session.order session.maxResults ipv4 ipv6).1
      (truncateBoth session.order session.maxResults ipv4 ipv6).2 → address ∈ ipv4 ∨ address ∈ ipv6 := by
    intro ipv4 ipv6 isCut
    unfold orderBoth truncateBoth at isCut
    split at isCut <;> rcases List.mem_append.mp isCut with first | second
    all_goals (repeat' split at *)
    all_goals first
      | exact .inl (List.mem_of_mem_take ‹_›)
      | exact .inr (List.mem_of_mem_take ‹_›)
      | exact .inl ‹_›
      | exact .inr ‹_›
  unfold combineBoth at mem
  split at mem
  · cases mem
  dsimp only at mem
  split at mem
  · cases mem
  · exact cut _ _ mem

/-- What publishing a completed candidate under a name leaves in the cache. -/
structure Published (name : Name) (session : PublicSession) (cache cache' : DnsCache) : Prop where
  family : Worn cache.familyEntries cache'.familyEntries
  http : Fills (fun other entry => other = name ∧ ∀ answer, entry.value = .ok answer →
    ∀ address ∈ answer.addresses, session.Publishes address) cache.entries cache'.entries

variable {cache : DnsCache} {latest now : Instant}

theorem removeHttp_published : Published name session cache (cache.removeHttp name) :=
  ⟨.refl, worn_erase.fills⟩

theorem publishWhileValid_published {validUntil : Option Instant}
    {said : Duration → Except ResolveFailure ResolveAnswer} {maximumTtl : Duration}
    (publishes : validUntil ≠ none → ∀ ttl answer, said ttl = .ok answer →
      ∀ address ∈ answer.addresses, session.Publishes address) :
    Published name session cache (publishWhileValid cache latest name validUntil said maximumTtl now) := by
  unfold publishWhileValid
  split
  · exact removeHttp_published
  rename_i ttl remains
  obtain ⟨worn, entries⟩ := cache.insert_entries latest name (said ttl) ttl maximumTtl now
  refine ⟨worn, fun other entry found => (entries other entry found).imp_right ?_⟩
  rintro ⟨isName, isValue⟩
  refine ⟨isName, fun answer isAnswer => publishes ?_ ttl answer (isValue.symm.trans isAnswer)⟩
  rintro rfl
  cases remains

theorem publishHttpView_published :
    Published name session cache (publishHttpView cache latest name session now) := by
  have failure : ∀ (validUntil : Option Instant) (failure : ResolveFailure), validUntil ≠ none → ∀ (_ : Duration)
      (answer : ResolveAnswer), Except.error failure = .ok answer → ∀ address ∈ answer.addresses,
      session.Publishes address := by
    intro _ _ _ _ _ isOk
    cases isOk
  unfold publishHttpView
  split
  · exact ⟨.refl, Worn.refl.fills⟩
  · rename_i family
    split
    · rename_i outcome isOutcome
      unfold publishHttpFamily
      split
      · exact removeHttp_published
      · refine publishWhileValid_published ?_
        rintro valid ttl _ ⟨⟩ address mem
        have own : ∀ recordType said, session.family.wants recordType = true → session.outcome recordType = some said →
            said = outcome := by
          intro recordType said wanted isSaid
          rw [family] at wanted
          cases recordType with
          | a => exact Option.some.inj (isSaid.symm.trans isOutcome)
          | aaaa => cases wanted
        refine ⟨fun recordType said wanted isSaid => ?_, .a, outcome, by rw [family]; rfl, isOutcome, mem⟩
        rw [own recordType said wanted isSaid]
        exact valid
      · exact publishWhileValid_published (failure _ _)
    · exact removeHttp_published
  · rename_i family
    have wanted : ∀ recordType, session.family.wants recordType = true := fun _ => by rw [family]; rfl
    dsimp only
    split
    · refine publishWhileValid_published ?_
      rintro valid ttl _ ⟨⟩ address mem
      have together : (combineBoth session).2.2 = minValidUntil session.ipv4 session.ipv6 := by
        unfold combineBoth
        split
        · rfl
        · dsimp only
          split <;> rfl
      rw [together] at valid
      obtain ⟨valid4, valid6⟩ := minValidUntil_some valid
      refine ⟨fun recordType said _ isSaid => ?_, ?_⟩
      · cases recordType with
        | a => exact valid4 said isSaid
        | aaaa => exact valid6 said isSaid
      have either : address ∈ answeredAddresses session.ipv4 ∨ address ∈ answeredAddresses session.ipv6 →
          ∃ recordType outcome, session.family.wants recordType = true ∧
            session.outcome recordType = some outcome ∧ address ∈ outcome.addresses := by
        rintro (first | second)
        · obtain ⟨said, isSaid, isAddress⟩ := mem_answeredAddresses first
          exact ⟨.a, said, wanted _, isSaid, isAddress⟩
        · obtain ⟨said, isSaid, isAddress⟩ := mem_answeredAddresses second
          exact ⟨.aaaa, said, wanted _, isSaid, isAddress⟩
      unfold httpAddresses at mem
      split at mem
      · rename_i outcome isOutcome
        split at mem
        · exact ⟨.a, outcome, wanted _, isOutcome, mem⟩
        · exact either (mem_combineBoth mem)
      · exact either (mem_combineBoth mem)
    · exact publishWhileValid_published (failure _ _)
    · exact publishWhileValid_published (failure _ _)

theorem publishUnlessBypass_prelude (serves : ∀ address, session.Publishes address → scene.serves name address) :
    Prelude scene key r (r.publishUnlessBypass scene.env name session) := by
  unfold Resolver.publishUnlessBypass
  split
  · exact .refl
  obtain ⟨family, http⟩ : Published name session r.cache
      (publishHttpView r.cache scene.env.latest name session (r.now scene.env)) := publishHttpView_published
  refine ⟨rfl, .inl rfl, .quiet family rfl (Nat.le_succ _), fun stocks => ?_⟩
  refine stocks.fills (Nat.le_succ _) family.fills http (fun _ _ => False.elim) ?_
  rintro _ entry answer ⟨rfl, publishes⟩ isAnswer address mem
  exact serves address (publishes answer isAnswer address mem)

/-! ## Candidates -/

theorem consultCache_consulted (name : Name) (session : PublicSession) (stocks : scene.Stocks r) :
    Consulted scene name session.cleared (consultCache scene.env name session.cleared r).1 ∧
      Prelude scene key r (consultCache scene.env name session.cleared r).2 := by
  have advances : Advances scene.env r (consultCache scene.env name session.cleared r).2 := consultCache_advances
  unfold consultCache at advances ⊢
  split
  · rename_i mode
    rw [if_pos mode] at advances
    obtain ⟨worn, ipv4, ipv6, read4, read6, isFound⟩ :=
      takeFamilies_entries name (r.now scene.env) session.cleared r.cache
    have readable : ∀ key entry, r.cache.Holds session.cleared.family key (r.now scene.env) entry →
        scene.Readable session.cleared.family key entry := by
      rintro key entry ⟨wanted, own, isOwn, same, valid⟩
      exact ⟨wanted, scene.same same (stocks.family key own isOwn), stocks.later.trans_lt valid⟩
    refine ⟨?_, rfl, .inl rfl, advances, fun stocks => stocks.wears worn (Nat.le_succ _)⟩
    unfold readCachedFamilies
    dsimp only
    rw [isFound]
    exact .read mode (fun entry isRead => readable _ entry (read4 entry isRead))
      fun entry isRead => readable _ entry (read6 entry isRead)
  · rename_i mode
    exact ⟨.unread mode, .refl⟩

/-- The next candidate of a session is started as it should be. -/
def Leads (scene : Scene) (key : ResolveKey) (next : Option (Bytes × (PublicSession → Resolver → Resolver)))
    (session : PublicSession) : Prop :=
  match next with
  | none => session.following = none
  | some (candidate, start) =>
    session.following = some candidate ∧
      ∀ later r, later.candidates = session.candidates → later.candidateIndex = session.candidateIndex + 1 →
        scene.Stocks r → Finishes scene key (r.byKey.lookup key = none) (AsksNext key (Begins scene later))
          (EndsNow key (Begins scene later)) r (start later r)

variable {next : Option (Bytes × (PublicSession → Resolver → Resolver))} {asker : Option PendingQuery}

theorem afterCandidateFamiliesComplete_finishes (leads : Leads scene key next session)
    (serves : ∀ address, session.Publishes address → scene.serves name address)
    (own : ∀ query ∈ asker, query.key = key) (stocks : scene.Stocks r) :
    Finishes scene key (asker = none → r.byKey.lookup key = none) (AsksNext key (Completes scene session))
      (EndsNow key (Completes scene session)) r
      (afterCandidateFamiliesComplete scene.env key asker session name next r) := by
  unfold afterCandidateFamiliesComplete
  dsimp only
  have published : Prelude scene key r (r.publishUnlessBypass scene.env name session) :=
    publishUnlessBypass_prelude serves
  have sameKeys : (r.publishUnlessBypass scene.env name session).byKey = r.byKey := by
    unfold Resolver.publishUnlessBypass
    split <;> rfl
  generalize r.publishUnlessBypass scene.env name session = middle at published sameKeys
  have prelude : Prelude scene key r (middle.forgetQuery asker) := by
    cases asker with
    | none => exact published
    | some query =>
      have isKey := own query rfl
      subst isKey
      exact published.trans forgetKey_prelude
  have forgotten : (asker = none → r.byKey.lookup key = none) → (middle.forgetQuery asker).byKey.lookup key = none := by
    intro isIdle
    cases asker with
    | none =>
      show middle.byKey.lookup key = none
      rw [sameKeys]
      exact isIdle rfl
    | some query =>
      rw [← own query rfl]
      exact AList.lookup_erase _ _
  split
  · rename_i answer
    exact .sent prelude forgotten rfl (.inr ⟨session, .answered answer, rfl⟩)
  rename_i noAnswer
  split
  · rename_i candidate start
    obtain ⟨more, starts⟩ := leads
    refine .mono (.after (starts (session.next candidate) _ rfl rfl (prelude.stocks stocks)) prelude forgotten) ?_ ?_
    · rintro query ⟨later, name, recordType, begins, prepared⟩
      exact ⟨later, name, recordType, .of_begins noAnswer more begins, prepared⟩
    · rintro result ⟨later, begins, isResult⟩
      exact ⟨later, .of_begins noAnswer more begins, isResult⟩
  · exact .sent prelude forgotten rfl (.inr ⟨session.negative, .exhausted noAnswer leads, rfl⟩)

theorem startCandidate_finishes (leads : ∀ read : PublicSession, read.candidates = session.candidates →
      read.candidateIndex = session.candidateIndex → Leads scene key next read) (stocks : scene.Stocks r) :
    Finishes scene key (r.byKey.lookup key = none) (AsksNext key (Begins scene session))
      (EndsNow key (Begins scene session)) r (startCandidate scene.env key next session r) := by
  unfold startCandidate
  dsimp only
  split
  · exact .sent .refl (fun isIdle => isIdle) rfl (.inl public_failed)
  rename_i name isName
  have sameKeys : (consultCache scene.env name session.cleared r).2.byKey = r.byKey := by
    unfold consultCache
    split <;> rfl
  obtain ⟨consulted, prelude⟩ := @consultCache_consulted scene key r name session stocks
  generalize consultCache scene.env name session.cleared r = taken at consulted prelude sameKeys
  obtain ⟨read, middle⟩ := taken
  dsimp only at consulted sameKeys ⊢
  split
  · rename_i known
    obtain ⟨ipv4, ipv6, heard, isRead⟩ := consulted.fields
    have leads := leads read (by rw [isRead]; rfl) (by rw [isRead]; rfl)
    have finishes : Finishes scene key ((none : Option PendingQuery) = none → middle.byKey.lookup key = none)
        (AsksNext key (Completes scene read)) (EndsNow key (Completes scene read)) middle
        (afterCandidateFamiliesComplete scene.env key none read name next middle) :=
      afterCandidateFamiliesComplete_finishes leads (fun _ => consulted.served)
        (fun _ isSome => absurd isSome (Option.not_mem_none _)) (prelude.stocks stocks)
    refine .mono (.after finishes prelude fun isIdle _ => by rw [sameKeys]; exact isIdle) ?_ ?_
    · rintro query ⟨later, asked, recordType, completes, prepared⟩
      exact ⟨later, asked, recordType, .known isName consulted known completes, prepared⟩
    · rintro result ⟨later, completes, isResult⟩
      exact ⟨later, .known isName consulted known completes, isResult⟩
  · rename_i recordType needs
    obtain ⟨asked, later, ⟨failure, prepared⟩ | ⟨id, query, prepared, allocated, isPrepared⟩⟩ :=
      prepareNameQuery_cases scene.env key name recordType 0 (.publicLookup read.uncached) ⟨name, read.issued + 1⟩
        middle
    · rw [prepared]
      refine .sent (prelude.trans (asked_prelude later)) (fun isIdle => ?_) rfl (.inl public_failed)
      show middle.byKey.lookup key = none
      rw [sameKeys]
      exact isIdle
    · rw [prepared]
      have issued : read.uncached.issued = read.issued := by
        unfold PublicSession.uncached
        split <;> rfl
      refine .launched (prelude.trans (asked_prelude later)) (allocateIdWithRandom_unused allocated) isPrepared.isKey
        isPrepared.udp ⟨read.uncached, name, recordType, .asks isName consulted needs, ?_⟩
      rw [issued]
      exact isPrepared

def nextOf (env : Env) (key : ResolveKey) : List Bytes → Option (Bytes × (PublicSession → Resolver → Resolver))
  | [] => none
  | next :: rest => some (next, startCurrentCandidate env key rest)

theorem startCurrentCandidate_eq {env : Env} (later : List Bytes) :
    startCurrentCandidate env key later = startCandidate env key (nextOf env key later) := by
  cases later <;> rfl

theorem nextOf_leads (later : List Bytes) :
    ∀ session : PublicSession, session.candidates.drop (session.candidateIndex + 1) = later →
      Leads scene key (nextOf scene.env key later) session := by
  -- by induction on the candidates that are left: a candidate that the cache answers starts the next one
  induction later with
  | nil =>
    intro session isLater
    exact List.getElem?_eq_none (List.drop_eq_nil_iff.mp isLater)
  | cons next rest ih =>
    intro session isLater
    refine ⟨?_, ?_⟩
    · show session.candidates[session.candidateIndex + 1]? = some next
      rw [← List.head?_drop, isLater]
      rfl
    · intro after r sameCandidates nextIndex stocks
      rw [startCurrentCandidate_eq]
      refine startCandidate_finishes (fun read candidates index => ih read ?_) stocks
      rw [candidates, index, sameCandidates, nextIndex, ← List.drop_drop, isLater]
      rfl

theorem nextCandidate_leads : Leads scene key (nextCandidate scene.env key session) session := by
  have isNext : nextCandidate scene.env key session =
      nextOf scene.env key (session.candidates.drop (session.candidateIndex + 1)) := by
    unfold nextCandidate
    cases session.candidates.drop (session.candidateIndex + 1) <;> rfl
  rw [isNext]
  exact nextOf_leads _ session rfl

/-! ## Answers -/

/-- The step is the one of an answer to the query: what the answer puts into the cache is held, and what a lookup
publishes once it was told the answer is served. -/
structure Scene.Answered (scene : Scene) (query : PendingQuery) (result : Except ResolveFailure ParsedAnswer) : Prop where
  stores : ∀ recordType (entry : Cached CachedFamily), Stores query result recordType entry.value →
    entry.stored = scene.now → scene.holds (query.host, recordType) entry
  publishes : ∀ session told address, query.policy = .publicLookup session → Told scene.toMoment query session result told →
    told.Publishes address → scene.serves query.host address

theorem any_stocks {env : Env} : (Scene.any env (r.now env)).Stocks r :=
  ⟨Nat.le_refl _, fun _ _ _ => trivial, fun _ _ _ _ _ _ _ => trivial⟩

theorem any_answered {env : Env} {now : Instant} : (Scene.any env now).Answered query result :=
  ⟨fun _ _ _ _ => trivial, fun _ _ _ _ _ _ => trivial⟩

theorem Scene.Stocks.later_asked (stocks : scene.Stocks r) (cache : r'.cache = r.cache) (asked : r.asked ≤ r'.asked) :
    scene.Stocks r' :=
  stocks.wears (by rw [cache]; exact .refl) asked

theorem Scene.Stocks.storeFamilies {record : CachedFamily} {ttl maximumTtl : Duration} (families : List RecordType)
    (stocks : scene.Stocks r)
    (holds : ∀ recordType ∈ families, ∀ entry : Cached CachedFamily, entry.value = record → entry.stored = now →
      scene.holds (name, recordType) entry) :
    scene.Stocks { r with cache := r.cache.insertFamilies latest name record ttl maximumTtl now families } := by
  induction families generalizing r with
  | nil => exact stocks
  | cons first rest ih =>
    obtain ⟨worn, entries⟩ := r.cache.insertFamily_entries latest name first record ttl maximumTtl now
    have stored : scene.Stocks
        { r with cache := (r.cache.insertFamily latest name first record ttl maximumTtl now).1 } := by
      refine stocks.fills (Nat.le_refl _) entries worn.fills ?_ fun _ _ _ => False.elim
      rintro _ entry ⟨rfl, isValue, isNow⟩
      exact holds first List.mem_cons_self entry isValue isNow
    exact ih stored fun recordType mem => holds recordType (List.mem_cons_of_mem _ mem)

theorem Scene.Stocks.storeHttp {said : Except ResolveFailure ResolveAnswer} {ttl maximumTtl : Duration}
    (stocks : scene.Stocks r) (serves : ∀ answer, said = .ok answer → ∀ address ∈ answer.addresses,
      scene.serves name address) : scene.Stocks { r with cache := r.cache.insert latest name said ttl maximumTtl now } := by
  obtain ⟨worn, entries⟩ := r.cache.insert_entries latest name said ttl maximumTtl now
  refine stocks.fills (Nat.le_refl _) worn.fills entries (fun _ _ => False.elim) ?_
  rintro _ entry answer ⟨rfl, isValue⟩ isAnswer
  exact serves answer (isValue.symm.trans isAnswer)

theorem mem_families (recordType : RecordType) : recordType ∈ [RecordType.a, .aaaa] := by cases recordType <;> simp

variable {ttl : Option Duration} {maximumTtl : Duration}

/-- An answer that has no TTL to be stored under. -/
theorem lost_prelude (none : storedTtl query ttl = none) :
    Prelude scene key r (r.noteExchange scene.env query (r.keeps scene.env query ttl maximumTtl)) := by
  refine ⟨rfl, .inl rfl, Learned.advances ⟨rfl, Nat.le_refl _, DnsCache.Fades.ages .refl, fun kept => ?_⟩,
    fun stocks => stocks.later_asked rfl (Nat.le_refl _)⟩
  obtain ⟨duration, some, -⟩ := keeps_stores kept
  cases none.symm.trans some

/-- An answer that goes into the cache, for its family or for both. -/
theorem stored_prelude {duration : Duration} {base : DnsCache} {record : CachedFamily} {families : List RecordType}
    (some : storedTtl query ttl = some duration) (own : query.recordType ∈ families) (fades : r.cache.Fades base)
    (stocksBase : scene.Stocks r → scene.Stocks { r with cache := base })
    (holds : ∀ recordType ∈ families, ∀ entry : Cached CachedFamily, entry.value = record →
      entry.stored = r.now scene.env → scene.holds (query.host, recordType) entry)
    (still : r'.still = r.still) (byKey : r'.byKey = r.byKey ∨ r'.byKey = r.byKey.erase key)
    (events : r'.cacheEvents = (r.noteExchange scene.env query (r.keeps scene.env query ttl maximumTtl)).cacheEvents)
    (asked : r.asked ≤ r'.asked)
    (cache : r'.cache =
      base.insertFamilies scene.env.latest query.host record duration maximumTtl (r.now scene.env) families) :
    Prelude scene key r r' := by
  obtain ⟨ages, renewed⟩ := @DnsCache.insertFamilies_stores query.host scene.env.latest (r.now scene.env) record duration
    maximumTtl families base
  rw [← cache] at ages renewed
  refine ⟨still, byKey, Learned.advances ⟨events, asked, fades.ages.trans ages, fun kept => ?_⟩,
    fun stocks => ((stocksBase stocks).storeFamilies families holds).later_asked cache asked⟩
  obtain ⟨duration', some', nonzero, representable⟩ := keeps_stores kept
  cases some.symm.trans some'
  exact renewed nonzero representable _ own

theorem recordPublicFamily_told {status : ResolveStatus} {addresses : List IpAddr} {update : PublicFamilyUpdate}
    (isUpdate : update = ⟨query.recordType, status, addresses, ttl, query.cnameHops == 0⟩)
    (limit : maximumTtl = update.maximumTtl) (isNow : r.now scene.env = scene.now)
    (holds : query.cnameHops = 0 → ∀ entry : Cached CachedFamily, entry.value = update.cached →
      entry.stored = scene.now → scene.holds (query.host, query.recordType) entry) :
    Prelude scene query.key r (recordPublicFamily scene.env session update query.host
        (noteUnlessBypass scene.env query session ttl maximumTtl r)).2 ∧
      (recordPublicFamily scene.env session update query.host
        (noteUnlessBypass scene.env query session ttl maximumTtl r)).1 =
        session.withOutcome query.recordType
          ⟨status, addresses, scene.expires query session ttl maximumTtl, none⟩ := by
  subst isUpdate limit
  unfold recordPublicFamily noteUnlessBypass Moment.expires
  by_cases bypass : session.cacheMode = .bypass
  · simp only [bypass, bne_self_eq_false, Bool.and_false, Bool.false_eq_true, if_false, if_true]
    exact ⟨.refl, rfl⟩
  have goes : (session.cacheMode != .bypass) = true := by simpa using bypass
  simp only [if_neg bypass, goes, Bool.and_true, beq_iff_eq]
  split
  · rename_i none
    refine ⟨lost_prelude none, ?_⟩
    rw [none]
    rfl
  rename_i duration some
  have direct : query.cnameHops = 0 := by
    by_contra indirect
    rw [if_neg indirect] at some
    cases some
  refine ⟨stored_prelude some (List.mem_singleton_self _) .refl id (fun _ mem entry isValue stored => ?_) rfl (.inl rfl)
    rfl (Nat.le_succ _) rfl, ?_⟩
  · rw [List.mem_singleton.mp mem]
    exact holds direct entry isValue (stored.trans isNow)
  · rw [some, Option.bind_some, ← isNow, ← DnsCache.insertFamily_expires]
    rfl

theorem storeNameNotFound_told (isNow : r.now scene.env = scene.now)
    (holds : ∀ recordType (entry : Cached CachedFamily), entry.value = .nameNotFound → entry.stored = scene.now →
      scene.holds (query.host, recordType) entry) :
    Prelude scene query.key r (storeNameNotFound scene.env query session ttl
        (noteUnlessBypass scene.env query session ttl maxNegativeCacheTtl r)).1 ∧
      (storeNameNotFound scene.env query session ttl
        (noteUnlessBypass scene.env query session ttl maxNegativeCacheTtl r)).2 =
        scene.expires query session ttl maxNegativeCacheTtl := by
  unfold storeNameNotFound noteUnlessBypass Moment.expires
  by_cases bypass : session.cacheMode = .bypass
  · simp only [bypass, bne_self_eq_false, Bool.and_false, Bool.false_eq_true, if_false, if_true]
    exact ⟨.refl, rfl⟩
  have goes : (session.cacheMode != .bypass) = true := by simpa using bypass
  simp only [if_neg bypass, goes, Bool.and_true, beq_iff_eq]
  split
  · rename_i none
    refine ⟨lost_prelude none, ?_⟩
    rw [none]
    rfl
  rename_i duration some
  refine ⟨stored_prelude some (mem_families _) .refl id (fun recordType _ entry isValue stored => ?_) rfl (.inl rfl) rfl
    (Nat.le_succ _) rfl, ?_⟩
  · exact holds recordType entry isValue (stored.trans isNow)
  · rw [some, Option.bind_some, ← isNow]
    dsimp only [Resolver.storeFamily]
    rw [DnsCache.insertFamily_expires, DnsCache.insertFamily_expires]
    have once : ∀ expires : Option Instant, (expires <|> expires) = expires := by
      intro expires
      cases expires <;> rfl
    exact once _

/-- What follows once a public lookup has been told something and knows its candidate. -/
theorem told_finishes {told : PublicSession} (isPublic : query.policy = .publicLookup session)
    (isTold : Told scene.toMoment query session result told) (known : told.needs = none) (answered : scene.Answered query result)
    (stocks : scene.Stocks r) :
    Finishes scene query.key True (Continues scene query result) (Ends scene query result) r
      (afterCandidateFamiliesComplete scene.env query.key (some query) told query.host
        (nextCandidate scene.env query.key told) r) := by
  have finishes := @afterCandidateFamiliesComplete_finishes scene query.key r told query.host _ (some query)
    nextCandidate_leads (answered.publishes session told · isPublic isTold) (fun _ isQuery => by cases isQuery; rfl) stocks
  refine .mono (.after finishes .refl fun _ => nofun) ?_ ?_
  · exact fun _ next => .candidate isPublic isTold known next
  · exact fun _ ends => .completed isPublic isTold known ends

theorem continueOrCompletePublic_finishes {told : PublicSession} (isPublic : query.policy = .publicLookup session)
    (isTold : Told scene.toMoment query session result told) (answered : scene.Answered query result) (stocks : scene.Stocks r) :
    Finishes scene query.key True (Continues scene query result) (Ends scene query result) r
      (continueOrCompletePublic scene.env query told r) := by
  unfold continueOrCompletePublic
  split
  · rename_i recordType needs
    exact requery_finishes fun new prepared => .family isPublic isTold needs prepared
  · rename_i known
    exact told_finishes isPublic isTold known answered stocks

theorem finishPublicAnswer_finishes (isPublic : query.policy = .publicLookup session)
    (answered : scene.Answered query result) (isNow : r.now scene.env = scene.now) (stocks : scene.Stocks r) :
    Finishes scene query.key True (Continues scene query result) (Ends scene query result) r
      (finishPublicAnswer scene.env query session result r) := by
  unfold finishPublicAnswer
  split
  · exact requery_finishes fun _ prepared => .followed prepared
  · exact failed_finishes
  · exact failed_finishes
  · rename_i answer
    obtain ⟨recorded, isTold⟩ := @recordPublicFamily_told scene r query session (some answer.ttl)
      maxPositiveCacheTtl .answer answer.addresses _ rfl (if_pos rfl).symm isNow fun direct entry isValue =>
        answered.stores _ entry (isValue ▸ .answer direct)
    dsimp only
    rw [isTold]
    exact .after (continueOrCompletePublic_finishes isPublic .answer answered (recorded.stocks stocks)) recorded id
  · rename_i negativeTtl
    obtain ⟨recorded, isTold⟩ := @recordPublicFamily_told scene r query session negativeTtl
      maxNegativeCacheTtl .noData [] _ rfl (if_neg fun isAnswer => ResolveStatus.noConfusion isAnswer).symm isNow fun _ entry isValue =>
        answered.stores _ entry (isValue ▸ .noRecords)
    dsimp only
    rw [isTold]
    exact .after (continueOrCompletePublic_finishes isPublic .noRecords answered (recorded.stocks stocks)) recorded id
  · rename_i failure negativeTtl
    obtain ⟨stored, isUntil⟩ := @storeNameNotFound_told scene r query session negativeTtl isNow
      fun recordType entry isValue => answered.stores recordType entry (isValue ▸ .negative)
    dsimp only
    rw [isUntil]
    exact .after (told_finishes isPublic .negative notFound_needs answered (stored.stocks stocks)) stored id

/-- What is done before an HTTP lookup is settled or asks again: its key is forgotten if it is settled. -/
theorem finishHttpAnswer_finishes {retry : RetryPolicy} (isHttp : query.policy = .http retry)
    (answered : scene.Answered query result) (isNow : r.now scene.env = scene.now) :
    Finishes scene query.key True (Continues scene query result) (Ends scene query result) r
      (finishHttpAnswer scene.env query result r) := by
  have forgotten : True → (r.byKey.erase query.key).lookup query.key = none := fun _ => AList.lookup_erase _ _
  have noData : ∀ ttl, result = .ok (.noRecords ttl) → ∀ recordType ∈ [query.recordType], ∀ entry : Cached CachedFamily,
      entry.value = .noData → entry.stored = r.now scene.env → scene.holds (query.host, recordType) entry := by
    rintro ttl rfl recordType mem entry isValue stored
    rw [List.mem_singleton.mp mem]
    exact answered.stores _ entry (isValue ▸ .noRecords) (stored.trans isNow)
  unfold finishHttpAnswer
  split
  · rename_i answer
    dsimp only
    split
    · rename_i direct
      have holds : ∀ recordType ∈ [query.recordType], ∀ entry : Cached CachedFamily,
          entry.value = .answer answer.addresses → entry.stored = r.now scene.env →
            scene.holds (query.host, recordType) entry := by
        intro recordType mem entry isValue stored
        rw [List.mem_singleton.mp mem]
        exact answered.stores _ entry (isValue ▸ .answer direct) (stored.trans isNow)
      refine .sent (stored_prelude (if_pos direct) (List.mem_singleton_self _) (DnsCache.insert_entries ..).1
        (fun stocks => stocks.storeHttp ?_) holds rfl (.inr rfl) rfl (Nat.le_succ _) rfl) forgotten rfl
        (.inr (.http isHttp rfl rfl))
      rintro _ ⟨⟩
      exact scene.reads (holds _ (List.mem_singleton_self _) ⟨.answer answer.addresses, 0, 0, _⟩ rfl rfl) rfl
    · rename_i indirect
      exact .sent ((lost_prelude (if_neg indirect)).trans forgetKey_prelude) forgotten rfl
        (.inr (.http isHttp rfl rfl))
  · exact requery_finishes fun _ prepared => .followed prepared
  · rename_i negativeTtl
    dsimp only
    split
    · rename_i isA
      have again : ∀ middle, Prelude scene query.key r middle → Finishes scene query.key True
          (Continues scene query (.ok (.noRecords negativeTtl))) (Ends scene query (.ok (.noRecords negativeTtl))) r
          (requery scene.env query query.host .aaaa query.cnameHops query.policy middle) :=
        fun middle prelude => .after (requery_finishes fun new prepared => .httpFamily isHttp isA prepared) prelude id
      split
      · rename_i none
        exact again _ (lost_prelude none)
      rename_i duration some
      exact again _ (stored_prelude some (List.mem_singleton_self _) .refl id (noData negativeTtl rfl) rfl (.inl rfl) rfl
        (Nat.le_succ _) (by rw [isA]; rfl))
    · split
      · rename_i none
        exact .sent ((lost_prelude none).trans forgetKey_prelude) forgotten rfl (.inl http_failed)
      · rename_i duration some
        exact .sent (stored_prelude some (List.mem_singleton_self _) (DnsCache.insert_entries ..).1
          (fun stocks => stocks.storeHttp fun _ isOk => by cases isOk) (noData negativeTtl rfl) rfl (.inr rfl) rfl
          (Nat.le_succ _) rfl) forgotten rfl (.inl http_failed)
  · rename_i failure negativeTtl
    dsimp only
    split
    · rename_i none
      exact .sent ((lost_prelude none).trans forgetKey_prelude) forgotten rfl (.inl http_failed)
    rename_i duration some
    refine .sent (stored_prelude some (mem_families _) (DnsCache.insert_entries ..).1
      (fun stocks => stocks.storeHttp fun _ isOk => by cases isOk) (fun _ _ entry isValue stored => ?_) rfl (.inr rfl) rfl
      (Nat.le_succ _) rfl) forgotten rfl (.inl http_failed)
    exact answered.stores _ entry (isValue ▸ .negative) (stored.trans isNow)
  · exact failed_finishes
  · exact failed_finishes

/-- An answer takes the lookup of a query to its next query or settles it. -/
theorem finishAnswer_finishes (answered : scene.Answered query result) (isNow : r.now scene.env = scene.now)
    (stocks : scene.Stocks r) :
    Finishes scene query.key True (Continues scene query result) (Ends scene query result) r
      (finishAnswer scene.env query result r) := by
  unfold finishAnswer
  split
  · rename_i isPublic
    exact finishPublicAnswer_finishes isPublic answered isNow stocks
  · rename_i isHttp
    exact finishHttpAnswer_finishes isHttp answered isNow

/-! ## Commands -/

def AsksHost (key : ResolveKey) (host : Bytes) (retry : RetryPolicy) (query : PendingQuery) : Prop :=
  ∃ name, parseDnsName host = .ok name ∧ Prepared key name .a 0 (.http retry) ⟨name, 1⟩ query

def EndsHost (scene : Scene) (key : ResolveKey) (host : Bytes) (result : ResolveResult) : Prop :=
  ∃ name answer, parseDnsName host = .ok name ∧ result = .http key (.ok answer) ∧
    ∀ address ∈ answer.addresses, scene.serves name address

theorem resolveHost_finishes {host : Bytes} (stocks : scene.Stocks r) :
    Finishes scene key (r.byKey.lookup key = none) (AsksHost key host r.config.retry) (EndsHost scene key host) r
      (r.resolveHost scene.env key host) := by
  unfold Resolver.resolveHost
  split
  · exact .sent .refl id rfl (.inl http_failed)
  split
  · exact .sent .refl id rfl (.inl http_failed)
  rename_i name isName
  obtain ⟨worn, reads⟩ := r.cache.get_entry name (r.now scene.env)
  split
  · rename_i cache value got
    rw [got] at worn reads
    obtain ⟨entry, found, rfl⟩ := reads value rfl
    refine .sent (.of_wears rfl (.inl rfl) worn rfl (Nat.le_succ _)) id rfl ?_
    cases isValue : entry.value with
    | error failure => exact .inl http_failed
    | ok answer => exact .inr ⟨name, answer, isName, rfl, stocks.http name entry answer found isValue⟩
  · rename_i cache got
    rw [got] at worn
    obtain ⟨asked, later, ⟨failure, prepared⟩ | ⟨id, query, prepared, allocated, isPrepared⟩⟩ :=
      prepareNameQuery_cases scene.env key name .a 0 (.http r.config.retry) ⟨name, 1⟩ { r.tick with cache }
    all_goals
      have prelude : Prelude scene key r { r.tick with cache, asked } :=
        .of_wears rfl (.inl rfl) worn rfl ((Nat.le_succ _).trans later)
      rw [prepared]
    · exact .sent prelude (fun isIdle => isIdle) rfl (.inl http_failed)
    · exact .launched prelude (allocateIdWithRandom_unused allocated) isPrepared.isKey isPrepared.udp
        ⟨name, isName, isPrepared⟩

/-- The session is the one that a public lookup starts with. -/
def Requested (requests : List (ResolveKey × PublicResolveSpec × List Bytes)) (retry : RetryPolicy) (key : ResolveKey)
    (session : PublicSession) : Prop :=
  ∃ spec searchSuffixes first later, (key, spec, searchSuffixes) ∈ requests ∧
    publicSearchCandidates spec.host spec.expandSearch searchSuffixes = first :: later ∧
    session = .new spec (first :: later) first retry

def Starts (scene : Scene) (requests : List (ResolveKey × PublicResolveSpec × List Bytes)) (retry : RetryPolicy)
    (key : ResolveKey) (onward : Onward) : Prop :=
  ∃ session, Requested requests retry key session ∧ Begins scene session onward

/-- What an accepted public lookup does, once the history has it. -/
theorem beginPublicResolve_finishes {spec : PublicResolveSpec} {searchSuffixes : List Bytes} {retry : RetryPolicy}
    (stocks : scene.Stocks r) :
    Finishes scene key (r.byKey.lookup key = none)
      (AsksNext key (Starts scene [(key, spec, searchSuffixes)] retry key))
      (EndsNow key (Starts scene [(key, spec, searchSuffixes)] retry key)) (r.noteRequest key spec searchSuffixes)
      (beginPublicResolve scene.env key spec searchSuffixes retry r) := by
  unfold beginPublicResolve
  dsimp only
  split
  · exact .sent .refl id rfl (.inl public_failed)
  rename_i first later isFirst
  have requested : Requested [(key, spec, searchSuffixes)] retry key (.new spec (first :: later) first retry) :=
    ⟨spec, searchSuffixes, first, later, List.mem_singleton_self _, isFirst, rfl⟩
  rw [isFirst, startCurrentCandidate_eq]
  have noted : scene.Stocks (r.noteRequest key spec searchSuffixes) := stocks.later_asked rfl (Nat.le_refl _)
  refine .mono (startCandidate_finishes (fun read candidates index => nextOf_leads later read ?_) noted) ?_ ?_
  · rw [candidates, index]
    rfl
  · rintro query ⟨session, name, recordType, begins, prepared⟩
    exact ⟨session, name, recordType, ⟨_, requested, begins⟩, prepared⟩
  · rintro result ⟨session, begins, isResult⟩
    exact ⟨session, ⟨_, requested, begins⟩, isResult⟩

end

end NbReq.Dns
