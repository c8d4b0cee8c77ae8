import NbReq.Dns.Entries
import NbReq.Dns.Loop
import NbReq.Lib.Stamps

/-!
# The cache as a stamped store

The entries of the cache for public lookups carry the time at which they were stored, so the cache is a stamped store
(`Resolver.stamps`). What a lookup reads from it is a move of that store (`consultCache_advances`), and so is recording
an answer, whether it is stored or not (`Learned.advances`).
-/

namespace NbReq.Dns

/-! ## The cache -/

def DnsCache.stamp (cache : DnsCache) (key : Name × RecordType) : Option Instant :=
  (cache.familyEntries.lookup key).map (·.stored)

/-- An entry for a name and a family was there before, or it is not older than the time. -/
def DnsCache.Ages (now : Instant) (cache cache' : DnsCache) : Prop :=
  ∀ key stamp, cache'.stamp key = some stamp → cache.stamp key = some stamp ∨ now ≤ stamp

/-- There is nothing for the name and the family that is older than the time. -/
def DnsCache.Renewed (now : Instant) (key : Name × RecordType) (cache : DnsCache) : Prop :=
  ∀ stamp, cache.stamp key = some stamp → now ≤ stamp

/-- No entry for a name and a family is new. -/
abbrev DnsCache.Fades (cache cache' : DnsCache) : Prop := Worn cache.familyEntries cache'.familyEntries

section

variable {cache cache' cache'' : DnsCache} {name : Name} {recordType : RecordType} {latest now : Instant}

namespace DnsCache

theorem stamp_of_same {key : Name × RecordType} {entry entry' : Cached CachedFamily}
    (found : cache.familyEntries.lookup key = some entry) (same : entry'.Same entry) :
    cache.stamp key = some entry'.stored :=
  Option.map_eq_some_iff.mpr ⟨entry, found, same.2.2.symm⟩

theorem Fades.ages (fades : cache.Fades cache') : cache.Ages now cache' := by
  intro key stamp isStamp
  obtain ⟨entry', found', rfl⟩ := Option.map_eq_some_iff.mp isStamp
  obtain ⟨entry, found, same⟩ := fades key entry' found'
  exact .inl (stamp_of_same found same)

theorem Ages.trans (first : cache.Ages now cache') (second : cache'.Ages now cache'') : cache.Ages now cache'' := by
  intro key stamp entry
  rcases second key stamp entry with same | new
  · exact first key stamp same
  · exact .inr new

theorem Renewed.ages {key : Name × RecordType} (renewed : cache.Renewed now key) (ages : cache.Ages now cache') :
    cache'.Renewed now key := by
  intro stamp entry
  rcases ages key stamp entry with same | new
  · exact renewed stamp same
  · exact new

/-- What `insert_family` stores is stored now, and it replaces what was there unless the TTL is zero or the expiry
cannot be represented. -/
theorem insertFamily_stores (cache : DnsCache) (latest : Instant) (name : Name) (recordType : RecordType)
    (record : CachedFamily) (ttl maximumTtl : Duration) (now : Instant) :
    cache.Ages now (cache.insertFamily latest name recordType record ttl maximumTtl now).1 ∧
      (ttl ≠ 0 → now + min ttl maximumTtl ≤ latest →
        (cache.insertFamily latest name recordType record ttl maximumTtl now).1.Renewed now (name, recordType)) := by
  refine ⟨?_, ?_⟩
  · intro key stamp isStamp
    obtain ⟨entry', found, stored⟩ := Option.map_eq_some_iff.mp isStamp
    rcases (insertFamily_entries ..).2 key entry' found with ⟨entry, isEntry, same⟩ | ⟨-, -, isNow⟩
    · exact .inl ((stamp_of_same isEntry same).trans (congrArg some stored))
    · exact .inr (Nat.le_of_eq (isNow.symm.trans stored))
  · intro nonzero representable stamp isStamp
    obtain ⟨entry, isEntry, isNow⟩ := insertFamily_stored nonzero representable
    obtain ⟨entry', found, stored⟩ := Option.map_eq_some_iff.mp isStamp
    cases isEntry.symm.trans found
    exact Nat.le_of_eq (isNow.symm.trans stored)

def insertFamilies (latest : Instant) (name : Name) (record : CachedFamily) (ttl maximumTtl : Duration) (now : Instant)
    (families : List RecordType) (cache : DnsCache) : DnsCache :=
  families.foldl (fun cache recordType => (cache.insertFamily latest name recordType record ttl maximumTtl now).1) cache

theorem insertFamilies_stores {record : CachedFamily} {ttl maximumTtl : Duration} (families : List RecordType)
    (cache : DnsCache) :
    cache.Ages now (cache.insertFamilies latest name record ttl maximumTtl now families) ∧
      (ttl ≠ 0 → now + min ttl maximumTtl ≤ latest → ∀ recordType ∈ families,
        (cache.insertFamilies latest name record ttl maximumTtl now families).Renewed now (name, recordType)) := by
  induction families generalizing cache with
  | nil => exact ⟨fun _ _ same => .inl same, fun _ _ _ mem => (by cases mem)⟩
  | cons first rest ih =>
    obtain ⟨ages, renewed⟩ := insertFamily_stores cache latest name first record ttl maximumTtl now
    obtain ⟨later, others⟩ := ih (cache.insertFamily latest name first record ttl maximumTtl now).1
    refine ⟨ages.trans later, fun nonzero representable recordType mem => ?_⟩
    rcases List.mem_cons.mp mem with rfl | isOther
    · exact (renewed nonzero representable).ages later
    · exact others nonzero representable recordType isOther

end DnsCache

end

/-! ## The resolver -/

/-- What the history of the cache says about a name and a family. -/
def CacheEvent.note : CacheEvent → Stamps.Note (Name × RecordType)
  | .exchanged name recordType time kept => .learned (name, recordType) time kept
  | .served name recordType stored borrowed => .read (name, recordType) stored !borrowed

def Resolver.stamps (env : Env) (r : Resolver) : Stamps.Store (Name × RecordType) where
  stamp := r.cache.stamp
  now := r.now env
  history := r.cacheEvents.map (·.note)

/-- Whatever happens to the cache is a run of the store. -/
abbrev Advances (env : Env) (r r' : Resolver) : Prop := Stamps.Run (r.stamps env) (r'.stamps env)

section

variable {env : Env} {r r' : Resolver} {query : PendingQuery} {session : PublicSession} {name : Name}
  {recordType : RecordType}

/-- Nothing is stored for public lookups, and nothing is read for them. -/
theorem Advances.quiet (cache : r.cache.Fades r'.cache) (events : r'.cacheEvents = r.cacheEvents)
    (asked : r.asked ≤ r'.asked) : Advances env r r' := by
  refine .single (.quiet ⟨env.clock_mono asked, cache.ages⟩ ?_)
  show r'.cacheEvents.map _ = r.cacheEvents.map _
  rw [events]

/-! ## Reading -/

/-- The session with what the cache holds for a family, if that was read. -/
def PublicSession.readFamily (session : PublicSession) (recordType : RecordType) :
    Option (Cached CachedFamily) → PublicSession
  | some entry => session.withOutcome recordType (cachedFamilyOutcome entry)
  | none => session

/-- The entry is what the cache holds for a family that the lookup wants, and it is valid. -/
def DnsCache.Holds (cache : DnsCache) (family : AddressFamily) (key : Name × RecordType) (now : Instant)
    (entry : Cached CachedFamily) : Prop :=
  family.wants key.2 = true ∧
    ∃ own, cache.familyEntries.lookup key = some own ∧ entry.Same own ∧ now < entry.expires

theorem takeFamily_entry (name : Name) (recordType : RecordType) (now : Instant) (session : PublicSession)
    (cache : DnsCache) :
    cache.Wears (takeFamily name recordType now (session, cache)).2 ∧ ∃ entry : Option (Cached CachedFamily),
      (∀ read ∈ entry, cache.Holds session.family (name, recordType) now read) ∧
        (takeFamily name recordType now (session, cache)).1 = session.readFamily recordType entry := by
  obtain ⟨worn, reads⟩ := DnsCache.getFamily_entry cache name recordType now
  unfold takeFamily
  dsimp only
  split
  · rename_i wanted
    split
    · rename_i worn' read isRead
      rw [isRead] at worn reads
      refine ⟨worn, some read, ?_, rfl⟩
      rintro _ ⟨⟩
      obtain ⟨own, found, same, valid⟩ := reads read rfl
      exact ⟨wanted, own, found, same, same.2.1 ▸ valid⟩
    · rename_i worn' isRead
      rw [isRead] at worn
      exact ⟨worn, none, nofun, rfl⟩
  · exact ⟨.refl, none, nofun, rfl⟩

theorem readFamily_family {entry : Option (Cached CachedFamily)} :
    (session.readFamily recordType entry).family = session.family := by
  cases entry <;> cases recordType <;> rfl

theorem takeFamilies_entries (name : Name) (now : Instant) (session : PublicSession) (cache : DnsCache) :
    cache.Wears (takeFamily name .aaaa now (takeFamily name .a now (session, cache))).2 ∧
      ∃ ipv4 ipv6 : Option (Cached CachedFamily),
        (∀ read ∈ ipv4, cache.Holds session.family (name, .a) now read) ∧
        (∀ read ∈ ipv6, cache.Holds session.family (name, .aaaa) now read) ∧
        (takeFamily name .aaaa now (takeFamily name .a now (session, cache))).1 =
          (session.readFamily .a ipv4).readFamily .aaaa ipv6 := by
  obtain ⟨worn4, ipv4, read4, isRead4⟩ := takeFamily_entry name .a now session cache
  generalize takeFamily name .a now (session, cache) = taken at worn4 isRead4
  obtain ⟨taken, middle⟩ := taken
  dsimp only at worn4 isRead4
  obtain ⟨worn6, ipv6, read6, isRead6⟩ := takeFamily_entry name .aaaa now taken middle
  refine ⟨worn4.trans worn6, ipv4, ipv6, read4, ?_, by rw [isRead6, isRead4]⟩
  intro read isRead
  obtain ⟨wanted, own, found, same, valid⟩ := read6 read isRead
  obtain ⟨first, isFirst, sameFirst⟩ := worn4.family _ own found
  rw [isRead4, readFamily_family] at wanted
  exact ⟨wanted, first, isFirst, same.trans sameFirst, valid⟩

theorem cachedFamilyOutcome_stored {entry : Cached CachedFamily} :
    (cachedFamilyOutcome entry).stored = some entry.stored := by
  unfold cachedFamilyOutcome
  split <;> rfl

/-- What the session says about a family after it has read the cache, it has read for the family. -/
theorem readFamily_outcome {ipv4 ipv6 : Option (Cached CachedFamily)} :
    ((session.cleared.readFamily .a ipv4).readFamily .aaaa ipv6).outcome .a = ipv4.map cachedFamilyOutcome ∧
      ((session.cleared.readFamily .a ipv4).readFamily .aaaa ipv6).outcome .aaaa = ipv6.map cachedFamilyOutcome := by
  cases ipv4 <;> cases ipv6 <;> exact ⟨rfl, rfl⟩

def servedNote (name : Name) (found shared : PublicSession) (recordType : RecordType) :
    Option ((Name × RecordType) × Instant × Bool) :=
  ((shared.outcome recordType).bind (·.stored)).map fun stored =>
    ((name, recordType), stored, !(found.outcome recordType != shared.outcome recordType))

theorem servedEvents_notes {found shared : PublicSession} :
    (servedEvents name found shared).map (·.note) =
      ([RecordType.a, .aaaa].filterMap (servedNote name found shared)).map fun note =>
        .read note.1 note.2.1 note.2.2 := by
  simp only [servedEvents, servedNote, List.map_filterMap, Option.map_map, Function.comp_def, CacheEvent.note]

theorem servedNote_reads {cache : DnsCache} {found shared : PublicSession} {key : Name × RecordType} {stamp : Instant}
    (reads : ∀ recordType outcome stored, found.outcome recordType = some outcome → outcome.stored = some stored →
      cache.stamp (name, recordType) = some stored)
    (mem : (key, stamp, true) ∈ [RecordType.a, .aaaa].filterMap (servedNote name found shared)) :
    cache.stamp key = some stamp := by
  obtain ⟨recordType, -, isNote⟩ := List.mem_filterMap.mp mem
  obtain ⟨stored, isStored, same⟩ := Option.map_eq_some_iff.mp isNote
  obtain ⟨outcome, isOutcome, outcomeStored⟩ := Option.bind_eq_some_iff.mp isStored
  obtain ⟨rfl, rest⟩ := Prod.mk.inj same
  obtain ⟨rfl, direct⟩ := Prod.mk.inj rest
  have own : found.outcome recordType = shared.outcome recordType := by simpa using direct
  exact reads recordType outcome stored (own.trans isOutcome) outcomeStored

theorem consultCache_advances : Advances env r (consultCache env name session.cleared r).2 := by
  unfold consultCache
  split
  · obtain ⟨worn, ipv4, ipv6, read4, read6, isFound⟩ := takeFamilies_entries name (r.now env) session.cleared r.cache
    unfold readCachedFamilies
    generalize takeFamily name .aaaa (r.now env) (takeFamily name .a (r.now env) (session.cleared, r.cache)) = taken
      at worn isFound
    obtain ⟨found, cache⟩ := taken
    dsimp only at worn isFound
    refine .single (.read ([RecordType.a, .aaaa].filterMap (servedNote name found (shareNameNotFound found)))
      ⟨env.clock_mono (Nat.le_succ _), DnsCache.Fades.ages worn.family⟩ ?_ fun key stamp => servedNote_reads ?_)
    · show (r.cacheEvents ++ _).map _ = r.cacheEvents.map _ ++ _
      rw [List.map_append, servedEvents_notes]
    intro recordType outcome stored isOutcome isStored
    have stamped : ∀ entry : Option (Cached CachedFamily),
        (∀ read ∈ entry, r.cache.Holds session.cleared.family (name, recordType) (r.now env) read) →
        entry.map cachedFamilyOutcome = some outcome → r.cache.stamp (name, recordType) = some stored := by
      intro entry reads isEntry
      obtain ⟨read, isRead, rfl⟩ := Option.map_eq_some_iff.mp isEntry
      obtain ⟨-, own, isOwn, same, -⟩ := reads read isRead
      rw [cachedFamilyOutcome_stored] at isStored
      exact (DnsCache.stamp_of_same isOwn same).trans isStored
    rw [isFound] at isOutcome
    cases recordType with
    | a => exact stamped ipv4 read4 (readFamily_outcome.1.symm.trans isOutcome)
    | aaaa => exact stamped ipv6 read6 (readFamily_outcome.2.symm.trans isOutcome)
  · exact .refl

/-! ## Storing -/

/-- The answer has been recorded. If the history says that it was stored, the cache has nothing older for it. -/
structure Learned (env : Env) (query : PendingQuery) (kept : Bool) (r r' : Resolver) : Prop where
  events : r'.cacheEvents = (r.noteExchange env query kept).cacheEvents
  asked : r.asked ≤ r'.asked
  ages : r.cache.Ages (r.now env) r'.cache
  renewed : kept = true → r'.cache.Renewed (r.now env) (query.host, query.recordType)

theorem Learned.advances {kept : Bool} (learned : Learned env query kept r r') : Advances env r r' := by
  refine .single (.learn (((query.host, query.recordType), kept) ::
    if query.subject = query.host then [] else [((query.subject, query.recordType), false)])
    ⟨env.clock_mono learned.asked, learned.ages⟩ ?_ ?_)
  · show r'.cacheEvents.map _ = r.cacheEvents.map _ ++ _
    rw [learned.events, Resolver.noteExchange, List.map_append]
    split <;> rfl
  · intro key mem stamp entry
    have own : key = (query.host, query.recordType) ∧ kept = true := by
      split at mem <;> simpa using mem
    obtain ⟨rfl, isKept⟩ := own
    exact learned.renewed isKept stamp entry

def storedTtl (query : PendingQuery) (ttl : Option Duration) : Option Duration :=
  if query.cnameHops = 0 then ttl else none

variable {ttl : Option Duration} {maximumTtl : Duration}

/-- An answer that is said to be stored has a TTL that the cache can use. -/
theorem keeps_stores (kept : r.keeps env query ttl maximumTtl = true) :
    ∃ duration, storedTtl query ttl = some duration ∧ duration ≠ 0 ∧
      r.now env + min duration maximumTtl ≤ env.latest := by
  unfold Resolver.keeps at kept
  obtain ⟨direct, usable⟩ := Bool.and_eq_true_iff.mp kept
  cases ttl with
  | none => cases usable
  | some duration =>
    refine ⟨duration, ?_, by simpa using usable⟩
    rw [storedTtl, if_pos (by simpa using direct)]

end

end NbReq.Dns
