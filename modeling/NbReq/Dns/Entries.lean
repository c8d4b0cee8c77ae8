import NbReq.Dns.Session

/-!
# What the operations leave of the cache

The entries of the two maps of the cache: reading one, making room and clearing only take entries away or note that they
were used (`DnsCache.Wears`), and `insert` and `insert_family` put in the one they store.
-/

namespace NbReq.Dns

/-- The entries differ at most in when they were used. -/
def Cached.Same {α : Type} (entry' entry : Cached α) : Prop :=
  entry'.value = entry.value ∧ entry'.expires = entry.expires ∧ entry'.stored = entry.stored

/-- Every entry of the map was there before, apart from when it was used. -/
def Worn {κ α : Type} [DecidableEq κ] (entries entries' : AList fun _ : κ => Cached α) : Prop :=
  ∀ key entry', entries'.lookup key = some entry' → ∃ entry, entries.lookup key = some entry ∧ entry'.Same entry

/-- Every entry of the map was there before, apart from when it was used, or it is one of the new ones. -/
def Fills {κ α : Type} [DecidableEq κ] (new : κ → Cached α → Prop) (entries entries' : AList fun _ : κ => Cached α) :
    Prop :=
  ∀ key entry', entries'.lookup key = some entry' →
    (∃ entry, entries.lookup key = some entry ∧ entry'.Same entry) ∨ new key entry'

/-- Every entry of the cache was there before, apart from when it was used. -/
structure DnsCache.Wears (cache cache' : DnsCache) : Prop where
  http : Worn cache.entries cache'.entries
  family : Worn cache.familyEntries cache'.familyEntries

section

variable {cache cache' cache'' : DnsCache} {name : Name} {recordType : RecordType} {latest now : Instant}

theorem Cached.Same.refl {α : Type} {entry : Cached α} : entry.Same entry := ⟨rfl, rfl, rfl⟩

theorem Cached.Same.trans {α : Type} {first second third : Cached α} (same : first.Same second)
    (same' : second.Same third) : first.Same third :=
  ⟨same.1.trans same'.1, same.2.1.trans same'.2.1, same.2.2.trans same'.2.2⟩

section

variable {κ α : Type} [DecidableEq κ] {entries entries' entries'' : AList fun _ : κ => Cached α} {key other : κ}
  {entry own : Cached α}

theorem lookup_makeRoom (found : (makeRoom entries key now).lookup other = some entry) :
    entries.lookup other = some entry := by
  unfold makeRoom at found
  dsimp only at found
  split at found
  · split at found
    · exact (AList.lookup_retain_eq_some.mp (AList.lookup_erase_eq_some.mp found).2).1
    · exact (AList.lookup_retain_eq_some.mp found).1
  · exact (AList.lookup_retain_eq_some.mp found).1

theorem Worn.of_lookup (kept : ∀ key entry, entries'.lookup key = some entry → entries.lookup key = some entry) :
    Worn entries entries' :=
  fun key entry found => ⟨entry, kept key entry found, .refl⟩

theorem Worn.fills {new : κ → Cached α → Prop} (worn : Worn entries entries') : Fills new entries entries' :=
  fun key entry found => .inl (worn key entry found)

theorem Worn.refl : Worn entries entries := .of_lookup fun _ _ found => found

theorem Worn.trans (first : Worn entries entries') (second : Worn entries' entries'') : Worn entries entries'' := by
  intro key entry found
  obtain ⟨middle, isMiddle, same⟩ := second key entry found
  obtain ⟨old, isOld, sameOld⟩ := first key middle isMiddle
  exact ⟨old, isOld, same.trans sameOld⟩

theorem worn_makeRoom : Worn entries (makeRoom entries key now) := .of_lookup fun _ _ => lookup_makeRoom

theorem worn_erase : Worn entries (entries.erase key) :=
  .of_lookup fun _ _ found => (AList.lookup_erase_eq_some.mp found).2

theorem Worn.used (worn : Worn entries entries') (found : entries.lookup key = some own) (same : entry.Same own) :
    Worn entries (entries'.insert key entry) := by
  intro other next isNext
  rcases AList.lookup_insert_eq_some.mp isNext with ⟨rfl, rfl⟩ | ⟨-, isNext⟩
  · exact ⟨own, found, same⟩
  · exact worn other next isNext

end

namespace DnsCache

theorem Wears.refl : cache.Wears cache := ⟨.refl, .refl⟩

theorem Wears.trans (first : cache.Wears cache') (second : cache'.Wears cache'') : cache.Wears cache'' :=
  ⟨first.http.trans second.http, first.family.trans second.family⟩

theorem wears_clear : cache.Wears cache.clear := ⟨nofun, nofun⟩

theorem wears_bumpUse : cache.Wears cache.bumpUse := by
  unfold bumpUse
  split
  · exact ⟨.refl, .refl⟩
  · exact ⟨nofun, nofun⟩

/-- What an HTTP lookup reads is the entry for its name, and nothing is new afterwards. -/
theorem get_entry (cache : DnsCache) (name : Name) (now : Instant) :
    cache.Wears (cache.get name now).1 ∧ ∀ value, (cache.get name now).2 = some value →
      ∃ entry, cache.entries.lookup name = some entry ∧ value = entry.value := by
  unfold get
  split
  · exact ⟨.refl, fun _ => nofun⟩
  split
  · exact ⟨⟨worn_erase, .refl⟩, fun _ => nofun⟩
  dsimp only
  have worn : cache.Wears cache.bumpUse := wears_bumpUse
  generalize cache.bumpUse = bumped at worn
  split
  · exact ⟨worn, fun _ => nofun⟩
  rename_i entry found
  obtain ⟨own, isOwn, same⟩ := worn.http _ _ found
  refine ⟨⟨worn.http.used isOwn same, worn.family⟩, ?_⟩
  rintro _ ⟨⟩
  exact ⟨own, isOwn, same.1⟩

/-- What is read for a family is its own entry, which is valid, and nothing is new afterwards. -/
theorem getFamily_entry (cache : DnsCache) (name : Name) (recordType : RecordType) (now : Instant) :
    cache.Wears (cache.getFamily name recordType now).1 ∧
      ∀ read, (cache.getFamily name recordType now).2 = some read →
        ∃ entry, cache.familyEntries.lookup (name, recordType) = some entry ∧ read.Same entry ∧
          now < entry.expires := by
  unfold getFamily
  split
  · exact ⟨.refl, fun _ => nofun⟩
  rename_i current isCurrent
  split
  · exact ⟨⟨.refl, worn_erase⟩, fun _ => nofun⟩
  rename_i valid
  dsimp only
  have worn : cache.Wears cache.bumpUse := wears_bumpUse
  generalize cache.bumpUse = bumped at worn
  split
  · exact ⟨worn, fun _ => nofun⟩
  rename_i entry found
  obtain ⟨own, isOwn, same⟩ := worn.family _ _ found
  refine ⟨⟨worn.http, worn.family.used isOwn same⟩, ?_⟩
  rintro read ⟨⟩
  obtain rfl := Option.some.inj (isCurrent.symm.trans isOwn)
  exact ⟨current, isOwn, same, Nat.lt_of_not_le valid⟩

variable {ttl maximumTtl : Duration}

/-- The entries after `insert` were there before, or the one that it stores. -/
theorem insert_entries (cache : DnsCache) (latest : Instant) (name : Name)
    (result : Except ResolveFailure ResolveAnswer) (ttl maximumTtl : Duration) (now : Instant) :
    Worn cache.familyEntries (cache.insert latest name result ttl maximumTtl now).familyEntries ∧
      Fills (fun other entry => other = name ∧ entry.value = result) cache.entries
        (cache.insert latest name result ttl maximumTtl now).entries := by
  unfold insert
  split
  · exact ⟨.refl, Worn.refl.fills⟩
  dsimp only
  have room : cache.Wears { cache with entries := makeRoom cache.entries name now } := ⟨worn_makeRoom, .refl⟩
  generalize { cache with entries := makeRoom cache.entries name now } = roomy at room
  split
  · exact ⟨room.family, room.http.fills⟩
  have worn : cache.Wears roomy.bumpUse := room.trans wears_bumpUse
  refine ⟨worn.family, fun other entry' found => ?_⟩
  rcases AList.lookup_insert_eq_some.mp found with ⟨isName, rfl⟩ | ⟨-, found⟩
  · exact .inr ⟨isName, rfl⟩
  · exact .inl (worn.http other entry' found)

/-- The entries after `insert_family` were there before, or the one that it stores. -/
theorem insertFamily_entries (cache : DnsCache) (latest : Instant) (name : Name) (recordType : RecordType)
    (record : CachedFamily) (ttl maximumTtl : Duration) (now : Instant) :
    Worn cache.entries (cache.insertFamily latest name recordType record ttl maximumTtl now).1.entries ∧
      Fills (fun key entry => key = (name, recordType) ∧ entry.value = record ∧ entry.stored = now)
        cache.familyEntries (cache.insertFamily latest name recordType record ttl maximumTtl now).1.familyEntries := by
  unfold insertFamily
  split
  · exact ⟨.refl, Worn.refl.fills⟩
  dsimp only
  have room : cache.Wears { cache with familyEntries := makeRoom cache.familyEntries (name, recordType) now } :=
    ⟨.refl, worn_makeRoom⟩
  generalize { cache with familyEntries := makeRoom cache.familyEntries (name, recordType) now } = roomy at room
  split
  · exact ⟨room.http, room.family.fills⟩
  have worn : cache.Wears roomy.bumpUse := room.trans wears_bumpUse
  refine ⟨worn.http, fun key entry' found => ?_⟩
  rcases AList.lookup_insert_eq_some.mp found with ⟨isKey, rfl⟩ | ⟨-, found⟩
  · exact .inr ⟨isKey, rfl, rfl⟩
  · exact .inl (worn.family key entry' found)

/-- `insert_family` stores unless the TTL is zero or the expiry cannot be represented. -/
theorem insertFamily_stored {record : CachedFamily} (nonzero : ttl ≠ 0)
    (representable : now + min ttl maximumTtl ≤ latest) :
    ∃ entry, (cache.insertFamily latest name recordType record ttl maximumTtl now).1.familyEntries.lookup
      (name, recordType) = some entry ∧ entry.stored = now := by
  unfold insertFamily
  rw [if_neg nonzero]
  dsimp only
  rw [checkedAddInstant, if_pos representable]
  exact ⟨_, AList.lookup_insert _, rfl⟩

/-- The expiry that `insert_family` returns. -/
theorem insertFamily_expires {record : CachedFamily} :
    (cache.insertFamily latest name recordType record ttl maximumTtl now).2 =
      if ttl = 0 then none else checkedAddInstant latest now (min ttl maximumTtl) := by
  unfold insertFamily
  split
  · rfl
  dsimp only
  split
  · rename_i unrepresentable
    exact unrepresentable.symm
  · rename_i expires representable
    exact representable.symm

end DnsCache

end

end NbReq.Dns
