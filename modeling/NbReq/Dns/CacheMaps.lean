import NbReq.Dns.Entries
import NbReq.Lib.History

/-!
# The cache as two bounded maps

What a caller can rely on of each of the two maps of `DnsCache`, said over the history of the operations on the cache
alone: how many entries there are, what a read returns, and which entry makes room for another (`BoundedMap`). The maps
share the counter that dates the uses, so an operation on one of them is also seen by the other, as `MapOp.other`.

1. `MapInv`: the invariant that ties the entries of a map, with their dates, to its history.
2. `MapInv.step`: every operation keeps it.
3. `CacheCall.Regular.http_step`, `CacheCall.Regular.family_step`: what the cache does is what `MapOp.apply` does to
   each map, as long as the counter does not overflow.
-/

namespace NbReq.Dns

open History

/-- What is asked of one of the maps. -/
inductive MapOp (κ α : Type) where
  | get (key : κ)
  | insert (key : κ) (value : α) (ttl maximumTtl : Duration)
  | remove (key : κ)
  | clear
  | other

/-- An operation on a map: when it is made, what it finds, what it leaves and what it returns. -/
structure MapEvent (κ α : Type) where
  now : Instant
  op : MapOp κ α
  before : AList fun _ : κ => Cached α
  after : AList fun _ : κ => Cached α
  returned : Option α

variable {κ α : Type} [DecidableEq κ]

/-- The map has an entry for the key that has not expired. -/
def Live (entries : AList fun _ : κ => Cached α) (key : κ) (now : Instant) : Prop :=
  ∃ entry, entries.lookup key = some entry ∧ now < entry.expires

def liveEntries (entries : AList fun _ : κ => Cached α) (now : Instant) : AList fun _ : κ => Cached α :=
  entries.retain fun entry => decide (entry.expires > now)

namespace MapEvent

variable (latest : Instant) (event : MapEvent κ α)

/-- The operation stores the value for the key. An insert does so unless its expiry cannot be represented; what it
stores expires after the TTL, capped by the maximum. -/
def Stores (key : κ) (value : α) (expires : Instant) : Prop :=
  ∃ ttl maximumTtl, event.op = .insert key value ttl maximumTtl ∧ ttl ≠ 0 ∧
    expires = event.now + min ttl maximumTtl ∧ expires ≤ latest

/-- The operation takes away a valid entry to make room for another key. -/
def Evicts (key : κ) : Prop :=
  ∃ other value ttl maximumTtl, event.op = .insert other value ttl maximumTtl ∧ other ≠ key ∧
    Live event.before key event.now ∧ event.after.lookup key = none

/-- After the operation the key no longer has the value it had. -/
def Drops (key : κ) : Prop :=
  (∃ value expires, event.Stores latest key value expires) ∨ event.op = .remove key ∨ event.op = .clear ∨
    event.Evicts key

/-- The operation is a use of the key: it stores something for it, or reads what is stored. -/
def Uses (key : κ) : Prop :=
  (∃ value expires, event.Stores latest key value expires) ∨ (event.op = .get key ∧ Live event.before key event.now)

def isUse : Bool :=
  match event.op with
  | .get key => (event.before.lookup key).any fun entry => decide (event.now < entry.expires)
  | .insert _ _ ttl maximumTtl => decide (ttl ≠ 0 ∧ event.now + min ttl maximumTtl ≤ latest)
  | _ => false

end MapEvent

/-- The value is the last one that was stored for the key, and it has not been removed, cleared or evicted since. -/
def Held (latest : Instant) (history : List (MapEvent κ α)) (key : κ) (value : α) (expires : Instant) : Prop :=
  Since (fun event => event.Stores latest key value expires) (fun event => event.Drops latest key) history

def UsedAfter (latest : Instant) (history : List (MapEvent κ α)) (key other : κ) : Prop :=
  Since (fun event => event.Uses latest key) (fun event => event.Uses latest other) history

/-- What the history of a map says about it. -/
structure BoundedMap (latest : Instant) (history : List (MapEvent κ α)) : Prop where
  /-- There are never more entries than the capacity. -/
  size : ∀ event ∈ history, event.after.keys.length ≤ dnsCacheCapacity
  /-- A read returns the last value that was stored, if it is still there and has not expired, and nothing else. -/
  gets : Always (fun before event => ∀ key, event.op = .get key → ∀ value,
    event.returned = some value ↔ ∃ expires, Held latest before key value expires ∧ event.now < expires) history
  /-- A valid entry makes room only if the map is full of valid entries, and all others have been used since. -/
  evictions : Always (fun before event => ∀ key, event.Evicts key →
    (liveEntries event.before event.now).keys.length = dnsCacheCapacity ∧
      ∀ other, other ≠ key → Live event.before other event.now → UsedAfter latest before other key) history

/-! ## One operation -/

/-- What an operation leaves of a map, where `stamp` is the date of a use. -/
def MapOp.apply (latest now : Instant) (entries : AList fun _ : κ => Cached α) (stamp : Nat) :
    MapOp κ α → AList fun _ : κ => Cached α
  | .get key =>
    match entries.lookup key with
    | none => entries
    | some entry =>
      if entry.expires ≤ now then entries.erase key else entries.insert key { entry with lastUsed := stamp }
  | .insert key value ttl maximumTtl =>
    if ttl = 0 then entries
    else
      match checkedAddInstant latest now (min ttl maximumTtl) with
      | none => makeRoom entries key now
      | some expires => (makeRoom entries key now).insert key ⟨value, expires, stamp, now⟩
  | .remove key => entries.erase key
  | .clear => ∅
  | .other => entries

def MapOp.output (now : Instant) (entries : AList fun _ : κ => Cached α) : MapOp κ α → Option α
  | .get key => ((entries.lookup key).filter fun entry => decide (now < entry.expires)).map (·.value)
  | _ => none

def MapEvent.of (latest now : Instant) (op : MapOp κ α) (entries : AList fun _ : κ => Cached α) (stamp : Nat) :
    MapEvent κ α :=
  ⟨now, op, entries, op.apply latest now entries stamp, op.output now entries⟩

section

variable {latest now : Instant} {entries : AList fun _ : κ => Cached α} {stamp : Nat} {op : MapOp κ α} {key : κ}
  {entry old : Cached α}

theorem lookup_liveEntries : (liveEntries entries now).lookup key = some entry ↔
    entries.lookup key = some entry ∧ now < entry.expires := by
  rw [liveEntries, AList.lookup_retain_eq_some, decide_eq_true_iff]

/-- Making room leaves the valid entries, except that one makes room if they are too many for the key. -/
theorem makeRoom_cases (entries : AList fun _ : κ => Cached α) (key : κ) (now : Instant) :
    (makeRoom entries key now = liveEntries entries now ∧
      ((liveEntries entries now).keys.length < dnsCacheCapacity ∨ key ∈ (liveEntries entries now).keys)) ∨
    dnsCacheCapacity ≤ (liveEntries entries now).keys.length ∧ (liveEntries entries now).lookup key = none ∧
      ∃ victim entry, (liveEntries entries now).lookup victim = some entry ∧
        makeRoom entries key now = (liveEntries entries now).erase victim ∧
        ∀ other kept, (liveEntries entries now).lookup other = some kept → entry.lastUsed ≤ kept.lastUsed := by
  unfold makeRoom
  rw [← liveEntries]
  dsimp only
  generalize liveEntries entries now = live
  by_cases full : live.keys.length ≥ dnsCacheCapacity ∧ (live.lookup key).isNone = true
  · refine .inr ⟨full.1, Option.isNone_iff_eq_none.mp full.2, ?_⟩
    rw [if_pos full]
    cases isOldest : live.entries.argmin fun entry => entry.2.lastUsed with
    | none =>
      have empty := List.argmin_eq_none.mp isOldest
      have := full.1
      rw [AList.keys, empty] at this
      cases this
    | some oldest =>
      obtain ⟨victim, entry⟩ := oldest
      refine ⟨victim, entry, AList.mem_lookup_iff.mpr (List.argmin_mem isOldest), ?_, ?_⟩
      · simp only [Dns.oldest, isOldest, Option.map_some]
      · intro other kept found
        exact List.le_of_mem_argmin (f := fun entry : Sigma fun _ : κ => Cached α => entry.2.lastUsed)
          (AList.mem_lookup_iff.mp found) isOldest
  · refine .inl ⟨if_neg full, ?_⟩
    by_contra neither
    rw [not_or, Nat.not_lt] at neither
    exact full ⟨neither.1, Option.isNone_iff_eq_none.mpr (AList.lookup_eq_none.mpr neither.2)⟩

theorem length_insert_le {bound : Nat} (entry : Cached α)
    (room : entries.keys.length < bound ∨ key ∈ entries.keys ∧ entries.keys.length ≤ bound) :
    (entries.insert key entry).keys.length ≤ bound := by
  rw [AList.keys_insert, List.length_cons]
  rcases room with few | ⟨mem, fits⟩
  · exact Nat.succ_le_of_lt (Nat.lt_of_le_of_lt (List.length_erase_le) few)
  · rw [List.length_erase_of_mem mem]
    have := List.length_pos_of_mem mem
    omega

theorem length_erase_of_lookup {entry : Cached α} (found : entries.lookup key = some entry) :
    (entries.erase key).keys.length = entries.keys.length - 1 := by
  rw [AList.keys_erase, List.length_erase_of_mem]
  exact AList.lookup_isSome.mp (by rw [found]; rfl)

omit [DecidableEq κ] in
theorem length_liveEntries_le (entries : AList fun _ : κ => Cached α) (now : Instant) :
    (liveEntries entries now).keys.length ≤ entries.keys.length := by
  simp only [liveEntries, AList.retain, AList.keys, List.keys, List.length_map]
  exact List.length_filter_le _ _

/-- A valid key does not make room for itself. -/
theorem lookup_makeRoom_self (found : entries.lookup key = some old) (valid : now < old.expires) :
    (makeRoom entries key now).lookup key = some old := by
  have live := lookup_liveEntries.mpr ⟨found, valid⟩
  rcases makeRoom_cases entries key now with ⟨same, -⟩ | ⟨-, absent, -⟩
  · exact same ▸ live
  · cases live.symm.trans absent

theorem length_makeRoom_le (fits : entries.keys.length ≤ dnsCacheCapacity) :
    (makeRoom entries key now).keys.length < dnsCacheCapacity ∨
      key ∈ (makeRoom entries key now).keys ∧ (makeRoom entries key now).keys.length ≤ dnsCacheCapacity := by
  have live := (length_liveEntries_le entries now).trans fits
  rcases makeRoom_cases entries key now with ⟨same, few | mem⟩ | ⟨full, -, victim, entry, found, same, -⟩
  · exact .inl (same ▸ few)
  · exact .inr ⟨same ▸ mem, same ▸ live⟩
  · rw [same, length_erase_of_lookup found]
    exact .inl (Nat.lt_of_lt_of_le (Nat.sub_lt (Nat.lt_of_lt_of_le (by decide) full) Nat.one_pos) live)

theorem length_apply_le (fits : entries.keys.length ≤ dnsCacheCapacity) :
    (op.apply latest now entries stamp).keys.length ≤ dnsCacheCapacity := by
  have erased : ∀ key, (entries.erase key).keys.length ≤ dnsCacheCapacity := by
    intro key
    rw [AList.keys_erase]
    exact List.length_erase_le.trans fits
  cases op with
  | get key =>
    simp only [MapOp.apply]
    split
    · exact fits
    next entry found =>
    split
    · exact erased key
    · exact length_insert_le _ (.inr ⟨AList.lookup_isSome.mp (by rw [found]; rfl), fits⟩)
  | insert key value ttl maximumTtl =>
    simp only [MapOp.apply]
    split
    · exact fits
    · split
      · exact (length_makeRoom_le fits).elim Nat.le_of_lt And.right
      · exact length_insert_le _ (length_makeRoom_le fits)
  | remove key => exact erased key
  | clear => exact Nat.zero_le _
  | other => exact fits

theorem apply_stores {value : α} {expires : Instant}
    (stores : (MapEvent.of latest now op entries stamp).Stores latest key value expires) :
    ∃ entry, (op.apply latest now entries stamp).lookup key = some entry ∧ entry.value = value ∧
      entry.expires = expires := by
  obtain ⟨ttl, maximumTtl, isInsert, nonzero, rfl, fits⟩ := stores
  obtain rfl : op = .insert key value ttl maximumTtl := isInsert
  refine ⟨⟨value, now + min ttl maximumTtl, stamp, now⟩, ?_, rfl, rfl⟩
  have representable : checkedAddInstant latest now (min ttl maximumTtl) = some (now + min ttl maximumTtl) :=
    if_pos fits
  simp only [MapOp.apply, if_neg nonzero, representable]
  exact AList.lookup_insert _

inductive Comes (latest : Instant) (event : MapEvent κ α) (stamp : Nat) (key : κ) (entry : Cached α) : Prop
  | stored (stores : event.Stores latest key entry.value entry.expires) (dated : entry.lastUsed = stamp)
  | read (old : Cached α) (found : event.before.lookup key = some old) (value : entry.value = old.value)
      (expires : entry.expires = old.expires) (undropped : ¬event.Drops latest key) (uses : event.Uses latest key)
      (dated : entry.lastUsed = stamp)
  | stayed (found : event.before.lookup key = some entry) (undropped : ¬event.Drops latest key)
      (unused : ¬event.Uses latest key)

theorem comes_of_stayed (found : entries.lookup key = some entry)
    (after : (op.apply latest now entries stamp).lookup key = some entry)
    (unstored : ∀ value expires, ¬(MapEvent.of latest now op entries stamp).Stores latest key value expires)
    (unread : op ≠ .get key) (kept : op ≠ .remove key) (uncleared : op ≠ .clear) :
    Comes latest (MapEvent.of latest now op entries stamp) stamp key entry := by
  refine .stayed found ?_ ?_
  · rintro (⟨value, expires, stores⟩ | removes | clears | ⟨other, value, ttl, maximumTtl, -, -, -, gone⟩)
    · exact unstored value expires stores
    · exact kept removes
    · exact uncleared clears
    · cases after.symm.trans gone
  · rintro (⟨value, expires, stores⟩ | ⟨reads, -⟩)
    · exact unstored value expires stores
    · exact unread reads

/-- What is in the map has just been stored, or was there before, and is dated by the operation if that is a use. -/
theorem comes_of_apply (found : (op.apply latest now entries stamp).lookup key = some entry) :
    Comes latest (MapEvent.of latest now op entries stamp) stamp key entry := by
  cases op with
  | get other =>
    have unstored : ∀ value expires,
        ¬(MapEvent.of latest now (.get other) entries stamp).Stores latest key value expires := by
      rintro value expires ⟨ttl, maximumTtl, no, -⟩
      cases no
    have stayed (isOld : entries.lookup key = some entry) (ne : other ≠ key) :=
      comes_of_stayed isOld found unstored (fun same => ne (MapOp.get.inj same)) (by simp) (by simp)
    simp only [MapOp.apply] at found
    split at found
    · next absent =>
      refine stayed found ?_
      rintro rfl
      cases absent.symm.trans found
    next current isCurrent =>
    split at found
    · obtain ⟨ne, isOld⟩ := AList.lookup_erase_eq_some.mp found
      exact stayed isOld ne.symm
    next valid =>
    rcases AList.lookup_insert_eq_some.mp found with ⟨rfl, rfl⟩ | ⟨ne, isOld⟩
    · refine .read current isCurrent rfl rfl ?_ (.inr ⟨rfl, current, isCurrent, Nat.lt_of_not_le valid⟩) rfl
      rintro (⟨value, expires, stores⟩ | no | no | ⟨_, _, _, _, no, -⟩)
      · exact unstored value expires stores
      all_goals cases no
    · exact stayed isOld ne.symm
  | insert other value ttl maximumTtl =>
    have stayed (isOld : entries.lookup key = some entry)
        (unstored : other = key → ttl = 0 ∨ ¬now + min ttl maximumTtl ≤ latest) := by
      refine comes_of_stayed isOld found ?_ (by simp) (by simp) (by simp)
      rintro value expires ⟨ttl', maximumTtl', isInsert, nonzero, rfl, fits⟩
      cases isInsert
      exact (unstored rfl).elim nonzero (absurd fits)
    simp only [MapOp.apply, checkedAddInstant] at found
    split at found
    · next zero => exact stayed found fun _ => .inl zero
    next nonzero =>
    split at found
    · next none =>
      refine stayed (lookup_makeRoom found) fun _ => .inr fun fits => ?_
      rw [if_pos fits] at none
      cases none
    next expires fits =>
    split at fits
    · next fits' =>
      cases fits
      rcases AList.lookup_insert_eq_some.mp found with ⟨rfl, rfl⟩ | ⟨ne, isOld⟩
      · exact .stored ⟨ttl, maximumTtl, rfl, nonzero, rfl, fits'⟩ rfl
      · exact stayed (lookup_makeRoom isOld) fun same => absurd same.symm ne
    · cases fits
  | remove other =>
    obtain ⟨ne, isOld⟩ := AList.lookup_erase_eq_some.mp found
    refine comes_of_stayed isOld found ?_ (by simp) (fun same => ne (MapOp.remove.inj same).symm) (by simp)
    rintro value expires ⟨ttl, maximumTtl, no, -⟩
    cases no
  | clear => cases found
  | other =>
    refine comes_of_stayed found found ?_ (by simp) (by simp) (by simp)
    rintro value expires ⟨ttl, maximumTtl, no, -⟩
    cases no

/-- Nothing valid disappears that the operation does not drop. -/
theorem apply_keeps (found : entries.lookup key = some old) (valid : now < old.expires)
    (kept : ¬(MapEvent.of latest now op entries stamp).Drops latest key) :
    ∃ entry, (op.apply latest now entries stamp).lookup key = some entry ∧ entry.value = old.value ∧
      entry.expires = old.expires := by
  cases isAfter : (op.apply latest now entries stamp).lookup key with
  | some entry =>
    refine ⟨entry, rfl, ?_⟩
    cases comes_of_apply isAfter with
    | stored stores => exact absurd (.inl ⟨_, _, stores⟩) kept
    | read old' found' value expires =>
      cases found.symm.trans found'
      exact ⟨value, expires⟩
    | stayed found' =>
      cases found.symm.trans found'
      exact ⟨rfl, rfl⟩
  | none =>
    exfalso
    cases op with
    | get other =>
      simp only [MapOp.apply] at isAfter
      split at isAfter
      · cases found.symm.trans isAfter
      next current isCurrent =>
      split at isAfter
      · next expired =>
        by_cases same : key = other
        · subst same
          cases found.symm.trans isCurrent
          exact absurd expired (Nat.not_le_of_lt valid)
        · rw [AList.lookup_erase_ne same, found] at isAfter
          cases isAfter
      · by_cases same : key = other
        · subst same
          rw [AList.lookup_insert] at isAfter
          cases isAfter
        · rw [AList.lookup_insert_ne same, found] at isAfter
          cases isAfter
    | insert other value ttl maximumTtl =>
      by_cases same : other = key
      · subst same
        have self := lookup_makeRoom_self found valid
        simp only [MapOp.apply] at isAfter
        split at isAfter
        · cases found.symm.trans isAfter
        split at isAfter
        · cases self.symm.trans isAfter
        · rw [AList.lookup_insert] at isAfter
          cases isAfter
      · exact kept (.inr (.inr (.inr ⟨other, value, ttl, maximumTtl, rfl, same, ⟨old, found, valid⟩, isAfter⟩)))
    | remove other =>
      by_cases same : other = key
      · exact kept (.inr (.inl (same ▸ rfl)))
      · rw [MapOp.apply, AList.lookup_erase_ne (Ne.symm same), found] at isAfter
        cases isAfter
    | clear => exact kept (.inr (.inr (.inl rfl)))
    | other => cases found.symm.trans isAfter

/-- What makes room for another key is the entry that was used the longest time ago, and only in a full map. -/
theorem apply_evicts (fits : entries.keys.length ≤ dnsCacheCapacity)
    (evicts : (MapEvent.of latest now op entries stamp).Evicts key) :
    (liveEntries entries now).keys.length = dnsCacheCapacity ∧
      ∃ old, entries.lookup key = some old ∧
        ∀ other kept, entries.lookup other = some kept → now < kept.expires → old.lastUsed ≤ kept.lastUsed := by
  obtain ⟨other, value, ttl, maximumTtl, isInsert, ne, ⟨old, found, valid⟩, gone⟩ := evicts
  obtain rfl : op = .insert other value ttl maximumTtl := isInsert
  have gone : (makeRoom entries other now).lookup key = none := by
    simp only [MapEvent.of, MapOp.apply] at gone
    split at gone
    · cases found.symm.trans gone
    · split at gone
      · exact gone
      · rwa [AList.lookup_insert_ne ne.symm] at gone
  have live := lookup_liveEntries.mpr ⟨found, valid⟩
  rcases makeRoom_cases entries other now with ⟨same, -⟩ | ⟨full, -, victim, entry, isVictim, same, oldest⟩
  · cases live.symm.trans (same ▸ gone)
  refine ⟨((length_liveEntries_le entries now).trans fits).antisymm full, old, found, ?_⟩
  obtain rfl : key = victim := by
    by_contra ne
    rw [same, AList.lookup_erase_ne ne] at gone
    cases live.symm.trans gone
  cases live.symm.trans isVictim
  exact fun other kept isKept valid => oldest other kept (lookup_liveEntries.mpr ⟨isKept, valid⟩)

end

/-! ## Runs -/

/-- What the history of a map says about its entries and their dates, which are all before `next`. -/
structure MapInv (latest : Instant) (history : List (MapEvent κ α)) (entries : AList fun _ : κ => Cached α)
    (next : Nat) : Prop where
  bounded : BoundedMap latest history
  size : entries.keys.length ≤ dnsCacheCapacity
  dated : ∀ key entry, entries.lookup key = some entry → entry.lastUsed < next
  held : ∀ key entry, entries.lookup key = some entry → Held latest history key entry.value entry.expires
  kept : ∀ key value expires, Held latest history key value expires →
    (∃ entry, entries.lookup key = some entry ∧ entry.value = value ∧ entry.expires = expires) ∨
      ∃ event ∈ history, expires ≤ event.now
  recent : ∀ key entry other older, entries.lookup key = some entry → entries.lookup other = some older →
    key ≠ other → older.lastUsed ≤ entry.lastUsed → UsedAfter latest history key other

section

variable {latest now : Instant} {history : List (MapEvent κ α)} {entries : AList fun _ : κ => Cached α} {next : Nat}

theorem mapInv_nil : MapInv latest ([] : List (MapEvent κ α)) ∅ 1 :=
  ⟨⟨nofun, always_nil, always_nil⟩, Nat.zero_le _, nofun, nofun, fun _ _ _ held => absurd held since_nil, nofun⟩

/-- A read returns what is held and has not expired. -/
theorem MapInv.output (inv : MapInv latest history entries next) (later : ∀ event ∈ history, event.now ≤ now)
    (key : κ) (value : α) : (MapOp.get key).output now entries = some value ↔
      ∃ expires, Held latest history key value expires ∧ now < expires := by
  simp only [MapOp.output, Option.map_eq_some_iff, Option.filter_eq_some_iff, decide_eq_true_iff]
  constructor
  · rintro ⟨entry, ⟨found, valid⟩, rfl⟩
    exact ⟨entry.expires, inv.held key entry found, valid⟩
  rintro ⟨expires, held, valid⟩
  rcases inv.kept key value expires held with ⟨entry, found, rfl, rfl⟩ | ⟨event, mem, expired⟩
  · exact ⟨entry, ⟨found, valid⟩, rfl⟩
  · exact absurd (Nat.lt_of_lt_of_le valid expired) (Nat.not_lt.mpr (later event mem))

theorem MapInv.evictions (inv : MapInv latest history entries next) {op : MapOp κ α} {key : κ}
    (evicts : (MapEvent.of latest now op entries next).Evicts key) :
    (liveEntries entries now).keys.length = dnsCacheCapacity ∧
      ∀ other, other ≠ key → Live entries other now → UsedAfter latest history other key := by
  obtain ⟨full, old, found, oldest⟩ := apply_evicts inv.size evicts
  refine ⟨full, ?_⟩
  rintro other ne ⟨kept, isKept, valid⟩
  exact inv.recent other kept key old isKept found ne (oldest other kept isKept valid)

/-- Every operation keeps the invariant, if a use takes a date that no other has. -/
theorem MapInv.step (inv : MapInv latest history entries next) (op : MapOp κ α)
    (later : ∀ event ∈ history, event.now ≤ now) {next' : Nat} (le : next ≤ next')
    (counted : ∀ key, (MapEvent.of latest now op entries next).Uses latest key → next < next') :
    MapInv latest (history ++ [.of latest now op entries next]) (op.apply latest now entries next) next' := by
  have size : (op.apply latest now entries next).keys.length ≤ dnsCacheCapacity := length_apply_le inv.size
  refine ⟨⟨?_, ?_, ?_⟩, size, ?_, ?_, ?_, ?_⟩
  · intro event mem
    rcases List.mem_append.mp mem with old | new
    · exact inv.bounded.size event old
    · exact List.mem_singleton.mp new ▸ size
  · refine always_snoc.mpr ⟨inv.bounded.gets, ?_⟩
    rintro key rfl value
    exact inv.output later key value
  · exact always_snoc.mpr ⟨inv.bounded.evictions, fun key evicts => inv.evictions evicts⟩
  · intro key entry found
    cases comes_of_apply found with
    | stored stores dated => exact dated ▸ counted key (.inl ⟨_, _, stores⟩)
    | read old _ _ _ _ uses dated => exact dated ▸ counted key uses
    | stayed isOld => exact Nat.lt_of_lt_of_le (inv.dated key entry isOld) le
  · intro key entry found
    refine since_snoc.mpr ?_
    cases comes_of_apply found with
    | stored stores => exact .inl stores
    | read old isOld value expires undropped =>
      rw [value, expires]
      exact .inr ⟨inv.held key old isOld, undropped⟩
    | stayed isOld undropped => exact .inr ⟨inv.held key entry isOld, undropped⟩
  · intro key value expires held
    rcases since_snoc.mp held with stores | ⟨held, undropped⟩
    · exact .inl (apply_stores stores)
    rcases inv.kept key value expires held with ⟨entry, found, rfl, rfl⟩ | ⟨event, mem, expired⟩
    · by_cases valid : now < entry.expires
      · exact .inl (apply_keeps found valid undropped)
      · exact .inr ⟨_, List.mem_append_right _ (List.mem_singleton_self _), Nat.le_of_not_lt valid⟩
    · exact .inr ⟨event, List.mem_append_left _ mem, expired⟩
  · intro key entry other older found foundOther ne le
    refine since_snoc.mpr ?_
    cases comes_of_apply found with
    | stored stores => exact .inl (.inl ⟨_, _, stores⟩)
    | read _ _ _ _ _ uses => exact .inl uses
    | stayed isOld =>
      have before := inv.dated key entry isOld
      -- An entry with the newest date cannot be the older one.
      cases comes_of_apply foundOther with
      | stored _ dated | read _ _ _ _ _ _ dated => exact absurd (dated ▸ le) (Nat.not_le_of_lt before)
      | stayed isOlder _ unused => exact .inr ⟨inv.recent key entry other older isOld isOlder ne le, unused⟩

end

/-! ## The cache -/

/-- The operations of `DnsCache`. -/
inductive CacheOp where
  | get (name : Name)
  | insert (name : Name) (result : Except ResolveFailure ResolveAnswer) (ttl maximumTtl : Duration)
  | getFamily (name : Name) (recordType : RecordType)
  | insertFamily (name : Name) (recordType : RecordType) (record : CachedFamily) (ttl maximumTtl : Duration)
  | removeHttp (name : Name)
  | clear

def CacheOp.perform (latest now : Instant) (cache : DnsCache) : CacheOp → DnsCache
  | .get name => (cache.get name now).1
  | .insert name result ttl maximumTtl => cache.insert latest name result ttl maximumTtl now
  | .getFamily name recordType => (cache.getFamily name recordType now).1
  | .insertFamily name recordType record ttl maximumTtl =>
    (cache.insertFamily latest name recordType record ttl maximumTtl now).1
  | .removeHttp name => cache.removeHttp name
  | .clear => cache.clear

def CacheOp.http : CacheOp → MapOp Name (Except ResolveFailure ResolveAnswer)
  | .get name => .get name
  | .insert name result ttl maximumTtl => .insert name result ttl maximumTtl
  | .removeHttp name => .remove name
  | .clear => .clear
  | .getFamily .. | .insertFamily .. => .other

def CacheOp.family : CacheOp → MapOp (Name × RecordType) CachedFamily
  | .getFamily name recordType => .get (name, recordType)
  | .insertFamily name recordType record ttl maximumTtl => .insert (name, recordType) record ttl maximumTtl
  | .clear => .clear
  | .get .. | .insert .. | .removeHttp .. => .other

structure CacheCall where
  latest : Instant
  now : Instant
  op : CacheOp
  before : DnsCache

namespace CacheCall

variable (event : CacheCall)

def after : DnsCache := event.op.perform event.latest event.now event.before

def http : MapEvent Name (Except ResolveFailure ResolveAnswer) where
  now := event.now
  op := event.op.http
  before := event.before.entries
  after := event.after.entries
  returned :=
    match event.op with
    | .get name => (event.before.get name event.now).2
    | _ => none

def family : MapEvent (Name × RecordType) CachedFamily where
  now := event.now
  op := event.op.family
  before := event.before.familyEntries
  after := event.after.familyEntries
  returned :=
    match event.op with
    | .getFamily name recordType => (event.before.getFamily name recordType event.now).2.map (·.value)
    | _ => none

def isUse : Bool := event.http.isUse event.latest || event.family.isUse event.latest

end CacheCall

inductive DnsCache.Ran (latest : Instant) : List CacheCall → DnsCache → Prop
  | new : Ran latest [] .new
  | step {history : List CacheCall} {cache : DnsCache} (ran : Ran latest history cache) (now : Instant) (op : CacheOp)
      (later : ∀ event ∈ history, event.now ≤ now) :
      Ran latest (history ++ [⟨latest, now, op, cache⟩]) (op.perform latest now cache)

/-- The date of the next use after an operation that may be one. -/
def nextDate (cache : DnsCache) (use : Bool) : Nat := cache.nextUse + if use then 1 else 0

/-- What an operation does while the counter does not overflow: what `MapOp.apply` does to each map, dated by the
counter, which a use takes forward. -/
structure CacheCall.Regular (event : CacheCall) : Prop where
  http : event.http = .of event.latest event.now event.op.http event.before.entries event.before.nextUse
  family : event.family = .of event.latest event.now event.op.family event.before.familyEntries event.before.nextUse
  nextUse : event.after.nextUse = nextDate event.before event.isUse

section

variable {latest now : Instant} {cache : DnsCache}

theorem DnsCache.bumpUse_eq (room : cache.nextUse < u64Max) :
    cache.bumpUse = { cache with nextUse := cache.nextUse + 1 } :=
  if_pos (Nat.succ_le_of_lt room)

attribute [local simp] CacheCall.http CacheCall.family CacheCall.isUse CacheCall.after CacheOp.perform CacheOp.http
  CacheOp.family MapEvent.of MapEvent.isUse MapOp.apply MapOp.output nextDate checkedAddInstant DnsCache.bumpUse_eq

/-- `bump_use` clears the maps only at a use. -/
theorem CacheCall.regular (event : CacheCall) (room : event.isUse = true → event.before.nextUse < u64Max) :
    event.Regular := by
  obtain ⟨latest, now, op, cache⟩ := event
  cases op with
  | get name =>
    cases found : cache.entries.lookup name with
    | none => constructor <;> simp [DnsCache.get, found]
    | some entry =>
      by_cases expired : entry.expires ≤ now
      · constructor <;> simp [DnsCache.get, found, expired]
      · have valid := Nat.lt_of_not_le expired
        have roomy : cache.nextUse < u64Max := room (by simp [found, valid])
        constructor <;> simp [DnsCache.get, found, expired, valid, roomy]
  | getFamily name recordType =>
    cases found : cache.familyEntries.lookup (name, recordType) with
    | none => constructor <;> simp [DnsCache.getFamily, found]
    | some entry =>
      by_cases expired : entry.expires ≤ now
      · constructor <;> simp [DnsCache.getFamily, found, expired]
      · have valid := Nat.lt_of_not_le expired
        have roomy : cache.nextUse < u64Max := room (by simp [found, valid])
        constructor <;> simp [DnsCache.getFamily, found, expired, valid, roomy]
  | insert name value ttl maximumTtl | insertFamily name recordType value ttl maximumTtl =>
    by_cases use : ttl ≠ 0 ∧ now + min ttl maximumTtl ≤ latest
    · have roomy : cache.nextUse < u64Max := room (by simp [use])
      constructor <;> simp [DnsCache.insert, DnsCache.insertFamily, use, roomy]
    by_cases zero : ttl = 0
    · constructor <;> simp [DnsCache.insert, DnsCache.insertFamily, zero]
    · have late : ¬now + min ttl maximumTtl ≤ latest := fun fits => use ⟨zero, fits⟩
      constructor <;> simp [DnsCache.insert, DnsCache.insertFamily, zero, late]
  | removeHttp name | clear => exact ⟨rfl, rfl, rfl⟩

end

theorem MapEvent.Uses.isUse {latest : Instant} {event : MapEvent κ α} {key : κ} (uses : event.Uses latest key) :
    event.isUse latest = true := by
  unfold MapEvent.isUse
  rcases uses with ⟨value, expires, ttl, maximumTtl, isInsert, nonzero, rfl, fits⟩ | ⟨isGet, entry, found, valid⟩
  · rw [isInsert]
    exact decide_eq_true ⟨nonzero, fits⟩
  · rw [isGet]
    simp [found, valid]

theorem MapInv.after {latest now : Instant} {history : List (MapEvent κ α)} {entries : AList fun _ : κ => Cached α}
    {next next' : Nat} {event : MapEvent κ α} {op : MapOp κ α} (inv : MapInv latest history entries next)
    (same : event = .of latest now op entries next) (later : ∀ earlier ∈ history, earlier.now ≤ now)
    (le : next ≤ next') (lt : event.isUse latest = true → next < next') :
    MapInv latest (history ++ [event]) event.after next' := by
  subst same
  exact inv.step op later le fun key uses => lt uses.isUse

section

variable {event : CacheCall} (regular : event.Regular)
include regular

theorem CacheCall.Regular.nextUse_le : event.before.nextUse ≤ event.after.nextUse := by
  rw [regular.nextUse]
  exact Nat.le_add_right _ _

theorem CacheCall.Regular.nextUse_lt (use : event.isUse = true) : event.before.nextUse < event.after.nextUse := by
  rw [regular.nextUse, nextDate, if_pos use]
  exact Nat.lt_succ_self _

theorem CacheCall.Regular.http_step {history : List (MapEvent Name (Except ResolveFailure ResolveAnswer))}
    (inv : MapInv event.latest history event.before.entries event.before.nextUse)
    (later : ∀ earlier ∈ history, earlier.now ≤ event.now) :
    MapInv event.latest (history ++ [event.http]) event.after.entries event.after.nextUse :=
  inv.after regular.http later regular.nextUse_le fun use => regular.nextUse_lt ((Bool.or_eq_true _ _).mpr (.inl use))

theorem CacheCall.Regular.family_step {history : List (MapEvent (Name × RecordType) CachedFamily)}
    (inv : MapInv event.latest history event.before.familyEntries event.before.nextUse)
    (later : ∀ earlier ∈ history, earlier.now ≤ event.now) :
    MapInv event.latest (history ++ [event.family]) event.after.familyEntries event.after.nextUse :=
  inv.after regular.family later regular.nextUse_le fun use => regular.nextUse_lt ((Bool.or_eq_true _ _).mpr (.inr use))

end

namespace DnsCache.Ran

variable {latest : Instant} {history : List CacheCall} {cache : DnsCache}

/-- While the counter does not overflow, both maps are as their histories say. -/
theorem inv (ran : Ran latest history cache) (few : history.countP CacheCall.isUse < u64Max) :
    MapInv latest (history.map CacheCall.http) cache.entries cache.nextUse ∧
      MapInv latest (history.map CacheCall.family) cache.familyEntries cache.nextUse ∧
      cache.nextUse = history.countP CacheCall.isUse + 1 := by
  induction ran with
  | new => exact ⟨mapInv_nil, mapInv_nil, rfl⟩
  | @step history cache ran now op later ih =>
    rw [List.countP_append, List.countP_singleton] at few
    obtain ⟨http, family, count⟩ := ih (Nat.lt_of_le_of_lt (Nat.le_add_right _ _) few)
    have regular := (CacheCall.mk latest now op cache).regular fun use => by
      rw [if_pos use] at few
      exact count ▸ few
    refine ⟨?_, ?_, ?_⟩
    · rw [List.map_append]
      exact regular.http_step http (List.forall_mem_map.mpr later)
    · rw [List.map_append]
      exact regular.family_step family (List.forall_mem_map.mpr later)
    · rw [List.countP_append, List.countP_singleton, Nat.add_right_comm, ← count]
      exact regular.nextUse

/-- Each of the two maps of the cache is a bounded map of the last values stored, of which the one used the longest time
ago makes room. -/
theorem bounded_maps (ran : Ran latest history cache) (few : history.countP CacheCall.isUse < u64Max) :
    BoundedMap latest (history.map CacheCall.http) ∧ BoundedMap latest (history.map CacheCall.family) :=
  ⟨(ran.inv few).1.bounded, (ran.inv few).2.1.bounded⟩

/-- A value is stored for a name, read while it is valid, and asked for again when it has expired. -/
theorem bounded_maps_sample :
    let name : Name := ⟨[[0x68]]⟩
    let stored := CacheOp.insertFamily name .a .noData 5 9
    let cache := (stored.perform 100 0 .new)
    let read := (CacheOp.getFamily name .a).perform 100 4 cache
    let history : List CacheCall := [⟨100, 0, stored, .new⟩, ⟨100, 4, .getFamily name .a, cache⟩,
      ⟨100, 5, .getFamily name .a, read⟩]
    BoundedMap 100 (history.map CacheCall.http) ∧ BoundedMap 100 (history.map CacheCall.family) ∧
      history.map (fun event => event.family.returned) = [none, some .noData, none] := by
  intro name stored cache read history
  have ran : Ran 100 history _ := ((Ran.new.step 0 stored (by decide)).step 4 (.getFamily name .a) (by decide)).step 5
    (.getFamily name .a) (by decide)
  obtain ⟨http, family⟩ := ran.bounded_maps (by decide +kernel)
  exact ⟨http, family, by decide +kernel⟩

end DnsCache.Ran

end NbReq.Dns
