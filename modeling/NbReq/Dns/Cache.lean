import NbReq.Dns.Answer
import NbReq.Lib.Assoc
import Mathlib.Data.List.MinMax

/-!
# The resolver's cache

`DnsCache` of `native_dns.rs`: two bounded maps with an expiry and a use counter for each entry. `entries` is what an
HTTP lookup of a name gets, `family_entries` what a public lookup gets for one address family. An entry also records
when it was stored; no function reads that.
-/

namespace NbReq.Dns

def dnsCacheCapacity : Nat := 256

def maxPositiveCacheTtl : Duration := .fromSecs (60 * 60)

def maxNegativeCacheTtl : Duration := .fromSecs (5 * 60)

/-- `Instant::checked_add`, where `latest` is the last instant that can be represented. -/
def checkedAddInstant (latest now : Instant) (duration : Duration) : Option Instant :=
  if now + duration ≤ latest then some (now + duration) else none

/-- `native_dns::CacheEntry` and `native_dns::FamilyCacheEntry`, over what they hold. -/
structure Cached (α : Type) where
  value : α
  expires : Instant
  lastUsed : Nat
  stored : Instant
deriving DecidableEq

/-- `native_dns::CachedFamily`. -/
inductive CachedFamily where
  | answer (addresses : List IpAddr)
  | nameNotFound
  | noData
deriving DecidableEq, Repr

/-- `native_dns::DnsCache`. -/
structure DnsCache where
  entries : AList fun _ : Name => Cached (Except ResolveFailure ResolveAnswer)
  familyEntries : AList fun _ : Name × RecordType => Cached CachedFamily
  nextUse : Nat
deriving DecidableEq

def oldest {κ α : Type} (entries : AList fun _ : κ => Cached α) : Option κ :=
  (entries.entries.argmin fun entry => entry.2.lastUsed).map (·.1)

/-- What an insert does first: drop what has expired, and the entry that was used the longest time ago if there is no
room for a new one. -/
def makeRoom {κ α : Type} [DecidableEq κ] (entries : AList fun _ : κ => Cached α) (key : κ) (now : Instant) :
    AList fun _ : κ => Cached α :=
  let live := entries.retain fun entry => decide (entry.expires > now)
  if live.keys.length ≥ dnsCacheCapacity ∧ (live.lookup key).isNone then
    match oldest live with
    | some victim => live.erase victim
    | none => live
  else live

namespace DnsCache

def new : DnsCache := ⟨∅, ∅, 1⟩

def clear (cache : DnsCache) : DnsCache := { cache with entries := ∅, familyEntries := ∅ }

def bumpUse (cache : DnsCache) : DnsCache :=
  if cache.nextUse + 1 ≤ u64Max then { cache with nextUse := cache.nextUse + 1 } else { cache.clear with nextUse := 1 }

def get (cache : DnsCache) (name : Name) (now : Instant) : DnsCache × Option (Except ResolveFailure ResolveAnswer) :=
  match cache.entries.lookup name with
  | none => (cache, none)
  | some entry =>
    if entry.expires ≤ now then ({ cache with entries := cache.entries.erase name }, none)
    else
      let bumped := cache.bumpUse
      -- `bump_use` clears the cache when the counter overflows
      match bumped.entries.lookup name with
      | none => (bumped, none)
      | some entry =>
        ({ bumped with entries := bumped.entries.insert name { entry with lastUsed := cache.nextUse } },
          some entry.value)

def insert (cache : DnsCache) (latest : Instant) (name : Name) (result : Except ResolveFailure ResolveAnswer)
    (ttl maximumTtl : Duration) (now : Instant) : DnsCache :=
  if ttl = 0 then cache
  else
    let cache := { cache with entries := makeRoom cache.entries name now }
    match checkedAddInstant latest now (min ttl maximumTtl) with
    | none => cache
    | some expires =>
      let bumped := cache.bumpUse
      { bumped with entries := bumped.entries.insert name ⟨result, expires, cache.nextUse, now⟩ }

/-- `DnsCache::get_family`. The entry itself is returned, where the source returns its record and its expiry. -/
def getFamily (cache : DnsCache) (name : Name) (recordType : RecordType) (now : Instant) :
    DnsCache × Option (Cached CachedFamily) :=
  match cache.familyEntries.lookup (name, recordType) with
  | none => (cache, none)
  | some entry =>
    if entry.expires ≤ now then
      ({ cache with familyEntries := cache.familyEntries.erase (name, recordType) }, none)
    else
      let bumped := cache.bumpUse
      match bumped.familyEntries.lookup (name, recordType) with
      | none => (bumped, none)
      | some entry =>
        let used := { entry with lastUsed := cache.nextUse }
        ({ bumped with familyEntries := bumped.familyEntries.insert (name, recordType) used }, some used)

def insertFamily (cache : DnsCache) (latest : Instant) (name : Name) (recordType : RecordType) (record : CachedFamily)
    (ttl maximumTtl : Duration) (now : Instant) : DnsCache × Option Instant :=
  if ttl = 0 then (cache, none)
  else
    let cache := { cache with familyEntries := makeRoom cache.familyEntries (name, recordType) now }
    match checkedAddInstant latest now (min ttl maximumTtl) with
    | none => (cache, none)
    | some expires =>
      let bumped := cache.bumpUse
      ({ bumped with
          familyEntries := bumped.familyEntries.insert (name, recordType) ⟨record, expires, cache.nextUse, now⟩ },
        some expires)

def removeHttp (cache : DnsCache) (name : Name) : DnsCache := { cache with entries := cache.entries.erase name }

end DnsCache

end NbReq.Dns
