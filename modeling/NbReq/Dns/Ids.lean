import NbReq.Dns.Lookups
import Mathlib.Data.Int.GCD
import Mathlib.Data.Nat.Prime.Basic

/-!
# Transaction ids

`allocate_id_with_random` tries the ids on an odd stride. An odd number is coprime to the size of the id space, so the
stride reaches every id, and an unused one is found whenever there is one (`allocates_unused_id`). Public lookups may
only take an id while more of them are left than HTTP lookups are owed; `Reserved` is what that keeps over every
sequence of additions and removals, and it leaves an id for the next HTTP query (`ids_are_allocated`).
-/

namespace NbReq.Dns

abbrev Pending := AList fun _ : UInt16 => PendingQuery

/-! ## The stride -/

section

variable {pending : Pending} {stride candidate id : UInt16}

def stridden (candidate stride : UInt16) (steps : Nat) : UInt16 := candidate + UInt16.ofNat steps * stride

theorem stridden_succ (steps : Nat) :
    stridden candidate stride (steps + 1) = stridden (candidate + stride) stride steps := by
  rw [stridden, stridden, UInt16.ofNat_add, UInt16.add_mul, UInt16.add_assoc, UInt16.add_comm stride]
  congr 2
  exact UInt16.one_mul stride

theorem findUnusedId_none {steps : Nat} (missing : findUnusedId pending stride steps candidate = none) :
    ∀ step < steps, pending.lookup (stridden candidate stride step) ≠ none := by
  induction steps generalizing candidate with
  | zero => exact fun _ => nofun
  | succ steps ih =>
    rw [findUnusedId] at missing
    split at missing
    · cases missing
    rename_i used
    intro step lt
    cases step with
    | zero =>
      have start : stridden candidate stride 0 = candidate := by
        rw [stridden, show UInt16.ofNat 0 = 0 from rfl, UInt16.zero_mul, UInt16.add_zero]
      rw [start]
      exact fun unused => used (Option.isNone_iff_eq_none.mpr unused)
    | succ step =>
      rw [stridden_succ]
      exact ih missing step (Nat.lt_of_succ_lt_succ lt)

theorem exists_inverse (odd : Odd stride.toNat) : ∃ inverse : UInt16, inverse * stride = 1 := by
  have coprime : Nat.Coprime stride.toNat (2 ^ 16) := Nat.Coprime.pow_right 16 (Nat.coprime_two_right.mpr odd)
  obtain ⟨inverse, -, isOne⟩ := Nat.exists_mul_mod_eq_one_of_coprime coprime (by decide)
  refine ⟨UInt16.ofNat inverse, UInt16.toNat_inj.mp ?_⟩
  rw [UInt16.toNat_mul, UInt16.toNat_ofNat', Nat.mod_mul_mod, Nat.mul_comm, isOne]
  rfl

theorem odd_stride (stride : UInt16) : Odd (stride ||| 1).toNat := by
  have last : ((stride ||| 1).toNat.testBit 0) = true := by
    rw [UInt16.toNat_or, Nat.testBit_or]
    exact Bool.or_true _
  rw [Nat.odd_iff]
  exact of_decide_eq_true (Nat.testBit_zero _ ▸ last)

/-- An odd stride reaches every id. -/
theorem stridden_surjective (candidate : UInt16) (odd : Odd stride.toNat) (id : UInt16) :
    ∃ step < dnsTransactionIdSpace, stridden candidate stride step = id := by
  obtain ⟨inverse, isOne⟩ := exists_inverse odd
  refine ⟨((id - candidate) * inverse).toNat, UInt16.toNat_lt _, ?_⟩
  rw [stridden, UInt16.ofNat_toNat, UInt16.mul_assoc, isOne, UInt16.mul_one, UInt16.add_comm,
    UInt16.sub_add_cancel]

end

/-! ## Allocation -/

def Pending.httpCount (pending : Pending) : Nat := pending.entries.countP fun entry => !entry.2.policy.isPublic

/-- The class of the caller may allocate: always for HTTP, and for a public lookup while more ids are left than HTTP is
owed. -/
def MayAllocate (pending : Pending) (isPublic : Bool) : Prop :=
  isPublic = true → httpDnsTxidReserve - pending.httpCount < dnsTransactionIdSpace - pending.keys.length

section

variable {pending : Pending} {isPublic : Bool}

theorem publicTxidAvailable_iff :
    publicTxidAvailable pending = true ↔
      httpDnsTxidReserve - pending.httpCount < dnsTransactionIdSpace - pending.keys.length := by
  unfold publicTxidAvailable publicTxidAvailableCounts
  rw [Pending.httpCount]
  split
  · rename_i full
    rw [Nat.sub_eq_zero_of_le full]
    exact ⟨nofun, nofun⟩
  · exact decide_eq_true_iff

/-- Ids without repetition are at most as many as there are. -/
theorem length_le_space {ids : List UInt16} (distinct : ids.Nodup) : ids.length ≤ dnsTransactionIdSpace := by
  have numbers : (ids.map (·.toNat)).Nodup := distinct.map fun _ _ => UInt16.toNat_inj.mp
  have bounded : ids.map (·.toNat) ⊆ List.range dnsTransactionIdSpace := by
    intro number mem
    obtain ⟨id, -, rfl⟩ := List.mem_map.mp mem
    exact List.mem_range.mpr (UInt16.toNat_lt id)
  have le := (numbers.subperm bounded).length_le
  rwa [List.length_map, List.length_range] at le

theorem unused_notMem {id : UInt16} (unused : pending.lookup id = none) : id ∉ pending.keys :=
  AList.lookup_eq_none.mp unused

/-- There is an unused id if and only if fewer queries are in flight than there are ids. -/
theorem exists_unused_iff : (∃ id, pending.lookup id = none) ↔ pending.keys.length < dnsTransactionIdSpace := by
  constructor
  · rintro ⟨id, unused⟩
    exact length_le_space (List.nodup_cons.mpr ⟨unused_notMem unused, pending.keys_nodup⟩)
  intro room
  by_contra full
  have all : (List.range dnsTransactionIdSpace).map UInt16.ofNat ⊆ pending.keys := by
    intro id _
    by_contra absent
    exact full ⟨id, AList.lookup_eq_none.mpr absent⟩
  have distinct : ((List.range dnsTransactionIdSpace).map UInt16.ofNat).Nodup := by
    refine List.Nodup.map_on ?_ List.nodup_range
    intro x inX y inY same
    have numbers := congrArg UInt16.toNat same
    rw [UInt16.toNat_ofNat', UInt16.toNat_ofNat'] at numbers
    exact (Nat.mod_eq_of_lt (List.mem_range.mp inX)).symm.trans
      (numbers.trans (Nat.mod_eq_of_lt (List.mem_range.mp inY)))
  have le := (distinct.subperm all).length_le
  rw [List.length_map, List.length_range] at le
  exact Nat.not_lt.mpr le room

theorem findUnusedId_found {stride candidate : UInt16} (free : ∃ id, pending.lookup id = none) :
    ∃ id, findUnusedId pending (stride ||| 1) dnsTransactionIdSpace candidate = some id ∧ pending.lookup id = none := by
  cases found : findUnusedId pending (stride ||| 1) dnsTransactionIdSpace candidate with
  | some id => exact ⟨id, rfl, findUnusedId_unused found⟩
  | none =>
    obtain ⟨id, unused⟩ := free
    obtain ⟨step, lt, reached⟩ := stridden_surjective candidate (odd_stride stride) id
    rw [← reached] at unused
    exact absurd unused (findUnusedId_none found step lt)

theorem allocates_unused_id (allowed : MayAllocate pending isPublic) (free : ∃ id, pending.lookup id = none)
    (random : UInt16 × UInt16) :
    ∃ id, allocateIdWithRandom pending isPublic (.ok random) = .ok (some id) ∧ pending.lookup id = none := by
  obtain ⟨id, found, unused⟩ := findUnusedId_found free
  refine ⟨id, ?_, unused⟩
  have mayTake : ¬(isPublic && !publicTxidAvailable pending) = true := by
    rw [Bool.and_eq_true_iff, Bool.not_eq_true']
    rintro ⟨isPublic, unavailable⟩
    rw [publicTxidAvailable_iff.mpr (allowed isPublic)] at unavailable
    cases unavailable
  rw [allocateIdWithRandom, if_neg mayTake, if_neg (Nat.not_le.mpr (exists_unused_iff.mp free))]
  exact congrArg Except.ok found

/-- What an allocation says about the queries in flight. -/
theorem allocateIdWithRandom_allowed {random : Except String (UInt16 × UInt16)} {id : UInt16}
    (allocated : allocateIdWithRandom pending isPublic random = .ok (some id)) :
    MayAllocate pending isPublic ∧ pending.keys.length < dnsTransactionIdSpace := by
  unfold allocateIdWithRandom at allocated
  split at allocated
  · cases allocated
  rename_i mayTake
  split at allocated
  · cases allocated
  rename_i room
  refine ⟨fun isPublic => publicTxidAvailable_iff.mp ?_, Nat.not_le.mp room⟩
  by_contra unavailable
  exact mayTake (by rw [isPublic, Bool.eq_false_of_not_eq_true unavailable]; rfl)

end

/-! ## The reserve -/

/-- The queries in flight change by an addition under an allocated id or by a removal; a query may also be replaced by
another of its class. -/
inductive Change (pending : Pending) : Pending → Prop where
  | add {query : PendingQuery} {random : Except String (UInt16 × UInt16)} {id : UInt16}
      (allocated : allocateIdWithRandom pending query.policy.isPublic random = .ok (some id)) :
      Change pending (pending.insert id query)
  | remove (id : UInt16) : Change pending (pending.erase id)
  | update {id : UInt16} {query next : PendingQuery} (found : pending.lookup id = some query)
      (sameClass : next.policy.isPublic = query.policy.isPublic) : Change pending (pending.insert id next)

/-- The ids that HTTP is still owed are left. -/
def Reserved (pending : Pending) : Prop :=
  pending.keys.length + (httpDnsTxidReserve - pending.httpCount) ≤ dnsTransactionIdSpace

section

variable {pending pending' : Pending} {id : UInt16} {query : PendingQuery}

def PendingQuery.httpWeight (query : PendingQuery) : Nat := if query.policy.isPublic then 0 else 1

theorem httpCount_eq_total : pending.httpCount = pending.total fun _ query => query.httpWeight := by
  rw [Pending.httpCount, AList.total]
  induction pending.entries with
  | nil => rfl
  | cons entry rest ih =>
    rw [List.countP_cons, List.map_cons, List.sum_cons, ih, Nat.add_comm, PendingQuery.httpWeight]
    cases entry.2.policy.isPublic <;> rfl

theorem length_eq_total : pending.keys.length = pending.total fun _ _ => 1 := by
  rw [AList.total, AList.keys, List.keys, List.length_map]
  induction pending.entries with
  | nil => rfl
  | cons entry rest ih => rw [List.length_cons, List.map_cons, List.sum_cons, ih, Nat.add_comm]

theorem counts_insert (query : PendingQuery) (unused : pending.lookup id = none) :
    (pending.insert id query).keys.length = pending.keys.length + 1 ∧
      Pending.httpCount (pending.insert id query) = pending.httpCount + query.httpWeight := by
  rw [length_eq_total, length_eq_total, httpCount_eq_total, httpCount_eq_total,
    AList.total_insert_of_lookup_none unused, AList.total_insert_of_lookup_none unused]
  exact ⟨Nat.add_comm _ _, Nat.add_comm _ _⟩

theorem counts_erase (found : pending.lookup id = some query) :
    pending.keys.length = (pending.erase id).keys.length + 1 ∧
      pending.httpCount = Pending.httpCount (pending.erase id) + query.httpWeight := by
  rw [length_eq_total, length_eq_total, httpCount_eq_total, httpCount_eq_total, AList.total_of_lookup found,
    AList.total_of_lookup found]
  exact ⟨Nat.add_comm _ _, Nat.add_comm _ _⟩

theorem httpWeight_le (query : PendingQuery) : query.httpWeight ≤ 1 := by
  unfold PendingQuery.httpWeight
  split <;> decide

theorem Reserved.change (reserved : Reserved pending) (change : Change pending pending') : Reserved pending' := by
  unfold Reserved at reserved ⊢
  cases change with
  | @add query random id allocated =>
    obtain ⟨allowed, room⟩ := allocateIdWithRandom_allowed allocated
    obtain ⟨length, count⟩ := counts_insert query (allocateIdWithRandom_unused allocated)
    rw [length, count, PendingQuery.httpWeight]
    split
    · rename_i isPublic
      have left := allowed isPublic
      omega
    · omega
  | remove id =>
    cases found : pending.lookup id with
    | none =>
      rw [AList.erase_of_lookup_none found]
      exact reserved
    | some query =>
      obtain ⟨length, count⟩ := counts_erase found
      have weight := httpWeight_le query
      omega
  | @update id query next found sameClass =>
    have weight : next.httpWeight = query.httpWeight := by
      rw [PendingQuery.httpWeight, PendingQuery.httpWeight, sameClass]
    have length : (pending.insert id next).keys.length = pending.keys.length := by
      rw [length_eq_total, length_eq_total]
      exact AList.total_replace found rfl
    have count : Pending.httpCount (pending.insert id next) = pending.httpCount := by
      rw [httpCount_eq_total, httpCount_eq_total, AList.total_replace found weight]
    rw [length, count]
    exact reserved

theorem Reserved.changes (reserved : Reserved pending) (changes : Relation.ReflTransGen Change pending pending') :
    Reserved pending' := by
  induction changes with
  | refl => exact reserved
  | tail _ change ih => exact ih.change change

/-- The reserve leaves an id for HTTP as long as it has not used it up. -/
theorem Reserved.exists_unused (reserved : Reserved pending) (owed : pending.httpCount < httpDnsTxidReserve) :
    ∃ id, pending.lookup id = none := by
  rw [exists_unused_iff]
  unfold Reserved at reserved
  omega

end

/-- An unused id is allocated whenever the class of the caller may allocate and there is one, and after every sequence
of changes there is one for HTTP while fewer HTTP queries are in flight than the reserve. -/
theorem ids_are_allocated :
    (∀ (pending : Pending) (isPublic : Bool) (random : UInt16 × UInt16), MayAllocate pending isPublic →
      (∃ id, pending.lookup id = none) →
      ∃ id, allocateIdWithRandom pending isPublic (.ok random) = .ok (some id) ∧ pending.lookup id = none) ∧
    (∀ (pending : Pending) (random : UInt16 × UInt16), Relation.ReflTransGen Change ∅ pending →
      pending.httpCount < httpDnsTxidReserve →
      ∃ id, allocateIdWithRandom pending false (.ok random) = .ok (some id) ∧ pending.lookup id = none) := by
  refine ⟨fun pending isPublic random allowed free => allocates_unused_id allowed free random, ?_⟩
  intro pending random changes owed
  have start : Reserved ∅ := Nat.le_of_ble_eq_true rfl
  refine allocates_unused_id (fun isPublic => ?_) ((start.changes changes).exists_unused owed) random
  cases isPublic

theorem ids_are_allocated_example :
    ∃ id, allocateIdWithRandom ∅ true (.ok (5, 4)) = .ok (some id) ∧
      AList.lookup id (∅ : Pending) = none :=
  ids_are_allocated.1 ∅ true (5, 4) (fun _ => Nat.le_of_ble_eq_true rfl) ⟨0, rfl⟩

end NbReq.Dns
