import Mathlib

/-!
# Association lists as maps

The operations of a hash map that `AList` lacks, said by what they do to a lookup, and sums over the entries.

What an association list adds up to when every entry contributes an element of a commutative monoid: the number of
entries of some kind, the multiset of a field, the length of the values. The sum is described by what `insert` and
`erase` do to it, so that bookkeeping over a map needs no induction over its entries.
-/

namespace AList

variable {α β M : Type} [AddCommMonoid M]

def total (f : α → β → M) (s : AList fun _ : α => β) : M := (s.entries.map fun entry => f entry.1 entry.2).sum

variable {f : α → β → M} {s : AList fun _ : α => β} {a : α} {b b' : β}

variable [DecidableEq α]

/-- An inserted entry contributes, and the one it replaces no longer does. -/
theorem total_insert : total f (s.insert a b) = f a b + total f (s.erase a) := by
  simp [total, AList.insert, AList.erase, List.kinsert]

theorem erase_of_lookup_none (absent : s.lookup a = none) : s.erase a = s := by
  have notKey : a ∉ s.entries.keys := AList.lookup_eq_none.mp absent
  exact AList.ext (List.kerase_of_notMem_keys notKey)

/-- The contribution of one entry, taken out of the sum. -/
theorem total_of_lookup (found : s.lookup a = some b) : total f s = f a b + total f (s.erase a) := by
  have key : a ∈ s.entries.keys := AList.lookup_isSome.mp (by simp [found])
  obtain ⟨b', left, right, fresh, entries, erased⟩ := List.exists_of_kerase key
  have same : b' = b := by
    have : s.entries.dlookup a = some b := found
    rw [entries, List.dlookup_append, List.dlookup_eq_none.mpr fresh, List.dlookup_cons_eq] at this
    simpa using this
  subst same
  have rest : (s.erase a).entries = left ++ right := erased
  rw [total, total, rest, entries]
  simp only [List.map_append, List.map_cons, List.sum_append, List.sum_cons]
  rw [add_left_comm]

theorem total_insert_of_lookup_none (absent : s.lookup a = none) :
    total f (s.insert a b) = f a b + total f s := by
  rw [total_insert, erase_of_lookup_none absent]

/-- Replacing an entry by one that contributes the same changes nothing. -/
theorem total_replace (found : s.lookup a = some b) (same : f a b' = f a b) :
    total f (s.insert a b') = total f s := by
  rw [total_insert, total_of_lookup found, same]

theorem insert_erase : (s.erase a).insert a b = s.insert a b :=
  AList.ext (by
    simp only [AList.insert, AList.erase, List.kinsert]
    rw [List.kerase_of_notMem_keys (List.notMem_keys_kerase a s.nodupKeys)])

theorem lookup_insert_eq_some {x : α} {v : β} :
    (s.insert a b).lookup x = some v ↔ x = a ∧ v = b ∨ x ≠ a ∧ s.lookup x = some v := by
  by_cases same : x = a
  · subst same
    simp [eq_comm]
  · simp [same, lookup_insert_ne same]

theorem lookup_erase_eq_some {x : α} {v : β} :
    (s.erase a).lookup x = some v ↔ x ≠ a ∧ s.lookup x = some v := by
  by_cases same : x = a
  · subst same
    simp
  · simp [same, lookup_erase_ne same]

/-! ## Filtering and mapping the values -/

def retain (p : β → Bool) (s : AList fun _ : α => β) : AList fun _ : α => β :=
  ⟨s.entries.filter fun entry => p entry.2, s.nodupKeys.sublist List.filter_sublist⟩

theorem lookup_retain_eq_some {p : β → Bool} :
    (s.retain p).lookup a = some b ↔ s.lookup a = some b ∧ p b = true := by
  have kept : (⟨a, b⟩ : Sigma fun _ : α => β) ∈ (s.retain p).entries ↔ ⟨a, b⟩ ∈ s.entries ∧ p b = true := by
    simp only [retain, List.mem_filter]
  rw [← Option.mem_def, ← Option.mem_def, AList.mem_lookup_iff, AList.mem_lookup_iff, kept]

def mapValues (g : β → β) (s : AList fun _ : α => β) : AList fun _ : α => β :=
  ⟨s.entries.map fun entry => ⟨entry.1, g entry.2⟩, by
    have sameKeys :
        (s.entries.map fun entry => (⟨entry.1, g entry.2⟩ : Sigma fun _ : α => β)).keys = s.entries.keys := by
      simp [List.keys]
    rw [List.NodupKeys, sameKeys]
    exact s.nodupKeys⟩

theorem lookup_mapValues {g : β → β} : (s.mapValues g).lookup a = (s.lookup a).map g := by
  obtain ⟨entries, nodup⟩ := s
  simp only [mapValues, AList.lookup]
  clear nodup
  induction entries with
  | nil => rfl
  | cons entry rest ih =>
    obtain ⟨key, value⟩ := entry
    by_cases same : key = a
    · subst same
      simp
    · simp only [List.map_cons]
      rw [List.dlookup_cons_ne _ _ (Ne.symm same), List.dlookup_cons_ne _ _ (Ne.symm same), ih]

end AList
