import Mathlib.Data.List.Count
import Mathlib.Data.Nat.ModEq
import Mathlib.Data.Set.Function

/-!
# Retries in rounds

What has been tried by someone who tries one target after another, each a number of times before the next one
(`rounds`). If the targets are different, no target has been tried more often than that, and the ones that were left
behind exactly so often. `rotation` is the order in which a ring of targets is gone round.
-/

namespace RoundRobin

section

variable {α : Type} {limit full part : ℕ} {target : ℕ → α}

/-- The first `full` targets, each `limit` times, and then the next one `part` times. -/
def rounds (limit : ℕ) (target : ℕ → α) (full part : ℕ) : List α :=
  (List.range full).flatMap (fun k => List.replicate limit (target k)) ++ List.replicate part (target full)

theorem rounds_zero : rounds limit target 0 0 = [] := rfl

theorem rounds_succ : rounds limit target full (part + 1) = rounds limit target full part ++ [target full] := by
  rw [rounds, rounds, List.replicate_succ', List.append_assoc]

theorem rounds_next : rounds limit target full limit = rounds limit target (full + 1) 0 := by
  simp only [rounds, List.range_succ, List.flatMap_append, List.flatMap_singleton, List.replicate_zero, List.append_nil]

theorem length_rounds : (rounds limit target full part).length = full * limit + part := by
  simp only [rounds, List.length_append, List.length_flatMap, List.length_replicate, List.map_const', List.length_range,
    List.sum_replicate_nat]

theorem mem_rounds {a : α} (mem : a ∈ rounds limit target full part) : ∃ k ≤ full, a = target k := by
  rcases List.mem_append.mp mem with earlier | last
  · obtain ⟨k, isBefore, isTarget⟩ := List.mem_flatMap.mp earlier
    exact ⟨k, (List.mem_range.mp isBefore).le, List.eq_of_mem_replicate isTarget⟩
  · exact ⟨full, le_rfl, List.eq_of_mem_replicate last⟩

variable [DecidableEq α]

theorem count_rounds_self (different : Set.InjOn target {k | k ≤ full}) :
    (rounds limit target full part).count (target full) = part := by
  have earlier : target full ∉ (List.range full).flatMap fun k => List.replicate limit (target k) := by
    intro mem
    obtain ⟨k, isBefore, isTarget⟩ := List.mem_flatMap.mp mem
    have before : k < full := List.mem_range.mp isBefore
    have same : full = k := different (le_refl full) before.le (List.eq_of_mem_replicate isTarget)
    exact absurd before (same ▸ lt_irrefl _)
  rw [rounds, List.count_append, List.count_eq_zero_of_not_mem earlier, List.count_replicate_self, Nat.zero_add]

theorem count_rounds_of_lt (different : Set.InjOn target {k | k ≤ full}) {k : ℕ} (past : k < full) :
    (rounds limit target full part).count (target k) = limit := by
  induction full generalizing part with
  | zero => exact absurd past (Nat.not_lt_zero k)
  | succ full ih =>
    have elsewhere : target (full + 1) ≠ target k := by
      intro same
      have : full + 1 = k := different (le_refl (full + 1)) past.le same
      omega
    have fewer : Set.InjOn target {k | k ≤ full} := different.mono fun _ le => Nat.le_succ_of_le le
    have last : (rounds limit target (full + 1) part).count (target k) =
        (rounds limit target full limit).count (target k) := by
      rw [rounds_next, rounds, rounds, List.count_append, List.count_append, List.count_replicate,
        if_neg (by simpa using elsewhere), List.replicate_zero, List.count_nil]
    rw [last]
    rcases Nat.lt_succ_iff_lt_or_eq.mp past with earlier | rfl
    · exact ih fewer earlier
    · exact count_rounds_self fewer

theorem count_rounds_le (different : Set.InjOn target {k | k ≤ full}) (within : part ≤ limit) (a : α) :
    (rounds limit target full part).count a ≤ limit := by
  by_cases tried : a ∈ rounds limit target full part
  · obtain ⟨k, le, rfl⟩ := mem_rounds tried
    rcases le.lt_or_eq with past | rfl
    · exact (count_rounds_of_lt different past).le
    · exact (count_rounds_self different).trans_le within
  · rw [List.count_eq_zero_of_not_mem tried]
    exact Nat.zero_le _

theorem count_rounds_of_le (different : Set.InjOn target {k | k ≤ full}) {k : ℕ} (tried : k ≤ full) :
    (rounds limit target full limit).count (target k) = limit := by
  rcases tried.lt_or_eq with past | rfl
  · exact count_rounds_of_lt different past
  · exact count_rounds_self different

end

/-! ## Rings -/

/-- The targets of a ring of `n`, from `start` on. -/
def rotation (n start k : ℕ) : ℕ := (start + k) % n

variable {n start : ℕ}

theorem rotation_succ {k : ℕ} : rotation n start (k + 1) = (rotation n start k + 1) % n := by
  rw [rotation, rotation, ← Nat.add_assoc, Nat.mod_add_mod]

/-- The targets are different until the ring is closed. -/
theorem rotation_injOn {last : ℕ} (inside : last < n) : Set.InjOn (rotation n start) {k | k ≤ last} := by
  intro j jLe k kLe same
  have congruent : j ≡ k [MOD n] := Nat.ModEq.add_left_cancel' start same
  exact congruent.eq_of_lt_of_lt (lt_of_le_of_lt jLe inside) (lt_of_le_of_lt kLe inside)

/-- Every target of the ring is met. -/
theorem exists_rotation_eq (start : ℕ) {target : ℕ} (inside : target < n) : ∃ k < n, rotation n start k = target := by
  have some : 0 < n := Nat.zero_lt_of_lt inside
  have short : start % n < n := Nat.mod_lt start some
  refine ⟨(target + (n - start % n)) % n, Nat.mod_lt _ some, ?_⟩
  calc (start + (target + (n - start % n)) % n) % n
      = (start % n + (target + (n - start % n))) % n := by rw [Nat.add_mod_mod, ← Nat.mod_add_mod]
    _ = (target + n) % n := by congr 1; omega
    _ = target := by rw [Nat.add_mod_right, Nat.mod_eq_of_lt inside]

end RoundRobin
