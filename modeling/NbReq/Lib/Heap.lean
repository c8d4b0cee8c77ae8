import Mathlib

/-!
# A heap of shared records

Records that several owners point to are kept in an append-only list; a reference is a position in it,
and two references are the same record exactly when they are equal. A transition over such a heap
updates records along a relation and allocates new ones.

1. `Heap.Step.all`: what new records have and updates keep, all records have.
2. `Heap.Step.lookup`: a record stays at its reference, changed only along the relation.
3. `Heap.sum_map_set`: how a sum over all records changes when one is updated.
-/

namespace Heap

variable {β : Type}

/-- A transition of the heap: updates along `Change` and allocations of `Fresh` records. -/
inductive Step (Change : β → β → Prop) (Fresh : β → Prop) : List β → List β → Prop
  | refl (heap : List β) : Step Change Fresh heap heap
  | update {heap : List β} {ref : Nat} {cell cell' : β} (found : heap[ref]? = some cell)
      (change : Change cell cell') : Step Change Fresh heap (heap.set ref cell')
  | alloc {heap : List β} {cell : β} (fresh : Fresh cell) : Step Change Fresh heap (heap ++ [cell])
  | trans {heap₁ heap₂ heap₃ : List β} (first : Step Change Fresh heap₁ heap₂)
      (second : Step Change Fresh heap₂ heap₃) : Step Change Fresh heap₁ heap₃

variable {Change : β → β → Prop} {Fresh : β → Prop} {heap heap' : List β}

theorem mem_set_cases {ref : Nat} {cell cell' : β} (mem : cell ∈ heap.set ref cell') :
    cell ∈ heap ∨ cell = cell' :=
  List.mem_or_eq_of_mem_set mem

/-- What every new record has and every change keeps, every record has. -/
theorem Step.all {P : β → Prop} (fresh : ∀ cell, Fresh cell → P cell)
    (keep : ∀ cell cell', P cell → Change cell cell' → P cell')
    (step : Step Change Fresh heap heap') (before : ∀ cell ∈ heap, P cell) :
    ∀ cell ∈ heap', P cell := by
  induction step with
  | refl => exact before
  | update found change =>
    intro cell mem
    rcases mem_set_cases mem with old | new
    · exact before cell old
    · subst new
      exact keep _ _ (before _ (List.mem_of_getElem? found)) change
  | alloc isFresh =>
    intro cell mem
    rcases List.mem_append.mp mem with old | new
    · exact before cell old
    · rw [List.mem_singleton.mp new]
      exact fresh _ isFresh
  | trans _ _ ih₁ ih₂ => exact ih₂ (ih₁ before)

/-- A record stays at its reference, and only changes along the relation. -/
theorem Step.lookup (step : Step Change Fresh heap heap') {ref : Nat} {cell : β}
    (found : heap[ref]? = some cell) :
    ∃ cell', heap'[ref]? = some cell' ∧ Relation.ReflTransGen Change cell cell' := by
  induction step generalizing cell with
  | refl => exact ⟨cell, found, .refl⟩
  | @update heap ref' old new there change =>
    have bound := (List.getElem?_eq_some_iff.mp there).1
    by_cases same : ref' = ref
    · subst same
      have eq : old = cell := Option.some.inj (there.symm.trans found)
      subst eq
      exact ⟨new, List.getElem?_set_self bound, .single change⟩
    · exact ⟨cell, by rw [List.getElem?_set_ne same, found], .refl⟩
  | alloc _ =>
    have bound := (List.getElem?_eq_some_iff.mp found).1
    exact ⟨cell, by rw [List.getElem?_append_left bound, found], .refl⟩
  | trans _ _ ih₁ ih₂ =>
    obtain ⟨mid, foundMid, first⟩ := ih₁ found
    obtain ⟨cell', foundLast, second⟩ := ih₂ foundMid
    exact ⟨cell', foundLast, first.trans second⟩

/-! ## Sums over the records -/

/-- Updating one record changes a sum over all of them by that record's difference. -/
theorem sum_map_set {ref : Nat} {cell : β} (found : heap[ref]? = some cell) (weight : β → Nat)
    (cell' : β) :
    ((heap.set ref cell').map weight).sum + weight cell = (heap.map weight).sum + weight cell' := by
  induction heap generalizing ref with
  | nil => simp at found
  | cons first rest ih =>
    cases ref with
    | zero =>
      simp only [List.getElem?_cons_zero, Option.some.injEq] at found
      subst found
      simp only [List.set_cons_zero, List.map_cons, List.sum_cons]
      omega
    | succ ref =>
      simp only [List.getElem?_cons_succ] at found
      have tail := ih found
      simp only [List.set_cons_succ, List.map_cons, List.sum_cons]
      omega

end Heap
