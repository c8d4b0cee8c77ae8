import Mathlib.Data.List.Basic

/-!
# Queues of chunks

A queue that holds its elements in chunks and consumes the first chunk piecewise, as network buffers do. Only
its contents matter: the chunks one after the other, without what is consumed of the first.

1. `Ok.contents_push`: pushing a chunk appends it.
2. `Ok.drain`: draining takes elements off the front, whatever the chunks are.
-/

namespace Chunks

variable {α : Type} {chunks rest : List (List α)} {chunk : List α} {offset : Nat}

def contents (chunks : List (List α)) (offset : Nat) : List α := chunks.flatten.drop offset

/-- No chunk is empty, and the first one is not consumed to its end. -/
inductive Ok : List (List α) → Nat → Prop
  | nil : Ok [] 0
  | cons {chunk : List α} {rest : List (List α)} {offset : Nat} (within : offset < chunk.length)
      (nonempty : ∀ chunk ∈ rest, chunk ≠ []) : Ok (chunk :: rest) offset

/-- Takes up to `space` elements off the front: the elements, the chunks left and the new offset. -/
def drain (space : Nat) : List (List α) → Nat → List α × List (List α) × Nat
  | [], offset => ([], [], offset)
  | chunk :: rest, offset =>
    if space = 0 then
      ([], chunk :: rest, offset)
    else
      let take := min (chunk.length - offset) space
      let elements := (chunk.drop offset).take take
      if offset + take = chunk.length then
        let (more, rest, offset) := drain (space - take) rest 0
        (elements ++ more, rest, offset)
      else
        (elements, chunk :: rest, offset + take)

@[simp] theorem contents_nil : contents ([] : List (List α)) 0 = [] := rfl

theorem contents_zero : contents chunks 0 = chunks.flatten := rfl

theorem contents_cons (within : offset ≤ chunk.length) :
    contents (chunk :: rest) offset = chunk.drop offset ++ rest.flatten := by
  rw [contents, List.flatten_cons, List.drop_append_of_le_length within]

theorem Ok.of_nonempty (nonempty : ∀ chunk ∈ chunks, chunk ≠ []) : Ok chunks 0 := by
  cases chunks with
  | nil => exact .nil
  | cons chunk rest =>
    refine .cons (List.length_pos_iff.mpr (nonempty chunk List.mem_cons_self)) ?_
    exact fun chunk mem => nonempty chunk (List.mem_cons_of_mem _ mem)

theorem Ok.offset_le (ok : Ok chunks offset) : offset ≤ chunks.flatten.length := by
  cases ok with
  | nil => exact Nat.le_refl 0
  | cons within =>
    rw [List.flatten_cons, List.length_append]
    omega

theorem Ok.length_contents (ok : Ok chunks offset) :
    (contents chunks offset).length + offset = chunks.flatten.length := by
  have le := ok.offset_le
  rw [contents, List.length_drop]
  omega

/-- A queue with nothing in it has no chunks. -/
theorem Ok.eq_nil (ok : Ok chunks offset) (empty : contents chunks offset = []) :
    chunks = [] ∧ offset = 0 := by
  cases ok with
  | nil => exact ⟨rfl, rfl⟩
  | cons within =>
    rw [contents_cons (Nat.le_of_lt within), List.append_eq_nil_iff, List.drop_eq_nil_iff] at empty
    omega

theorem Ok.push (ok : Ok chunks offset) (nonempty : chunk ≠ []) : Ok (chunks ++ [chunk]) offset := by
  cases ok with
  | nil => exact .cons (List.length_pos_iff.mpr nonempty) (by simp)
  | cons within others =>
    refine .cons within fun other mem => ?_
    rcases List.mem_append.mp mem with mem | mem
    · exact others other mem
    · rw [List.mem_singleton.mp mem]
      exact nonempty

theorem Ok.contents_push (ok : Ok chunks offset) (chunk : List α) :
    contents (chunks ++ [chunk]) offset = contents chunks offset ++ chunk := by
  rw [contents, List.flatten_append, List.drop_append_of_le_length ok.offset_le, List.flatten_singleton,
    contents]

/-- Draining takes elements off the front. -/
theorem Ok.drain (ok : Ok chunks offset) (space : Nat) :
    (Chunks.drain space chunks offset).1 = (contents chunks offset).take space ∧
    contents (Chunks.drain space chunks offset).2.1 (Chunks.drain space chunks offset).2.2 =
      (contents chunks offset).drop space ∧
    Ok (Chunks.drain space chunks offset).2.1 (Chunks.drain space chunks offset).2.2 := by
  induction chunks generalizing space offset with
  | nil =>
    cases ok
    exact ⟨by simp [Chunks.drain], by simp [Chunks.drain], .nil⟩
  | cons chunk rest ih =>
    obtain _ | ⟨within, nonempty⟩ := ok
    rw [Chunks.drain]
    split
    · next zero =>
      subst zero
      exact ⟨rfl, rfl, .cons within nonempty⟩
    next some_space =>
    simp only
    rw [contents_cons (Nat.le_of_lt within)]
    split
    · next whole =>
      -- The chunk is used up: the rest of the space goes to the following chunks.
      have take_eq : min (chunk.length - offset) space = (chunk.drop offset).length := by
        rw [List.length_drop]
        omega
      have fits : (chunk.drop offset).length ≤ space := take_eq ▸ Nat.min_le_right _ _
      obtain ⟨bytes, left, ok'⟩ := ih (.of_nonempty nonempty) (space - (chunk.drop offset).length)
      rw [contents_zero] at bytes left
      rw [take_eq, List.take_length, List.take_append, List.drop_append, List.take_of_length_le fits,
        List.drop_eq_nil_of_le fits, List.nil_append]
      exact ⟨by rw [bytes], left, ok'⟩
    · next part =>
      have take_eq : min (chunk.length - offset) space = space := by omega
      have short : space ≤ (chunk.drop offset).length := by
        rw [List.length_drop]
        omega
      rw [take_eq] at part ⊢
      have below : offset + space < chunk.length := by
        rw [List.length_drop] at short
        omega
      rw [List.take_append_of_le_length short, List.drop_append_of_le_length short,
        contents_cons (Nat.le_of_lt below), List.drop_drop]
      exact ⟨rfl, rfl, .cons below nonempty⟩

end Chunks
