import Mathlib.Data.List.Basic
import Mathlib.Logic.Relation

/-!
# Stores with stamped entries

A store whose entries carry the time at which they were put in, with a history of what was learned about its keys and
what was read. The store may lose entries at any time. The rule for such a store is that what is learned about a key is
kept in it, or at least nothing older stays: then nothing is ever read that is older than what was learned before
(`Recent.reads_recent`).
-/

namespace Stamps

inductive Note (κ : Type) where
  /-- Something was learned about the key at a time. `kept` says that the store has nothing older for it now. -/
  | learned (key : κ) (time : Nat) (kept : Bool)
  /-- Something was read for the key that had been put in at a time. `direct` says that it is the key's own entry. -/
  | read (key : κ) (stamp : Nat) (direct : Bool)

/-- The times at which the entries were put in, the current time and the history. -/
structure Store (κ : Type) where
  stamp : κ → Option Nat
  now : Nat
  history : List (Note κ)

variable {κ : Type} {s s' : Store κ}

/-- Time passes; an entry was there before, or it has been put in since. -/
structure Ages (s s' : Store κ) : Prop where
  later : s.now ≤ s'.now
  stamps : ∀ key stamp, s'.stamp key = some stamp → s.stamp key = some stamp ∨ s.now ≤ stamp

/-- What may happen to the store: some things are learned, those that are kept replace what it had, or some things are
read. -/
inductive Move (s s' : Store κ) : Prop where
  | learn (notes : List (κ × Bool)) (ages : Ages s s')
      (history : s'.history = s.history ++ notes.map fun note => .learned note.1 s.now note.2)
      (kept : ∀ key, (key, true) ∈ notes → ∀ stamp, s'.stamp key = some stamp → s.now ≤ stamp)
  | read (notes : List (κ × Nat × Bool)) (ages : Ages s s')
      (history : s'.history = s.history ++ notes.map fun note => .read note.1 note.2.1 note.2.2)
      (found : ∀ key stamp, (key, stamp, true) ∈ notes → s.stamp key = some stamp)

abbrev Run : Store κ → Store κ → Prop := Relation.ReflTransGen Move

theorem Move.quiet (ages : Ages s s') (same : s'.history = s.history) : Move s s' :=
  .learn [] ages (by simp [same]) (fun _ => nofun)

/-- What is read later than something that was learned and kept is not older. -/
def Note.Before : Note κ → Note κ → Prop
  | .learned key time true, .read key' stamp true => key = key' → time ≤ stamp
  | _, _ => True

/-- Nothing in the store is older than what was learned about its key and kept, and nothing like that was read. -/
structure Recent (s : Store κ) : Prop where
  past : ∀ key time kept, .learned key time kept ∈ s.history → time ≤ s.now
  kept : ∀ key time, .learned key time true ∈ s.history → ∀ stamp, s.stamp key = some stamp → time ≤ stamp
  reads : s.history.Pairwise Note.Before

namespace Recent

theorem learn {notes : List (κ × Bool)} (recent : Recent s) (ages : Ages s s')
    (history : s'.history = s.history ++ notes.map fun note => .learned note.1 s.now note.2)
    (kept : ∀ key, (key, true) ∈ notes → ∀ stamp, s'.stamp key = some stamp → s.now ≤ stamp) : Recent s' := by
  -- what stands in the history stood there before, or was learned just now
  have known : ∀ key time isKept, .learned key time isKept ∈ s'.history →
      .learned key time isKept ∈ s.history ∨ time = s.now ∧ (key, isKept) ∈ notes := by
    intro key time isKept mem
    rw [history, List.mem_append] at mem
    refine mem.imp_right fun new => ?_
    obtain ⟨note, isNote, same⟩ := List.mem_map.mp new
    cases same
    exact ⟨rfl, isNote⟩
  refine ⟨?_, ?_, ?_⟩
  · intro key time isKept mem
    rcases known key time isKept mem with old | ⟨rfl, -⟩
    · exact Nat.le_trans (recent.past key time isKept old) ages.later
    · exact ages.later
  · intro key time mem stamp entry
    rcases known key time true mem with old | ⟨rfl, isNote⟩
    · rcases ages.stamps key stamp entry with same | new
      · exact recent.kept key time old stamp same
      · exact Nat.le_trans (recent.past key time true old) new
    · exact kept key isNote stamp entry
  · rw [history, List.pairwise_append]
    have last : ∀ earlier (note : κ × Bool), Note.Before earlier (.learned note.1 s.now note.2) := by
      intro earlier note
      cases earlier with
      | learned key time isKept => cases isKept <;> trivial
      | read => trivial
    refine ⟨recent.reads, ?_, ?_⟩
    · exact List.pairwise_map.mpr (List.pairwise_of_forall fun note other => last _ other)
    · intro earlier _ new mem
      obtain ⟨note, -, rfl⟩ := List.mem_map.mp mem
      exact last earlier note

theorem read {notes : List (κ × Nat × Bool)} (recent : Recent s) (ages : Ages s s')
    (history : s'.history = s.history ++ notes.map fun note => .read note.1 note.2.1 note.2.2)
    (found : ∀ key stamp, (key, stamp, true) ∈ notes → s.stamp key = some stamp) : Recent s' := by
  have known : ∀ key time kept, .learned key time kept ∈ s'.history → .learned key time kept ∈ s.history := by
    intro key time kept mem
    rw [history, List.mem_append] at mem
    refine mem.resolve_right fun new => ?_
    obtain ⟨note, -, same⟩ := List.mem_map.mp new
    cases same
  refine ⟨?_, ?_, ?_⟩
  · intro key time kept mem
    exact Nat.le_trans (recent.past key time kept (known key time kept mem)) ages.later
  · intro key time mem stamp entry
    rcases ages.stamps key stamp entry with same | new
    · exact recent.kept key time (known key time true mem) stamp same
    · exact Nat.le_trans (recent.past key time true (known key time true mem)) new
  rw [history, List.pairwise_append]
  refine ⟨recent.reads, ?_, ?_⟩
  · exact List.pairwise_map.mpr (List.pairwise_of_forall fun _ _ => trivial)
  intro earlier mem new isNew
  obtain ⟨⟨key, stamp, direct⟩, isNote, rfl⟩ := List.mem_map.mp isNew
  cases earlier with
  | read => trivial
  | learned key' time kept =>
    cases kept with
    | false => trivial
    | true =>
      cases direct with
      | false => trivial
      | true =>
        rintro rfl
        exact recent.kept key' time mem stamp (found key' stamp isNote)

theorem move (recent : Recent s) (move : Move s s') : Recent s' := by
  cases move with
  | learn notes ages history kept => exact recent.learn ages history kept
  | read notes ages history found => exact recent.read ages history found

theorem run (recent : Recent s) (run : Run s s') : Recent s' := by
  induction run with
  | refl => exact recent
  | tail _ step ih => exact ih.move step

/-- What is read of a key's own entry is not older than what was learned about the key before and kept. -/
theorem reads_recent {before after : List (Note κ)} {key : κ} {time stamp : Nat} (recent : Recent s)
    (split : s.history = before ++ .read key stamp true :: after) (learned : .learned key time true ∈ before) :
    time ≤ stamp := by
  have pairs := recent.reads
  rw [split, List.pairwise_append] at pairs
  exact pairs.2.2 _ learned _ List.mem_cons_self rfl

end Recent

end Stamps
