import Mathlib.Data.List.Basic

/-!
# Histories

A history is a list of events, the oldest first. What is said of it is said of each event together with the events
before it.

1. `always_snoc`, `ever_snoc`, `since_snoc`: what a new event adds.
-/

namespace History

variable {α : Type} {P Q : List α → α → Prop} {log before after : List α} {event last : α}

/-- `P` holds of every event and what was before it. -/
def Always (P : List α → α → Prop) (log : List α) : Prop :=
  ∀ before event after, log = before ++ event :: after → P before event

/-- `P` holds of some event and what was before it. -/
def Ever (P : List α → α → Prop) (log : List α) : Prop :=
  ∃ before event after, log = before ++ event :: after ∧ P before event

/-- An event of a longer history is the new one or an old one. -/
theorem snoc_eq (split : log ++ [last] = before ++ event :: after) :
    (before = log ∧ event = last) ∨ ∃ rest, log = before ++ event :: rest := by
  rcases List.eq_nil_or_concat after with rfl | ⟨rest, newest, rfl⟩
  · have := List.append_inj' split rfl
    exact .inl ⟨this.1.symm, (List.cons.inj this.2).1.symm⟩
  · have : log ++ [last] = (before ++ event :: rest) ++ [newest] := by simpa using split
    exact .inr ⟨rest, (List.append_inj' this rfl).1⟩

theorem always_nil : Always P [] := fun before event after split => by
  have := congrArg List.length split
  simp at this

theorem ever_nil : ¬Ever P [] := fun ⟨before, event, after, split, _⟩ => by
  have := congrArg List.length split
  simp at this

theorem always_snoc : Always P (log ++ [last]) ↔ Always P log ∧ P log last := by
  constructor
  · intro always
    refine ⟨fun before event after split => ?_, always log last [] rfl⟩
    exact always before event (after ++ [last]) (by rw [split, List.append_assoc, List.cons_append])
  · rintro ⟨always, new⟩ before event after split
    rcases snoc_eq split with ⟨rfl, rfl⟩ | ⟨rest, old⟩
    · exact new
    · exact always before event rest old

theorem ever_snoc : Ever P (log ++ [last]) ↔ Ever P log ∨ P log last := by
  constructor
  · rintro ⟨before, event, after, split, holds⟩
    rcases snoc_eq split with ⟨rfl, rfl⟩ | ⟨rest, old⟩
    · exact .inr holds
    · exact .inl ⟨before, event, rest, old, holds⟩
  · rintro (⟨before, event, after, split, holds⟩ | new)
    · exact ⟨before, event, after ++ [last], by rw [split, List.append_assoc, List.cons_append], holds⟩
    · exact ⟨log, last, [], rfl, new⟩

theorem Ever.snoc (ever : Ever P log) (last : α) : Ever P (log ++ [last]) := ever_snoc.mpr (.inl ever)

theorem Ever.mono (ever : Ever P log) (imp : ∀ before event, P before event → Q before event) : Ever Q log := by
  obtain ⟨before, event, after, split, holds⟩ := ever
  exact ⟨before, event, after, split, imp before event holds⟩

/-- Some event is as `P` says, and none after it is as `Q` says. -/
def Since (P Q : α → Prop) (log : List α) : Prop :=
  ∃ before event after, log = before ++ event :: after ∧ P event ∧ ∀ later ∈ after, ¬Q later

theorem since_nil {P Q : α → Prop} : ¬Since P Q [] := by
  rintro ⟨before, event, after, split, -⟩
  have := congrArg List.length split
  simp at this

theorem since_snoc {P Q : α → Prop} : Since P Q (log ++ [last]) ↔ P last ∨ (Since P Q log ∧ ¬Q last) := by
  constructor
  · rintro ⟨before, event, after, split, holds, none⟩
    rcases List.eq_nil_or_concat after with rfl | ⟨rest, newest, rfl⟩
    · obtain ⟨-, same⟩ := List.append_inj' split rfl
      exact .inl ((List.cons.inj same).1 ▸ holds)
    have longer : log ++ [last] = (before ++ event :: rest) ++ [newest] := by simpa using split
    obtain ⟨old, same⟩ := List.append_inj' longer rfl
    refine .inr ⟨⟨before, event, rest, old, holds, fun later mem => none later (by simp [mem])⟩, ?_⟩
    exact (List.cons.inj same).1 ▸ none newest (by simp)
  · rintro (holds | ⟨⟨before, event, after, split, holds, none⟩, new⟩)
    · exact ⟨log, last, [], rfl, holds, nofun⟩
    refine ⟨before, event, after ++ [last], by rw [split, List.append_assoc, List.cons_append], holds, ?_⟩
    intro later mem
    rcases List.mem_append.mp mem with old | isLast
    · exact none later old
    · exact List.mem_singleton.mp isLast ▸ new

end History
