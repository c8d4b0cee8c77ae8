import Mathlib.Data.Nat.ModEq

/-!
# Waiting for a change

A waiter that sleeps on a condition variable until a shared counter differs from the one it saw. The counter wraps
around at `m`, and whoever changes it notifies the waiter only after leaving the lock.

1. `Ok.rested`: a waiter asleep with no notification on its way has seen every change.
2. `Ok.wait_running`: a waiter that missed a change does not go to sleep.

Both are up to the wrap: for fewer than `m` changes since the last look.
-/

namespace Wakeup

inductive Waiter where
  | running | asleep | woken
deriving DecidableEq, Repr

/-- The counter and its waiter, with the notifications not sent yet, and the number of all changes and of those the
waiter has looked at. -/
structure Signal where
  generation : Nat
  seen : Nat
  waiter : Waiter
  notices : Nat
  changes : Nat
  looked : Nat
deriving DecidableEq, Repr

namespace Signal

def start : Signal := ⟨0, 0, .running, 0, 0, 0⟩

variable (m : Nat)

/-- A change, whose notification is still to be sent. -/
def change (s : Signal) : Signal :=
  { s with generation := (s.generation + 1) % m, notices := s.notices + 1, changes := s.changes + 1 }

def look (s : Signal) : Signal := { s with seen := s.generation, looked := s.changes }

/-- A change by the waiter itself, which it has seen. -/
def advance (s : Signal) : Signal :=
  look { s with generation := (s.generation + 1) % m, changes := s.changes + 1 }

/-- The waiter compares the counter under the lock, and sleeps or goes on. -/
def wait (s : Signal) : Signal :=
  if s.generation = s.seen then { s with waiter := .asleep } else { s.look with waiter := .running }

/-- The waiter leaves the condition variable, notified or not. -/
def wake (s : Signal) : Signal := { s with waiter := .woken }

def notify (s : Signal) : Signal :=
  if s.waiter = .asleep then { s.wake with notices := s.notices - 1 } else { s with notices := s.notices - 1 }

structure Ok (s : Signal) : Prop where
  generation : s.generation = s.changes % m
  seen : s.seen = s.looked % m
  past : s.looked ≤ s.changes
  rested : s.waiter = .asleep → s.changes < s.looked + m → s.looked < s.changes → 0 < s.notices

variable {m} {s : Signal}

theorem Ok.start : (start).Ok m := ⟨(Nat.zero_mod m).symm, (Nat.zero_mod m).symm, Nat.le_refl 0, nofun⟩

theorem Ok.change (ok : s.Ok m) : (s.change m).Ok m where
  generation := by
    rw [Signal.change, ok.generation, Nat.mod_add_mod]
  seen := ok.seen
  past := Nat.le_succ_of_le ok.past
  rested := fun _ _ _ => Nat.succ_pos _

theorem Ok.look (ok : s.Ok m) : s.look.Ok m :=
  ⟨ok.generation, ok.generation, Nat.le_refl _, fun _ _ missed => absurd missed (Nat.lt_irrefl _)⟩

theorem Ok.advance (ok : s.Ok m) : (s.advance m).Ok m := by
  have generation : (s.generation + 1) % m = (s.changes + 1) % m := by
    rw [ok.generation, Nat.mod_add_mod]
  exact ⟨generation, generation, Nat.le_refl _, fun _ _ missed => absurd missed (Nat.lt_irrefl _)⟩

/-- Two counts less than `m` apart that wrap to the same counter are the same. -/
theorem Ok.current (ok : s.Ok m) (near : s.changes < s.looked + m) (same : s.generation = s.seen) :
    s.looked = s.changes := by
  have equal : s.looked ≡ s.changes [MOD m] := by
    rw [Nat.ModEq, ← ok.seen, ← ok.generation, same]
  obtain ⟨rounds, apart⟩ := (Nat.modEq_iff_dvd' ok.past).mp equal
  rcases rounds with _ | rounds
  · exact Nat.le_antisymm ok.past (Nat.le_of_sub_eq_zero apart)
  · have past := ok.past
    rw [Nat.mul_succ] at apart
    omega

theorem Ok.wait (ok : s.Ok m) : s.wait.Ok m := by
  unfold Signal.wait
  split
  · next same =>
    refine { ok with rested := fun _ near missed => ?_ }
    exact absurd missed (Nat.not_lt.mpr (ok.current near same).ge)
  · exact { ok.look with rested := nofun }

theorem Ok.wake (ok : s.Ok m) : s.wake.Ok m := { ok with rested := nofun }

theorem Ok.notify (ok : s.Ok m) : s.notify.Ok m := by
  unfold Signal.notify
  split
  · exact { ok with rested := nofun }
  · next awake => exact { ok with rested := fun asleep => absurd asleep awake }

/-- A waiter that missed a change goes on when it compares. -/
theorem Ok.wait_running (ok : s.Ok m) (near : s.changes < s.looked + m) (missed : s.looked < s.changes) :
    s.wait.waiter = .running := by
  unfold Signal.wait
  split
  · next same => exact absurd missed (Nat.not_lt.mpr (ok.current near same).ge)
  · rfl

end Signal

end Wakeup
