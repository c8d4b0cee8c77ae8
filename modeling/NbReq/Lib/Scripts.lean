import Mathlib.Logic.Relation

/-!
# Scripts

A turn is a partial function that makes a step of a relation wherever it is defined, and a script is a list of turns.
What holds when a script has been played holds of a state to which the relation leads (`reach`).
-/

namespace Script

variable {σ : Type} {Rel Rel' : σ → σ → Prop}

structure Turn (Rel : σ → σ → Prop) where
  step : σ → Option σ
  sound : ∀ s s', step s = some s' → Rel s s'

def Turn.guarded (fits : σ → Prop) [DecidablePred fits] (step : σ → Option σ)
    (sound : ∀ s s', fits s → step s = some s' → Rel s s') : Turn Rel where
  step s := if fits s then step s else none
  sound s s' steps := by
    split at steps
    · exact sound s s' ‹_› steps
    · cases steps

def Turn.mono (turn : Turn Rel) (weaker : ∀ s s', Rel s s' → Rel' s s') : Turn Rel' :=
  ⟨turn.step, fun s s' step => weaker s s' (turn.sound s s' step)⟩

def play : List (Turn Rel) → σ → Option σ
  | [], s => some s
  | turn :: script, s => (turn.step s).bind (play script)

theorem play_sound {script : List (Turn Rel)} {s s' : σ} (played : play script s = some s') :
    Relation.ReflTransGen Rel s s' := by
  induction script generalizing s with
  | nil =>
    cases played
    exact .refl
  | cons turn script ih =>
    obtain ⟨next, step, played⟩ := Option.bind_eq_some_iff.mp played
    exact .head (turn.sound s next step) (ih played)

theorem reach (script : List (Turn Rel)) (s : σ) (P : σ → Prop) [DecidablePred P]
    (holds : (play script s).any (fun s => decide (P s)) = true) : ∃ s', Relation.ReflTransGen Rel s s' ∧ P s' := by
  obtain ⟨s', played, holds⟩ := (Option.any_eq_true _ _).mp holds
  exact ⟨s', play_sound played, of_decide_eq_true holds⟩

end Script
