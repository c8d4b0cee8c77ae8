import NbReq.Lib.Tasks
import Mathlib.Data.Multiset.Bind

/-!
# Ledgers of tokens

What a thread owns or knows between two of its sections is written down as tokens. A section is then a
sequence of small moves, each of which changes the shared state and exchanges some tokens for others, whoever
holds the rest. An invariant over the shared state and all tokens only has to be checked for the moves.

1. `Moves.invariant`: what every move keeps, every sequence of moves keeps.
2. `Step.moves`: a system whose actions, jumps and drifts are sequences of moves only takes steps that are
   sequences of moves on the tokens of all its tasks.
-/

namespace Ledger

variable {σ τ : Type}

/-- Sequences of moves; each exchanges the tokens `used` for `given` and leaves the others alone. -/
inductive Moves (Move : σ → Multiset τ → σ → Multiset τ → Prop) (s₀ : σ) (start : Multiset τ) :
    σ → Multiset τ → Prop
  | refl : Moves Move s₀ start s₀ start
  | tail {s s' : σ} {used given others : Multiset τ}
      (before : Moves Move s₀ start s (used + others)) (move : Move s used s' given) :
      Moves Move s₀ start s' (given + others)

variable {Move : σ → Multiset τ → σ → Multiset τ → Prop} {s s' s'' : σ}
  {used given others tokens tokens' tokens'' : Multiset τ}

theorem Moves.single (move : Move s used s' given) (others : Multiset τ) :
    Moves Move s (used + others) s' (given + others) :=
  .tail .refl move

theorem Moves.trans (first : Moves Move s tokens s' tokens')
    (second : Moves Move s' tokens' s'' tokens'') : Moves Move s tokens s'' tokens'' := by
  induction second with
  | refl => exact first
  | tail _ move ih => exact .tail ih move

/-- What every move keeps, every sequence of moves keeps. -/
theorem Moves.invariant (Inv : σ → Multiset τ → Prop)
    (keep : ∀ s used s' given others, Inv s (used + others) → Move s used s' given →
      Inv s' (given + others))
    (moves : Moves Move s tokens s' tokens') (start : Inv s tokens) : Inv s' tokens' := by
  induction moves with
  | refl => exact start
  | tail _ move ih => exact keep _ _ _ _ _ ih move

end Ledger

namespace TaskSystem

open Ledger

variable {σ α ω τ : Type} {sys : TaskSystem σ α ω} {allowed : Config σ α → Label α → Prop}
  {Move : σ → Multiset τ → σ → Multiset τ → Prop} {tokensOf : α → Multiset τ}

def Config.tokens (tokensOf : α → Multiset τ) (c : Config σ α) : Multiset τ := c.inFlight.bind tokensOf

def listTokens (tokensOf : α → Multiset τ) (acts : List α) : Multiset τ := (acts : Multiset α).bind tokensOf

@[simp] theorem listTokens_nil : listTokens tokensOf [] = 0 := rfl

@[simp] theorem listTokens_cons (act : α) (acts : List α) :
    listTokens tokensOf (act :: acts) = tokensOf act + listTokens tokensOf acts := by
  simp [listTokens, ← Multiset.cons_coe]

@[simp] theorem listTokens_append (acts acts' : List α) :
    listTokens tokensOf (acts ++ acts') = listTokens tokensOf acts + listTokens tokensOf acts' := by
  simp [listTokens, ← Multiset.coe_add]

theorem listTokens_eq_zero {acts : List α} (empty : ∀ act ∈ acts, tokensOf act = 0) :
    listTokens tokensOf acts = 0 := by
  induction acts with
  | nil => rfl
  | cons act acts ih =>
    rw [listTokens_cons, empty act (by simp), ih fun act mem => empty act (by simp [mem])]
    rfl

/-- A step of a system whose actions, jumps and drifts are moves is a sequence of moves. -/
theorem Step.moves {c c' : Config σ α} {label : Label α}
    (onExec : ∀ act choice others, act ∈ c.inFlight → sys.enabled act c.shared →
      c.tokens tokensOf = tokensOf act + others →
      Moves Move c.shared (tokensOf act + others) (sys.exec choice act c.shared).1
        (listTokens tokensOf (sys.exec choice act c.shared).2 + others))
    (onJump : ∀ i acts acts' others, c.tasks[i]? = some acts → sys.jump c.shared i acts acts' →
      c.tokens tokensOf = listTokens tokensOf acts + others →
      Moves Move c.shared (listTokens tokensOf acts + others) c.shared
        (listTokens tokensOf acts' + others))
    (onDrift : ∀ shared', sys.drift c.shared shared' →
      Moves Move c.shared (c.tokens tokensOf) shared' (c.tokens tokensOf))
    (step : Step sys c label c') :
    Moves Move c.shared (c.tokens tokensOf) c'.shared (c'.tokens tokensOf) := by
  cases step with
  | @run i act rest choice here ready =>
    obtain ⟨others, before, after⟩ := inFlight_split here
    have split : c.tokens tokensOf =
        tokensOf act + (listTokens tokensOf rest + others.bind tokensOf) := by
      rw [Config.tokens, before, Multiset.add_bind, ← add_assoc, ← listTokens_cons]
      rfl
    have result : (⟨(sys.exec choice act c.shared).1,
        c.tasks.set i ((sys.exec choice act c.shared).2 ++ rest)⟩ : Config σ α).tokens tokensOf =
          listTokens tokensOf (sys.exec choice act c.shared).2 +
            (listTokens tokensOf rest + others.bind tokensOf) := by
      rw [Config.tokens, after, Multiset.add_bind, ← add_assoc, ← listTokens_append]
      rfl
    rw [split, result]
    exact onExec act choice _ (mem_inFlight_of_task here (by simp)) ready split
  | @jump i acts acts' here jumps =>
    obtain ⟨others, before, after⟩ := inFlight_split here
    have split : c.tokens tokensOf = listTokens tokensOf acts + others.bind tokensOf := by
      rw [Config.tokens, before, Multiset.add_bind]
      rfl
    have result : (⟨c.shared, c.tasks.set i acts'⟩ : Config σ α).tokens tokensOf =
        listTokens tokensOf acts' + others.bind tokensOf := by
      rw [Config.tokens, after, Multiset.add_bind]
      rfl
    rw [split, result]
    exact onJump i acts acts' _ here jumps split
  | spawn =>
    have same : (⟨c.shared, c.tasks ++ [[]]⟩ : Config σ α).tokens tokensOf = c.tokens tokensOf := by
      simp [Config.tokens, Config.inFlight]
    rw [same]
    exact .refl
  | drift drifts => exact onDrift _ drifts

end TaskSystem
