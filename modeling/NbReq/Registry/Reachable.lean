import NbReq.Registry.Engine
import NbReq.Registry.Programs

/-!
# Reachable states

1. `engine_moves`: every step of the engine is a sequence of moves on the tokens of all its threads.
2. `ReachableBy.sane`: every reachable state is sane.
3. `ReachableBy.ledger`: a property of the registry and of all tokens that every move keeps holds in every
   reachable state.
-/

namespace NbReq

open TaskSystem Ledger

variable {sh sh' : Shared} {tokens tokens' : Multiset Token}

/-- A call starts with what its caller knows, the backend's calls own nothing, and a panic loses nothing. -/
theorem jump_moves {i : Nat} {acts acts' : List Act} (jumps : Jump sh i acts acts') (shaped : Shaped acts) :
    Moves Move sh (listTokens Act.tokens acts + tokens) sh (listTokens Act.tokens acts' + tokens) := by
  cases jumps with
  | @call task act user call =>
    rw [listTokens_nil, zero_add]
    refine continue_moves fun other mem => ?_
    rw [List.mem_singleton.mp mem]
    cases call with
    | tryCompletion found waiter => exact .of_fact rfl ⟨_, found, waiter⟩
    | _ => exact .of_zero rfl
  | @backend task act here rest running call =>
    have zero : act.tokens = 0 := by cases call <;> rfl
    rw [listTokens_cons act, zero, zero_add]
    exact .refl
  | @panic here rest running =>
    have nothing := shaped [] here rest rfl (Act.ofReactor_of_runsBackend running)
    refine (forget_moves _ ?_).trans (continue_moves (known_zero ?_))
    · intro token mem
      obtain ⟨act, there, isToken⟩ := mem_listTokens.mp mem
      exact Act.known_of_owns (nothing act there) token isToken
    rw [listTokens_append, show listTokens Act.tokens [.failAll Shared.reactorPanickedError, .markStopped,
      .reactorReturn false] = 0 from rfl, add_zero]
    refine listTokens_eq_zero fun act mem => ?_
    obtain ⟨from_, -, isSink⟩ := List.mem_filterMap.mp mem
    split at isSink
    all_goals cases isSink
    all_goals rfl
  | drive manual =>
    rw [listTokens_nil, zero_add]
    exact continue_moves (known_zero rfl)
  | shutdown =>
    rw [listTokens_nil, zero_add]
    exact continue_moves (known_zero (by cases sh.config.runMode <;> rfl))

theorem drift_moves (drifts : Drift sh sh') : Moves Move sh tokens sh' tokens := by
  cases drifts with
  | body used => exact body_moves used
  | support resolver tcp =>
    exact surroundings_moves { sh.surroundings with
      nativeResolverSupported := resolver, standaloneTcpSupported := tcp } (.of_eq rfl rfl rfl)

variable {allowed : Config Shared Act → Label Act → Prop} {config : EngineConfig} {c c' : Config Shared Act}

theorem engine_moves {label : Label Act} (shaped : ∀ (i : Nat) (acts : List Act), c.tasks[i]? = some acts → Shaped acts)
    (sane : Sane c.shared (c.tokens Act.tokens)) (step : Step engine c label c') :
    Moves Move c.shared (c.tokens Act.tokens) c'.shared (c'.tokens Act.tokens) := by
  refine step.moves ?_ ?_ ?_
  · intro act ω others _ ready split
    rw [split] at sane
    exact exec_moves act sane ready
  · intro i acts acts' others here jumps _
    exact jump_moves jumps (shaped i acts here)
  · intro shared' drifts
    exact drift_moves drifts

theorem start_tokens (config : EngineConfig) : (start config).tokens Act.tokens = 0 := by
  have zero : ∀ act ∈ (start config).inFlight, act.tokens = 0 := by
    intro act mem
    obtain ⟨acts, there, isAct⟩ := mem_inFlight.mp mem
    simp only [start, List.mem_cons, List.mem_replicate] at there
    rcases there with rfl | rfl | ⟨-, rfl⟩
    · cases mode : config.runMode <;> simp_all [Act.tokens]
    · simp at isAct
    · rw [List.mem_singleton.mp isAct]
      rfl
  rw [Config.tokens, Multiset.bind_congr zero, Multiset.bind_zero]

theorem Shared.new_sane (config : EngineConfig) : Sane (Shared.new config) 0 where
  ops := by simp [Shared.new]
  tables := by intro kind id ref; cases kind <;> simp [Shared.new, CoreState.table]
  identities := ⟨by simp [Shared.new], Nat.le_of_ble_eq_true rfl⟩
  sessions := by simp [Sessions, Shared.new]
  jobs := by simp [Shared.new]
  queue := by simp [Shared.new]
  reactor := ⟨by simp [Shared.new], by simp [Shared.new]⟩
  tokens := by simp
  calm := rfl

theorem ReachableBy.sane (reached : ReachableBy allowed config c) :
    Sane c.shared (c.tokens Act.tokens) := by
  refine Run.invariant (fun c => Sane c.shared (c.tokens Act.tokens)) ?_ ?_ reached
  · rw [start_tokens]
    exact Shared.new_sane config
  · intro c label c' before sane _ step
    have moves := engine_moves (fun i acts here => ReachableBy.shaped before here) sane step
    exact Moves.sane moves sane

/-- What every move keeps holds in every reachable state. -/
theorem ReachableBy.ledger (Inv : Shared → Multiset Token → Prop) (begins : Inv (Shared.new config) 0)
    (keep : ∀ sh used sh' given others, Sane sh (used + others) → Inv sh (used + others) →
      Move sh used sh' given → Inv sh' (given + others))
    (reached : ReachableBy allowed config c) : Inv c.shared (c.tokens Act.tokens) := by
  refine Run.invariant (fun c => Inv c.shared (c.tokens Act.tokens)) ?_ ?_ reached
  · rw [start_tokens]
    exact begins
  intro c label c' before inv _ step
  have sane := ReachableBy.sane before
  have moves := engine_moves (fun i acts here => ReachableBy.shaped before here) sane step
  have both := moves.invariant (fun sh tokens => Sane sh tokens ∧ Inv sh tokens)
    (fun sh used sh' given others both move => ⟨move.sane both.1, keep sh used sh' given others both.1 both.2 move⟩)
    ⟨sane, inv⟩
  exact both.2

/-- Along a run an operation stays at its reference, and only changes as entries change. -/
theorem ReachableBy.grow (reached : ReachableBy allowed config c) (run : Run engine allowed c c') :
    OpsGrow c.shared.ops c'.shared.ops := by
  have sane := ReachableBy.sane reached
  suffices step : ReachableBy allowed config c' ∧
      Heap.Step OpChange OpEntry.Fresh c.shared.ops c'.shared.ops from .of_step step.2 sane.ops
  induction run with
  | refl => exact ⟨reached, .refl _⟩
  | @tail mid last label run allows step ih =>
    obtain ⟨before, changes⟩ := ih
    refine ⟨before.tail allows step, changes.trans ?_⟩
    have sane := ReachableBy.sane before
    have moves := engine_moves (fun i acts here => ReachableBy.shaped before here) sane step
    have both := moves.invariant
      (fun sh tokens => Sane sh tokens ∧ Heap.Step OpChange OpEntry.Fresh mid.shared.ops sh.ops)
      (fun sh used sh' given others both move => ⟨move.sane both.1, both.2.trans (move.ops_step both.1)⟩)
      ⟨sane, .refl _⟩
    exact both.2

end NbReq
