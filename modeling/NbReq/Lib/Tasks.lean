import Mathlib.Algebra.Order.Group.Multiset
import Mathlib.Data.List.Basic

/-!
# Tasks over a shared state

A set of tasks (threads) over one shared state. A task is the list of the atomic actions it still has
to take; taking one changes the shared state and may put further actions in front of the rest, which
is how a call unfolds into its critical sections. Blocking is an action that is not enabled.

1. `Run.invariant`: a property kept by every step holds after every run.
2. `Run.inFlight_invariant`: the same for a property of the shared state and of the actions in flight,
   whichever tasks hold them. What a task owns while it runs (a permit, a token, an obligation) is
   accounted for this way.
3. `Run.task_invariant`: the same for a property of the shared state and of one task's remaining
   actions, which other tasks' steps must not destroy.
4. `reach`: a script fixes the schedule and the choices of a run, so that the run can be evaluated.
-/

/-- Tasks over a shared state `σ` with actions `α`; `ω` resolves the choices an action leaves open. -/
structure TaskSystem (σ α ω : Type) where
  /-- The action can be taken now; a blocked action cannot. -/
  enabled : α → σ → Prop
  /-- Taking an action: the new shared state and the actions to take before the rest of the task. -/
  exec : ω → α → σ → σ × List α
  /-- A task replaces its remaining actions: a caller starts a call, or a panic unwinds. -/
  jump : σ → Nat → List α → List α → Prop
  /-- What the surroundings may change in the shared state on their own. -/
  drift : σ → σ → Prop

namespace TaskSystem

variable {σ α ω : Type}

/-- A shared state and the tasks running over it. -/
structure Config (σ α : Type) where
  shared : σ
  tasks : List (List α)

/-- What a step is: task `task` takes `act`, or jumps; a new task starts; or the state drifts. -/
inductive Label (α : Type) where
  | run (task : Nat) (act : α)
  | jump (task : Nat)
  | spawn
  | drift

inductive Step (sys : TaskSystem σ α ω) : Config σ α → Label α → Config σ α → Prop
  | run {c : Config σ α} {task : Nat} {act : α} {rest : List α} (choice : ω)
      (here : c.tasks[task]? = some (act :: rest)) (ready : sys.enabled act c.shared) :
      Step sys c (.run task act) ⟨(sys.exec choice act c.shared).1,
        c.tasks.set task ((sys.exec choice act c.shared).2 ++ rest)⟩
  | jump {c : Config σ α} {task : Nat} {acts acts' : List α}
      (here : c.tasks[task]? = some acts) (jumps : sys.jump c.shared task acts acts') :
      Step sys c (.jump task) ⟨c.shared, c.tasks.set task acts'⟩
  | spawn {c : Config σ α} : Step sys c .spawn ⟨c.shared, c.tasks ++ [[]]⟩
  | drift {c : Config σ α} {shared' : σ} (drifts : sys.drift c.shared shared') :
      Step sys c .drift ⟨shared', c.tasks⟩

/-- Finite runs all of whose steps meet a condition on the state before them and on their label. -/
inductive Run (sys : TaskSystem σ α ω) (allowed : Config σ α → Label α → Prop) :
    Config σ α → Config σ α → Prop
  | refl (c : Config σ α) : Run sys allowed c c
  | tail {c₀ c c' : Config σ α} {label : Label α} (run : Run sys allowed c₀ c)
      (allows : allowed c label) (step : Step sys c label c') : Run sys allowed c₀ c'

def anyStep (_ : Config σ α) (_ : Label α) : Prop := True

variable {sys : TaskSystem σ α ω} {allowed : Config σ α → Label α → Prop}

/-- A property kept by every step holds after every run. The step may use that its start is
reachable, so that invariants can be proved one after another. -/
theorem Run.invariant (Inv : Config σ α → Prop) {c₀ c : Config σ α}
    (start : Inv c₀)
    (keep : ∀ c label c', Run sys allowed c₀ c → Inv c → allowed c label → Step sys c label c' →
      Inv c')
    (run : Run sys allowed c₀ c) : Inv c := by
  induction run with
  | refl => exact start
  | tail run allows step ih => exact keep _ _ _ run ih allows step

/-! ## Actions in flight -/

/-- The actions that any task still has to take. -/
def Config.inFlight (c : Config σ α) : Multiset α := (c.tasks.flatten : Multiset α)

theorem mem_inFlight {c : Config σ α} {act : α} :
    act ∈ c.inFlight ↔ ∃ acts ∈ c.tasks, act ∈ acts := by
  simp [Config.inFlight]

theorem mem_inFlight_of_task {c : Config σ α} {i : Nat} {acts : List α} {act : α}
    (here : c.tasks[i]? = some acts) (mem : act ∈ acts) : act ∈ c.inFlight :=
  mem_inFlight.mpr ⟨acts, List.mem_of_getElem? here, mem⟩

/-- Splitting the actions in flight at one task: the others' are the same whatever it does. -/
theorem inFlight_split {c : Config σ α} {i : Nat} {acts : List α}
    (here : c.tasks[i]? = some acts) :
    ∃ others : Multiset α, c.inFlight = (acts : Multiset α) + others ∧
      ∀ (shared' : σ) (acts' : List α),
        (⟨shared', c.tasks.set i acts'⟩ : Config σ α).inFlight = (acts' : Multiset α) + others := by
  obtain ⟨bound, at_i⟩ := List.getElem?_eq_some_iff.mp here
  refine ⟨((c.tasks.take i).flatten ++ (c.tasks.drop (i + 1)).flatten : List α), ?_, ?_⟩
  · have whole : c.tasks = c.tasks.take i ++ acts :: c.tasks.drop (i + 1) := by
      rw [← at_i, ← List.drop_eq_getElem_cons bound, List.take_append_drop]
    rw [Config.inFlight]
    conv_lhs => rw [whole]
    rw [List.flatten_append, List.flatten_cons, Multiset.coe_add, Multiset.coe_eq_coe]
    exact List.perm_append_comm_assoc _ _ _
  · intro shared' acts'
    rw [Config.inFlight, List.set_eq_take_append_cons_drop, if_pos bound, List.flatten_append,
      List.flatten_cons, Multiset.coe_add, Multiset.coe_eq_coe]
    exact List.perm_append_comm_assoc _ _ _

/-- A property of the shared state and the actions in flight, kept by every action, jump and drift,
holds after every run. -/
theorem Run.inFlight_invariant (Inv : σ → Multiset α → Prop) {c₀ c : Config σ α}
    (start : Inv c₀.shared c₀.inFlight)
    (keepExec : ∀ c i act choice others, Run sys allowed c₀ c → allowed c (.run i act) →
      sys.enabled act c.shared → c.inFlight = act ::ₘ others → Inv c.shared (act ::ₘ others) →
      Inv (sys.exec choice act c.shared).1 (((sys.exec choice act c.shared).2 : Multiset α) + others))
    (keepJump : ∀ c i acts acts' others, Run sys allowed c₀ c → allowed c (.jump i) →
      c.tasks[i]? = some acts → sys.jump c.shared i acts acts' → Inv c.shared ((acts : Multiset α) + others) →
      Inv c.shared ((acts' : Multiset α) + others))
    (keepDrift : ∀ c shared', Run sys allowed c₀ c → sys.drift c.shared shared' →
      Inv c.shared c.inFlight → Inv shared' c.inFlight)
    (run : Run sys allowed c₀ c) : Inv c.shared c.inFlight := by
  refine Run.invariant (fun c => Inv c.shared c.inFlight) start ?_ run
  intro c label c' reached inv allows step
  cases step with
  | @run i act rest choice here ready =>
    obtain ⟨others, before, after⟩ := inFlight_split here
    have split : c.inFlight = act ::ₘ ((rest : Multiset α) + others) := by
      rw [before, ← Multiset.cons_coe, Multiset.cons_add]
    rw [after, ← Multiset.coe_add, add_assoc]
    rw [split] at inv
    exact keepExec c i act choice _ reached allows ready split inv
  | @jump i acts acts' here jumps =>
    obtain ⟨others, before, after⟩ := inFlight_split here
    rw [after]
    rw [before] at inv
    exact keepJump c i acts acts' others reached allows here jumps inv
  | spawn =>
    have same : (⟨c.shared, c.tasks ++ [[]]⟩ : Config σ α).inFlight = c.inFlight := by
      simp [Config.inFlight]
    rw [same]
    exact inv
  | drift drifts => exact keepDrift c _ reached drifts inv

/-! ## One task at a time -/

/-- A property of the shared state and of the remaining actions of each task holds after every run
when a task's own steps keep it, the steps of other tasks and drift do not destroy it, and a new task
has it. -/
theorem Run.task_invariant (Inv : σ → Nat → List α → Prop) {c₀ c : Config σ α}
    (start : ∀ i acts, c₀.tasks[i]? = some acts → Inv c₀.shared i acts)
    (keepExec : ∀ c i act rest choice, Run sys allowed c₀ c → allowed c (.run i act) →
      c.tasks[i]? = some (act :: rest) → sys.enabled act c.shared →
      Inv c.shared i (act :: rest) →
      Inv (sys.exec choice act c.shared).1 i ((sys.exec choice act c.shared).2 ++ rest))
    (keepJump : ∀ c i acts acts', Run sys allowed c₀ c → c.tasks[i]? = some acts →
      sys.jump c.shared i acts acts' → Inv c.shared i acts → Inv c.shared i acts')
    (stable : ∀ c i act rest choice j acts, Run sys allowed c₀ c → allowed c (.run i act) →
      c.tasks[i]? = some (act :: rest) → sys.enabled act c.shared → i ≠ j →
      c.tasks[j]? = some acts → Inv c.shared j acts → Inv (sys.exec choice act c.shared).1 j acts)
    (drifted : ∀ c shared' j acts, Run sys allowed c₀ c → sys.drift c.shared shared' →
      c.tasks[j]? = some acts → Inv c.shared j acts → Inv shared' j acts)
    (fresh : ∀ shared i, Inv shared i [])
    (run : Run sys allowed c₀ c) : ∀ i acts, c.tasks[i]? = some acts → Inv c.shared i acts := by
  refine Run.invariant
    (fun c => ∀ i acts, c.tasks[i]? = some acts → Inv c.shared i acts) start ?_ run
  intro c label c' reached inv allows step
  cases step with
  | @run i act rest choice here ready =>
    intro j acts there
    rw [List.getElem?_set] at there
    by_cases same : i = j
    · subst same
      have bound := (List.getElem?_eq_some_iff.mp here).1
      simp only [if_true, if_pos bound, Option.some.injEq] at there
      subst there
      exact keepExec c i act rest choice reached allows here ready (inv i _ here)
    · rw [if_neg same] at there
      exact stable c i act rest choice j acts reached allows here ready same there (inv j acts there)
  | @jump i acts₀ acts' here jumps =>
    intro j acts there
    rw [List.getElem?_set] at there
    by_cases same : i = j
    · subst same
      have bound := (List.getElem?_eq_some_iff.mp here).1
      simp only [if_true, if_pos bound, Option.some.injEq] at there
      subst there
      exact keepJump c i acts₀ _ reached here jumps (inv i _ here)
    · rw [if_neg same] at there
      exact inv j acts there
  | spawn =>
    intro j acts there
    rw [List.getElem?_append] at there
    split at there
    · exact inv j acts there
    · have empty : acts = [] := by simpa using List.mem_of_getElem? there
      subst empty
      exact fresh _ _
  | drift drifts =>
    intro j acts there
    exact drifted c _ j acts reached drifts there (inv j acts there)

/-! ## Scripted runs -/

/-- A turn of a script: a task takes its next action, or jumps if its actions are such, or the state drifts. -/
inductive Turn (sys : TaskSystem σ α ω) where
  | run (task : Nat) (choice : ω)
  | jump (task : Nat) (fits : List α → Bool) (next : List α → List α)
      (jumps : ∀ s acts, fits acts = true → sys.jump s task acts (next acts))
  | drift (next : σ → σ) (drifts : ∀ s, sys.drift s (next s))

variable [DecidableRel sys.enabled] {c c' : Config σ α} {label : Label α}

/-- The label of a turn and the configuration after it, if the turn is possible. -/
def Turn.step (c : Config σ α) : Turn sys → Option (Label α × Config σ α)
  | .run task choice =>
    match c.tasks[task]? with
    | some (act :: rest) =>
      if sys.enabled act c.shared then
        some (.run task act, ⟨(sys.exec choice act c.shared).1,
          c.tasks.set task ((sys.exec choice act c.shared).2 ++ rest)⟩)
      else none
    | _ => none
  | .jump task fits next _ =>
    match c.tasks[task]? with
    | some acts => if fits acts then some (.jump task, ⟨c.shared, c.tasks.set task (next acts)⟩) else none
    | none => none
  | .drift next _ => some (.drift, ⟨next c.shared, c.tasks⟩)

theorem Turn.step_sound {turn : Turn sys} (steps : turn.step c = some (label, c')) : Step sys c label c' := by
  unfold Turn.step at steps
  split at steps
  · split at steps
    · next act rest here =>
      split at steps
      · next ready =>
        cases steps
        exact .run _ here ready
      · cases steps
    · cases steps
  · next jumps =>
    split at steps
    · next acts here =>
      split at steps
      · next fits =>
        cases steps
        exact .jump here (jumps _ _ fits)
      · cases steps
    · cases steps
  · next drifts =>
    cases steps
    exact .drift (drifts _)

/-- Plays a script whose steps must all be allowed. -/
def play (allows : Config σ α → Label α → Bool) : Config σ α → List (Turn sys) → Option (Config σ α)
  | c, [] => some c
  | c, turn :: script =>
    match turn.step c with
    | some (label, c') => if allows c label then play allows c' script else none
    | none => none

theorem play_sound {allows : Config σ α → Label α → Bool} (sound : ∀ c label, allows c label = true → allowed c label)
    {script : List (Turn sys)} {c₀ : Config σ α} (before : Run sys allowed c₀ c)
    (played : play allows c script = some c') : Run sys allowed c₀ c' := by
  induction script generalizing c with
  | nil =>
    cases played
    exact before
  | cons turn script ih =>
    unfold play at played
    split at played
    · next steps =>
      split at played
      · next allows => exact ih (before.tail (sound _ _ allows) (Turn.step_sound steps)) played
      · cases played
    · cases played

/-- What holds when a script has been played holds after a run. -/
theorem reach (allows : Config σ α → Label α → Bool) (sound : ∀ c label, allows c label = true → allowed c label)
    (script : List (Turn sys)) (P : Config σ α → Prop) [DecidablePred P] {c₀ : Config σ α}
    (played : (play allows c₀ script).any (fun c => decide (P c)) = true) : ∃ c, Run sys allowed c₀ c ∧ P c := by
  obtain ⟨c, isPlayed, holds⟩ := (Option.any_eq_true _ _).mp played
  exact ⟨c, play_sound sound (.refl _) isPlayed, of_decide_eq_true holds⟩

end TaskSystem
