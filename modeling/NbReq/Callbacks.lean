import NbReq.Dispatch
import Mathlib.Logic.Relation

/-!
# The callback threads

The threads of `dispatch.rs`, workers or the owner's that drains the queue, over the sections of `DispatchState`
(`Dispatcher.Reachable.serves`). Any thread may take any section the state allows: every schedule is among the runs.
Only tests enqueue progress events, so every job is a terminal one.
-/

namespace NbReq

namespace DispatchState

def Idle (s : DispatchState) : Prop := s.isSealed = true ∧ s.queue = [] ∧ s.running = 0 ∧ s.workersAlive = 0

variable {s s' : DispatchState} {job : CallbackJob}

/-- The first job that may run is the first one of its request. -/
theorem takeRunnable_first (taken : s.takeRunnable = some (job, s')) :
    s.runnable job = true ∧ ∃ before after, s.queue = before ++ job :: after ∧
      (∀ other ∈ before, other.requestId ≠ job.requestId) ∧
      s' = { s with
        queue := before ++ after, activeRequests := job.requestId :: s.activeRequests, running := s.running + 1 } := by
  obtain ⟨found, isFound, same⟩ := Option.map_eq_some_iff.mp taken
  obtain ⟨runs, before, after, queue, early⟩ := List.find?_eq_some_iff_append.mp isFound
  cases same
  have rest : s.queue.eraseP s.runnable = before ++ after := by
    rw [queue, List.eraseP_append_right _ fun job mem => by simpa using early job mem, List.eraseP_cons_of_pos runs]
  refine ⟨runs, before, after, queue, ?_, by rw [rest]⟩
  intro other mem sameRequest
  have idle := early other mem
  rw [runnable, sameRequest, ← runnable, runs] at idle
  cases idle

/-- Checking for completion keeps the report exact, if idleness was not undone. -/
theorem maybeComplete_exact (reported : s.complete = true ↔ s.Idle) (same : s'.complete = s.complete)
    (stays : s.Idle → s'.Idle) : s'.maybeComplete.complete = true ↔ s'.maybeComplete.Idle := by
  have checked : s'.maybeComplete.complete = true ↔ s.complete = true ∨ s'.Idle := by
    simp [maybeComplete, Idle, same, and_assoc]
  rw [checked, reported]
  exact ⟨fun either => either.elim stays id, .inr⟩

end DispatchState

/-- `CallbackDomain` with the workers that wait for `changed`, and the jobs that run, were accepted and were started. -/
structure Dispatcher where
  state : DispatchState
  asleep : Nat
  running : List CallbackJob
  accepted : List CallbackJob
  started : List CallbackJob

namespace Dispatcher

/-- `DispatcherOwner::new`, with no workers for inline dispatch. -/
def new (capacity workers : Nat) : Dispatcher := ⟨⟨capacity, false, [], [], 0, workers, false⟩, 0, [], [], []⟩

/-- One section of any thread. Those that end in `notify_all` leave no worker asleep. -/
inductive Step (d : Dispatcher) : Dispatcher → Prop
  | enqueueTerminal {job : CallbackJob} {state : DispatchState} (terminal : job.kind = .terminal)
      (enqueued : d.state.enqueueTerminal job = some state) :
      Step d { d with state, asleep := 0, accepted := d.accepted ++ [job] }
  | takeRunnable {job : CallbackJob} {state : DispatchState} (taken : d.state.takeRunnable = some (job, state)) :
      Step d { d with state, running := job :: d.running, started := d.started ++ [job] }
  /-- A worker waits, and may wake up without being notified. -/
  | wait (none : d.state.takeRunnable = none) (stays : ¬(d.state.isSealed = true ∧ d.state.queue = [])) :
      Step d { d with asleep := d.asleep + 1 }
  | wake : Step d { d with asleep := d.asleep - 1 }
  /-- A worker exits; an inline drain locks once more, to check for completion. -/
  | exit (isSealed : d.state.isSealed = true) (empty : d.state.queue = []) :
      Step d { d with state := d.state.workerExit, asleep := 0 }
  | drained : Step d { d with state := d.state.maybeComplete }
  /-- The end of `run_job`, whether the callback returned or unwound. -/
  | jobDone {job : CallbackJob} {before after : List CallbackJob} (here : d.running = before ++ job :: after) :
      Step d { d with state := d.state.jobDone job.requestId, asleep := 0, running := before ++ after }
  | close : Step d { d with state := d.state.seal, asleep := 0 }

def Reachable (d : Dispatcher) : Prop := ∃ capacity workers, Relation.ReflTransGen Step (new capacity workers) d

def of (id : RequestId) (jobs : List CallbackJob) : List CallbackJob := jobs.filter fun job => job.requestId = id

structure Orderly (d : Dispatcher) : Prop where
  terminals : ∀ job ∈ d.state.queue, job.kind = .terminal
  active : d.state.activeRequests = d.running.map (·.requestId)
  apart : d.state.activeRequests.Nodup
  running : d.state.running = d.running.length
  rested : d.asleep = 0 ∨ ∀ job ∈ d.state.queue, d.state.runnable job = false
  complete : d.state.complete = true ↔ d.state.Idle
  order : ∀ id, of id d.started ++ of id d.state.queue = of id d.accepted

variable {d d' : Dispatcher} {job : CallbackJob} {state : DispatchState}

theorem Orderly.enqueueTerminal (orderly : d.Orderly) (terminal : job.kind = .terminal)
    (enqueued : d.state.enqueueTerminal job = some state) :
    { d with state, asleep := 0, accepted := d.accepted ++ [job] }.Orderly := by
  unfold DispatchState.enqueueTerminal at enqueued
  rw [DispatchState.makeRoom_eq orderly.terminals] at enqueued
  split at enqueued
  · cases enqueued
  rename_i isOpen
  cases enqueued
  exact
    { orderly with
      terminals := List.forall_mem_append.mpr ⟨orderly.terminals, List.forall_mem_singleton.mpr terminal⟩
      rested := .inl rfl
      complete := ⟨fun complete => absurd (orderly.complete.mp complete).1 isOpen, fun idle => absurd idle.1 isOpen⟩
      order := fun id => by
        show of id d.started ++ of id (d.state.queue ++ [job]) = of id (d.accepted ++ [job])
        rw [of, of, of, List.filter_append, List.filter_append, ← List.append_assoc]
        exact congrArg (· ++ _) (orderly.order id) }

/-- While a job may run no worker sleeps. -/
theorem Orderly.takeRunnable (orderly : d.Orderly) (taken : d.state.takeRunnable = some (job, state)) :
    { d with state, running := job :: d.running, started := d.started ++ [job] }.Orderly := by
  obtain ⟨runs, before, after, queue, first, rfl⟩ := DispatchState.takeRunnable_first taken
  exact
    { terminals := by
        have terminals := orderly.terminals
        simp only [queue, List.forall_mem_append, List.forall_mem_cons] at terminals
        exact List.forall_mem_append.mpr ⟨terminals.1, terminals.2.2⟩
      active := congrArg (job.requestId :: ·) orderly.active
      apart := List.nodup_cons.mpr ⟨by simpa [DispatchState.runnable] using runs, orderly.apart⟩
      running := congrArg (· + 1) orderly.running
      rested := orderly.rested.imp_right fun rested => absurd runs (by simp [rested job, queue])
      complete := by
        refine ⟨fun complete => ?_, fun idle => absurd idle.2.2.1 (Nat.succ_ne_zero _)⟩
        have empty := (orderly.complete.mp complete).2.1
        simp [queue] at empty
      order := by
        intro id
        have order := orderly.order id
        rw [queue] at order
        refine Eq.trans ?_ order
        by_cases same : job.requestId = id
        · have none : (before.filter fun job => job.requestId = id) = [] := by simpa [← same] using first
          simp [of, same, none]
        · simp [of, same] }

/-- The end of a job lets the next one of its request run. -/
theorem Orderly.jobDone {before after : List CallbackJob} (orderly : d.Orderly)
    (here : d.running = before ++ job :: after) :
    { d with state := d.state.jobDone job.requestId, asleep := 0, running := before ++ after }.Orderly := by
  have active := orderly.active
  rw [here, List.map_append, List.map_cons] at active
  have apart := orderly.apart
  rw [active, List.nodup_middle, List.nodup_cons, ← List.map_append] at apart
  have left : d.state.activeRequests.filter (· ≠ job.requestId) = (before ++ after).map (·.requestId) := by
    rw [active, List.filter_append, List.filter_cons_of_neg (by simp), ← List.filter_append, ← List.map_append]
    exact List.filter_eq_self.mpr fun id mem => decide_eq_true fun same => apart.1 (same ▸ mem)
  exact
    { orderly with
      active := left
      apart := (congrArg List.Nodup left).mpr apart.2
      running := by
        show d.state.running - 1 = (before ++ after).length
        rw [orderly.running, here, List.length_append, List.length_append]
        rfl
      rested := .inl rfl
      complete := DispatchState.maybeComplete_exact orderly.complete rfl fun idle =>
        ⟨idle.1, idle.2.1, by simp [idle.2.2.1], idle.2.2.2⟩ }

theorem Step.orderly (orderly : d.Orderly) (step : Step d d') : d'.Orderly := by
  cases step with
  | enqueueTerminal terminal enqueued => exact orderly.enqueueTerminal terminal enqueued
  | takeRunnable taken => exact orderly.takeRunnable taken
  | wait none => exact { orderly with rested := .inr (by simpa [DispatchState.takeRunnable] using none) }
  | wake => exact { orderly with rested := orderly.rested.imp_left fun awake => by rw [awake] }
  | exit =>
    exact
      { orderly with
        rested := .inl rfl
        complete := DispatchState.maybeComplete_exact orderly.complete rfl fun idle =>
          ⟨idle.1, idle.2.1, idle.2.2.1, by simp [idle.2.2.2]⟩ }
  | drained => exact { orderly with complete := DispatchState.maybeComplete_exact orderly.complete rfl id }
  | jobDone here => exact orderly.jobDone here
  | close =>
    exact
      { orderly with
        rested := .inl rfl
        complete := DispatchState.maybeComplete_exact orderly.complete rfl fun idle => ⟨rfl, idle.2⟩ }

/-- Whatever the order of the sections: no two jobs of a request run at once; what was started of a request, followed by
what is queued of it, is what was accepted of it; a worker sleeps only while each queued job waits for one of its
request; and completion is reported exactly when the dispatcher is sealed and nothing is queued, running or alive. -/
theorem Reachable.serves (reachable : d.Reachable) :
    (d.running.map (·.requestId)).Nodup ∧
    (∀ id, of id d.started ++ of id d.state.queue = of id d.accepted) ∧
    (0 < d.asleep → ∀ job ∈ d.state.queue, ∃ other ∈ d.running, other.requestId = job.requestId) ∧
    (d.state.complete = true ↔
      d.state.isSealed = true ∧ d.state.queue = [] ∧ d.running = [] ∧ d.state.workersAlive = 0) := by
  obtain ⟨capacity, workers, steps⟩ := reachable
  have orderly : d.Orderly := by
    induction steps with
    | refl =>
      exact ⟨fun _ mem => absurd mem List.not_mem_nil, rfl, .nil, rfl, .inl rfl,
        ⟨Bool.noConfusion, fun idle => Bool.noConfusion idle.1⟩, fun _ => rfl⟩
    | tail _ step ih => exact step.orderly ih
  have idle := orderly.complete
  rw [DispatchState.Idle, orderly.running, List.length_eq_zero_iff] at idle
  refine ⟨orderly.active ▸ orderly.apart, orderly.order, fun asleep job mem => ?_, idle⟩
  have busy := orderly.rested.resolve_left asleep.ne' job mem
  rw [DispatchState.runnable, orderly.active] at busy
  simpa using busy

/-- One of two jobs of a request runs, and a worker sleeps. -/
theorem Reachable.serves_sample : ∃ d : Dispatcher, 0 < d.asleep ∧ d.running.length = 1 ∧ d.state.queue.length = 1 ∧
    (d.running.map (·.requestId)).Nodup := by
  let job := CallbackJob.new ⟨1, 1⟩ ⟨0, false⟩ (.operation 0 .cancelled) []
  refine ⟨_, ?_, ?_, ?_, (Reachable.serves ⟨4, 2, .tail (.tail (.tail (.single (@Step.enqueueTerminal _ job _ rfl rfl))
    (@Step.enqueueTerminal _ job _ rfl rfl)) (@Step.takeRunnable _ job _ rfl)) (.wait rfl ?_)⟩).1⟩
  all_goals decide

end Dispatcher

end NbReq
