import NbReq.Accounting

/-!
# Callback dispatch

The owned callback queue (`dispatch.rs`). A job is the callback with everything its closure captured:
the operation or session it reports on, the value it will be called with and the permits that are
dropped when it returns. Workers take the first job whose request has no job running; a manual or
inline engine drains the queue on the owner's thread. A sealed dispatcher refuses new jobs.
-/

namespace NbReq

/-- What a successful operation delivers. A session is named by its reference. -/
inductive Payload where
  | response (response : Response)
  | resolved (addresses : List Bytes)
  | session (io : Nat)
  | body
deriving DecidableEq, Repr

/-- The terminal outcome of an operation of any kind. -/
abbrev Done := Completion Payload

/-- `tcp::TcpFinishError`. -/
inductive TcpFinishError where
  | closed (error : Error)
  | reset
  | engineStopped
  | wrongMode
  | failed (error : Error)
  | cancelled
  | unsupported (error : Error)
deriving DecidableEq, Repr

/-- A user callback: an opaque closure. What matters of it is its identity and whether dropping it
unrun drops a captured value whose destructor calls back into the registry (a `CancelOnDrop` guard, a
`ResponseReader`, a TCP connection half). -/
structure Callback where
  token : Nat
  dropLocksCore : Bool
deriving DecidableEq, Repr

/-- What a callback is called with, and for whom. -/
inductive JobBody where
  | operation (op : Nat) (completion : Done)
  | finish (io : Nat) (result : Except TcpFinishError Unit)

/-- `dispatch::CallbackKind`. -/
inductive CallbackKind where
  | progress
  | terminal
deriving DecidableEq, Repr

/-- `dispatch::CallbackJob`. -/
structure CallbackJob where
  requestId : RequestId
  kind : CallbackKind
  callback : Callback
  body : JobBody
  permits : List Permit

/-- `CallbackJob::new`: every job of the engine is a terminal one. -/
def CallbackJob.new (requestId : RequestId) (callback : Callback) (body : JobBody)
    (permits : List Permit) : CallbackJob :=
  ⟨requestId, .terminal, callback, body, permits⟩

/-- `dispatch::DispatchState`, with the queue's capacity and the completion flag of its domain. -/
structure DispatchState where
  capacity : Nat
  isSealed : Bool
  queue : List CallbackJob
  activeRequests : List RequestId
  running : Nat
  workersAlive : Nat
  complete : Bool

/-- `CallbackDomain::maybe_complete`. -/
def DispatchState.maybeComplete (d : DispatchState) : DispatchState :=
  { d with complete := d.complete ||
      (d.isSealed && d.queue.isEmpty && d.running == 0 && d.workersAlive == 0) }

/-- The queue after `enqueue_terminal` made room: a full queue gives up its first progress event. -/
def DispatchState.makeRoom (d : DispatchState) : List CallbackJob :=
  if d.queue.length = d.capacity then d.queue.eraseP (·.kind = .progress) else d.queue

/-- `CallbackDomain::enqueue_terminal`; `none` when the job is refused because the dispatcher is
sealed, in which case the caller drops it. -/
def DispatchState.enqueueTerminal (d : DispatchState) (job : CallbackJob) : Option DispatchState :=
  if d.isSealed then none else some { d with queue := d.makeRoom ++ [job] }

/-- A queued job can run: no job of its request is running. -/
def DispatchState.runnable (d : DispatchState) (job : CallbackJob) : Bool :=
  !d.activeRequests.contains job.requestId

/-- `CallbackDomain::take_runnable`. -/
def DispatchState.takeRunnable (d : DispatchState) : Option (CallbackJob × DispatchState) :=
  (d.queue.find? d.runnable).map fun job =>
    (job, { d with
      queue := d.queue.eraseP d.runnable
      activeRequests := job.requestId :: d.activeRequests
      running := d.running + 1 })

/-- The last section of `CallbackDomain::run_job`, after the callback returned or unwound. -/
def DispatchState.jobDone (d : DispatchState) (requestId : RequestId) : DispatchState :=
  { d with
    running := d.running - 1
    activeRequests := d.activeRequests.filter (· ≠ requestId) }.maybeComplete

/-- The section of `CallbackDomain::worker` in which a worker exits. -/
def DispatchState.workerExit (d : DispatchState) : DispatchState :=
  { d with workersAlive := d.workersAlive - 1 }.maybeComplete

/-- `CallbackDomain::seal`. -/
def DispatchState.seal (d : DispatchState) : DispatchState :=
  { d with isSealed := true }.maybeComplete

/-- Taking a job moves exactly that job out of the queue. -/
theorem DispatchState.takeRunnable_eq_some {d d' : DispatchState} {job : CallbackJob}
    (h : d.takeRunnable = some (job, d')) :
    d.queue.Perm (job :: d'.queue) ∧ d'.running = d.running + 1 ∧ d'.isSealed = d.isSealed ∧
      d'.complete = d.complete := by
  obtain ⟨found, hfound, pair⟩ := Option.map_eq_some_iff.mp h
  simp only [Prod.mk.injEq] at pair
  obtain ⟨rfl, rfl⟩ := pair
  refine ⟨?_, rfl, rfl, rfl⟩
  obtain ⟨runs, before, after, split, early⟩ := List.find?_eq_some_iff_append.mp hfound
  have rest : d.queue.eraseP d.runnable = before ++ after := by
    rw [split, List.eraseP_append_right _ (fun job mem => by simpa using early job mem),
      List.eraseP_cons_of_pos runs]
  rw [rest, split]
  exact List.perm_middle

/-- Without progress events a full queue keeps every job. -/
theorem DispatchState.makeRoom_eq {d : DispatchState}
    (terminals : ∀ job ∈ d.queue, job.kind = .terminal) : d.makeRoom = d.queue := by
  unfold makeRoom
  split
  · exact List.eraseP_of_forall_not fun job mem => by simp [terminals job mem]
  · rfl

end NbReq
