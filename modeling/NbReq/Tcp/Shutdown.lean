import NbReq.Tcp.Sends

/-!
# How a session ends

A session ends when it is aborted or when both directions have ended, and its write half finishes when all
accepted bytes are written. `Ending` is the part of a session and of the actions in flight that this is about,
`Ending.Step` what an action can do to it.

1. `Ending.Closing`, `Ending.Finishing`: the release closure is handed out when the session ends, the finish job
   when it is due and the callback is active; nothing is handed out twice.
2. `session_ends`: the release, the finish of the write half, the silence after an abort and the finish callback
   in every state that the callers of a session reach.
-/

namespace NbReq

open TaskSystem

/-! ## The ending of a session -/

namespace Ending

def past (e : Ending) : Bool := e.aborted || (e.finished && e.eof)

/-- The finish callback has its result. -/
def due (e : Ending) : Bool := e.aborted || e.finished

/-- The release closure is taken when the session is over. -/
def release (e : Ending) : Ending :=
  if e.past && !e.released then
    { e with released := true, closure := false, releases := e.releases + e.closure.toNat }
  else
    e

/-- The finish job is taken when it is due and the callback is active. -/
def fire (e : Ending) : Ending :=
  if e.active && e.due && e.callback then
    if e.permit then { e with callback := false, permit := false, jobs := e.jobs + 1 }
    else { e with callback := false, panicked := true }
  else
    e

inductive Step : Ending → Ending → Prop
  | stay (e : Ending) : Step e e
  | abort (e : Ending) (live : e.aborted = false) : Step e { e with aborted := true }.release.fire
  | eof (e : Ending) (live : e.aborted = false) : Step e { e with eof := true }.release
  | finish (e : Ending) (live : e.aborted = false) : Step e { e with finished := true }.release.fire
  | register (e : Ending) (new : e.registered = false) :
      Step e { e with registered := true, callback := true, permit := true,
                      activations := e.activations + 1 }
  | activate (e : Ending) (n : Nat) (pending : e.activations = n + 1) :
      Step e { e with active := true, activations := n }.fire

end Ending

/-- The release closure is handed out exactly when the session is over. -/
structure Closing (e : Ending) : Prop where
  released : e.released = e.past
  closure : e.closure = !e.released
  releases : e.releases = e.released.toNat

/-- A registered callback is held or in its only job; a job is not taken before it is due, and it is taken once
the callback is active and it is due. A callback that is not active is about to be activated. -/
structure Finishing (e : Ending) : Prop where
  permit : e.permit = e.callback
  jobs : e.callback.toNat + e.jobs = e.registered.toNat
  activations : e.activations + e.active.toNat = e.registered.toNat
  early : e.due = false → e.jobs = 0
  late : e.active = true → e.due = true → e.callback = false
  calm : e.panicked = false

section Ended

variable {e e' : Ending}

/-- Whatever ends the session, the closure is taken right then. -/
theorem Closing.release (inv : Closing e) (released : e'.released = e.released)
    (closure : e'.closure = e.closure) (releases : e'.releases = e.releases)
    (later : e.past = true → e'.past = true) : Closing e'.release := by
  unfold Ending.release
  split
  · next ends =>
    rw [Bool.and_eq_true, Bool.not_eq_true'] at ends
    refine ⟨ends.1.symm, rfl, ?_⟩
    show e'.releases + e'.closure.toNat = 1
    rw [closure, releases, inv.releases, inv.closure, ← released, ends.2]
    rfl
  next goes =>
  refine ⟨?_, ?_, ?_⟩
  · rw [Bool.and_eq_true, Bool.not_eq_true', not_and, Bool.not_eq_false] at goes
    cases isOver : e'.past with
    | true => exact goes isOver
    | false =>
      rw [released, inv.released]
      by_contra was
      rw [later (by simpa using was)] at isOver
      exact absurd isOver nofun
  · rw [closure, released]
    exact inv.closure
  · rw [releases, released]
    exact inv.releases

theorem Closing.fire (inv : Closing e) : Closing e.fire := by
  unfold Ending.fire
  split
  · split
    · exact ⟨inv.released, inv.closure, inv.releases⟩
    · exact ⟨inv.released, inv.closure, inv.releases⟩
  · exact inv

theorem Closing.step (inv : Closing e) (step : Ending.Step e e') : Closing e' := by
  cases step with
  | stay => exact inv
  | abort live =>
    refine Closing.fire ?_
    exact inv.release rfl rfl rfl fun _ => rfl
  | eof live =>
    refine inv.release rfl rfl rfl fun past => ?_
    simp only [Ending.past, Bool.or_eq_true, Bool.and_eq_true] at past ⊢
    exact past.imp_right fun both => ⟨both.1, trivial⟩
  | finish live =>
    refine Closing.fire ?_
    refine inv.release rfl rfl rfl fun past => ?_
    simp only [Ending.past, Bool.or_eq_true, Bool.and_eq_true] at past ⊢
    exact past.imp_right fun both => ⟨trivial, both.2⟩
  | register new => exact ⟨inv.released, inv.closure, inv.releases⟩
  | activate n pending =>
    refine Closing.fire ?_
    exact ⟨inv.released, inv.closure, inv.releases⟩

/-- The release closure has nothing to do with the finish callback. -/
theorem Ending.release_finish (e : Ending) :
    e.release = { e with released := e.release.released, closure := e.release.closure,
                         releases := e.release.releases } := by
  unfold Ending.release
  split <;> rfl

/-- Taking the job when it is due. -/
theorem Finishing.fire (permit : e.permit = e.callback) (jobs : e.callback.toNat + e.jobs = e.registered.toNat)
    (activations : e.activations + e.active.toNat = e.registered.toNat)
    (early : e.due = false → e.jobs = 0) (calm : e.panicked = false) : Finishing e.fire := by
  unfold Ending.fire
  split
  · next fires =>
    simp only [Bool.and_eq_true] at fires
    obtain ⟨⟨active, due⟩, held⟩ := fires
    rw [if_pos (permit.trans held)]
    refine ⟨rfl, ?_, activations, fun isEarly => absurd (due.symm.trans isEarly) nofun, fun _ _ => rfl, calm⟩
    rw [held] at jobs
    show 0 + (e.jobs + 1) = e.registered.toNat
    rw [← jobs, Nat.zero_add, Nat.add_comm]
    rfl
  · next waits =>
    refine ⟨permit, jobs, activations, early, fun active due => ?_, calm⟩
    by_contra held
    exact waits (by simp [active, due, held])

theorem Finishing.step (inv : Finishing e) (step : Ending.Step e e') : Finishing e' := by
  obtain ⟨permit, jobs, activations, early, late, calm⟩ := inv
  cases step with
  | stay => exact ⟨permit, jobs, activations, early, late, calm⟩
  | abort live =>
    rw [Ending.release_finish]
    exact Finishing.fire permit jobs activations nofun calm
  | eof live =>
    rw [Ending.release_finish]
    exact ⟨permit, jobs, activations, early, late, calm⟩
  | finish live =>
    rw [Ending.release_finish]
    refine Finishing.fire permit jobs activations (fun notDue => ?_) calm
    simp [Ending.due] at notDue
  | register new =>
    rw [new] at jobs activations
    have held : e.callback.toNat = 0 ∧ e.jobs = 0 := Nat.add_eq_zero_iff.mp jobs
    have idle : e.activations = 0 ∧ e.active.toNat = 0 := Nat.add_eq_zero_iff.mp activations
    refine ⟨rfl, ?_, ?_, fun _ => held.2, fun active => ?_, calm⟩
    · show 1 + e.jobs = 1
      rw [held.2]
    · show e.activations + 1 + e.active.toNat = 1
      rw [idle.1, idle.2]
    · rw [show e.active = true from active] at idle
      exact absurd idle.2 nofun
  | activate n pending =>
    have inactive : e.active.toNat = 0 := by
      have one := Bool.toNat_le e.registered
      omega
    refine Finishing.fire permit jobs ?_ early calm
    show n + 1 = e.registered.toNat
    rw [← activations, pending, inactive]

end Ended

/-! ## Reading the sections -/

def SessionAct.isRelease : SessionAct → Bool
  | .runRelease _ => true
  | _ => false

def SessionAct.isJob : SessionAct → Bool
  | .dispatchJob _ => true
  | _ => false

def SessionAct.isActivation : SessionAct → Bool
  | .activateFinish => true
  | _ => false

namespace Session

/-- The release closures handed out: those that ran and those about to. -/
def releases (s : Session) (acts : Multiset SessionAct) : Nat :=
  s.releasesRun.length + acts.countP (·.isRelease)

/-- The finish jobs handed out: those dispatched and those about to be. -/
def finishJobs (s : Session) (acts : Multiset SessionAct) : Nat :=
  s.dispatched.length + acts.countP (·.isJob)

/-- The ending of a session, with what its callers have in flight. -/
def ending (s : Session) (acts : Multiset SessionAct) : Ending :=
  s.io.ending s.panicked (s.releases acts) (s.finishJobs acts) (acts.countP (·.isActivation))

end Session

section Ending

variable {io : TcpIo} {panicked : Bool} {releases jobs activations : Nat}

theorem TcpIo.takeRelease_ending (past : (io.ending panicked releases jobs activations).past = true) :
    io.takeRelease.1.ending panicked (releases + io.takeRelease.2.isSome.toNat) jobs activations =
      (io.ending panicked releases jobs activations).release := by
  unfold takeRelease Ending.release
  rw [past, Bool.true_and]
  cases released : io.released with
  | true | false => simp [ending, released]

theorem TcpIo.maybeTakeRelease_ending (live : io.aborted = none) :
    io.maybeTakeRelease.1.ending panicked (releases + io.maybeTakeRelease.2.isSome.toNat) jobs activations =
      (io.ending panicked releases jobs activations).release := by
  have past : (io.ending panicked releases jobs activations).past =
      (io.writeFinished && io.readEofObserved) := by
    simp [Ending.past, ending, live]
  unfold maybeTakeRelease
  rw [live, Option.isNone_none, Bool.true_and]
  split
  · next ends => exact TcpIo.takeRelease_ending (past.trans ends)
  · next goes =>
    rw [← past, Bool.not_eq_true] at goes
    simp [Ending.release, goes]

theorem TcpIo.takeFinishJob_ending :
    (io.takeFinishJob 0).1.ending (panicked || (io.takeFinishJob 0).2.2) releases
        (jobs + (io.takeFinishJob 0).2.1.isSome.toNat) activations =
      (io.ending panicked releases jobs activations).fire := by
  unfold takeFinishJob Ending.fire Ending.due
  cases active : io.finishCallbackActive with
  | false => simp [ending, active]
  | true =>
    cases aborted : io.aborted <;> cases finished : io.writeFinished <;>
      cases held : io.finishCallback <;> cases permit : io.finishCallbackPermit <;>
      simp [ending, active, aborted, finished, held, permit]

end Ending

def SessionAct.silent (act : SessionAct) : Bool := !act.isRelease && !act.isJob && !act.isActivation

section Exec

variable {s s' : Session} {act : SessionAct} {new : List SessionAct} {others : Multiset SessionAct}

theorem SessionAct.silent_iff : act.silent = true ↔
    act.isRelease = false ∧ act.isJob = false ∧ act.isActivation = false := by
  simp [silent, and_assoc]

theorem Session.silent_counts (silent : ∀ act ∈ new, act.silent = true) :
    new.countP (·.isRelease) = 0 ∧ new.countP (·.isJob) = 0 ∧ new.countP (·.isActivation) = 0 := by
  have quiet := fun act mem => SessionAct.silent_iff.mp (silent act mem)
  simp only [List.countP_eq_zero]
  exact ⟨fun act mem => by simp [(quiet act mem).1], fun act mem => by simp [(quiet act mem).2.1],
    fun act mem => by simp [(quiet act mem).2.2]⟩

theorem Session.after_counts (effect : IoEffect) :
    (after effect).countP (·.isRelease) = effect.release.isSome.toNat ∧
      (after effect).countP (·.isJob) = effect.job.isSome.toNat ∧
      (after effect).countP (·.isActivation) = 0 := by
  unfold after
  cases effect.release <;> cases effect.job <;> exact ⟨rfl, rfl, rfl⟩

/-- The ending before a silent action. -/
theorem Session.ending_before (silent : act.silent = true) :
    s.ending (act ::ₘ others) =
      s.io.ending s.panicked (s.releases others) (s.finishJobs others) (others.countP (·.isActivation)) := by
  obtain ⟨noRelease, noJob, noActivation⟩ := SessionAct.silent_iff.mp silent
  simp [ending, releases, finishJobs, noRelease, noJob, noActivation]

/-- The ending after a section: what it took is handed out, and what else follows is silent. -/
theorem Session.ending_after (effect : IoEffect) (silent : ∀ act ∈ new, act.silent = true)
    (sameReleases : s'.releasesRun = s.releasesRun) (sameJobs : s'.dispatched = s.dispatched) :
    s'.ending ((after effect ++ new : List SessionAct) + others) =
      s'.io.ending s'.panicked (s.releases others + effect.release.isSome.toNat)
        (s.finishJobs others + effect.job.isSome.toNat) (others.countP (·.isActivation)) := by
  obtain ⟨isRelease, isJob, isActivation⟩ := after_counts effect
  obtain ⟨noRelease, noJob, noActivation⟩ := silent_counts silent
  simp only [ending, releases, finishJobs, sameReleases, sameJobs, Multiset.countP_add, Multiset.coe_countP,
    Bool.decide_eq_true, List.countP_append, isRelease, isJob, isActivation, noRelease, noJob, noActivation,
    Nat.add_zero, Nat.zero_add, Nat.add_comm, Nat.add_left_comm]

/-- The ending after a section that hands out what it took. -/
theorem Session.ending_onIo (result : TcpIo × IoEffect) :
    (s.onIo result).1.ending (((s.onIo result).2 : Multiset SessionAct) + others) =
      result.1.ending (s.panicked || result.2.panicked) (s.releases others + result.2.release.isSome.toNat)
        (s.finishJobs others + result.2.job.isSome.toNat) (others.countP (·.isActivation)) := by
  have after := @ending_after s (s.onIo result).1 [] others result.2 (by simp) rfl rfl
  rw [List.append_nil] at after
  exact after

/-- A section that takes nothing and does not touch the ending. -/
theorem Session.ending_onIo_stay (s : Session) :
    (s.ending others).Step (s.io.ending (s.panicked || false) (s.releases others) (s.finishJobs others)
      (others.countP (·.isActivation))) := by
  rw [Bool.or_false]
  exact .stay _

/-- The ending with a callback that is about to be activated. -/
theorem Session.ending_activating (sameReleases : s'.releasesRun = s.releasesRun)
    (sameJobs : s'.dispatched = s.dispatched) :
    s'.ending (.activateFinish ::ₘ others) = s'.io.ending s'.panicked (s.releases others) (s.finishJobs others)
      (others.countP (·.isActivation) + 1) := by
  simp only [ending, releases, finishJobs, sameReleases, sameJobs, Multiset.countP_cons]
  rfl

/-- A silent action that leads to silent actions and does not touch the ending. -/
theorem Session.ending_quiet (silent : act.silent = true) (next : ∀ act ∈ new, act.silent = true)
    (same : s.SameEnding s') :
    (s.ending (act ::ₘ others)).Step (s'.ending ((new : Multiset SessionAct) + others)) := by
  obtain ⟨io, sameReleases, sameJobs, panicked⟩ := same
  have result := @ending_after s s' new others {} next sameReleases sameJobs
  rw [io, panicked] at result
  rw [ending_before silent]
  exact result ▸ .stay _

theorem Session.quiet_singleton {act' : SessionAct} (silent : act'.silent = true) :
    ∀ act ∈ [act'], act.silent = true := by
  intro act mem
  rw [List.mem_singleton.mp mem]
  exact silent

/-- What a settled action leads to is silent. -/
theorem Session.exec_silent (s : Session) (admission : Option Permit) {act : SessionAct} (settled : act.settled = true) :
    ∀ next ∈ (exec admission act s).2, next.silent = true := by
  cases act with
  | tryRead | read | registerFinish | activateFinish | completeWriteShutdown | abort | runRelease | dispatchJob =>
    cases settled
  | send | sendChunk | finish | finishWith | beginCallbackEvent | writerDropped | readerDropped | ownerDropped
  | pushInbound =>
    simp only [exec, send, sendChunk, abortIf]
    repeat' split
    all_goals simp [SessionAct.silent, SessionAct.isRelease, SessionAct.isJob, SessionAct.isActivation]
  | _ => simp [exec, SessionAct.silent, SessionAct.isRelease, SessionAct.isJob, SessionAct.isActivation]

theorem Session.abort_ending (s : Session) (kind : TcpAbort) :
    (s.ending (.abort kind ::ₘ others)).Step
      ((s.onIo (s.io.abort 0 kind)).1.ending
        (((s.onIo (s.io.abort 0 kind)).2 : Multiset SessionAct) + others)) := by
  rw [ending_before rfl, ending_onIo]
  unfold TcpIo.abort
  split
  · exact s.ending_onIo_stay
  next live =>
  simp only
  rw [TcpIo.takeFinishJob_ending, TcpIo.takeRelease_ending rfl]
  exact .abort _ (by simpa [TcpIo.ending] using live)

theorem Session.completeWriteShutdown_ending (s : Session) (admission : Option Permit) :
    (s.ending (.completeWriteShutdown ::ₘ others)).Step
      ((exec admission .completeWriteShutdown s).1.ending
        (((exec admission .completeWriteShutdown s).2 : Multiset SessionAct) + others)) := by
  rcases shutdown : s.io.completeWriteShutdown 0 with ⟨io, effect, outcome⟩
  simp only [exec, shutdown]
  rw [ending_before rfl, ending_onIo]
  unfold TcpIo.completeWriteShutdown at shutdown
  split at shutdown
  · cases shutdown
    exact s.ending_onIo_stay
  next live =>
  split at shutdown
  · cases shutdown
    exact s.ending_onIo_stay
  split at shutdown
  · cases shutdown
    exact s.ending_onIo_stay
  simp only [Prod.mk.injEq] at shutdown
  obtain ⟨rfl, rfl, -⟩ := shutdown
  simp only
  rw [TcpIo.takeFinishJob_ending,
    @TcpIo.maybeTakeRelease_ending { s.io with writeFinished := true } _ _ _ _ live]
  exact .finish _ (by simp [TcpIo.ending, live])

theorem Session.tryRead_ending (s : Session) (space : Nat) (silent : act.silent = true)
    (next : ∀ act ∈ new, act.silent = true) :
    (s.ending (act ::ₘ others)).Step
      ((s.tryRead space).1.ending (((s.tryRead space).2.1 ++ new : List SessionAct) + others)) := by
  rw [ending_before silent]
  rcases read : s.io.tryRead space with ⟨io, effect, outcome⟩
  have same : (s.tryRead space).1.releasesRun = s.releasesRun ∧ (s.tryRead space).1.dispatched = s.dispatched ∧
      (s.tryRead space).1.io = io ∧ (s.tryRead space).1.panicked = s.panicked ∧
      (s.tryRead space).2.1 = after effect := by
    simp only [tryRead, read]
    split <;> exact ⟨rfl, rfl, rfl, rfl, trivial⟩
  have result := @ending_after s (s.tryRead space).1 new others effect next same.1 same.2.1
  rw [same.2.2.1, same.2.2.2.1] at result
  rw [same.2.2.2.2]
  refine result ▸ ?_
  unfold TcpIo.tryRead at read
  split at read
  · cases read
    exact .stay _
  next live =>
  split at read
  · split at read
    · simp only [TcpIo.observeEof] at read
      cases read
      have ends := @TcpIo.maybeTakeRelease_ending { s.io with readEofObserved := true } s.panicked
        (s.releases others) (s.finishJobs others) (others.countP (·.isActivation)) live
      simp only [Option.isSome_none, Bool.toNat_false, Nat.add_zero]
      rw [ends]
      exact .eof _ (by simp [TcpIo.ending, live])
    · cases read
      exact .stay _
  · split at read
    · cases read
      exact .stay _
    · cases read
      exact .stay _

theorem Session.activateFinish_ending (s : Session) :
    (s.ending (.activateFinish ::ₘ others)).Step
      ((s.onIo (s.io.activateFinish 0)).1.ending
        (((s.onIo (s.io.activateFinish 0)).2 : Multiset SessionAct) + others)) := by
  rw [ending_activating rfl rfl, ending_onIo]
  simp only [TcpIo.activateFinish, Option.isSome_none, Bool.toNat_false, Nat.add_zero]
  rw [TcpIo.takeFinishJob_ending]
  exact .activate _ _ rfl

theorem Session.registerFinish_ending (s : Session) (admission : Option Permit) (callback : Callback)
    (permit : Permit) :
    (s.ending (.registerFinish callback permit ::ₘ others)).Step
      ((exec admission (.registerFinish callback permit) s).1.ending
        (((exec admission (.registerFinish callback permit) s).2 : Multiset SessionAct) + others)) := by
  simp only [exec]
  split
  · next io registered =>
    unfold TcpIo.registerFinish at registered
    split at registered
    · cases registered
    next new =>
    cases registered
    rw [ending_before rfl, Multiset.coe_singleton, Multiset.singleton_add]
    refine Eq.mpr (congrArg (Ending.Step _) (@ending_activating s _ others rfl rfl)) ?_
    exact .register _ (by simpa [TcpIo.ending] using new)
  · exact ending_quiet rfl (quiet_singleton rfl) ⟨rfl, rfl, rfl, rfl⟩

/-- What an action does to the ending of the session. -/
theorem Session.exec_ending (s : Session) (admission : Option Permit) (act : SessionAct)
    (others : Multiset SessionAct) :
    (s.ending (act ::ₘ others)).Step ((exec admission act s).1.ending
      (((exec admission act s).2 : Multiset SessionAct) + others)) := by
  cases act with
  | abort kind => exact s.abort_ending kind
  | completeWriteShutdown => exact s.completeWriteShutdown_ending admission
  | activateFinish => exact s.activateFinish_ending
  | registerFinish callback permit => exact s.registerFinish_ending admission callback permit
  | tryRead space =>
    have step := @tryRead_ending (.tryRead space) [] others s space rfl (by simp)
    rw [List.append_nil] at step
    exact step
  | read space =>
    simp only [exec]
    split
    · exact ending_quiet rfl (by simp) ⟨rfl, rfl, rfl, rfl⟩
    refine tryRead_ending s space rfl ?_
    split
    · exact quiet_singleton rfl
    · simp
  | runRelease | dispatchJob =>
    -- What is run or dispatched was counted when it was handed out.
    refine Eq.mpr (congrArg (Ending.Step _) ?_) (.stay _)
    simp [exec, ending, releases, finishJobs, SessionAct.isRelease.eq_1, SessionAct.isRelease.eq_2, SessionAct.isJob.eq_1,
      SessionAct.isJob.eq_2, SessionAct.isActivation.eq_2, Nat.add_assoc, Nat.add_comm]
  | beginUpgrade =>
    refine ending_quiet rfl (s.exec_silent admission rfl) ?_
    simp only [exec, TcpIo.beginUpgrade]
    split
    · next started =>
      split at started
      · cases started
      · cases started
        exact ⟨rfl, rfl, rfl, rfl⟩
    · exact ⟨rfl, rfl, rfl, rfl⟩
  | takeTlsOutboundUpTo capacity =>
    refine ending_quiet rfl (s.exec_silent admission rfl) ⟨?_, rfl, rfl, rfl⟩
    simp only [exec, took, TcpIo.takeTlsOutboundUpTo]
    repeat' split
    all_goals rfl
  | pushInbound bytes =>
    have same : (s.io.pushInbound bytes).1.ending = s.io.ending := by
      unfold TcpIo.pushInbound
      repeat' split
      all_goals rfl
    refine ending_quiet rfl (s.exec_silent admission rfl) ?_
    simp only [exec]
    split <;> rename_i pushed <;> rw [pushed] at same <;> exact ⟨same, rfl, rfl, rfl⟩
  | completeUpgrade => exact ending_quiet rfl (s.exec_silent admission rfl) ⟨rfl, rfl, rfl, rfl⟩
  | _ =>
    exact ending_quiet rfl (s.exec_silent admission rfl)
      ((@exec_ordinary true s admission _ rfl fun mixed => Bool.noConfusion mixed).2.2.2 rfl)

end Exec

/-! ## The write half -/

/-- A write half that finished had been asked to, and an aborted session has nothing left to send. -/
structure Outbound.Orderly (q : Outbound) : Prop where
  asked : q.finishRequested = true → 0 < q.requests
  finished : q.finished = true → q.finishRequested = true
  aborted : q.aborted = true → q.chunks = [] ∧ q.pump = []

/-- Once the write half has finished, everything accepted is written. -/
structure Outbound.Drained (q : Outbound) : Prop where
  empty : q.chunks = [] ∧ q.pump = []
  written : q.written = q.accepted

/-- What holds of the write half while plain takes and TLS takes are not mixed inside a chunk. -/
structure Outbound.Flushing (q : Outbound) : Prop extends q.Orderly where
  sending : q.aborted = false → Sending q
  drained : q.finished = true → q.Drained

section Outbound

variable {q q' : Outbound} {mixed : Bool}

theorem Outbound.Orderly.step (inv : q.Orderly) (step : Outbound.Step mixed q q') : q'.Orderly := by
  obtain ⟨asked, finished, aborted⟩ := inv
  cases step with
  | stay => exact ⟨asked, finished, aborted⟩
  | accept chunk nonempty live unrequested unfinished room =>
    exact ⟨asked, finished, fun isAborted => absurd (live.symm.trans isAborted) nofun⟩
  | @take capacity positive front rest here apart | @takeTls capacity positive front rest here part
  | @takeTlsLast capacity positive front rest here whole =>
    refine ⟨asked, finished, fun isAborted => ?_⟩
    rw [(aborted isAborted).1] at here
    cases here
  | written nbytes =>
    refine ⟨asked, finished, fun isAborted => ⟨(aborted isAborted).1, ?_⟩⟩
    show (Chunks.drain nbytes q.pump q.pumpOffset).2.1 = []
    rw [(aborted isAborted).2]
    rfl
  | request granted =>
    refine ⟨fun _ => Nat.succ_pos _, fun isFinished => ?_, aborted⟩
    show (q.finishRequested || granted) = true
    rw [finished isFinished, Bool.true_or]
  | finish live requested empty drained => exact ⟨asked, fun _ => requested, aborted⟩
  | abort live => exact ⟨asked, finished, fun _ => ⟨rfl, rfl⟩⟩

/-- Nothing goes through a queue without chunks. -/
theorem Outbound.Step.idle (step : Outbound.Step mixed q q') (empty : q.chunks = [] ∧ q.pump = [])
    (closed : q.aborted = true ∨ q.finishRequested = true) :
    (q'.chunks = [] ∧ q'.pump = []) ∧ q'.accepted = q.accepted ∧ q'.taken = q.taken ∧
      q'.written = q.written := by
  cases step with
  | accept chunk nonempty live unrequested unfinished room =>
    rcases closed with closed | closed
    · exact absurd (live.symm.trans closed) nofun
    · exact absurd (unrequested.symm.trans closed) nofun
  | @take capacity positive front rest here apart | @takeTls capacity positive front rest here part
  | @takeTlsLast capacity positive front rest here whole =>
    rw [empty.1] at here
    cases here
  | written nbytes =>
    have nothing : Chunks.drain nbytes q.pump q.pumpOffset = ([], [], q.pumpOffset) := by
      rw [empty.2]
      rfl
    refine ⟨⟨empty.1, ?_⟩, rfl, rfl, ?_⟩
    · show (Chunks.drain nbytes q.pump q.pumpOffset).2.1 = []
      rw [nothing]
    · show q.written ++ (Chunks.drain nbytes q.pump q.pumpOffset).1 = q.written
      rw [nothing, List.append_nil]
  | abort => exact ⟨⟨rfl, rfl⟩, rfl, rfl, rfl⟩
  | stay | request | finish => exact ⟨empty, rfl, rfl, rfl⟩

theorem Outbound.Flushing.finish (inv : q.Flushing) (step : Outbound.Step mixed q q') (finished : q'.finished = true) :
    q'.Drained := by
  by_cases was : q.finished = true
  · obtain ⟨empty, written⟩ := inv.drained was
    obtain ⟨empty', accepted', -, written'⟩ := step.idle empty (.inr (inv.finished was))
    exact ⟨empty', by rw [written', accepted', written]⟩
  cases step with
  | finish live requested empty drained =>
    -- The counters are zero, so the queues are empty and all that was accepted went through them.
    have sends := inv.sending live
    have pumped := sends.pumped
    have queued := sends.queued
    have nothing : q.unwritten = [] := List.length_eq_zero_iff.mp (sends.pumpBytes ▸ drained)
    have untaken : q.untaken = [] := by
      have length := sends.queue.length_contents
      rw [← sends.bytes, empty] at length
      exact List.length_eq_zero_iff.mp (Nat.add_eq_zero_iff.mp length).1
    refine ⟨⟨(sends.queue.eq_nil untaken).1, (sends.pump.eq_nil nothing).1⟩, ?_⟩
    show q.written = q.accepted
    rw [queued, untaken, List.append_nil, pumped, nothing, List.append_nil]
  | stay | accept | take | takeTls | takeTlsLast | written | request | abort => exact absurd finished was

end Outbound

/-! ## Every run -/

section Runs

variable {allowed : Config Session SessionAct → Label SessionAct → Prop} {c c' : Config Session SessionAct}

theorem Session.ReachableBy.ended (reached : Session.ReachableBy allowed c) :
    Closing (c.shared.ending c.inFlight) ∧ Finishing (c.shared.ending c.inFlight) := by
  obtain ⟨id, runMode, sendWindow, receiveWindow, onRelease, -, -, run⟩ := reached
  refine Run.inFlight_invariant (fun s acts => Closing (s.ending acts) ∧ Finishing (s.ending acts))
    ⟨⟨rfl, rfl, rfl⟩, ⟨rfl, rfl, rfl, fun _ => rfl, fun active => absurd (show false = true from active) nofun,
      rfl⟩⟩ ?_ ?_ ?_ run
  · intro c i act admission others _ _ _ _ inv
    have step := c.shared.exec_ending admission act others
    exact ⟨inv.1.step step, inv.2.step step⟩
  · intro c i acts acts' others _ _ _ call inv
    -- No call starts with an action that counts.
    cases call with
    | @mk act isCall =>
      have silent : act.silent = true := by
        cases act <;> first | rfl | cases isCall
      rw [Multiset.coe_singleton, Multiset.singleton_add, Session.ending_before silent]
      rw [Multiset.coe_nil, Multiset.zero_add] at inv
      exact inv
  · intro c shared' _ drifts
    exact drifts.elim

theorem Session.ReachableBy.orderly (reached : Session.ReachableBy allowed c) : c.shared.outbound.Orderly := by
  refine reached.invariant (fun s => s.outbound.Orderly) ?_ ?_
  · intro id runMode sendWindow receiveWindow onRelease
    exact ⟨nofun, nofun, nofun⟩
  · intro c i act admission _ inv
    exact inv.step (@Session.exec_sides true c.shared admission act nofun).2

theorem Session.ReachableBy.drained (reached : Session.ReachableBy Session.TakesApart c)
    (finished : c.shared.io.writeFinished = true) : c.shared.outbound.Drained := by
  refine (reached.invariant (fun s => s.outbound.Flushing) ?_ ?_).drained finished
  · intro id runMode sendWindow receiveWindow onRelease
    exact ⟨⟨nofun, nofun, nofun⟩, fun _ => ⟨.nil, rfl, .nil, rfl, rfl, rfl, Nat.zero_le _⟩, nofun⟩
  intro c i act admission apart inv
  have step := (@Session.exec_sides false c.shared admission act fun _ => apart i act rfl).2
  exact ⟨inv.toOrderly.step step, fun live => (inv.sending (step.aborted live)).step step live, inv.finish step⟩

def Session.traffic (s : Session) : Bytes × Bytes × Bytes × Bytes := (s.accepted, s.taken, s.pushed, s.read)

/-- After an abort nothing is accepted, taken, pushed or read. -/
theorem Session.aborted_silent (reached : Session.ReachableBy allowed c)
    (aborted : c.shared.io.aborted.isSome = true) (run : Run Session.system anyStep c c') :
    c'.shared.traffic = c.shared.traffic := by
  refine (Run.invariant (fun c' => (c'.shared.outbound.aborted = true ∧ c'.shared.outbound.chunks = [] ∧
    c'.shared.outbound.pump = []) ∧ c'.shared.traffic = c.shared.traffic) ?_ ?_ run).2
  · exact ⟨⟨aborted, reached.orderly.aborted aborted⟩, rfl⟩
  rintro c₁ label c₂ - ⟨⟨isAborted, empty⟩, same⟩ - step
  cases step with
  | @run i act rest admission here ready =>
    obtain ⟨inbound, outbound⟩ := @Session.exec_sides true c₁.shared admission act nofun
    obtain ⟨empty', accepted, taken, -⟩ := outbound.idle empty (.inl isAborted)
    have aborted' : (Session.exec admission act c₁.shared).1.outbound.aborted = true := by
      by_contra live
      rw [outbound.aborted (by simpa using live)] at isAborted
      cases isAborted
    have still := inbound.aborted isAborted
    have now : (Session.exec admission act c₁.shared).1.traffic = c₁.shared.traffic :=
      Prod.ext accepted (Prod.ext taken (Prod.ext (congrArg Inbound.pushed still) (congrArg Inbound.read still)))
    exact ⟨⟨aborted', empty'⟩, now.trans same⟩
  | jump | spawn => exact ⟨⟨isAborted, empty⟩, same⟩
  | drift drifts => exact drifts.elim

/-- What follows a section runs the release closure first. -/
theorem Session.exec_tail (s : Session) (admission : Option Permit) (act : SessionAct) :
    ∀ next ∈ (Session.exec admission act s).2.tail, next.isRelease = false := by
  have afterTail : ∀ (effect : IoEffect) (new : List SessionAct), (∀ next ∈ new, next.isRelease = false) →
      ∀ next ∈ (after effect ++ new).tail, next.isRelease = false := by
    rintro ⟨release, job, panicked⟩ new quiet next mem
    cases release <;> cases job <;>
      simp only [after, Option.map_none, Option.map_some, Option.toList_none, Option.toList_some,
        List.nil_append, List.cons_append, List.tail_cons, List.mem_cons] at mem
    · exact quiet next (List.mem_of_mem_tail mem)
    · exact quiet next mem
    · exact quiet next mem
    · rcases mem with rfl | mem
      · rfl
      · exact quiet next mem
  have onlyAfter : ∀ effect : IoEffect, ∀ next ∈ (after effect).tail, next.isRelease = false := by
    intro effect
    have tail := afterTail effect [] (by simp)
    rwa [List.append_nil] at tail
  cases act with
  | abort kind | completeWriteShutdown | activateFinish | tryRead space => exact onlyAfter _
  | read space =>
    simp only [exec]
    split
    · simp
    refine afterTail _ _ ?_
    split
    · intro next mem
      rw [List.mem_singleton.mp mem]
      rfl
    · simp
  | registerFinish =>
    simp only [exec]
    split <;> simp
  | runRelease | dispatchJob => simp [exec]
  | _ =>
    intro next mem
    exact (SessionAct.silent_iff.mp (s.exec_silent admission rfl next (List.mem_of_mem_tail mem))).1

/-- A release closure in flight is the next thing its thread does. -/
theorem Session.ReachableBy.releasing (reached : Session.ReachableBy allowed c) :
    ∀ (i : Nat) (acts : List SessionAct), c.tasks[i]? = some acts →
      ∀ act ∈ acts.tail, act.isRelease = false := by
  obtain ⟨id, runMode, sendWindow, receiveWindow, onRelease, -, -, run⟩ := reached
  refine Run.task_invariant (fun _ _ acts => ∀ act ∈ acts.tail, act.isRelease = false) ?_ ?_ ?_ ?_ ?_ ?_ run
  · intro i acts found
    have empty : acts = [] := by simpa using List.mem_of_getElem? found
    simp [empty]
  · intro c i act rest admission _ _ _ _ inv next mem
    have own := c.shared.exec_tail admission act next
    cases new : (Session.exec admission act c.shared).2 with
    | nil =>
      rw [show (Session.system.exec admission act c.shared).2 = [] from new] at mem
      exact inv next (List.mem_of_mem_tail mem)
    | cons first others =>
      rw [show (Session.system.exec admission act c.shared).2 = first :: others from new] at mem
      rw [new] at own
      rcases List.mem_append.mp mem with mem | mem
      · exact own mem
      · exact inv next mem
  · rintro c i _ _ - - ⟨-⟩ -
    simp
  · exact fun _ _ _ _ _ _ _ _ _ _ _ _ _ inv => inv
  · exact fun _ _ _ _ _ drifts => drifts.elim
  · simp

/-- In every state that the callers of a session reach: its release closure has been handed out, once, exactly if
it was aborted or both directions have ended, and the thread that took it runs it next. If the write half has
finished, it was asked to, and, plain takes and TLS takes not being mixed inside a chunk, every accepted byte was
reported as written. After an abort no byte goes in or out. A registered finish callback is in at most one job,
in none before the write half finished or the session was aborted, and from then on in exactly one, or its
activation is about to take it. -/
theorem session_ends (reached : Session.Reachable c) :
    (c.shared.io.released =
        (c.shared.io.aborted.isSome || (c.shared.io.writeFinished && c.shared.io.readEofObserved)) ∧
      c.shared.releases c.inFlight = (if c.shared.io.released then 1 else 0) ∧
      ∀ acts ∈ c.tasks, ∀ act ∈ acts.tail, act.isRelease = false) ∧
    (c.shared.io.writeFinished = true → 0 < c.shared.finishRequests ∧
      (Session.ReachableBy Session.TakesApart c → c.shared.written = c.shared.accepted)) ∧
    (c.shared.io.aborted.isSome = true → ∀ c', Run Session.system anyStep c c' →
      c'.shared.accepted = c.shared.accepted ∧ c'.shared.taken = c.shared.taken ∧
      c'.shared.pushed = c.shared.pushed ∧ c'.shared.read = c.shared.read) ∧
    (c.shared.panicked = false ∧
      c.shared.finishJobs c.inFlight ≤ (if c.shared.io.finishCallbackRegistered then 1 else 0) ∧
      (0 < c.shared.finishJobs c.inFlight →
        c.shared.io.aborted.isSome = true ∨ c.shared.io.writeFinished = true) ∧
      (c.shared.io.finishCallbackRegistered = true →
        c.shared.io.aborted.isSome = true ∨ c.shared.io.writeFinished = true →
        c.shared.finishJobs c.inFlight = 1 ∨ .activateFinish ∈ c.inFlight)) := by
  obtain ⟨closing, finishing⟩ := reached.ended
  have orderly := reached.orderly
  have due : (c.shared.ending c.inFlight).due = true ↔
      c.shared.io.aborted.isSome = true ∨ c.shared.io.writeFinished = true := by
    rw [Ending.due, Bool.or_eq_true]
    rfl
  have jobs : c.shared.io.finishCallback.isSome.toNat + c.shared.finishJobs c.inFlight =
      c.shared.io.finishCallbackRegistered.toNat := finishing.jobs
  refine ⟨⟨closing.released, ?_, fun acts mem => ?_⟩, fun finished => ⟨?_, fun apart => ?_⟩,
    fun aborted c' run => ?_, finishing.calm, ?_, fun some => ?_, fun registered isDue => ?_⟩
  · have releases : c.shared.releases c.inFlight = c.shared.io.released.toNat := closing.releases
    rw [releases]
    cases c.shared.io.released <;> rfl
  · obtain ⟨i, found⟩ := List.mem_iff_getElem?.mp mem
    exact reached.releasing i acts found
  · exact orderly.asked (orderly.finished finished)
  · exact (apart.drained finished).written
  · simpa only [Session.traffic, Prod.mk.injEq] using Session.aborted_silent reached aborted run
  · have bound := Nat.le_of_add_left_le jobs.le
    cases registered : c.shared.io.finishCallbackRegistered <;> simpa [registered] using bound
  · by_contra early
    have none : c.shared.finishJobs c.inFlight = 0 :=
      finishing.early (Bool.not_eq_true _ ▸ fun isDue => early (due.mp isDue))
    omega
  · cases active : c.shared.io.finishCallbackActive with
    | true =>
      have taken : c.shared.io.finishCallback.isSome = false := finishing.late active (due.mpr isDue)
      rw [taken, registered] at jobs
      exact .inl (by simpa using jobs)
    | false =>
      have pending : c.inFlight.countP (·.isActivation) + c.shared.io.finishCallbackActive.toNat =
          c.shared.io.finishCallbackRegistered.toNat := finishing.activations
      rw [active, registered] at pending
      have one : 0 < c.inFlight.countP (·.isActivation) := Nat.lt_of_lt_of_eq Nat.one_pos pending.symm
      obtain ⟨act, mem, isActivation⟩ := Multiset.countP_pos.mp one
      cases act <;> first | exact .inr mem | cases isActivation

/-- A byte is sent and written, the write half finishes with a callback, and the reader sees EOF. -/
def Session.endingScript : List (Turn system) :=
  [call (.trySend [1]), next, call (.finishWith ⟨0, false⟩), next, next (some ⟨.callbackInflight, 1⟩), next,
    next, call (.takeOutboundUpTo 4), next, call (.writeProgress 1), next, call .completeWriteShutdown, next,
    next, call .peerClosed, next, call (.tryRead 1), next, next]

theorem session_ends_finished : ∃ c, Session.Reachable c ∧ c.shared.io.writeFinished = true ∧
    c.shared.dispatched.length = 1 ∧ 0 < c.shared.finishRequests ∧ c.shared.releases c.inFlight = 1 := by
  obtain ⟨c, reached, finished, released, dispatched⟩ :=
    Session.reached_of_any_script 4 (by decide) Session.endingScript
      (fun s => s.io.writeFinished = true ∧ s.io.released = true ∧ s.dispatched.length = 1)
      (by decide +kernel)
  obtain ⟨⟨-, releases, -⟩, written, -⟩ := session_ends reached
  rw [released] at releases
  exact ⟨c, reached, finished, dispatched, (written finished).1, releases⟩

/-- A plain take inside a chunk that a TLS take has begun leaves the offset of the TLS takes behind. -/
def Session.staleOffsetScript : List (Turn system) :=
  [call (.trySend [1, 2]), next, call (.takeTlsOutboundUpTo 1), next, call (.takeOutboundUpTo 2), next,
    call (.writeProgress 3), next, call (.trySend [3]), next, call (.takeTlsOutboundUpTo 1), next,
    call .tryFinish, next, call .completeWriteShutdown, next]

/-- The next chunk is dropped, and the write half finishes without it. -/
theorem finished_unwritten : ∃ c, Session.Reachable c ∧ c.shared.io.aborted.isNone = true ∧
    c.shared.io.writeFinished = true ∧ c.shared.accepted = [1, 2, 3] ∧ c.shared.written = [1, 1, 2] :=
  Session.reached_of_any_script 4 (by decide) Session.staleOffsetScript
    (fun s => s.io.aborted.isNone = true ∧ s.io.writeFinished = true ∧ s.accepted = [1, 2, 3] ∧
      s.written = [1, 1, 2]) (by decide +kernel)

end Runs

end NbReq
