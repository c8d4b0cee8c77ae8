import NbReq.Registry.Coherence

/-!
# Coherent sessions

What a live or ended TCP session always satisfies, and what every section on a session does: the release
closure is handed out exactly when the session stops being live, and the permit of a finish callback moves into
its job.
-/

namespace NbReq

/-- A finish callback has its permit; the release closure is there until the session is released. -/
structure TcpIo.Coherent (io : TcpIo) : Prop where
  finish : io.finishCallbackPermit.isSome = io.finishCallback.isSome
  unregistered : io.finishCallbackRegistered = false → io.finishCallback = none
  release : io.onRelease.isSome = !io.released

/-- What a section on a session guarantees. -/
structure IoSound (ref : Nat) (before : TcpIo) (result : TcpIo × IoEffect) : Prop where
  coherent : result.1.Coherent
  calm : result.2.panicked = false
  job : ∀ job ∈ result.2.job, job.kind = .terminal ∧ job.requestId = before.id ∧
    ∃ outcome, job.body = .finish ref outcome
  permits : ∀ k, held k before.permits =
    held k result.1.permits + held k (result.2.release.getD []) + held k (jobPermits result.2.job)
  id : result.1.id = before.id

structure TcpIo.SameControl (io io' : TcpIo) : Prop where
  id : io'.id = io.id
  registered : io'.finishCallbackRegistered = io.finishCallbackRegistered
  finishCallback : io'.finishCallback = io.finishCallback
  permit : io'.finishCallbackPermit = io.finishCallbackPermit
  onRelease : io'.onRelease = io.onRelease
  released : io'.released = io.released

section Sections

variable {ref : Nat} {io : TcpIo}

theorem TcpIo.SameControl.sound {io' : TcpIo} (same : io.SameControl io') (coherent : io.Coherent) :
    IoSound ref io (io', {}) where
  coherent := by
    refine ⟨?_, ?_, ?_⟩
    · rw [same.permit, same.finishCallback]
      exact coherent.finish
    · rw [same.registered, same.finishCallback]
      exact coherent.unregistered
    · rw [same.onRelease, same.released]
      exact coherent.release
  calm := rfl
  job := by simp
  permits := by
    intro k
    simp [TcpIo.permits, same.onRelease, same.permit]
  id := same.id

/-- Two sections in one: the first takes at most the release closure, the second at most the finish job. -/
theorem IoSound.then {mid out : TcpIo} {release : Option (List Permit)} {job : Option CallbackJob}
    {panicked : Bool} (first : IoSound ref io (mid, { release := release }))
    (second : IoSound ref mid (out, { job := job, panicked := panicked })) :
    IoSound ref io (out, { release := release, job := job, panicked := panicked }) where
  coherent := second.coherent
  calm := second.calm
  job := by
    intro j mem
    obtain ⟨kind, requestId, body⟩ := second.job j mem
    exact ⟨kind, requestId.trans first.id, body⟩
  permits := by
    intro k
    have one := first.permits k
    have two := second.permits k
    simp only [jobPermits_none, held_nil, Option.getD_none] at one two
    simp only
    omega
  id := second.id.trans first.id

/-- Taking the release closure, on a session `io'` that differs from `io` at most in its queues, in its
shutdown flags and in that it was aborted. -/
theorem TcpIo.takeRelease_sound (io' : TcpIo) (coherent : io.Coherent) (same : io.SameControl io') :
    IoSound ref io (io'.takeRelease.1, { release := io'.takeRelease.2 }) := by
  obtain ⟨id, registered, callback, permit, onRelease, released⟩ := same
  have finish := coherent.finish
  have unset := coherent.unregistered
  have closure := coherent.release
  rw [← permit, ← callback] at finish
  rw [← registered, ← callback] at unset
  rw [← onRelease, ← released] at closure
  unfold TcpIo.takeRelease
  split
  · exact ⟨⟨finish, unset, closure⟩, rfl, by simp, by simp [TcpIo.permits, onRelease, permit], id⟩
  refine ⟨⟨finish, unset, rfl⟩, rfl, by simp, ?_, id⟩
  intro k
  simp only [TcpIo.permits, onRelease, permit, held_append, Option.getD_none, held_nil, jobPermits_none]
  omega

/-- Taking the finish job: the permit goes with the callback. -/
theorem TcpIo.takeFinishJob_sound (coherent : io.Coherent) :
    IoSound ref io ((io.takeFinishJob ref).1,
      { job := (io.takeFinishJob ref).2.1, panicked := (io.takeFinishJob ref).2.2 }) := by
  obtain ⟨finish, unset, closure⟩ := coherent
  have idle : IoSound ref io (io, {}) := TcpIo.SameControl.sound ⟨rfl, rfl, rfl, rfl, rfl, rfl⟩
    ⟨finish, unset, closure⟩
  unfold takeFinishJob
  cases callback : io.finishCallback with
  | none =>
    repeat' split
    all_goals exact idle
  | some cb =>
    obtain ⟨permit, isPermit⟩ : ∃ permit, io.finishCallbackPermit = some permit :=
      Option.isSome_iff_exists.mp (by rw [finish, callback]; rfl)
    have registered : io.finishCallbackRegistered = true := by
      by_contra isFalse
      simp [unset (by simpa using isFalse)] at callback
    have taken : ∀ cb outcome, IoSound ref io
        ({ io with finishCallback := none, finishCallbackPermit := none },
          { job := some (CallbackJob.new io.id cb (.finish ref outcome) [permit]) }) := fun cb outcome =>
      ⟨⟨rfl, by simp [registered], closure⟩, rfl, by simp [CallbackJob.new],
        by simp [TcpIo.permits, isPermit, CallbackJob.new], rfl⟩
    simp only [isPermit]
    repeat' split
    all_goals first | exact idle | exact taken _ _

theorem TcpIo.abort_sound (coherent : io.Coherent) (kind : TcpAbort) :
    IoSound ref io (io.abort ref kind) := by
  unfold TcpIo.abort
  split
  · exact TcpIo.SameControl.sound ⟨rfl, rfl, rfl, rfl, rfl, rfl⟩ coherent
  have release : IoSound ref io _ := TcpIo.takeRelease_sound
    { io with aborted := some kind, outbound := [], outboundBytes := 0, pump := [], pumpOffset := 0,
              pumpBytes := 0, inbound := [], inboundOffset := 0, inboundBytes := 0 }
    coherent ⟨rfl, rfl, rfl, rfl, rfl, rfl⟩
  exact release.then (TcpIo.takeFinishJob_sound release.coherent)

theorem TcpIo.activateFinish_sound (coherent : io.Coherent) :
    IoSound ref io (io.activateFinish ref) := by
  have activated : IoSound ref io ({ io with finishCallbackActive := true }, {}) :=
    TcpIo.SameControl.sound ⟨rfl, rfl, rfl, rfl, rfl, rfl⟩ coherent
  exact activated.then (TcpIo.takeFinishJob_sound activated.coherent)

theorem TcpIo.maybeTakeRelease_sound (io' : TcpIo) (coherent : io.Coherent) (same : io.SameControl io') :
    IoSound ref io (io'.maybeTakeRelease.1, { release := io'.maybeTakeRelease.2 }) := by
  unfold TcpIo.maybeTakeRelease
  split
  · exact TcpIo.takeRelease_sound io' coherent same
  · exact same.sound coherent

/-- Every section that the two halves run on a session. -/
theorem TcpIo.runIoOp_sound (coherent : io.Coherent) (ioOp : IoOp) :
    IoSound ref io (Shared.runIoOp ref ioOp io) := by
  have idle : IoSound ref io (io, {}) :=
    TcpIo.SameControl.sound ⟨rfl, rfl, rfl, rfl, rfl, rfl⟩ coherent
  cases ioOp with
  | tryRead space =>
    simp only [Shared.runIoOp, TcpIo.tryRead]
    repeat' split
    · exact idle
    · exact TcpIo.maybeTakeRelease_sound _ coherent ⟨rfl, rfl, rfl, rfl, rfl, rfl⟩
    · exact idle
    · exact idle
    · exact TcpIo.SameControl.sound ⟨rfl, rfl, rfl, rfl, rfl, rfl⟩ coherent
  | completeWriteShutdown =>
    simp only [Shared.runIoOp, TcpIo.completeWriteShutdown]
    repeat' split
    · exact idle
    · exact idle
    · exact idle
    · have release : IoSound ref io _ := TcpIo.maybeTakeRelease_sound { io with writeFinished := true }
        coherent ⟨rfl, rfl, rfl, rfl, rfl, rfl⟩
      exact release.then (TcpIo.takeFinishJob_sound release.coherent)
  | writeProgress nbytes => exact TcpIo.SameControl.sound ⟨rfl, rfl, rfl, rfl, rfl, rfl⟩ coherent
  | _ =>
    -- The other sections touch the queues and the shutdown flags only.
    simp only [Shared.runIoOp, TcpIo.trySend, TcpIo.tryFinish, TcpIo.takeOutbound, TcpIo.takeOutboundUpTo,
      TcpIo.takeTlsOutboundUpTo, TcpIo.pushInbound, TcpIo.peerClosed, TcpIo.closeWriteAdmissionIfIdle]
    repeat' split
    all_goals exact TcpIo.SameControl.sound ⟨rfl, rfl, rfl, rfl, rfl, rfl⟩ coherent

end Sections

end NbReq
