import NbReq.Registry.Move

/-!
# What a thread goes on with

A panic of the reactor throws the rest of its program away. Nothing is lost that way, since from a section of the
reactor on a thread owns nothing (`Shaped`).
-/

namespace NbReq

open TaskSystem

variable {sh : Shared} {ω : Oracle}

/-! ## Kinds of actions -/

def Act.ofReactor : Act → Bool
  | .createBackend | .drive _ | .submit _ | .reapCancelled | .reapStreams | .reapStream _ | .poll _
  | .backendCompletion _ _ | .driveDone _ | .drainShutdown | .shutdownSubmission _ | .clearActive
  | .backendShutdown _ => true
  | _ => false

def Act.owns : Act → Bool
  | .registerFinish _ _ _ | .publishAll _ _ | .dropPermit _ | .enqueue _ | .invoke _ => true
  | _ => false

variable {act : Act}

theorem Act.known_of_owns (nothing : act.owns = false) :
    ∀ token ∈ act.tokens, ∃ fact : Fact, token = .known fact := by
  cases act <;> simp_all [Act.owns, Act.tokens]

/-! ## What follows an action -/

theorem all_toList_map {α : Type} (make : α → Act) (found : Option α) (test : Act → Bool) :
    (found.map make).toList.all test = found.all fun a => test (make a) := by
  cases found <;> simp

/-- Only the reactor goes on with an action of the reactor's program. -/
theorem exec_other (isOther : act.ofReactor = false) :
    ∀ next ∈ (exec ω act sh).2, next.ofReactor = false := by
  suffices others : (exec ω act sh).2.all (!·.ofReactor) = true by simpa using others
  cases act
  all_goals simp only [Act.ofReactor, Bool.true_eq_false] at isOther
  case publishAll ops jobs => cases ops <;> simp [exec, Act.ofReactor]
  case completeTlsState op c =>
    simp only [exec, Shared.completeTlsState]
    cases c
    all_goals repeat' split
    all_goals simp [Shared.tlsAbort, Act.ofReactor]
  all_goals
    simp only [exec, Shared.acceptActs, Shared.enqueueActs, Shared.cancelAll, Shared.beginShutdown, Shared.failAll,
      Shared.Swept.acts, Shared.cancel, Shared.cancelOther, Shared.completeState, Shared.releaseDnsBorrow,
      Shared.completeTcpConnected, Shared.completeTlsTransportConnected, Shared.completeTlsConnected,
      Shared.completeTcpState, Shared.finishStream, Shared.ioSection, Shared.ioActs, Shared.abortIf,
      Shared.beginCallbackEvent, Shared.registerFinish, Shared.enqueue, Shared.takeJob]
    repeat' split
    all_goals simp [Function.comp_def, Act.ofReactor, all_toList_map]

/-- What the reactor goes on with owns nothing. -/
theorem exec_reactor (isReactor : act.ofReactor = true) :
    ∀ next ∈ (exec ω act sh).2, next.owns = false := by
  suffices nothing : (exec ω act sh).2.all (!·.owns) = true by simpa using nothing
  cases act
  all_goals simp only [Act.ofReactor, Bool.false_eq_true] at isReactor
  case driveDone mode =>
    cases mode <;> simp only [exec]
    all_goals repeat' split
    all_goals rfl
  case backendShutdown path =>
    cases path <;> simp only [exec]
    all_goals repeat' split
    all_goals rfl
  all_goals
    simp only [exec, Shared.submitActs, Shared.shutdownActs, Shared.driveFailed, Shared.finishStream,
      Shared.reactorShutdown]
    repeat' split
    all_goals simp [Function.comp_def, Act.owns]

/-! ## The reactor's program owns nothing -/

/-- From an action of the reactor's program on, a thread owns nothing. -/
def Shaped (acts : List Act) : Prop :=
  ∀ before here after, acts = before ++ here :: after → here.ofReactor = true →
    ∀ act ∈ here :: after, act.owns = false

theorem shaped_of_owns {acts : List Act} (nothing : ∀ act ∈ acts, act.owns = false) : Shaped acts := by
  intro before here after split _ act mem
  exact nothing act (by rw [split]; exact List.mem_append_right _ mem)

/-- Actions of other programs may stand in front. -/
theorem Shaped.prepend {acts rest : List Act} (shaped : Shaped rest)
    (others : ∀ act ∈ acts, act.ofReactor = false) : Shaped (acts ++ rest) := by
  induction acts with
  | nil => exact shaped
  | cons act acts ih =>
    have tail := ih fun act mem => others act (List.mem_cons_of_mem _ mem)
    intro before here after split isReactor
    cases before with
    | nil =>
      obtain ⟨rfl, -⟩ := List.cons.inj split
      simp [others act List.mem_cons_self] at isReactor
    | cons first before => exact tail before here after (List.cons.inj split).2 isReactor

theorem Shaped.rest {rest : List Act} (shaped : Shaped (act :: rest)) : Shaped rest :=
  fun before here after split => shaped (act :: before) here after (by rw [split]; rfl)

theorem Act.ofReactor_of_runsBackend (runs : act.runsBackend = true) :
    act.ofReactor = true := by
  cases act <;> simp_all [Act.runsBackend, Act.ofReactor]

theorem exec_shaped {rest : List Act} (shaped : Shaped (act :: rest)) :
    Shaped ((exec ω act sh).2 ++ rest) := by
  cases isReactor : act.ofReactor with
  | false => exact shaped.rest.prepend (exec_other isReactor)
  | true =>
    have nothing := shaped [] act rest rfl isReactor
    refine shaped_of_owns fun other mem => ?_
    rcases List.mem_append.mp mem with mem | mem
    · exact exec_reactor isReactor other mem
    · exact nothing other (List.mem_cons_of_mem _ mem)

theorem unwind_owns (acts : List Act) : ∀ act ∈ unwind acts, act.owns = false := by
  intro act mem
  obtain ⟨from_, -, isSink⟩ := List.mem_filterMap.mp mem
  split at isSink
  all_goals cases isSink
  all_goals rfl

theorem jump_shaped {i : Nat} {acts acts' : List Act} (jumps : Jump sh i acts acts')
    (shaped : Shaped acts) : Shaped acts' := by
  cases jumps with
  | call user call =>
    refine @Shaped.prepend [_] [] shaped fun act mem => ?_
    rw [List.mem_singleton.mp mem]
    cases call <;> rfl
  | backend running call =>
    refine @Shaped.prepend [_] _ shaped fun act mem => ?_
    rw [List.mem_singleton.mp mem]
    cases call <;> rfl
  | panic running =>
    refine shaped_of_owns fun act mem => ?_
    rcases List.mem_append.mp mem with mem | mem
    · exact unwind_owns _ act mem
    · simp only [List.mem_cons, List.not_mem_nil, or_false] at mem
      rcases mem with rfl | rfl | rfl <;> rfl
  | drive manual => exact shaped_of_owns (by simp [Act.owns])
  | shutdown =>
    cases sh.config.runMode <;> exact shaped_of_owns (by simp [shutdownProgram, Shared.reactorShutdown, Act.owns])

section Reachable

variable {allowed : Config Shared Act → Label Act → Prop} {config : EngineConfig} {c : Config Shared Act}

theorem ReachableBy.shaped (reached : ReachableBy allowed config c) {i : Nat} {acts : List Act}
    (here : c.tasks[i]? = some acts) : Shaped acts := by
  refine Run.task_invariant (fun _ _ acts => Shaped acts) ?_
    (fun _ _ _ _ _ _ _ _ _ shaped => exec_shaped shaped) (fun _ _ _ _ _ _ jumps => jump_shaped jumps)
    (fun _ _ _ _ _ _ _ _ _ _ _ _ _ shaped => shaped) (fun _ _ _ _ _ _ _ shaped => shaped)
    (fun _ _ => shaped_of_owns (by simp)) reached i acts here
  intro i acts there
  have mem := List.mem_of_getElem? there
  refine shaped_of_owns fun act isAct => ?_
  simp only [start, List.mem_cons, List.mem_replicate] at mem
  rcases mem with rfl | rfl | ⟨-, rfl⟩
  · cases mode : config.runMode <;> simp_all [Act.owns]
  · simp at isAct
  · rw [List.mem_singleton.mp isAct]
    rfl

end Reachable

end NbReq
