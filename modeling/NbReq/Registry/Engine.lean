import NbReq.Registry.AdmissionMoves

/-!
# Every action is a sequence of moves

`exec_moves`: in a sane state an action of any thread is a sequence of moves, from the tokens of the action to
those of the actions it is followed by.
-/

namespace NbReq

open TaskSystem Ledger

variable {sh sh' : Shared} {tokens tokens' : Multiset Token} {ω : Oracle}

/-! ## Handing jobs over and running them -/

theorem enqueue_moves (job : CallbackJob) :
    Leads sh ({.job job} + tokens) (sh.enqueue job) tokens := by
  unfold Shared.enqueue
  cases taken : sh.dispatch.enqueueTerminal job with
  | some dispatch => exact Moves.one (.enqueue job taken) tokens rfl rfl
  | none =>
    have moves : Moves Move sh _ _ _ := Moves.one (.discard job) tokens rfl rfl
    simp only [Leads, listTokens_append, listTokens_dropPermit]
    have dropped : ∀ io, listTokens Act.tokens [Act.dropWriter io, Act.dropTcpReader io] = 0 := fun _ => rfl
    split
    · rw [dropped, add_zero]
      exact moves
    · rw [listTokens_nil, add_zero]
      exact moves

theorem takeJob_moves (again : Act) (nothing : again.tokens = 0) {otherwise : Shared}
    (idle : Moves Move sh tokens otherwise tokens) :
    Leads sh tokens (sh.takeJob again otherwise) tokens := by
  unfold Shared.takeJob
  cases taken : sh.dispatch.takeRunnable with
  | none => simpa [Leads] using idle
  | some pair =>
    obtain ⟨job, dispatch⟩ := pair
    refine Moves.one (.take job taken) tokens (zero_add _).symm ?_
    rw [listTokens_cons, listTokens_cons, listTokens_nil, nothing, add_zero, add_zero]
    rfl

/-- Sealing the dispatcher, a worker's exit, or the end of a job. -/
theorem dispatch_moves (dispatch : DispatchState) (queue : dispatch.queue = sh.dispatch.queue) :
    Moves Move sh tokens { sh with dispatch := dispatch } tokens :=
  Moves.one (.dispatch dispatch queue) tokens (zero_add _).symm (zero_add _).symm

theorem invoke_moves (job : CallbackJob) :
    Moves Move sh ({.running job} + tokens) (sh.invoke job)
      (listTokens Act.tokens (job.permits.reverse.map .dropPermit ++ [.jobDone job.requestId]) + tokens) := by
  have reversed : permitTokens job.permits.reverse = permitTokens job.permits := by
    simp only [permitTokens, List.map_reverse]
    exact Multiset.coe_eq_coe.mpr (List.reverse_perm _)
  refine Moves.one (.deliver job) tokens rfl ?_
  simp only [listTokens_append, listTokens_dropPermit, reversed, listTokens_cons, listTokens_nil, add_zero,
    Act.tokens]

/-! ## Finish callbacks -/

theorem activations_moves (n : Nat) : Moves Move sh tokens { sh with callbackActivations := n } tokens :=
  surroundings_moves { sh.surroundings with callbackActivations := n } (.of_eq rfl rfl rfl)

theorem beginCallbackEvent_moves (io : Nat) (callback : Callback) :
    Leads sh tokens (sh.beginCallbackEvent io callback) tokens := by
  unfold Shared.beginCallbackEvent
  refine .guard fun _ => ?_
  cases admitted : sh.acquire .callbackInflight with
  | none => exact .idle
  | some pair =>
    obtain ⟨sh₁, permit⟩ := pair
    obtain ⟨first, rfl⟩ := admit_moves tokens admitted
    have both := first.trans (activations_moves (sh.callbackActivations + 1))
    simpa [Leads, Act.tokens] using both

theorem registerFinish_moves {permit : Permit} (sane : Sane sh ({.permit permit} + tokens)) (io : Nat)
    (callback : Callback) : Leads sh ({.permit permit} + tokens) (sh.registerFinish io callback permit) tokens := by
  have refused : Leads sh ({.permit permit} + tokens) (sh, [.dropPermit permit, .finishActivation]) tokens := by
    simpa [Leads, Act.tokens] using Moves.refl
  unfold Shared.registerFinish
  cases found : sh.ios[io]? with
  | none => exact refused
  | some session =>
    have coherent := (sane.sessions session (List.mem_of_getElem? found)).1
    cases registered : session.finishCallbackRegistered with
    | true =>
      simp only [Option.bind_some, TcpIo.registerFinish, registered, if_true]
      exact refused
    | false =>
      have noCallback := coherent.unregistered registered
      have noPermit : session.finishCallbackPermit = none := by
        simpa [noCallback] using coherent.finish
      simp only [Leads, Option.bind_some, TcpIo.registerFinish, registered, Bool.false_eq_true, if_false,
        listTokens_cons, listTokens_nil, Act.tokens, zero_add]
      exact endow_moves .refl _ [permit] (by simp) found ⟨rfl, by simp, coherent.release⟩ rfl
        (fun k => by simp [TcpIo.permits, noPermit])

/-! ## Completions -/

section Completions

variable {ref : Nat} {fact : Fact}

theorem forgetting (moves : Moves Move sh tokens sh' tokens') :
    Moves Move sh ({.known fact} + tokens) sh' tokens' :=
  (Moves.one (.forget fact) tokens rfl (zero_add _).symm).trans moves

theorem Sane.known (sane : Sane sh ({.known fact} + tokens)) : fact.Holds sh.ops :=
  sane.tokens (.known fact) (by simp)

theorem Sane.rest {token : Token} (sane : Sane sh ({token} + tokens)) : Sane sh tokens :=
  sane.weaken fun _ mem => Multiset.mem_add.mpr (.inr mem)

theorem commitOnePhase_moves (sane : Sane sh tokens) {entry : OpEntry} (found : sh.ops[ref]? = some entry)
    (onePhase : entry.op.kind.twoPhase = false) (c : Done) :
    Moves Move sh tokens (sh.commitOp ref c).1
      ((if (sh.commitOp ref c).2.won then jobTokens (sh.commitOp ref c).2.job else 0) + tokens) := by
  have moves := commitOp_moves sane found onePhase c
  have isWon : (sh.commitOp ref c).2.won = !entry.op.isTerminal := by
    simp only [Shared.commitOp, found]
    exact (Op.commit_won c).1
  cases terminal : entry.op.isTerminal with
  | true =>
    have noJob : (sh.commitOp ref c).2.job = none := by
      simp [Shared.commitOp, found, Op.commit_of_isTerminal terminal]
    rw [noJob] at moves
    simpa [isWon, terminal] using moves
  | false => simpa [isWon, terminal] using moves

theorem completeState_moves (sane : Sane sh ({.known (.onePhase ref)} + tokens)) (c : Done) :
    Leads sh ({.known (.onePhase ref)} + tokens) (sh.completeState ref c) tokens := by
  obtain ⟨entry, found, kind⟩ := sane.known
  have onePhase : entry.op.kind.twoPhase = false := by rcases kind with kind | kind <;> rw [kind] <;> rfl
  have moves := commitOnePhase_moves sane.rest found onePhase c
  unfold Shared.completeState
  refine forgetting ?_
  cases won : (sh.commitOp ref c).2.won with
  | false => simpa [won] using moves
  | true =>
    simp only [won, if_true, listTokens_cons, listTokens_enqueueActs, Act.tokens, zero_add] at moves ⊢
    exact moves

theorem commitStream_moves (sane : Sane sh ({.known (.streaming ref)} + tokens)) (c : Done) :
    Moves Move sh ({.known (.streaming ref)} + tokens) (sh.commitOp ref c).1
      (listTokens Act.tokens (if (sh.commitOp ref c).2.won then
        .releasePermits ref :: Shared.finishStream ref else []) + tokens) := by
  obtain ⟨entry, found, kind⟩ := sane.known
  have moves := commitOnePhase_moves sane.rest found (by rw [kind]; rfl) c
  have noJob : (sh.commitOp ref c).2.job = none := by
    simp only [Shared.commitOp, found]
    cases isStream : entry.op with
    | stream s => rfl
    | _ => simp [isStream, Op.kind] at kind
  refine forgetting ?_
  cases won : (sh.commitOp ref c).2.won with
  | false => simpa [won] using moves
  | true =>
    rw [won, noJob] at moves
    simpa [Shared.finishStream, Act.tokens] using moves

theorem listTokens_enqueue (jobs : List CallbackJob) :
    listTokens Act.tokens (jobs.map .enqueue) = (jobs.map Token.job : List Token) := by
  induction jobs with
  | nil => rfl
  | cons job jobs ih => rw [List.map_cons, listTokens_cons, ih]; rfl

/-- The sweeps of `registry.rs` publish the connects they ended one after another, then hand over their jobs. -/
theorem publishAll_moves (refs : List Nat) (jobs : List CallbackJob)
    (sane : Sane sh ((Act.publishAll (ref :: refs) jobs).tokens + tokens)) :
    Moves Move sh ((Act.publishAll (ref :: refs) jobs).tokens + tokens)
      (sh.sectionOn ref (·.publishTerminal ref)).1
      ((Act.publishAll refs (jobs ++ (sh.sectionOn ref (·.publishTerminal ref)).2.toList)).tokens +
        tokens) := by
  have first : (Act.publishAll (ref :: refs) jobs).tokens + tokens =
      {.known (.terminal ref)} + ((Act.publishAll refs jobs).tokens + tokens) := by
    simp only [Act.tokens, List.map_cons, ← Multiset.cons_coe, ← Multiset.singleton_add, add_assoc]
  rw [first] at sane ⊢
  refine forgetting ?_
  convert publish_moves sane.rest sane.known using 1
  generalize (sh.sectionOn ref (·.publishTerminal ref)).2 = job
  cases job with
  | none => simp [jobTokens]
  | some job =>
    simp only [Act.tokens, Option.toList_some, List.map_append, List.map_cons, List.map_nil,
      ← Multiset.coe_add, jobTokens, Option.map_some]
    ac_rfl

end Completions

/-! ## The reactor -/

/-- An action that owns nothing, and what its thread knows is true. -/
def Act.Known (ops : List OpEntry) (act : Act) : Prop :=
  ∀ token ∈ act.tokens, ∃ fact : Fact, token = .known fact ∧ fact.Holds ops

variable {ops : List OpEntry}

theorem Act.Known.of_zero {act : Act} (zero : act.tokens = 0) :
    act.Known ops := by
  simp [Act.Known, zero]

theorem Act.Known.of_fact {act : Act} {fact : Fact}
    (isFact : act.tokens = {.known fact}) (holds : fact.Holds ops) : act.Known ops := by
  intro token mem
  rw [isFact, Multiset.mem_singleton] at mem
  exact ⟨fact, mem, holds⟩

variable {acts : List Act}

/-- A thread goes on with actions that own nothing. -/
theorem continue_moves (known : ∀ act ∈ acts, act.Known sh.ops) :
    Moves Move sh tokens sh (listTokens Act.tokens acts + tokens) := by
  apply learn_moves
  intro token mem
  obtain ⟨act, there, isToken⟩ := mem_listTokens.mp mem
  exact known act there token isToken

/-- A change of the surroundings, after which the thread goes on with actions that own nothing. -/
theorem program_moves (s : Surroundings) (advances : sh.surroundings.Advances sh.ops s)
    (known : ∀ act ∈ acts, act.Known sh.ops) :
    Moves Move sh tokens (sh.within s) (listTokens Act.tokens acts + tokens) :=
  (surroundings_moves s advances).trans (continue_moves known)

theorem known_zero (zero : listTokens Act.tokens acts = 0) : ∀ act ∈ acts, act.Known ops := by
  intro act mem token isToken
  have : token ∈ listTokens Act.tokens acts := mem_listTokens.mpr ⟨act, mem, isToken⟩
  simp [zero] at this

theorem Surroundings.Advances.of_reactor {s : Surroundings} {reactor : ReactorCore}
    (sane : s.reactor.Sane ops → reactor.Sane ops) : s.Advances ops { s with reactor := reactor } :=
  ⟨Nat.le_refl _, Nat.le_max_left _ _, fun _ h => h, sane⟩

theorem Surroundings.Advances.of_queue {s : Surroundings} :
    s.Advances ops { s with queue := [] } :=
  ⟨Nat.le_refl _, Nat.le_max_left _ _, by simp, id⟩

theorem submitActs_moves (submission : Submission)
    (sane : Sane sh ({.known (.submitted submission)} + tokens)) :
    Leads sh ({.known (.submitted submission)} + tokens) (sh.submitActs ω submission) tokens := by
  obtain ⟨entry, found, kind⟩ := sane.known
  refine forgetting ?_
  unfold Shared.submitActs
  split
  · next capacity op =>
    have onePhase : (Fact.onePhase op).Holds sh.ops := ⟨entry, found, .inl kind⟩
    split
    · exact continue_moves (by simp)
    split
    · exact continue_moves (by simpa using .of_fact rfl onePhase)
    · refine program_moves { sh.surroundings with reactor := { sh.reactor with active := op :: sh.reactor.active } }
        (.of_reactor fun old => ⟨?_, old.resolves⟩) (by simp)
      exact List.forall_mem_cons.mpr ⟨onePhase, old.active⟩
  · next capacity op =>
    split
    · exact continue_moves (known_zero rfl)
    · exact program_moves { sh.surroundings with
          reactor := { sh.reactor with activeStreams := op :: sh.reactor.activeStreams } }
        (.of_reactor fun old => ⟨old.active, old.resolves⟩) (by simp)
  · next capacity op maxResults =>
    have onePhase : (Fact.onePhase op).Holds sh.ops := ⟨entry, found, .inr kind⟩
    split
    · exact continue_moves (by simp)
    split
    · exact continue_moves (by simpa using .of_fact rfl onePhase)
    refine program_moves { sh.surroundings with
        reactor := { sh.reactor with activeResolves := op :: sh.reactor.activeResolves } }
      (.of_reactor fun old => ⟨old.active, ?_⟩) (by simp)
    exact List.forall_mem_cons.mpr ⟨onePhase, old.resolves⟩
  all_goals exact continue_moves (by simp)

theorem shutdownActs_moves (submission : Submission)
    (sane : Sane sh ({.known (.submitted submission)} + tokens)) :
    Moves Move sh ({.known (.submitted submission)} + tokens) sh
      (listTokens Act.tokens (sh.shutdownActs submission) + tokens) := by
  obtain ⟨entry, found, kind⟩ := sane.known
  refine forgetting (continue_moves ?_)
  unfold Shared.shutdownActs
  split
  · exact known_zero rfl
  · next op =>
    have onePhase : (Fact.onePhase op).Holds sh.ops := ⟨entry, found, .inl kind⟩
    split
    · simp
    · simpa using Act.Known.of_fact rfl onePhase
  · next op _ =>
    have onePhase : (Fact.onePhase op).Holds sh.ops := ⟨entry, found, .inr kind⟩
    split
    · simp
    · simpa using Act.Known.of_fact rfl onePhase
  all_goals
    split
    · simp
    · exact known_zero rfl

theorem reapStream_moves {op : Nat} : Leads sh tokens (exec ω (.reapStream op) sh) tokens := by
  simp only [exec]
  split
  · exact program_moves { sh.surroundings with
        reactor := { sh.reactor with activeStreams := sh.reactor.activeStreams.filter (· ≠ op) } }
      (.of_reactor fun old => ⟨old.active, old.resolves⟩) (known_zero rfl)
  · exact continue_moves (by simp)

theorem backendCompletion_moves (sane : Sane sh tokens) (op : Nat) (c : Done) :
    Leads sh tokens (exec ω (.backendCompletion op c) sh) tokens := by
  simp only [exec]
  split
  · next active =>
    have onePhase : (Fact.onePhase op).Holds sh.ops := by
      rcases Bool.or_eq_true_iff.mp active with isActive | isActive
      · exact sane.reactor.active op (List.contains_iff_mem.mp isActive)
      · exact sane.reactor.resolves op (List.contains_iff_mem.mp isActive)
    refine program_moves { sh.surroundings with
        reactor := { sh.reactor with
          active := sh.reactor.active.filter (· ≠ op)
          activeResolves := sh.reactor.activeResolves.filter (· ≠ op) } }
      (.of_reactor fun old => ⟨?_, ?_⟩) (by simpa using Act.Known.of_fact rfl onePhase)
    · exact fun other mem => old.active other (List.mem_filter.mp mem).1
    · exact fun other mem => old.resolves other (List.mem_filter.mp mem).1
  · exact continue_moves (by simp)

/-- The submissions that a drain of the queue hands on. -/
theorem drain_known (sane : Sane sh tokens) (submit : Submission → Act)
    (isFact : ∀ submission, (submit submission).tokens = {.known (.submitted submission)}) :
    ∀ act ∈ sh.queue.map submit, act.Known sh.ops := by
  intro act mem
  obtain ⟨submission, queued, rfl⟩ := List.mem_map.mp mem
  exact .of_fact (isFact submission) (sane.queue submission queued)

theorem driveFailed_known (mode : RunMode) (error : Error) :
    ∀ act ∈ Shared.driveFailed mode error, act.Known ops := by
  cases mode <;> exact known_zero rfl

theorem forall_mem_append {α : Type} {p : α → Prop} {xs ys : List α} (left : ∀ x ∈ xs, p x)
    (right : ∀ x ∈ ys, p x) : ∀ x ∈ xs ++ ys, p x :=
  List.forall_mem_append.mpr ⟨left, right⟩

/-! ## Every action -/

/-- A section without tokens of its own that only changes what no invariant reads. -/
theorem quiet_moves (s : Surroundings) (sequence : s.nextSequence = sh.core.nextSequence) (queue : s.queue = sh.queue)
    (reactor : s.reactor = sh.reactor) (zero : listTokens Act.tokens acts = 0) :
    Moves Move sh tokens (sh.within s) (listTokens Act.tokens acts + tokens) :=
  program_moves s (.of_eq sequence queue reactor) (known_zero zero)

theorem cancelAll_moves (sane : Sane sh tokens) :
    Leads sh tokens (sh.cancelAll ω) tokens := by
  have moves := sweep_moves sane ω (·.sequence ≤ sh.core.nextSequence - 1) .cancelled .cancelled .cancelled
    .cancelled
  simp only [Leads, Shared.cancelAll, listTokens_append, listTokens_cons, listTokens_nil, Act.tokens, add_zero]
  exact moves

theorem closeAdmission_moves : Moves Move sh tokens sh.closeAdmission tokens :=
  surroundings_moves { sh.surroundings with lifecycle := sh.closeAdmission.core.lifecycle } (.of_eq rfl rfl rfl)

theorem beginShutdown_moves (sane : Sane sh tokens) :
    Leads sh tokens (sh.beginShutdown ω) tokens := by
  have first : Moves Move sh tokens sh.closeAdmission tokens := closeAdmission_moves
  have second := sweep_moves (Moves.sane first sane) ω (fun _ => true) (.failed Shared.tlsStoppedError)
    (.failed Shared.tcpStoppedError) .cancelled .engineStopped
  simp only [Leads, Shared.beginShutdown, listTokens_append, listTokens_cons, listTokens_nil, Act.tokens, add_zero]
  exact first.trans second

theorem cancelSink_moves {op : Nat} (sane : Sane sh tokens) :
    Leads sh tokens (exec ω (.cancelSink op) sh) tokens :=
  Ledger.Moves.trans (streamSection_moves sane (sinkSection_step sh.config.width (.commit .cancelled)))
    (continue_moves (known_zero rfl))

theorem readStream_moves (sane : Sane sh tokens) (op space : Nat) :
    Leads sh tokens (exec ω (.readStream op space) sh) tokens := by
  have nothing : ∀ known : Bool, listTokens Act.tokens (if known then [.readBody op space] else []) = 0 := by
    intro known
    cases known <;> rfl
  simp only [Leads, exec, nothing, zero_add]
  split
  · exact streamSection_moves sane tryHead_step
  · exact .refl

theorem dropReader_moves (sane : Sane sh tokens) (op : Nat) :
    Leads sh tokens (exec ω (.dropReader op) sh) tokens := by
  refine Ledger.Moves.trans (streamSection_moves sane readerDrop_step) (continue_moves (known_zero ?_))
  simp only [exec]
  split
  · split <;> rfl
  · rfl

theorem abortIf_moves (io : Nat) (test : TcpIo → Bool) (kind : TcpAbort) :
    Moves Move sh tokens sh (listTokens Act.tokens (sh.abortIf io test kind) + tokens) := by
  refine continue_moves (known_zero ?_)
  unfold Shared.abortIf
  split
  · split <;> rfl
  · rfl

theorem activateFinish_moves (sane : Sane sh tokens) (io : Nat) :
    Leads sh tokens (exec ω (.activateFinish io) sh) tokens := by
  have moves : Moves Move sh tokens (sh.ioSection io (·.activateFinish io)).1 _ :=
    ioSection_moves sane fun session coherent => TcpIo.activateFinish_sound coherent
  simpa [Leads, exec, Act.tokens] using moves

theorem drive_moves (sane : Sane sh tokens) (mode : RunMode) :
    Leads sh tokens (exec ω (.drive mode) sh) tokens := by
  simp only [exec]
  split
  · exact continue_moves (driveFailed_known mode _)
  · exact program_moves { sh.surroundings with queue := [] } .of_queue
      (forall_mem_append (drain_known sane .submit fun _ => rfl) (known_zero rfl))

theorem poll_moves (mode : RunMode) :
    Leads sh tokens (exec ω (.poll mode) sh) tokens := by
  simp only [exec]
  split
  · exact continue_moves (driveFailed_known mode _)
  refine continue_moves (forall_mem_append ?_ (known_zero rfl))
  intro act mem
  obtain ⟨pair, -, rfl⟩ := List.mem_map.mp mem
  exact .of_zero rfl

/-- Every action is a sequence of moves on the tokens of its thread. -/
theorem exec_moves (act : Act) (sane : Sane sh (act.tokens + tokens)) (ready : act.enabled sh) :
    Leads sh (act.tokens + tokens) (exec ω act sh) tokens := by
  have free : act.locksCore = true → sh.deadlock = none :=
    fun locks => Option.isNone_iff_eq_none.mp (ready.1 locks)
  -- Most actions own nothing.
  have bare : act.tokens = 0 → (Sane sh tokens → Leads sh tokens (exec ω act sh) tokens) →
      Leads sh (act.tokens + tokens) (exec ω act sh) tokens := by
    intro zero moves
    rw [zero, zero_add] at sane ⊢
    exact moves sane
  cases act with
  | accept request callback => exact bare rfl fun sane => accept_moves sane (free rfl) request callback
  | acceptStream request => exact bare rfl fun sane => acceptStream_moves sane (free rfl) request
  | acceptResolve request callback maxResults =>
    exact bare rfl fun sane => acceptResolve_moves sane (free rfl) request callback maxResults
  | acceptTcpConnect request callback =>
    exact bare rfl fun sane => acceptTcpConnect_moves sane (free rfl) request callback
  | acceptTlsConnect request options clockRoom callback =>
    exact bare rfl fun sane => acceptTlsConnect_moves sane (free rfl) request options clockRoom callback
  | acceptTlsUpgrade io options clockRoom callback =>
    exact bare rfl fun sane => acceptTlsUpgrade_moves sane (free rfl) io options clockRoom callback
  | activateCallback op =>
    refine bare rfl fun sane => ?_
    have moves : Moves Move sh tokens (sh.sectionOn op (·.activateCallback op)).1 _ := activateCallback_moves sane
    simpa [Leads, exec, listTokens_enqueueActs, Act.tokens] using moves
  | finishActivation => exact bare rfl fun _ => by simpa [Leads, exec] using activations_moves _
  | stuck => exact ready.2.elim
  | cancel id => exact bare rfl fun sane => cancel_moves sane id
  | cancelAll => exact bare rfl cancelAll_moves
  | beginShutdown => exact bare rfl beginShutdown_moves
  | failAll error =>
    exact bare rfl fun sane => sweep_moves sane ω (fun _ => true) (.failed error) (.failed error)
      (.failed error) (.failed error)
  | setStopped =>
    exact bare rfl fun _ => quiet_moves { sh.surroundings with stopped := true } rfl rfl rfl rfl
  | markStopped =>
    exact bare rfl fun _ => quiet_moves { sh.surroundings with lifecycle := .stopped } rfl rfl rfl rfl
  | complete op c => exact completeState_moves sane c
  | removeOp op => exact bare rfl fun _ => Moves.one (.remove op) tokens (zero_add _).symm rfl
  | transportReady op => exact bare rfl fun _ => releaseDnsBorrow_moves
  | completeTcpConnected op => exact forgetting (completeTcpConnected_moves sane.rest sane.known)
  | completeTlsTransportConnected op => exact forgetting (completeTlsTransportConnected_moves sane.rest)
  | completeTlsConnected op => exact bare rfl completeTlsConnected_moves
  | completeTcpState op c => exact bare rfl fun sane => completeTcpState_moves sane c
  | completeTlsState op c => exact bare rfl fun sane => completeTlsState_moves sane c
  | publish op =>
    have moves := publish_moves sane.rest sane.known
    simp only [Leads, exec, listTokens_enqueueActs]
    exact forgetting moves
  | publishAll ops jobs =>
    cases ops with
    | nil =>
      simp only [Leads, exec, listTokens_enqueue, Act.tokens, List.map_nil, Multiset.coe_nil, zero_add]
      exact .refl
    | cons op ops =>
      have moves := publishAll_moves ops jobs sane
      simp only [Leads, exec, listTokens_cons, listTokens_nil, add_zero]
      exact moves
  | commitStream op c => exact commitStream_moves sane c
  | releasePermits op => exact bare rfl fun _ => by simpa [Leads, exec] using releasePermits_moves
  | sink op sinkOp =>
    exact bare rfl fun sane => by simpa [Leads, exec] using streamSection_moves sane (sinkSection_step _ sinkOp)
  | cancelSink op => exact bare rfl cancelSink_moves
  | tryCompletion op => exact forgetting (by simpa [exec] using waiterRead_moves sane.known)
  | readStream op space => exact bare rfl fun sane => readStream_moves sane op space
  | readBody op space =>
    exact bare rfl fun sane => by
      simpa [Leads, exec] using streamSection_moves sane fun pair => readBody_step pair space
  | dropReader op => exact bare rfl fun sane => dropReader_moves sane op
  | session io ioOp =>
    exact bare rfl fun sane => ioSection_moves sane fun _ coherent => TcpIo.runIoOp_sound coherent ioOp
  | abort io kind =>
    exact bare rfl fun sane => ioSection_moves sane fun _ coherent => TcpIo.abort_sound coherent kind
  | dropWriter io | dropTcpReader io | dropOwner io => exact bare rfl fun _ => abortIf_moves io _ _
  | dropPermit permit => exact Moves.one (.release permit) tokens rfl rfl
  | releaseLiveTcp id => exact bare rfl fun _ => Moves.one (.closeSession id) tokens (zero_add _).symm rfl
  | finishWith | createBackend | markStoppedIfOk =>
    refine bare rfl fun _ => continue_moves (known_zero ?_)
    simp only [exec]
    split <;> rfl
  | beginCallbackEvent io callback => exact bare rfl fun _ => beginCallbackEvent_moves io callback
  | registerFinish io callback permit => exact registerFinish_moves sane io callback
  | activateFinish io => exact bare rfl fun sane => activateFinish_moves sane io
  | enqueue job => exact enqueue_moves job
  | work =>
    exact bare rfl fun _ => takeJob_moves .work rfl (dispatch_moves sh.dispatch.workerExit rfl)
  | drainInline =>
    refine bare rfl fun _ => ?_
    simp only [exec]
    split
    · exact takeJob_moves .drainInline rfl (dispatch_moves sh.dispatch.maybeComplete rfl)
    · exact continue_moves (by simp)
  | invoke job => exact invoke_moves job
  | jobDone id =>
    exact bare rfl fun _ => by simpa [Leads, exec] using dispatch_moves (sh.dispatch.jobDone id) rfl
  | drive mode => exact bare rfl fun sane => drive_moves sane mode
  | submit submission => exact submitActs_moves submission sane
  | reapCancelled =>
    refine bare rfl fun _ => program_moves { sh.surroundings with
      reactor := { sh.reactor with
        active := sh.reactor.active.filter (!sh.isTerminal ·)
        activeResolves := sh.reactor.activeResolves.filter (!sh.isTerminal ·) } }
      (.of_reactor fun old => ⟨?_, ?_⟩) (known_zero rfl)
    · exact fun op mem => old.active op (List.mem_filter.mp mem).1
    · exact fun op mem => old.resolves op (List.mem_filter.mp mem).1
  | reapStreams =>
    refine bare rfl fun _ => continue_moves fun act mem => ?_
    obtain ⟨op, -, rfl⟩ := List.mem_map.mp mem
    exact .of_zero rfl
  | reapStream op => exact bare rfl fun _ => reapStream_moves
  | poll mode => exact bare rfl fun _ => poll_moves mode
  | backendCompletion op c => exact bare rfl fun sane => backendCompletion_moves sane op c
  | driveDone mode =>
    refine bare rfl fun _ => ?_
    cases mode with
    | manual => exact continue_moves (known_zero rfl)
    | spawned =>
      refine continue_moves (known_zero ?_)
      simp only [exec]
      split <;> rfl
  | drainShutdown =>
    exact bare rfl fun sane => program_moves { sh.surroundings with queue := [] } .of_queue
      (drain_known sane .shutdownSubmission fun _ => rfl)
  | shutdownSubmission submission => exact shutdownActs_moves submission sane
  | clearActive =>
    exact bare rfl fun _ => program_moves { sh.surroundings with reactor := ⟨[], [], []⟩ }
      (.of_reactor fun _ => ⟨by simp, by simp⟩) (known_zero rfl)
  | backendShutdown path =>
    refine bare rfl fun _ => ?_
    cases path with
    | stop =>
      refine continue_moves (known_zero ?_)
      simp only [exec]
      split <;> rfl
    | failure => exact continue_moves (known_zero rfl)
    | manual =>
      exact quiet_moves { sh.surroundings with reactorResult := some ω.backendShutdownOk } rfl rfl rfl rfl
  | reactorReturn ok =>
    exact bare rfl fun _ => quiet_moves { sh.surroundings with reactorResult := some ok } rfl rfl rfl rfl
  | «seal» =>
    refine bare rfl fun _ => ?_
    simp only [Leads, exec, listTokens_nil, zero_add]
    exact dispatch_moves sh.dispatch.seal rfl
  | cancelAllReturn | beginShutdownReturn | joinReactor | waitForCallbackActivations | awaitCallbacks
  | shutdownReturn => exact bare rfl fun _ => continue_moves (known_zero rfl)

end NbReq
