import NbReq.Registry.Reachable
import NbReq.Registry.Script

/-!
# The terminal race

Every operation has one winner, the first terminal commit attempted on it, whatever sections run in between.

1. `Counted`: the completed, failed and cancelled counters are the number of operations with that outcome.
   A TLS upgrade is in none of them: `TlsConnectState::commit` skips the count for it.
2. `completeLocked_terminal`, `sweep_terminal`, `commitOp_terminal`: what a commit attempt does to an operation
   that is already terminal.
-/

namespace NbReq

open TaskSystem Ledger

/-! ## The outcome counters -/

def OpEntry.counts (family : Family) (outcome : Outcome) (entry : OpEntry) : Nat :=
  if entry.op.family = some family ∧ entry.winner.map Completion.outcome = some outcome then 1 else 0

def Shared.settled (sh : Shared) (family : Family) (outcome : Outcome) : Nat :=
  (sh.ops.map (OpEntry.counts family outcome)).sum

def OpEntry.counted (entry : OpEntry) : Nat := if entry.op.family.isSome then 1 else 0

/-- The failed request that the sink of a rejected streaming request counts before its thread relocks the
core. -/
def Shared.phantom (sh : Shared) : Nat := if sh.deadlock.any Deadlock.sinkFailed then 1 else 0

def phantomAt (family : Family) (outcome : Outcome) (phantom : Nat) : Nat :=
  if family = .request ∧ outcome = .failed then phantom else 0

/-- The counters are exact; they cannot saturate, since every counted operation has an id of its own. -/
structure Counted (sh : Shared) : Prop where
  exact : ∀ family outcome, sh.metrics.terminal family outcome =
    sh.settled family outcome + phantomAt family outcome sh.phantom
  bound : (sh.ops.map OpEntry.counted).sum + sh.phantom < sh.core.nextSequence

section Counted

variable {sh sh' : Shared} {used given others : Multiset Token} {entry entry' : OpEntry}

theorem OpEntry.counts_le (family : Family) (outcome : Outcome) (entry : OpEntry) :
    entry.counts family outcome ≤ entry.counted := by
  unfold counts counted
  split
  · next isFamily => simp [isFamily.1]
  · exact Nat.zero_le _

theorem Shared.settled_le (sh : Shared) (family : Family) (outcome : Outcome) :
    sh.settled family outcome ≤ (sh.ops.map OpEntry.counted).sum := by
  apply List.sum_le_sum
  intro entry _
  exact entry.counts_le family outcome

/-- A section adds to the counter of an outcome exactly when it settles its operation with it. -/
theorem OpEntry.Later.counts (later : entry.Later entry') (family : Family) (outcome : Outcome) :
    entry'.counts family outcome =
      entry.counts family outcome + (if entry.settlement entry' = some (family, outcome) then 1 else 0) := by
  unfold OpEntry.counts OpEntry.settlement
  rw [later.family]
  cases won : entry.winner with
  | some winner => simp [later.winner won]
  | none =>
    cases entry'.winner with
    | none => simp
    | some winner => cases entry.op.family <;> simp

theorem OpEntry.Later.counted (later : entry.Later entry') : entry'.counted = entry.counted := by
  simp [OpEntry.counted, later.family]

/-- Moves that change no operation and no metric. -/
theorem Counted.of_eq (counted : Counted sh) (ops : sh'.ops = sh.ops) (metrics : sh'.metrics = sh.metrics)
    (phantom : sh'.phantom = sh.phantom) (next : sh.core.nextSequence ≤ sh'.core.nextSequence) :
    Counted sh' := by
  refine ⟨fun family outcome => ?_, ?_⟩
  · rw [metrics, phantom, counted.exact family outcome, Shared.settled, Shared.settled, ops]
  · rw [ops, phantom]
    exact Nat.lt_of_lt_of_le counted.bound next

theorem saturatingSucc_of_lt {n : Nat} (room : n < u64Max) : saturatingSucc n = n + 1 := by
  unfold saturatingSucc
  omega

theorem Counted.below (counted : Counted sh) (identities : Identities sh.core.nextSequence sh.ops)
    (family : Family) (outcome : Outcome) : sh.metrics.terminal family outcome < u64Max := by
  have := counted.bound
  have := identities.bound
  have := sh.settled_le family outcome
  rw [counted.exact family outcome]
  unfold phantomAt
  split <;> omega

/-- A section on an operation, counting what it settles. -/
theorem Counted.update (counted : Counted sh) (identities : Identities sh.core.nextSequence sh.ops)
    {ref : Nat} (found : sh.ops[ref]? = some entry) (later : entry.Later entry')
    (ops : sh'.ops = sh.ops.set ref entry')
    (metrics : sh'.metrics = Shared.count sh.metrics (entry.settlement entry'))
    (phantom : sh'.phantom = sh.phantom) (next : sh'.core.nextSequence = sh.core.nextSequence) :
    Counted sh' := by
  refine ⟨fun family outcome => ?_, ?_⟩
  · have sum := Heap.sum_map_set found (OpEntry.counts family outcome) entry'
    rw [later.counts family outcome] at sum
    have settled : sh'.settled family outcome = sh.settled family outcome +
        (if entry.settlement entry' = some (family, outcome) then 1 else 0) := by
      rw [Shared.settled, ops, Shared.settled]
      omega
    have exact_ := counted.exact family outcome
    have below := counted.below identities family outcome
    rw [metrics, phantom, settled]
    cases settles : entry.settlement entry' with
    | none =>
      simp only [Shared.count, reduceCtorEq, if_false]
      omega
    | some pair =>
      obtain ⟨family', outcome'⟩ := pair
      simp only [Shared.count, Metrics.countTerminal, Option.some.injEq, Prod.mk.injEq]
      by_cases same : family = family' ∧ outcome = outcome'
      · rw [if_pos same, if_pos ⟨same.1.symm, same.2.symm⟩, saturatingSucc_of_lt below]
        omega
      · rw [if_neg same, if_neg fun h => same ⟨h.1.symm, h.2.symm⟩]
        omega
  · have sum := Heap.sum_map_set found OpEntry.counted entry'
    have := counted.bound
    rw [later.counted] at sum
    rw [ops, phantom, next]
    omega

theorem Counted.accept (counted : Counted sh) {op : Op} {submission : Submission} {family : Option Family}
    {next : Nat} (identity : NewIdentity sh op next) :
    Counted (sh.afterAccept op submission family next) := by
  have metrics : (sh.afterAccept op submission family next).metrics.terminal = sh.metrics.terminal := by
    cases family <;> rfl
  have phantom : (sh.afterAccept op submission family next).phantom = sh.phantom := rfl
  refine ⟨fun family' outcome => ?_, ?_⟩
  · rw [metrics, phantom, counted.exact family' outcome]
    simp [Shared.settled, Shared.afterAccept, OpEntry.counts, OpEntry.winner]
  have bound := counted.bound
  rw [phantom]
  simp only [Shared.afterAccept, List.map_append, List.sum_append, List.map_cons, List.map_nil,
    List.sum_cons, List.sum_nil, OpEntry.counted, CoreState.insert_nextSequence]
  cases identity with
  | sequence isCounted _ _ =>
    simp only [isCounted, if_true]
    omega
  | upgrade uncounted _ _ =>
    simp only [uncounted, Option.isSome_none, Bool.false_eq_true, if_false]
    omega

theorem Counted.hangSink (counted : Counted sh) (identities : Identities sh.core.nextSequence sh.ops)
    (free : sh.deadlock = none) : Counted { sh with
      core := { sh.core with nextSequence := sh.core.nextSequence + 1 }
      metrics := sh.metrics.countTerminal .request .failed
      deadlock := some ⟨[], true⟩ } := by
  have none : sh.phantom = 0 := by simp [Shared.phantom, free]
  refine ⟨fun family outcome => ?_, ?_⟩
  · show (if family = .request ∧ outcome = .failed then saturatingSucc (sh.metrics.terminal family outcome)
      else sh.metrics.terminal family outcome) = sh.settled family outcome + phantomAt family outcome 1
    rw [saturatingSucc_of_lt (counted.below identities family outcome), counted.exact family outcome, none]
    unfold phantomAt
    split <;> omega
  · show (sh.ops.map OpEntry.counted).sum + 1 < sh.core.nextSequence + 1
    have := counted.bound
    omega

theorem Move.counted (move : Move sh used sh' given) (sane : Sane sh (used + others)) (counted : Counted sh) :
    Counted sh' := by
  cases move with
  | surroundings s advances => exact counted.of_eq rfl rfl rfl advances.sequence
  | hang permits free => exact counted.of_eq rfl rfl (by simp [Shared.phantom, free]) (Nat.le_refl _)
  | hangSink free room => exact counted.hangSink sane.identities free
  | accept op submission family fresh identity submitted => exact counted.accept identity
  | @«section» ref entry entry' effect moved found sound =>
    have later := (sane.ops entry (List.mem_of_getElem? found)).later (.single sound.change)
    refine counted.update sane.identities found later rfl ?_ rfl ?_
    · rw [← sound.counted]
      rfl
    · unfold Shared.afterSection
      split <;> simp
  | remove ref =>
    have same : (sh.removeOp ref).core.nextSequence = sh.core.nextSequence := by
      unfold Shared.removeOp
      split <;> simp
    refine counted.of_eq (sh.removeOp_ops ref) ?_ ?_ (Nat.le_of_eq same.symm) <;>
      unfold Shared.removeOp <;> split <;> rfl
  | deliver job =>
    unfold Shared.invoke
    split
    · next ref completion isBody =>
      split
      · next entry found =>
        obtain ⟨-, body⟩ := sane.tokens (.running job) (by simp)
        rw [isBody] at body
        obtain ⟨entry', found', won, -⟩ := body
        obtain rfl := Option.some.inj (found.symm.trans found')
        have later := (sane.ops entry (List.mem_of_getElem? found)).later (.single (.deliver won))
        refine counted.update sane.identities found later rfl ?_ rfl rfl
        have noSettlement : entry.settlement { entry with received := entry.received ++ [completion] } =
            none := by
          have same : ({ entry with received := entry.received ++ [completion] } : OpEntry).winner =
              entry.winner := rfl
          rw [OpEntry.settlement, same, won]
        rw [noSettlement]
        rfl
      · exact counted
    · exact counted
  | _ => exact counted.of_eq rfl rfl rfl (Nat.le_refl _)

end Counted

/-! ## Commits on a terminal operation -/

/-- The sections that attempt a terminal commit on one operation. -/
inductive Act.Commits (ref : Nat) : Act → Prop
  | complete (c : Done) : Commits ref (.complete ref c)
  | commitStream (c : Done) : Commits ref (.commitStream ref c)
  | completeTcpConnected : Commits ref (.completeTcpConnected ref)
  | completeTlsConnected : Commits ref (.completeTlsConnected ref)
  | completeTcpState (c : Done) : Commits ref (.completeTcpState ref c)
  | completeTlsState (c : Done) : Commits ref (.completeTlsState ref c)
  | sink (sinkOp : SinkOp) : Commits ref (.sink ref sinkOp)
  | cancelSink : Commits ref (.cancelSink ref)

/-- The sections that attempt a terminal commit on many. -/
inductive Act.Sweeps : Act → Prop
  | cancel (id : RequestId) : Sweeps (.cancel id)
  | cancelAll : Sweeps .cancelAll
  | beginShutdown : Sweeps .beginShutdown
  | failAll (error : Error) : Sweeps (.failAll error)

section Attempts

variable {sh : Shared} {tokens : Multiset Token} {ω : Oracle} {ref : Nat} {entry : OpEntry}

def OpEntry.late (entry : OpEntry) (c : Done) : OpEntry := { entry with attempts := entry.attempts ++ [c] }

theorem OpEntry.Coherent.late_winner (coherent : entry.Coherent) (terminal : entry.op.isTerminal = true)
    (c : Done) : (entry.late c).winner = entry.winner := by
  have some := coherent.isTerminal_iff.mp terminal
  cases isAttempts : entry.attempts with
  | nil => exact absurd isAttempts some
  | cons first rest => simp [OpEntry.winner, OpEntry.late, isAttempts]

/-- The sections of the transport do nothing to a response that is terminal. -/
theorem sinkSection_terminal {pair : ResponsePair} (terminal : pair.state.terminal.isSome = true)
    (width : PointerWidth) (sinkOp : SinkOp) :
    Shared.sinkSection width sinkOp pair = (pair, none, none) := by
  cases sinkOp with
  | publishHead head noBody => simp [Shared.sinkSection, ResponsePair.publishHead, terminal]
  | push chunk => simp [Shared.sinkSection, ResponsePair.tryPush, terminal]
  | commit c => simp [Shared.sinkSection, ResponsePair.sinkCommit, terminal]
  | drop =>
    simp only [Shared.sinkSection, ResponsePair.sinkDrop, ResponsePair.sinkCommit, terminal, if_true]
    split <;> rfl

variable (found : sh.ops[ref]? = some entry) (terminal : entry.op.isTerminal = true)
include found terminal

theorem commitOp_terminal (c : Done) : sh.commitOp ref c = ({ sh with ops := sh.ops.set ref (entry.late c) }, {}) := by
  simp only [Shared.commitOp, found, Op.commit_of_isTerminal terminal, Shared.update, Shared.count,
    Counters.releaseAll, List.foldl_nil, Bool.or_false, OpEntry.late]

theorem streamSection_terminal (width : PointerWidth) (sinkOp : SinkOp) :
    sh.streamSection ref (Shared.sinkSection width sinkOp) = sh := by
  obtain ⟨op, origin, attempts, received⟩ := entry
  cases op with
  | stream s =>
    have same : sh.ops.set ref ⟨.stream s, origin, attempts, received⟩ = sh.ops := by
      obtain ⟨bound, eq⟩ := List.getElem?_eq_some_iff.mp found
      rw [← eq, List.set_getElem_self]
    have unchanged := sinkSection_terminal terminal width sinkOp
    simp only [Shared.streamSection, found, unchanged, Option.toList_none, List.append_nil, Shared.update,
      same, Option.map_none, Shared.count, Counters.releaseAll, List.foldl_nil, Bool.or_false]
  | _ => simp [Shared.streamSection, found]

variable (sane : Sane sh tokens)
include sane

/-- A terminal connect is in no map. -/
theorem Sane.not_current (kind : OpKind) (twoPhase : kind.twoPhase = true) : sh.current kind ref = false := by
  by_contra current
  obtain ⟨entry', found', there⟩ := Shared.current_iff.mp (by simpa using current)
  obtain ⟨listed, foundListed, -, -, pending⟩ := sane.tables kind _ ref there
  obtain rfl := Option.some.inj (found.symm.trans foundListed)
  simp [pending twoPhase] at terminal

/-- A later attempt changes the history of the operation, and nothing else. -/
theorem Act.Commits.late {act : Act} (commits : act.Commits ref) :
    (exec ω act sh).1 = sh ∨ ∃ c, (exec ω act sh).1 = { sh with ops := sh.ops.set ref (entry.late c) } := by
  have notTcp := sane.not_current found terminal .connect rfl
  have notTls := sane.not_current found terminal .tls rfl
  cases commits with
  | complete c =>
    refine .inr ⟨c, ?_⟩
    simp only [exec, Shared.completeState, commitOp_terminal found terminal c]
  | commitStream c =>
    refine .inr ⟨c, ?_⟩
    simp only [exec, commitOp_terminal found terminal c]
  | completeTcpConnected =>
    left
    simp only [exec, Shared.completeTcpConnected, notTcp]
    split
    · simp
    · rfl
  | completeTlsConnected =>
    left
    simp only [exec, Shared.completeTlsConnected, notTls]
    split
    · simp
    · rfl
  | completeTcpState c =>
    left
    simp [exec, Shared.completeTcpState, Shared.completeLocked, notTcp]
  | completeTlsState c =>
    left
    simp only [exec, Shared.completeTlsState, notTls]
    split <;> simp
  | sink sinkOp => exact .inl (streamSection_terminal found terminal _ sinkOp)
  | cancelSink => exact .inl (streamSection_terminal found terminal sh.config.width (.commit .cancelled))

/-! ## Sweeps leave terminal operations alone -/

theorem completeLocked_terminal (kind : OpKind) (twoPhase : kind.twoPhase = true) (other : Nat) (c : Done) :
    (sh.completeLocked kind other c).1.ops[ref]? = some entry := by
  rcases completeLocked_cases sane twoPhase other c with ⟨-, lost⟩ | ⟨pendingEntry, found', -, pending, won⟩
  · rw [lost]
    exact found
  rw [won]
  have apart : other ≠ ref := by
    rintro rfl
    obtain rfl := Option.some.inj (found.symm.trans found')
    simp [pending] at terminal
  exact (List.getElem?_set_ne apart).trans found

theorem completeAllLocked_terminal (kind : OpKind) (twoPhase : kind.twoPhase = true) (c : Done) (refs : List Nat) :
    (Shared.completeAllLocked kind c refs sh).1.ops[ref]? = some entry := by
  induction refs generalizing sh tokens with
  | nil => exact found
  | cons first refs ih =>
    exact ih (completeLocked_terminal found terminal sane kind twoPhase first c)
      (Moves.sane (completeLocked_moves sane kind twoPhase first c) sane)

theorem sweep_terminal (select : RequestId → Bool) (tlsDone tcpDone : Done) :
    (sh.sweep ω select tlsDone tcpDone).1.ops[ref]? = some entry :=
  completeAllLocked_terminal (completeAllLocked_terminal found terminal sane .tls rfl tlsDone _) terminal
    (Moves.sane (completeAllLocked_moves .tls rfl tlsDone _ sane) sane) .connect rfl tcpDone _

theorem cancel_terminal (id : RequestId) : (sh.cancel id).1.ops[ref]? = some entry := by
  unfold Shared.cancel
  split
  · exact found
  cases connect : sh.core.connects.lookup id with
  | none =>
    cases tls : sh.core.tlsConnects.lookup id with
    | none => exact found
    | some other => exact completeLocked_terminal found terminal sane .tls rfl other .cancelled
  | some other =>
    have first := completeLocked_terminal found terminal sane .connect rfl other .cancelled
    cases tls : sh.core.tlsConnects.lookup id with
    | none => exact first
    | some other' =>
      exact completeLocked_terminal first terminal
        (Moves.sane (completeLocked_moves sane .connect rfl other .cancelled) sane) .tls rfl other' .cancelled

theorem Act.Sweeps.late {act : Act} (sweeps : act.Sweeps) :
    (exec ω act sh).1.ops[ref]? = some entry := by
  cases sweeps with
  | cancel id => exact cancel_terminal found terminal sane id
  | cancelAll | failAll error => exact sweep_terminal found terminal sane _ _ _
  | beginShutdown =>
    exact @sweep_terminal sh.closeAdmission tokens _ _ _ found terminal (Moves.sane closeAdmission_moves sane) _ _ _

end Attempts

/-! ## One winner -/

section Winner

variable {config : EngineConfig} {c : Config Shared Act}

theorem ReachableBy.counted {allowed : Config Shared Act → Label Act → Prop}
    (reached : ReachableBy allowed config c) : Counted c.shared := by
  refine ReachableBy.ledger (fun sh _ => Counted sh) ⟨fun family outcome => ?_, ?_⟩
    (fun _ _ _ _ _ sane counted move => move.counted sane counted) reached
  · simp [Shared.new, Metrics.zero, Shared.settled, Shared.phantom, phantomAt]
  · simp [Shared.new, Shared.phantom]

/-- In every reachable state each accepted operation has at most one winner, the first commit attempted on it
in lock order. The winner stays, it is all that a waiter, a reader or a callback has received, it is counted
once unless the operation is a TLS upgrade, later attempts change neither outcome nor permits nor metrics, and
no `expect` has failed. -/
theorem terminal_race (reached : Reachable config c) :
    c.shared.panicked = false ∧
    (∀ family outcome, c.shared.metrics.terminal family outcome =
      c.shared.settled family outcome + phantomAt family outcome c.shared.phantom) ∧
    ∀ (ref : Nat) (entry : OpEntry), c.shared.ops[ref]? = some entry →
      (entry.op.isTerminal = true ↔ entry.winner.isSome = true) ∧
      (∀ received ∈ entry.received, entry.winner = some received) ∧
      (∀ c', Run engine anyStep c c' → ∃ entry', c'.shared.ops[ref]? = some entry' ∧
        ∀ winner, entry.winner = some winner → entry'.winner = some winner) ∧
      (entry.op.isTerminal = true →
        (∀ (ω : Oracle) (act : Act), act.Commits ref →
          (exec ω act c.shared).1.counters = c.shared.counters ∧
          (exec ω act c.shared).1.metrics = c.shared.metrics ∧
          ∃ entry', (exec ω act c.shared).1.ops[ref]? = some entry' ∧ entry'.op = entry.op ∧
            entry'.winner = entry.winner) ∧
        ∀ (ω : Oracle) (act : Act), act.Sweeps → (exec ω act c.shared).1.ops[ref]? = some entry) := by
  have sane := ReachableBy.sane reached
  refine ⟨sane.calm, (ReachableBy.counted reached).exact, fun ref entry found => ?_⟩
  have coherent := sane.ops entry (List.mem_of_getElem? found)
  refine ⟨coherent.op.isTerminal_iff, coherent.received, fun c' run => ?_, fun terminal => ⟨?_, ?_⟩⟩
  · obtain ⟨entry', found', later⟩ := ReachableBy.grow reached run ref entry found
    exact ⟨entry', found', fun winner => later.winner⟩
  · intro ω act commits
    rcases commits.late found terminal sane with same | ⟨late, same⟩
    · rw [same]
      exact ⟨rfl, rfl, entry, found, rfl, rfl⟩
    · rw [same]
      refine ⟨rfl, rfl, entry.late late, ?_, rfl, coherent.late_winner terminal late⟩
      exact List.getElem?_set_self (List.getElem?_eq_some_iff.mp found).1
  · intro ω act sweeps
    exact sweeps.late found terminal sane

/-- A connect that completes, followed by a TLS upgrade of its session that completes. -/
def upgradeScript : List (Turn engine) :=
  [.run 0 .calm, supports, calls fun _ => .acceptTcpConnect .small none, .run 1 .calm, .run 0 .calm,
    backendCalls (.transportReady 0), .run 0 .calm, .run 0 .calm,
    calls fun _ => .acceptTlsUpgrade 0 .small 2000000000 none, .run 1 .calm,
    backendCalls (.verified 1), .run 0 .calm, .run 0 .calm]

theorem terminal_race_upgrade : ∃ c, Reachable (.small .spawned 8) c ∧ c.shared.ops.length = 2 ∧
    c.shared.panicked = false ∧ ∀ family outcome, c.shared.metrics.terminal family outcome =
      c.shared.settled family outcome + phantomAt family outcome c.shared.phantom := by
  obtain ⟨c, reached, two⟩ :=
    reach_any (.small .spawned 8) upgradeScript (fun c => c.shared.ops.length = 2) (by decide +kernel)
  exact ⟨c, reached, two, (terminal_race reached).1, (terminal_race reached).2.1⟩

def Metrics.terminalTotal (metrics : Metrics) : Nat :=
  ([Family.request, .resolution, .tcpConnect].map fun family =>
    ([Outcome.completed, .failed, .cancelled].map (metrics.terminal family)).sum).sum

/-- The upgrade is terminal and in no counter. -/
theorem upgrade_not_counted : ∃ c, Reachable (.small .spawned 8) c ∧
    c.shared.ops.map (fun entry => entry.winner.map Completion.outcome) =
      [some .completed, some .completed] ∧
    c.shared.metrics.terminalTotal = 1 :=
  reach_any _ upgradeScript _ (by decide +kernel)

/-- In every reachable state a callback job, queued or with a thread, reports its operation's winner, under its id, to
the callback it was accepted with; and the maps lead from an id to its operation, in those of connects a pending one. -/
theorem reports_addressed (reached : Reachable config c) :
    (∀ job, job ∈ c.shared.dispatch.queue ∨ .job job ∈ c.tokens Act.tokens ∨ .running job ∈ c.tokens Act.tokens →
      job.Ok c.shared.ops) ∧ Tables c.shared.core c.shared.ops := by
  have sane := ReachableBy.sane reached
  refine ⟨fun job placed => ?_, sane.tables⟩
  rcases placed with queued | taken | running
  · exact sane.jobs job queued
  · exact sane.tokens (.job job) taken
  · exact sane.tokens (.running job) running

/-- The callback of a cancelled connect is queued. -/
theorem reports_addressed_cancelled : ∃ c, Reachable (.small .spawned 8) c ∧ c.shared.dispatch.queue.length = 1 ∧
    ∀ job ∈ c.shared.dispatch.queue, job.Ok c.shared.ops := by
  obtain ⟨c, reached, one⟩ := reach_any (.small .spawned 8)
    (supports :: [calls fun _ => .acceptTcpConnect .small (some ⟨3, false⟩), calls fun _ => .cancel ⟨7, 1⟩].flatMap
      fun call => call :: List.replicate 3 (.run 1 .calm))
    (fun c => c.shared.dispatch.queue.length = 1) (by decide +kernel)
  exact ⟨c, reached, one, fun job mem => (reports_addressed reached).1 job (.inl mem)⟩

end Winner

end NbReq
