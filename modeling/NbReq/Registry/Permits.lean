import NbReq.Registry.Reachable
import NbReq.Registry.Script

/-!
# The ledger of permits

Every admission counter is the sum of the permits that somebody holds of it: the records, the sessions, the
queued jobs, the threads between two of their sections, and a thread that relocked the core.

1. `Move.balanced`: every move keeps the balance, so a permit is never lost, duplicated or dropped twice.
2. `permits_balance`: the balance in every reachable state, and when it is zero.
-/

namespace NbReq

open TaskSystem Ledger

/-! ## Who holds a permit -/

def Token.held (k : Counter) : Token → Nat
  | .permit owned => NbReq.held k [owned]
  | .job taken => NbReq.held k taken.permits
  | .running taken => NbReq.held k taken.permits
  | .known _ => 0

def threadsHold (k : Counter) (tokens : Multiset Token) : Nat := (tokens.map (Token.held k)).sum

def Shared.holds (sh : Shared) (k : Counter) : Nat :=
  (sh.ops.map fun entry => held k entry.op.permits).sum + (sh.ios.map fun io => held k io.permits).sum +
    (sh.dispatch.queue.map fun job => held k job.permits).sum +
    held k ((sh.deadlock.map Deadlock.permits).getD [])

section Tokens

variable (k : Counter)

@[simp] theorem threadsHold_zero : threadsHold k 0 = 0 := rfl

@[simp] theorem threadsHold_add (tokens tokens' : Multiset Token) :
    threadsHold k (tokens + tokens') = threadsHold k tokens + threadsHold k tokens' := by
  simp [threadsHold]

@[simp] theorem threadsHold_cons (token : Token) (tokens : Multiset Token) :
    threadsHold k (token ::ₘ tokens) = token.held k + threadsHold k tokens := by
  simp [threadsHold]

@[simp] theorem threadsHold_permitTokens (permits : List Permit) :
    threadsHold k (permitTokens permits) = held k permits := by
  induction permits with
  | nil => rfl
  | cons permit permits ih => simp [ih, Token.held]

@[simp] theorem threadsHold_jobTokens (job : Option CallbackJob) :
    threadsHold k (jobTokens job) = held k (jobPermits job) := by
  cases job with
  | none => rfl
  | some job => simp [jobTokens, threadsHold, Token.held]

end Tokens

/-! ## Dropping permits -/

theorem Counters.release_of_le (counters : Counters) (width : PointerWidth) (permit : Permit)
    (enough : permit.amount ≤ counters.used permit.counter) :
    (∀ k, (counters.release width permit).used k + held k [permit] = counters.used k) ∧
      (counters.release width permit).underflow = counters.underflow := by
  rw [Counters.release, if_pos enough]
  refine ⟨fun k => ?_, rfl⟩
  by_cases same : k = permit.counter
  · subst same
    simp only [if_true, held_cons, held_nil]
    omega
  · simp [same, Ne.symm same]

/-- Permits that a counter has room for are dropped without a wrap. -/
theorem Counters.releaseAll_of_le (width : PointerWidth) (permits : List Permit) (counters : Counters)
    (enough : ∀ k, held k permits ≤ counters.used k) :
    (∀ k, (counters.releaseAll width permits).used k + held k permits = counters.used k) ∧
      (counters.releaseAll width permits).underflow = counters.underflow := by
  induction permits generalizing counters with
  | nil => exact ⟨fun k => rfl, rfl⟩
  | cons permit permits ih =>
    have first := counters.release_of_le width permit (by
      have := enough permit.counter
      simp only [held_cons, if_true] at this
      omega)
    have each : ∀ k, held k (permit :: permits) = held k [permit] + held k permits := by
      intro k
      simp
    have rest := ih (counters.release width permit) (fun k => by
      have := enough k
      have := first.1 k
      have := each k
      omega)
    refine ⟨fun k => ?_, rest.2.trans first.2⟩
    have := rest.1 k
    have := first.1 k
    rw [each]
    show ((counters.release width permit).releaseAll width permits).used k + _ = _
    omega

/-! ## The balance -/

/-- Every counter is what is held of it and within its limit, and none was taken below zero. -/
structure Balanced (sh : Shared) (tokens : Multiset Token) : Prop where
  exact : ∀ k, sh.counters.used k = sh.holds k + threadsHold k tokens
  within : ∀ k, sh.counters.used k ≤ sh.config.limit k
  calm : sh.counters.underflow = false

section Balance

variable {sh sh' : Shared} {used given others tokens tokens' : Multiset Token}

/-- Permits changed hands, and some were dropped. -/
theorem Balanced.drop (balanced : Balanced sh tokens) (dropped : List Permit)
    (counters : sh'.counters = sh.counters.releaseAll sh.config.width dropped) (config : sh'.config = sh.config)
    (moved : ∀ k, sh'.holds k + threadsHold k tokens' + held k dropped = sh.holds k + threadsHold k tokens) :
    Balanced sh' tokens' := by
  have release := sh.counters.releaseAll_of_le sh.config.width dropped fun k => by
    have := moved k
    rw [balanced.exact k]
    omega
  rw [← counters] at release
  refine ⟨fun k => ?_, fun k => ?_, release.2.trans balanced.calm⟩
  · have := release.1 k
    have := balanced.exact k
    have := moved k
    omega
  · have := release.1 k
    have := balanced.within k
    rw [config]
    omega

theorem Balanced.move (balanced : Balanced sh tokens) (counters : sh'.counters = sh.counters)
    (config : sh'.config = sh.config)
    (moved : ∀ k, sh'.holds k + threadsHold k tokens' = sh.holds k + threadsHold k tokens) :
    Balanced sh' tokens' :=
  balanced.drop [] counters config moved

theorem Balanced.acquire (balanced : Balanced sh others) {permit : Permit}
    (fits : sh.counters.used permit.counter + permit.amount ≤ sh.config.limit permit.counter) :
    Balanced { sh with counters := sh.counters.charge permit } ({.permit permit} + others) := by
  have used : ∀ k, (sh.counters.charge permit).used k = sh.counters.used k + held k [permit] := by
    intro k
    by_cases same : k = permit.counter
    · subst same
      simp [Counters.charge]
    · simp [Counters.charge, same, Ne.symm same]
  refine ⟨fun k => ?_, fun k => ?_, balanced.calm⟩
  · show (sh.counters.charge permit).used k = sh.holds k + _
    rw [used k, balanced.exact k, Multiset.singleton_add, threadsHold_cons, Token.held]
    omega
  show (sh.counters.charge permit).used k ≤ sh.config.limit k
  rw [used k]
  by_cases same : k = permit.counter
  · subst same
    simpa using fits
  · simpa [Ne.symm same] using balanced.within k

theorem Shared.removeOp_frame (sh : Shared) (ref : Nat) : (sh.removeOp ref).counters = sh.counters ∧
    (sh.removeOp ref).config = sh.config ∧ ∀ k, (sh.removeOp ref).holds k = sh.holds k := by
  unfold removeOp
  split <;> exact ⟨rfl, rfl, fun _ => rfl⟩

theorem Shared.invoke_frame (sh : Shared) (job : CallbackJob) : (sh.invoke job).counters = sh.counters ∧
    (sh.invoke job).config = sh.config ∧ ∀ k, (sh.invoke job).holds k = sh.holds k := by
  unfold invoke
  split
  · next completion _ =>
    split
    · next entry found =>
      refine ⟨rfl, rfl, fun k => ?_⟩
      have sum := Heap.sum_map_set found (fun entry => held k entry.op.permits)
        { entry with received := entry.received ++ [completion] }
      simp only at sum
      simp only [holds]
      omega
    · exact ⟨rfl, rfl, fun _ => rfl⟩
  · exact ⟨rfl, rfl, fun _ => rfl⟩

theorem Move.balanced (move : Move sh used sh' given) (sane : Sane sh (used + others))
    (balanced : Balanced sh (used + others)) : Balanced sh' (given + others) := by
  cases move with
  | learn | forget | surroundings | closeSession =>
    exact balanced.move rfl rfl fun k => by simp [Token.held, Shared.holds, Shared.within]
  | acquire permit fits =>
    rw [zero_add] at balanced
    exact balanced.acquire fits
  | release permit =>
    refine balanced.drop [permit] rfl rfl fun k => ?_
    rw [Multiset.singleton_add, threadsHold_cons, zero_add, Token.held]
    show sh.holds k + _ + _ = _
    omega
  | hang permits free =>
    refine balanced.move rfl rfl fun k => ?_
    simp only [Shared.holds, free, threadsHold_add, threadsHold_permitTokens, threadsHold_zero, Option.map_some,
      Option.map_none, Option.getD_some, Option.getD_none, held_nil]
    omega
  | hangSink free room => exact balanced.move rfl rfl fun k => by simp [Shared.holds, free]
  | accept op submission counted fresh identity submitted =>
    refine balanced.move rfl rfl fun k => ?_
    simp only [Shared.holds, Shared.afterAccept, List.map_append, List.sum_append, List.map_cons, List.map_nil,
      List.sum_cons, List.sum_nil, threadsHold_add, threadsHold_permitTokens, threadsHold_zero]
    omega
  | @«section» ref entry entry' effect moved found sound =>
    refine balanced.drop effect.dropped rfl rfl fun k => ?_
    have sum := Heap.sum_map_set found (fun entry => held k entry.op.permits) entry'
    have permits := sound.permits k
    simp only [Shared.holds, Shared.afterSection, Shared.update, threadsHold_add, threadsHold_jobTokens,
      threadsHold_permitTokens, threadsHold_zero]
    omega
  | remove ref =>
    obtain ⟨counters, config, holds⟩ := sh.removeOp_frame ref
    exact balanced.move counters config fun k => by rw [holds]
  | deliver job =>
    obtain ⟨counters, config, holds⟩ := sh.invoke_frame job
    exact balanced.move counters config fun k => by simp [holds, Token.held]
  | openSession session coherent owner =>
    refine balanced.move rfl rfl fun k => ?_
    simp only [Shared.holds, List.map_append, List.sum_append, List.map_cons, List.map_nil, List.sum_cons,
      List.sum_nil, threadsHold_add, threadsHold_permitTokens, threadsHold_zero]
    omega
  | @session io session session' effect found sound =>
    refine balanced.move rfl rfl fun k => ?_
    have sum := Heap.sum_map_set found (fun io => held k io.permits) session'
    have permits := sound.permits k
    simp only at permits
    simp only [Shared.holds, threadsHold_add, threadsHold_permitTokens, threadsHold_jobTokens, threadsHold_zero]
    omega
  | @endow io session session' permits found coherent id owns =>
    refine balanced.move rfl rfl fun k => ?_
    have sum := Heap.sum_map_set found (fun io => held k io.permits) session'
    have := owns k
    simp only [Shared.holds, threadsHold_add, threadsHold_permitTokens, threadsHold_zero]
    omega
  | @enqueue job dispatch taken =>
    unfold DispatchState.enqueueTerminal at taken
    split at taken
    · cases taken
    obtain rfl := Option.some.inj taken
    refine balanced.move rfl rfl fun k => ?_
    rw [DispatchState.makeRoom_eq fun job mem => (sane.jobs job mem).1]
    simp only [Shared.holds, List.map_append, List.sum_append, List.map_cons, List.map_nil, List.sum_cons,
      List.sum_nil, Multiset.singleton_add, threadsHold_cons, zero_add, Token.held]
    omega
  | discard job => exact balanced.move rfl rfl fun k => by simp [Token.held, Shared.holds]
  | @take job dispatch taken =>
    refine balanced.move rfl rfl fun k => ?_
    have sum := ((DispatchState.takeRunnable_eq_some taken).1.map fun job => held k job.permits).sum_eq
    simp only [List.map_cons, List.sum_cons] at sum
    simp only [Shared.holds, sum, Multiset.singleton_add, threadsHold_cons, zero_add, Token.held]
    omega
  | dispatch dispatch queue => exact balanced.move rfl rfl fun k => by simp [Shared.holds, queue]

end Balance

/-! ## Nothing is left -/

/-- Nothing is left to do for an operation: it is terminal, its callback has left the record, and if it is a
streaming request the reactor or the winning cancellation has released its permits. -/
def Op.Settled (op : Op) : Prop :=
  op.isTerminal = true ∧ op.callback = none ∧ (op.kind = .stream → op.permits = [])

instance (op : Op) : Decidable op.Settled := inferInstanceAs (Decidable (_ ∧ _ ∧ _))

theorem Op.Settled.permits {op : Op} {winner : Option Done} {origin : Option Callback} (settled : op.Settled)
    (coherent : op.Coherent winner origin) : op.permits = [] := by
  obtain ⟨terminal, callback, stream⟩ := settled
  cases op with
  | stream s => exact stream rfl
  | request s =>
    simp_all [Op.Coherent, RequestState.Coherent, Op.isTerminal, Op.callback, Op.permits, RequestState.permits]
  | resolve s =>
    have isSome : s.completion.isSome = true := terminal
    simp only [Op.Coherent, ResolveState.Coherent, isSome, if_true] at coherent
    simp_all [Op.callback, Op.permits, ResolveState.permits]
  | connect s | tls s =>
    simp_all [Op.Coherent, ConnectState.Coherent, Op.isTerminal, Op.callback, Op.permits, ConnectState.permits]

/-- All operations are settled, no job is left to run, all sessions are released with their finish callbacks
taken, and no thread is inside a call that holds a permit. -/
structure AllSettled (c : Config Shared Act) : Prop where
  ops : ∀ entry ∈ c.shared.ops, entry.op.Settled
  jobs : c.shared.dispatch.queue = []
  sessions : ∀ io ∈ c.shared.ios, io.released = true ∧ io.finishCallback = none
  threads : ∀ act ∈ c.inFlight, act.owns = false
  free : c.shared.deadlock = none

section Reached

variable {config : EngineConfig} {c : Config Shared Act}

theorem threads_hold_nothing (threads : ∀ act ∈ c.inFlight, act.owns = false) (k : Counter) :
    threadsHold k (c.tokens Act.tokens) = 0 := by
  refine Multiset.sum_eq_zero fun n mem => ?_
  obtain ⟨token, there, rfl⟩ := Multiset.mem_map.mp mem
  obtain ⟨act, isAct, isToken⟩ := Multiset.mem_bind.mp there
  obtain ⟨fact, rfl⟩ := Act.known_of_owns (threads act isAct) token isToken
  rfl

theorem AllSettled.holds_nothing (settled : AllSettled c) (sane : Sane c.shared (c.tokens Act.tokens))
    (k : Counter) : c.shared.holds k + threadsHold k (c.tokens Act.tokens) = 0 := by
  have ops : (c.shared.ops.map fun entry => held k entry.op.permits).sum = 0 := by
    refine List.sum_eq_zero fun n mem => ?_
    obtain ⟨entry, there, rfl⟩ := List.mem_map.mp mem
    rw [(settled.ops entry there).permits (sane.ops entry there).op, held_nil]
  have ios : (c.shared.ios.map fun io => held k io.permits).sum = 0 := by
    refine List.sum_eq_zero fun n mem => ?_
    obtain ⟨io, there, rfl⟩ := List.mem_map.mp mem
    obtain ⟨released, callback⟩ := settled.sessions io there
    have coherent := (sane.sessions io there).1
    have closure : io.onRelease = none := by simpa [released] using coherent.release
    have permit : io.finishCallbackPermit = none := by simpa [callback] using coherent.finish
    simp [TcpIo.permits, closure, permit]
  rw [threads_hold_nothing settled.threads, Shared.holds, ops, ios, settled.jobs, settled.free]
  rfl

/-- In every reachable state each admission counter is the sum of the permits that are held of it, is within
its limit and was never taken below zero; it is zero once everything is settled. -/
theorem permits_balance (reached : Reachable config c) :
    (∀ k, c.shared.counters.used k = c.shared.holds k + threadsHold k (c.tokens Act.tokens)) ∧
    (∀ k, c.shared.counters.used k ≤ c.shared.config.limit k) ∧ c.shared.counters.underflow = false ∧
    (AllSettled c → ∀ k, c.shared.counters.used k = 0) := by
  have begins : Balanced (Shared.new config) 0 :=
    ⟨fun k => rfl, fun k => Nat.zero_le _, rfl⟩
  have balanced := ReachableBy.ledger Balanced begins
    (fun _ _ _ _ _ sane balanced move => move.balanced sane balanced) reached
  refine ⟨balanced.exact, balanced.within, balanced.calm, fun settled k => ?_⟩
  rw [balanced.exact k, settled.holds_nothing (ReachableBy.sane reached) k]

/-- The transport has completed a streaming request, and the reactor has not yet looked at it again. -/
def unreapedScript : List (Turn engine) :=
  [.run 0 .calm, calls fun _ => .acceptStream .small, .run 1 .calm, .run 0 .calm, .run 0 .calm,
    backendCalls (.sink 0 (.commit (.completed .body))), .run 0 .calm]

theorem permits_balance_reaped : ∃ c, Reachable (.small .spawned 8) c ∧ c.shared.ops.length = 1 ∧
    ∀ k, c.shared.counters.used k = 0 := by
  obtain ⟨c, reached, one, ops, jobs, sessions, threads, free⟩ := reach_any (.small .spawned 8)
    (unreapedScript ++ List.replicate 9 (.run 0 .calm))
    (fun c => c.shared.ops.length = 1 ∧ (∀ entry ∈ c.shared.ops, entry.op.Settled) ∧
      c.shared.dispatch.queue.length = 0 ∧ c.shared.ios.length = 0 ∧
      (∀ act ∈ c.tasks.flatten, act.owns = false) ∧ c.shared.deadlock.isNone = true) (by decide +kernel)
  refine ⟨c, reached, one, (permits_balance reached).2.2.2
    ⟨ops, List.length_eq_zero_iff.mp jobs, ?_, ?_, Option.isNone_iff_eq_none.mp free⟩⟩
  · simp [List.length_eq_zero_iff.mp sessions]
  · intro act mem
    obtain ⟨acts, there, isAct⟩ := mem_inFlight.mp mem
    exact threads act (List.mem_flatten.mpr ⟨acts, there, isAct⟩)

/-- All operations are terminal, there is no job and no session, and the permits of the streaming request are
still held. -/
theorem unreaped_stream_holds : ∃ c, Reachable (.small .spawned 8) c ∧ c.shared.ops.length = 1 ∧
    (∀ entry ∈ c.shared.ops, entry.op.isTerminal = true) ∧ c.shared.dispatch.queue.length = 0 ∧
    c.shared.dispatch.running = 0 ∧ c.shared.ios.length = 0 ∧ (∀ act ∈ c.tasks.flatten, act.owns = false) ∧
    c.shared.deadlock.isNone = true ∧ c.shared.counters.used .inflight = 1 :=
  reach_any _ unreapedScript _ (by decide +kernel)

end Reached

end NbReq
