import NbReq.Registry.Exec
import NbReq.Lib.Heap

/-!
# Coherent operation records

What the record of an operation always satisfies, relative to the winner of its terminal race (the first
commit attempted on it) and to the callback it was accepted with, and what every section on a record does:
it keeps the record coherent, none of its `expect`s fails, a job it takes reports the winner, and permits are
neither lost nor duplicated between the record, the job and the drops.
-/

namespace NbReq

/-! ## Coherence of each kind -/

/-- A callback that is still in a one-phase record has its permits, and after the commit its completion; it
has left the record once the record is terminal and active. -/
def RequestState.Coherent (winner : Option Done) (origin : Option Callback) (s : RequestState) : Prop :=
  if s.terminal then
    winner.isSome ∧ (∀ c, s.completion = some c → winner = some c) ∧
      match s.callback with
      | some callback => origin = some callback ∧ s.callbackActive = false ∧ s.completion = winner ∧
          s.inflightPermit.isSome ∧ s.callbackPermit.isSome
      | none => s.inflightPermit = none ∧ s.callbackPermit = none ∧
          (origin.isSome → s.callbackActive = true)
  else
    winner = none ∧ s.completion = none ∧ s.callback = origin ∧ s.inflightPermit.isSome ∧
      s.callbackPermit.isSome = origin.isSome

def ResolveState.Coherent (winner : Option Done) (origin : Option Callback) (s : ResolveState) : Prop :=
  s.completion = winner ∧
    if s.completion.isSome then
      match s.callback with
      | some callback => origin = some callback ∧ s.callbackActive = false ∧ s.inflightPermit.isSome ∧
          s.callbackPermit.isSome
      | none => s.inflightPermit = none ∧ s.callbackPermit = none ∧
          (origin.isSome → s.callbackActive = true)
    else
      s.callback = origin ∧ s.inflightPermit.isSome ∧ s.callbackPermit.isSome = origin.isSome

/-- A callback leaves a two-phase record once the record is terminal, published and active. -/
def ConnectState.Coherent (winner : Option Done) (origin : Option Callback) (s : ConnectState) : Prop :=
  if s.terminal then
    winner.isSome ∧ (∀ c, s.completion = some c → winner = some c) ∧ s.reservations = [] ∧
      match s.callback with
      | some callback => origin = some callback ∧ s.completion = winner ∧ s.callbackPermit.isSome ∧
          (s.callbackActive = false ∨ s.deliveryReady = false)
      | none => s.callbackPermit = none ∧
          (origin.isSome → s.callbackActive = true ∧ s.deliveryReady = true)
  else
    winner = none ∧ s.completion = none ∧ s.deliveryReady = false ∧ s.callback = origin ∧
      s.callbackPermit.isSome = origin.isSome

/-- All three reservations that a connected session takes over are still in the record. -/
def ConnectState.Reserved (s : ConnectState) : Prop :=
  s.occupancyPermit.isSome ∧ s.queuedBytesPermit.isSome ∧ s.metricBytesPermit.isSome

def ConnectState.Unreserved (s : ConnectState) : Prop :=
  s.occupancyPermit = none ∧ s.queuedBytesPermit = none ∧ s.metricBytesPermit = none

/-- The terminal state of the shared response is the winner; EOF is known only for a completed body. -/
def StreamRequestState.Coherent (winner : Option Done) (origin : Option Callback)
    (s : StreamRequestState) : Prop :=
  s.response.state.terminal = winner ∧ origin = none ∧
    (s.response.reader.eofReached = true → winner = some (.completed .body))

def Op.Coherent (winner : Option Done) (origin : Option Callback) : Op → Prop
  | .request s => s.Coherent winner origin
  | .resolve s => s.Coherent winner origin
  | .connect s => s.Coherent winner origin ∧ (s.terminal = false → s.Reserved)
  | .tls s => s.toConnectState.Coherent winner origin ∧
      (s.terminal = false → s.Reserved ∧ s.upgrade = false ∨ s.Unreserved) ∧
      (s.upgrade = true → s.reservations = [])
  | .stream s => s.Coherent winner origin

/-- The winner of an operation's terminal race: the first commit attempted on it. -/
def OpEntry.winner (entry : OpEntry) : Option Done := entry.attempts.head?

/-- A coherent entry: its record is coherent with its history, and everyone who received an outcome received
the winner. -/
structure OpEntry.Coherent (entry : OpEntry) : Prop where
  op : entry.op.Coherent entry.winner entry.origin
  received : ∀ completion ∈ entry.received, entry.winner = some completion

theorem Op.Coherent.isTerminal_iff {op : Op} {winner : Option Done} {origin : Option Callback}
    (coherent : op.Coherent winner origin) : op.isTerminal = true ↔ winner.isSome := by
  cases op with
  | request s =>
    simp only [Op.Coherent, RequestState.Coherent] at coherent
    cases terminal : s.terminal <;> simp_all [Op.isTerminal]
  | stream s | resolve s => simp [Op.isTerminal, coherent.1]
  | connect s | tls s =>
    simp only [Op.Coherent, ConnectState.Coherent] at coherent
    cases terminal : s.terminal <;> simp_all [Op.isTerminal]

/-- An operation is terminal exactly when a commit was attempted on it. -/
theorem OpEntry.Coherent.isTerminal_iff {entry : OpEntry} (coherent : entry.Coherent) :
    entry.op.isTerminal = true ↔ entry.attempts ≠ [] := by
  rw [coherent.op.isTerminal_iff, OpEntry.winner]
  cases entry.attempts <;> simp

/-! ## What a section does -/

def jobPermits (job : Option CallbackJob) : List Permit := (job.map CallbackJob.permits).getD []

@[simp] theorem jobPermits_none : jobPermits none = [] := rfl

@[simp] theorem jobPermits_some (job : CallbackJob) : jobPermits (some job) = job.permits := rfl

/-- A job that reports `winner` for the operation `ref`. -/
structure CallbackJob.Reports (job : CallbackJob) (ref : Nat) (id : RequestId) (winner : Option Done)
    (origin : Option Callback) : Prop where
  kind : job.kind = .terminal
  requestId : job.requestId = id
  callback : origin = some job.callback
  body : ∃ completion, job.body = .operation ref completion ∧ winner = some completion

/-- What a section on a record guarantees: the record after it is coherent with `winner`, no `expect` failed,
the job it took reports the winner, and the permits before are those after, in the job and dropped. -/
structure Sound (ref : Nat) (winner : Option Done) (origin : Option Callback) (before : Op)
    (result : Op × Effect) : Prop where
  coherent : result.1.Coherent winner origin
  calm : result.2.panicked = false
  job : ∀ job ∈ result.2.job, job.Reports ref before.id winner origin
  permits : ∀ k, held k before.permits =
    held k result.1.permits + held k (jobPermits result.2.job) + held k result.2.dropped

/-- A section that leaves the record as it is. -/
theorem Sound.unchanged {self : Nat} {winner : Option Done} {origin : Option Callback} (op : Op)
    (coherent : op.Coherent winner origin) (won : Bool) (counted : Option (Family × Outcome)) :
    Sound self winner origin op (op, { won := won, counted := counted }) where
  coherent := coherent
  calm := rfl
  job := by simp
  permits := by simp

/-! ## Buffered HTTP -/

section Request

variable {self : Nat} {winner : Option Done} {origin : Option Callback} {s : RequestState}

attribute [local simp] Op.commit Op.activateCallback Op.Coherent Op.permits Op.id Op.family
  RequestState.commit RequestState.activateCallback RequestState.takeTerminalJob RequestState.Coherent
  RequestState.permits

theorem RequestState.commit_sound (coherent : s.Coherent winner origin) (c : Done) :
    Sound self (winner.or (some c)) origin (.request s) ((Op.request s).commit self c) := by
  obtain ⟨id, completion, terminal, callback, active, inflight, permit⟩ := s
  cases terminal with
  | true =>
    have won : winner.isSome := by simp_all
    obtain ⟨w, rfl⟩ := Option.isSome_iff_exists.mp won
    exact Sound.unchanged (.request _) coherent false none
  | false =>
    obtain ⟨rfl, rfl, rfl, hasInflight, hasPermit⟩ : winner = none ∧ completion = none ∧
        callback = origin ∧ inflight.isSome ∧ permit.isSome = origin.isSome := by simpa using coherent
    obtain ⟨p, rfl⟩ := Option.isSome_iff_exists.mp hasInflight
    cases callback with
    | none =>
      obtain rfl : permit = none := by simpa using hasPermit
      -- Without a callback the commit drops the permits itself.
      constructor <;> cases active <;> simp
    | some callback =>
      obtain ⟨q, rfl⟩ : ∃ q, permit = some q := Option.isSome_iff_exists.mp (by simpa using hasPermit)
      constructor <;> cases active <;> simp [CallbackJob.new]
      exact ⟨rfl, rfl, rfl, c, rfl, rfl⟩

theorem RequestState.activateCallback_sound (coherent : s.Coherent winner origin) :
    Sound self winner origin (.request s) ((Op.request s).activateCallback self) := by
  obtain ⟨id, completion, terminal, callback, active, inflight, permit⟩ := s
  cases terminal with
  | false => constructor <;> simp_all
  | true =>
    cases callback with
    | none => constructor <;> simp_all
    | some callback =>
      obtain ⟨won, -, rfl, rfl, rfl, hasInflight, hasPermit⟩ := by simpa using coherent
      obtain ⟨w, rfl⟩ := Option.isSome_iff_exists.mp won
      obtain ⟨p, rfl⟩ := Option.isSome_iff_exists.mp hasInflight
      obtain ⟨q, rfl⟩ := Option.isSome_iff_exists.mp hasPermit
      constructor <;> simp [CallbackJob.new]
      exact ⟨rfl, rfl, rfl, w, rfl, rfl⟩

end Request

/-! ## Resolutions -/

section Resolve

variable {self : Nat} {winner : Option Done} {origin : Option Callback} {s : ResolveState}

attribute [local simp] Op.commit Op.activateCallback Op.Coherent Op.permits Op.id Op.family
  ResolveState.commit ResolveState.activateCallback ResolveState.takeTerminalJob ResolveState.Coherent
  ResolveState.permits

theorem ResolveState.commit_sound (coherent : s.Coherent winner origin) (c : Done) :
    Sound self (winner.or (some c)) origin (.resolve s) ((Op.resolve s).commit self c) := by
  obtain ⟨id, completion, callback, active, inflight, permit⟩ := s
  obtain ⟨rfl, rest⟩ := coherent
  cases completion with
  | some w => exact Sound.unchanged (.resolve _) ⟨rfl, rest⟩ false none
  | none =>
    obtain ⟨rfl, hasInflight, hasPermit⟩ : callback = origin ∧ inflight.isSome ∧
        permit.isSome = origin.isSome := by simpa using rest
    obtain ⟨p, rfl⟩ := Option.isSome_iff_exists.mp hasInflight
    cases callback with
    | none =>
      obtain rfl : permit = none := by simpa using hasPermit
      constructor <;> cases active <;> simp
    | some callback =>
      obtain ⟨q, rfl⟩ : ∃ q, permit = some q := Option.isSome_iff_exists.mp (by simpa using hasPermit)
      constructor <;> cases active <;> simp [CallbackJob.new]
      exact ⟨rfl, rfl, rfl, c, rfl, rfl⟩

theorem ResolveState.activateCallback_sound (coherent : s.Coherent winner origin) :
    Sound self winner origin (.resolve s) ((Op.resolve s).activateCallback self) := by
  obtain ⟨id, completion, callback, active, inflight, permit⟩ := s
  obtain ⟨rfl, rest⟩ := coherent
  cases completion with
  | none => constructor <;> simp_all
  | some w =>
    cases callback with
    | none => constructor <;> simp_all
    | some callback =>
      obtain ⟨rfl, rfl, hasInflight, hasPermit⟩ := by simpa using rest
      obtain ⟨p, rfl⟩ := Option.isSome_iff_exists.mp hasInflight
      obtain ⟨q, rfl⟩ := Option.isSome_iff_exists.mp hasPermit
      constructor <;> simp [CallbackJob.new]
      exact ⟨rfl, rfl, rfl, w, rfl, rfl⟩

end Resolve


/-! ## TCP and TLS connects -/

/-- `Sound` for a section on the common part of a connect. The reservations of a pending record stay. -/
structure ConnectSound (ref : Nat) (winner : Option Done) (origin : Option Callback)
    (before : ConnectState) (result : ConnectState × Effect) : Prop where
  coherent : result.1.Coherent winner origin
  calm : result.2.panicked = false
  job : ∀ job ∈ result.2.job, job.Reports ref before.id winner origin
  permits : ∀ k, held k before.permits =
    held k result.1.permits + held k (jobPermits result.2.job) + held k result.2.dropped
  pending : result.1.terminal = false → before.terminal = false ∧
    result.1.occupancyPermit = before.occupancyPermit ∧
    result.1.queuedBytesPermit = before.queuedBytesPermit ∧
    result.1.metricBytesPermit = before.metricBytesPermit
  empty : before.reservations = [] → result.1.reservations = []

section Connect

variable {self : Nat} {winner : Option Done} {origin : Option Callback}

theorem ConnectSound.connect {s : ConnectState} {result : ConnectState × Effect}
    (sound : ConnectSound self winner origin s result) (reserved : s.terminal = false → s.Reserved) :
    Sound self winner origin (.connect s) (.connect result.1, result.2) where
  coherent := by
    refine ⟨sound.coherent, fun pending => ?_⟩
    obtain ⟨before, occupancy, queued, metric⟩ := sound.pending pending
    simpa [ConnectState.Reserved, occupancy, queued, metric] using reserved before
  calm := sound.calm
  job := sound.job
  permits := sound.permits

theorem ConnectSound.tls {s : TlsConnectState} {result : ConnectState × Effect}
    (sound : ConnectSound self winner origin s.toConnectState result)
    (reserved : s.terminal = false → s.Reserved ∧ s.upgrade = false ∨ s.Unreserved)
    (upgrade : s.upgrade = true → s.reservations = []) :
    Sound self winner origin (.tls s) (.tls { s with toConnectState := result.1 }, result.2) where
  coherent := by
    refine ⟨sound.coherent, fun pending => ?_, fun isUpgrade => sound.empty (upgrade isUpgrade)⟩
    obtain ⟨before, occupancy, queued, metric⟩ := sound.pending pending
    simpa [ConnectState.Reserved, ConnectState.Unreserved, occupancy, queued, metric]
      using reserved before
  calm := sound.calm
  job := sound.job
  permits := sound.permits

variable {s : ConnectState}

theorem ConnectState.commit_sound (coherent : s.Coherent winner origin) (count : Bool) (c : Done) :
    ConnectSound self (winner.or (some c)) origin s (s.commit count c) := by
  cases terminal : s.terminal with
  | true =>
    have won : winner.isSome := by
      simp only [ConnectState.Coherent, terminal, if_true] at coherent
      exact coherent.1
    obtain ⟨w, rfl⟩ := Option.isSome_iff_exists.mp won
    constructor <;> simp_all [ConnectState.commit]
  | false =>
    obtain ⟨rfl, noCompletion, notReady, rfl, hasPermit⟩ : winner = none ∧ s.completion = none ∧
        s.deliveryReady = false ∧ s.callback = origin ∧ s.callbackPermit.isSome = origin.isSome := by
      simpa [ConnectState.Coherent, terminal] using coherent
    constructor
    case coherent =>
      cases callback : s.callback <;>
        simp_all [ConnectState.commit, ConnectState.Coherent, ConnectState.reservations]
    case permits =>
      intro k
      simp [ConnectState.commit, terminal, ConnectState.permits, ConnectState.reservations]
      omega
    all_goals simp [ConnectState.commit, terminal, ConnectState.reservations]

/-- Taking the job of a terminal record that is active or published now. -/
theorem ConnectState.takeTerminalJob_sound {active ready : Bool} (coherent : s.Coherent winner origin)
    (terminal : s.terminal = true) (isActive : s.callbackActive = true → active = true)
    (isReady : s.deliveryReady = true → ready = true) :
    ConnectSound self winner origin s
      (ConnectState.takeTerminalJob self { s with callbackActive := active, deliveryReady := ready }) := by
  simp only [ConnectState.Coherent, terminal, if_true] at coherent
  obtain ⟨won, completion, empty, rest⟩ := coherent
  obtain ⟨w, rfl⟩ := Option.isSome_iff_exists.mp won
  unfold ConnectState.takeTerminalJob
  split
  · next idle =>
    refine ⟨?_, rfl, by simp, fun _ => rfl, by simp [terminal], fun _ => empty⟩
    cases here : s.callback <;> simp_all [ConnectState.Coherent, ConnectState.reservations]
  cases here : s.callback with
  | none =>
    refine ⟨?_, rfl, by simp, fun _ => rfl, by simp [terminal], fun _ => empty⟩
    simp_all [ConnectState.Coherent, ConnectState.reservations]
  | some callback =>
    rw [here] at rest
    obtain ⟨rfl, isWinner, hasPermit, -⟩ := rest
    obtain ⟨permit, isPermit⟩ := Option.isSome_iff_exists.mp hasPermit
    simp only [isWinner, isPermit]
    constructor
    case job =>
      intro job taken
      obtain rfl := by simpa using taken
      exact ⟨rfl, rfl, rfl, w, rfl, rfl⟩
    case permits =>
      intro k
      simp only [ConnectState.permits, isPermit, CallbackJob.new, ConnectState.reservations, held_append,
        jobPermits_some, Option.toList, held_nil]
      omega
    case empty => exact fun _ => empty
    case coherent =>
      simp_all [ConnectState.Coherent, ConnectState.reservations]
    all_goals simp_all

theorem ConnectState.publishTerminal_sound (coherent : s.Coherent winner origin)
    (terminal : s.terminal = true) : ConnectSound self winner origin s (s.publishTerminal self) :=
  ConnectState.takeTerminalJob_sound coherent terminal (fun active => active) fun _ => rfl

theorem ConnectState.activateCallback_sound (coherent : s.Coherent winner origin) :
    ConnectSound self winner origin s (s.activateCallback self) := by
  cases terminal : s.terminal with
  | false =>
    simp only [ConnectState.Coherent, terminal] at coherent
    have idle : s.activateCallback self = ({ s with callbackActive := true }, {}) := by
      simp [ConnectState.activateCallback, ConnectState.takeTerminalJob, coherent.2.2.1]
    rw [idle]
    constructor <;> simp_all [ConnectState.Coherent, ConnectState.permits, ConnectState.reservations]
  | true => exact ConnectState.takeTerminalJob_sound coherent terminal (fun _ => rfl) fun ready => ready

end Connect


/-! ## Streamed responses -/

/-- A section on a streamed response: it commits only on a response that is not terminal, and an outcome it
shows the reader is the terminal one. -/
structure StreamStep (pair : ResponsePair) (result : ResponsePair × Option Done × Option Done) : Prop where
  fresh : result.2.1.isSome → pair.state.terminal = none
  terminal : result.1.state.terminal = result.2.1.or pair.state.terminal
  observed : ∀ completion ∈ result.2.2, pair.state.terminal = some completion ∨
    (pair.reader.eofReached = true ∧ completion = .completed .body)
  eof : result.1.reader.eofReached = true → pair.reader.eofReached = true ∨
    result.1.state.terminal = some (.completed .body)

theorem sinkSection_step (width : PointerWidth) (sinkOp : SinkOp) (pair : ResponsePair) :
    StreamStep pair (Shared.sinkSection width sinkOp pair) := by
  cases sinkOp with
  | publishHead head noBody =>
    simp only [Shared.sinkSection, ResponsePair.publishHead]
    split
    · constructor <;> simp_all
    · next free =>
      have pending : pair.state.terminal = none := by simp_all
      cases noBody <;> constructor <;> simp_all
  | push chunk =>
    simp only [Shared.sinkSection]
    split
    · next pushed ok =>
      have kept : pushed.state.terminal = pair.state.terminal ∧ pushed.reader = pair.reader := by
        unfold ResponsePair.tryPush at ok
        repeat' split at ok
        all_goals cases ok
        all_goals exact ⟨rfl, rfl⟩
      constructor <;> simp_all
    · constructor <;> simp_all
  | commit completion =>
    simp only [Shared.sinkSection, ResponsePair.sinkCommit]
    split
    · constructor <;> simp_all
    · constructor <;> simp_all
  | drop =>
    simp only [Shared.sinkSection, ResponsePair.sinkDrop, ResponsePair.sinkCommit]
    split
    · constructor <;> simp_all
    · split <;> constructor <;> simp_all

section Reads

attribute [local simp] ResponsePair.observed Except.map

theorem tryHead_step (pair : ResponsePair) :
    StreamStep pair (pair.tryHead.1, none,
      ResponsePair.observed (pair.tryHead.2.map fun _ => .pending)) := by
  unfold ResponsePair.tryHead
  split
  · constructor <;> simp_all
  split
  · next head terminal _ isTerminal =>
    constructor <;> simp_all
    grind
  · next terminal _ isTerminal =>
    cases terminal <;> constructor <;> simp_all [ResponsePair.terminalErrorWithoutHead]
  · constructor <;> simp_all

theorem readCurrent_step (pair : ResponsePair) (queue : List Bytes) (chunk : Bytes)
    (offset space : Nat) :
    StreamStep pair ((pair.readCurrent queue chunk offset space).1, none,
      ResponsePair.observed (pair.readCurrent queue chunk offset space).2) := by
  constructor <;> simp [ResponsePair.readCurrent]
  grind

theorem readBody_step (pair : ResponsePair) (space : Nat) :
    StreamStep pair ((pair.readBody space).1, none,
      ResponsePair.observed (pair.readBody space).2) := by
  unfold ResponsePair.readBody
  split
  · constructor <;> simp_all
  split
  · constructor <;> simp_all
  split
  · constructor <;> simp_all
  · constructor <;> simp_all
  split
  · exact readCurrent_step ..
  · exact readCurrent_step ..
  · split <;> constructor <;> simp_all

end Reads

theorem readerDrop_step (pair : ResponsePair) : StreamStep pair (pair.readerDrop, none, none) :=
  ⟨by simp, by simp [ResponsePair.readerDrop], by simp, .inl⟩

/-! ## Operations of any kind -/

section Any

variable {ref : Nat} {winner : Option Done} {origin : Option Callback} {op : Op}

attribute [local simp] Op.commit Op.isTerminal Op.family RequestState.commit ResolveState.commit ConnectState.commit
  ResponsePair.controlCommit

theorem Op.commit_sound (coherent : op.Coherent winner origin) (c : Done) :
    Sound ref (winner.or (some c)) origin op (op.commit ref c) := by
  cases op with
  | request s => exact RequestState.commit_sound coherent c
  | resolve s => exact ResolveState.commit_sound coherent c
  | connect s => exact (ConnectState.commit_sound coherent.1 true c).connect coherent.2
  | tls s => exact (ConnectState.commit_sound coherent.1 _ c).tls coherent.2.1 coherent.2.2
  | stream s =>
    obtain ⟨rfl, rfl, eof⟩ := coherent
    cases terminal : s.response.state.terminal with
    | none =>
      constructor <;>
        simp_all [Op.Coherent, StreamRequestState.Coherent, Op.permits, StreamRequestState.permitList, Op.id]
    | some w =>
      have idle : (Op.stream s).commit ref c = (.stream s, {}) := by simp [terminal]
      rw [idle]
      exact Sound.unchanged (.stream s) ⟨terminal, rfl, terminal ▸ eof⟩ false none

theorem Op.activateCallback_sound (coherent : op.Coherent winner origin) :
    Sound ref winner origin op (op.activateCallback ref) := by
  cases op with
  | request s => exact RequestState.activateCallback_sound coherent
  | resolve s => exact ResolveState.activateCallback_sound coherent
  | connect s => exact (ConnectState.activateCallback_sound coherent.1).connect coherent.2
  | tls s => exact (ConnectState.activateCallback_sound coherent.1).tls coherent.2.1 coherent.2.2
  | stream s => exact Sound.unchanged _ coherent false none

theorem Op.publishTerminal_sound (coherent : op.Coherent winner origin)
    (terminal : op.isTerminal = true) : Sound ref winner origin op (op.publishTerminal ref) := by
  cases op with
  | request s | resolve s | stream s => exact Sound.unchanged _ coherent false none
  | connect s => exact (ConnectState.publishTerminal_sound coherent.1 terminal).connect coherent.2
  | tls s =>
    exact (ConnectState.publishTerminal_sound coherent.1 terminal).tls coherent.2.1 coherent.2.2

/-- A commit wins exactly when the record is not terminal, and then counts one outcome of its family. -/
theorem Op.commit_won (c : Done) : (op.commit ref c).2.won = !op.isTerminal ∧
    (op.commit ref c).2.counted =
      if op.isTerminal then none else op.family.map fun family => (family, c.outcome) := by
  cases op with
  | request s =>
    cases terminal : s.terminal <;> simp [terminal]
    split <;> simp
  | resolve s =>
    cases terminal : s.completion <;> simp [terminal]
    split <;> simp
  | connect s => cases terminal : s.terminal <;> simp [terminal]
  | tls s => cases terminal : s.terminal <;> cases upgrade : s.upgrade <;> simp [terminal, upgrade]
  | stream s => cases terminal : s.response.state.terminal <;> simp [terminal]

/-- A commit on a terminal record changes nothing at all. -/
theorem Op.commit_of_isTerminal (terminal : op.isTerminal = true) (c : Done) :
    op.commit ref c = (op, {}) := by
  cases op <;> simp_all

theorem Op.commit_isTerminal (c : Done) : (op.commit ref c).1.isTerminal = true := by
  cases op with
  | request s =>
    cases terminal : s.terminal <;> simp [RequestState.takeTerminalJob, terminal]
    grind
  | resolve s =>
    cases terminal : s.completion <;> simp [ResolveState.takeTerminalJob, terminal]
    grind
  | connect s | tls s => cases terminal : s.terminal <;> simp [terminal]
  | stream s => cases terminal : s.response.state.terminal <;> simp [terminal]

end Any

end NbReq
