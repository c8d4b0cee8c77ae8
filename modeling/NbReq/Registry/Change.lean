import NbReq.Registry.Coherence

/-!
# How an operation's entry changes

Every critical section of the engine changes an entry of the operation heap in one of the ways of `OpChange`.
All of them keep a coherent entry coherent, keep its identity, and never take back a winner. The sections of
the model are matched against this list once, in the step lemma of the engine; every invariant about
operations follows from the list.
-/

namespace NbReq

/-- No DNS share is borrowed by the record, or it is terminal. -/
def Op.DnsReleased : Op → Prop
  | .connect s => s.terminal = true ∨ s.dnsBorrow = none
  | .tls s => s.terminal = true ∨ s.dnsBorrow = none
  | _ => True

def ConnectState.connected (s : ConnectState) (completion : Done) : ConnectState :=
  { s with occupancyPermit := none, queuedBytesPermit := none, metricBytesPermit := none,
           terminal := true, completion := some completion, deliveryReady := true }

def TlsConnectState.transportTaken (s : TlsConnectState) : TlsConnectState :=
  { s with occupancyPermit := none, queuedBytesPermit := none, metricBytesPermit := none }

inductive OpChange : OpEntry → OpEntry → Prop
  | commit {entry : OpEntry} (ref : Nat) (completion : Done) :
      OpChange entry { entry with op := (entry.op.commit ref completion).1,
                                  attempts := entry.attempts ++ [completion] }
  | activate {entry : OpEntry} (ref : Nat) :
      OpChange entry { entry with op := (entry.op.activateCallback ref).1 }
  | publish {entry : OpEntry} (ref : Nat) (terminal : entry.op.isTerminal = true) :
      OpChange entry { entry with op := (entry.op.publishTerminal ref).1 }
  | waiter {entry : OpEntry} (noCallback : entry.origin = none) :
      OpChange entry { entry with op := entry.op.tryCompletion.1,
                                  received := entry.received ++ entry.op.tryCompletion.2.toList }
  | deliver {entry : OpEntry} {completion : Done} (won : entry.winner = some completion) :
      OpChange entry { entry with received := entry.received ++ [completion] }
  | stream {s : StreamRequestState} {origin : Option Callback} {attempts received : List Done}
      {result : ResponsePair × Option Done × Option Done} (step : StreamStep s.response result) :
      OpChange ⟨.stream s, origin, attempts, received⟩
        ⟨.stream { s with response := result.1 }, origin, attempts ++ result.2.1.toList,
          received ++ result.2.2.toList⟩
  | streamPermits {s : StreamRequestState} {origin : Option Callback} {attempts received : List Done} :
      OpChange ⟨.stream s, origin, attempts, received⟩
        ⟨.stream s.releasePermits.1, origin, attempts, received⟩
  | connectDns {s : ConnectState} {origin : Option Callback} {attempts received : List Done} :
      OpChange ⟨.connect s, origin, attempts, received⟩
        ⟨.connect s.releaseDnsBorrow.1, origin, attempts, received⟩
  | tlsDns {s : TlsConnectState} {origin : Option Callback} {attempts received : List Done} :
      OpChange ⟨.tls s, origin, attempts, received⟩
        ⟨.tls { s with toConnectState := s.toConnectState.releaseDnsBorrow.1 }, origin, attempts,
          received⟩
  | connected {s : ConnectState} {origin : Option Callback} {attempts received : List Done} (ref io : Nat)
      (pending : s.terminal = false) (dns : s.dnsBorrow = none) :
      OpChange ⟨.connect s, origin, attempts, received⟩
        ⟨.connect ((s.connected (.completed (.session io))).takeTerminalJob ref).1, origin,
          attempts ++ [.completed (.session io)], received⟩
  | transport {s : TlsConnectState} {origin : Option Callback} {attempts received : List Done}
      (pending : s.terminal = false) (connect : s.upgrade = false) :
      OpChange ⟨.tls s, origin, attempts, received⟩
        ⟨.tls s.transportTaken, origin, attempts, received⟩

structure OpEntry.Fresh (entry : OpEntry) : Prop where
  coherent : entry.Coherent
  attempts : entry.attempts = []

/-! ## Connected transports -/

section Connected

variable {ref : Nat} {winner : Option Done} {origin : Option Callback} {s : ConnectState}

theorem ConnectState.connected_sound (coherent : s.Coherent winner origin) (pending : s.terminal = false)
    (dns : s.dnsBorrow = none) (completion : Done) :
    ConnectSound ref (some completion) origin (s.connected completion)
      ((s.connected completion).takeTerminalJob ref) := by
  obtain ⟨rfl, noCompletion, notReady, rfl, hasPermit⟩ : winner = none ∧ s.completion = none ∧
      s.deliveryReady = false ∧ s.callback = origin ∧ s.callbackPermit.isSome = origin.isSome := by
    simpa [ConnectState.Coherent, pending] using coherent
  have before : ConnectState.Coherent (some completion) s.callback
      { s.connected completion with deliveryReady := false } := by
    cases here : s.callback <;> simp_all [ConnectState.connected, ConnectState.Coherent, ConnectState.reservations]
  have taken : ConnectSound ref _ _ _ ((s.connected completion).takeTerminalJob ref) :=
    ConnectState.takeTerminalJob_sound before rfl (fun active => active) fun _ => rfl
  exact ⟨taken.coherent, taken.calm, taken.job, taken.permits, taken.pending, taken.empty⟩

end Connected

/-! ## Every change keeps an entry coherent -/

/-- An entry whose record came out of a section on it. -/
theorem OpEntry.Coherent.of_sound {ref : Nat} {entry : OpEntry} {result : Op × Effect}
    {attempts : List Done} (coherent : entry.Coherent)
    (sound : Sound ref (entry.attempts ++ attempts).head? entry.origin entry.op result) :
    OpEntry.Coherent
      { entry with op := result.1, attempts := entry.attempts ++ attempts } where
  op := sound.coherent
  received := by
    intro completion mem
    have won := coherent.received completion mem
    simp only [OpEntry.winner] at won ⊢
    rw [List.head?_append, won]
    rfl

theorem head?_append_singleton {α : Type} (xs : List α) (x : α) :
    (xs ++ [x]).head? = xs.head?.or (some x) := by
  rw [List.head?_append]
  rfl

theorem Op.tryCompletion_coherent {winner : Option Done} {op : Op}
    (coherent : op.Coherent winner none) :
    op.tryCompletion.1.Coherent winner none ∧
      ∀ completion ∈ op.tryCompletion.2, winner = some completion := by
  cases op with
  | request s =>
    obtain ⟨id, completion, terminal, callback, active, inflight, permit⟩ := s
    cases terminal <;> cases callback <;>
      simp_all [Op.tryCompletion, RequestState.tryCompletion, Op.Coherent, RequestState.Coherent]
  | resolve s => exact ⟨coherent, fun completion seen => by rw [← coherent.1]; exact seen⟩
  | connect s | tls s =>
    obtain ⟨rest, reserved⟩ := coherent
    cases terminal : s.terminal <;> cases ready : s.deliveryReady <;> cases callback : s.callback <;>
      simp_all [Op.tryCompletion, ConnectState.tryCompletion, Op.Coherent, ConnectState.Coherent,
        ConnectState.reservations]
  | stream s => exact ⟨coherent, by simp [Op.tryCompletion]⟩

theorem OpChange.coherent {entry entry' : OpEntry} (change : OpChange entry entry')
    (coherent : entry.Coherent) : entry'.Coherent := by
  cases change with
  | commit ref completion =>
    apply coherent.of_sound
    rw [head?_append_singleton]
    exact Op.commit_sound coherent.op completion
  | activate ref => exact ⟨(Op.activateCallback_sound coherent.op).coherent, coherent.received⟩
  | publish ref terminal => exact ⟨(Op.publishTerminal_sound coherent.op terminal).coherent, coherent.received⟩
  | waiter noCallback =>
    have op := coherent.op
    rw [noCallback] at op
    obtain ⟨kept, seen⟩ := Op.tryCompletion_coherent op
    refine ⟨by rw [noCallback]; exact kept, ?_⟩
    intro completion mem
    rcases List.mem_append.mp mem with old | new
    · exact coherent.received completion old
    · exact seen completion (by simpa using new)
  | deliver won =>
    refine ⟨coherent.op, ?_⟩
    intro completion mem
    rcases List.mem_append.mp mem with old | new
    · exact coherent.received completion old
    · rw [List.mem_singleton.mp new]
      exact won
  | @stream s origin attempts received result step =>
    obtain ⟨⟨isWinner, noCallback, eof⟩, receivedWinner⟩ := coherent
    obtain ⟨pair, committed, observed⟩ := result
    -- A commit only happens on a response without a terminal state, hence without earlier attempts.
    have winner' : (attempts ++ committed.toList).head? = committed.or attempts.head? := by
      cases committed with
      | none => simp
      | some c =>
        have fresh : attempts = [] := by
          have := isWinner.symm.trans (step.fresh rfl)
          simpa [OpEntry.winner] using this
        simp [fresh]
    refine ⟨⟨?_, noCallback, ?_⟩, ?_⟩
    · rw [step.terminal, isWinner]
      exact winner'.symm
    · intro known
      simp only [OpEntry.winner] at eof isWinner ⊢
      rw [winner']
      rcases step.eof known with before | after
      · have won := eof before
        have none : committed = none := by
          cases committed with
          | none => rfl
          | some c =>
            have := isWinner.symm.trans (step.fresh rfl)
            simp [won] at this
        simpa [none] using won
      · rw [step.terminal, isWinner] at after
        exact after
    · intro completion mem
      simp only [OpEntry.winner] at eof isWinner receivedWinner ⊢
      rw [List.head?_append]
      rcases List.mem_append.mp mem with old | new
      · rw [receivedWinner completion old]
        rfl
      have won : attempts.head? = some completion := by
        rcases step.observed completion (by simpa using new) with isTerminal | ⟨known, rfl⟩
        · rw [← isWinner, isTerminal]
        · exact eof known
      rw [won]
      rfl
  | streamPermits => exact ⟨coherent.op, coherent.received⟩
  | @connectDns s _ _ _ =>
    obtain ⟨⟨rest, reserved⟩, received⟩ := coherent
    refine ⟨?_, received⟩
    cases terminal : s.terminal <;>
      simp_all [ConnectState.releaseDnsBorrow, Op.Coherent, ConnectState.Coherent, OpEntry.winner,
        ConnectState.Reserved]
  | @tlsDns s _ _ _ =>
    obtain ⟨⟨rest, reserved, upgrade⟩, received⟩ := coherent
    refine ⟨?_, received⟩
    cases terminal : s.terminal <;>
      simp_all [ConnectState.releaseDnsBorrow, Op.Coherent, ConnectState.Coherent, OpEntry.winner,
        ConnectState.Reserved, ConnectState.Unreserved, ConnectState.reservations]
  | @connected s origin attempts received ref io pending dns =>
    obtain ⟨⟨rest, reserved⟩, receivedWinner⟩ := coherent
    have fresh : attempts = [] := by
      have := rest
      simp only [ConnectState.Coherent, pending, OpEntry.winner] at this
      simpa using this.1
    subst fresh
    have sound : ConnectSound ref (some (.completed (.session io))) origin _ _ :=
      ConnectState.connected_sound rest pending dns _
    refine ⟨⟨sound.coherent, fun stillPending => ?_⟩, fun completion mem => ?_⟩
    · exact absurd (sound.pending stillPending).1 (by simp [ConnectState.connected])
    · simpa [OpEntry.winner] using receivedWinner completion mem
  | @transport s origin attempts received pending connect =>
    obtain ⟨⟨rest, reserved, upgrade⟩, receivedWinner⟩ := coherent
    refine ⟨⟨?_, fun _ => .inr ⟨rfl, rfl, rfl⟩, ?_⟩, receivedWinner⟩
    · simp_all [TlsConnectState.transportTaken, ConnectState.Coherent, OpEntry.winner]
    · simp [TlsConnectState.transportTaken, connect]

/-! ## What every change keeps -/

section Keeps

theorem RequestState.takeTerminalJob_frame (ref : Nat) (s : RequestState) :
    (s.takeTerminalJob ref).1.id = s.id ∧ (s.takeTerminalJob ref).2.counted = none := by
  unfold takeTerminalJob
  repeat' split
  all_goals exact ⟨rfl, rfl⟩

theorem ResolveState.takeTerminalJob_frame (ref : Nat) (s : ResolveState) :
    (s.takeTerminalJob ref).1.id = s.id ∧ (s.takeTerminalJob ref).2.counted = none := by
  unfold takeTerminalJob
  repeat' split
  all_goals exact ⟨rfl, rfl⟩

theorem ConnectState.takeTerminalJob_frame (ref : Nat) (s : ConnectState) :
    (s.takeTerminalJob ref).1.terminal = s.terminal ∧ (s.takeTerminalJob ref).1.id = s.id ∧
      (s.takeTerminalJob ref).1.dnsBorrow = s.dnsBorrow ∧
      (s.takeTerminalJob ref).1.occupancyPermit = s.occupancyPermit ∧ (s.takeTerminalJob ref).2.counted = none := by
  unfold takeTerminalJob
  repeat' split
  all_goals exact ⟨rfl, rfl, rfl, rfl, rfl⟩

attribute [local simp] RequestState.takeTerminalJob_frame ResolveState.takeTerminalJob_frame
  ConnectState.takeTerminalJob_frame RequestState.activateCallback ResolveState.activateCallback
  ConnectState.activateCallback ConnectState.publishTerminal Op.activateCallback Op.publishTerminal

def Op.identity (op : Op) : RequestId × OpKind × Option Family := (op.id, op.kind, op.family)

section Identity

attribute [local simp] Op.identity Op.id Op.kind Op.family

theorem Op.commit_identity (ref : Nat) (op : Op) (c : Done) :
    (op.commit ref c).1.identity = op.identity := by
  cases op with
  | request s =>
    simp only [Op.commit, RequestState.commit]
    repeat' split
    all_goals simp
  | resolve s =>
    simp only [Op.commit, ResolveState.commit]
    repeat' split
    all_goals simp
  | connect s | tls s =>
    simp only [Op.commit, ConnectState.commit]
    split <;> rfl
  | stream s => rfl

theorem Op.activateCallback_identity (ref : Nat) (op : Op) :
    (op.activateCallback ref).1.identity = op.identity := by
  cases op <;> simp

theorem Op.publishTerminal_identity (ref : Nat) (op : Op) :
    (op.publishTerminal ref).1.identity = op.identity := by
  cases op <;> simp

theorem Op.tryCompletion_identity (op : Op) : op.tryCompletion.1.identity = op.identity := by
  cases op with
  | connect s | tls s =>
    simp only [Op.tryCompletion, ConnectState.tryCompletion]
    split <;> rfl
  | _ => rfl

variable {entry entry' : OpEntry}

theorem OpChange.identity (change : OpChange entry entry') : entry'.op.identity = entry.op.identity := by
  cases change with
  | commit ref completion => exact Op.commit_identity ref _ completion
  | activate ref => exact Op.activateCallback_identity ref _
  | publish ref _ => exact Op.publishTerminal_identity ref _
  | waiter _ => exact Op.tryCompletion_identity _
  | connectDns | tlsDns =>
    simp only [ConnectState.releaseDnsBorrow]
    split <;> rfl
  | connected ref io _ _ => simp [ConnectState.connected]
  | deliver _ | stream _ | streamPermits | transport _ _ => rfl

end Identity

variable {entry entry' : OpEntry}

theorem OpChange.origin (change : OpChange entry entry') : entry'.origin = entry.origin := by
  cases change <;> rfl

theorem OpChange.attempts (change : OpChange entry entry') : ∃ more, entry'.attempts = entry.attempts ++ more := by
  cases change
  all_goals first
    | exact ⟨_, rfl⟩
    | exact ⟨[], (List.append_nil _).symm⟩

/-- A DNS share that has left the record of a connect does not come back. -/
theorem OpChange.released (change : OpChange entry entry') (released : entry.op.DnsReleased) :
    entry'.op.DnsReleased := by
  revert released
  cases change with
  | @commit entry ref completion =>
    cases entry.op <;> simp only [Op.DnsReleased, Op.commit, ConnectState.commit, imp_self]
    all_goals split <;> simp_all
  | @activate entry ref | @publish entry ref _ => cases entry.op <;> simp [Op.DnsReleased]
  | @waiter entry _ =>
    cases entry.op <;> simp only [Op.DnsReleased, Op.tryCompletion, ConnectState.tryCompletion, imp_self]
    all_goals split <;> simp_all
  | @connectDns s _ _ _ | @tlsDns s _ _ _ =>
    cases terminal : s.terminal <;> simp [Op.DnsReleased, ConnectState.releaseDnsBorrow, terminal]
  | connected ref io pending dns => simp [Op.DnsReleased, ConnectState.connected]
  | deliver _ | stream _ | streamPermits | transport _ _ => exact id

/-- The facts about an entry that no sequence of changes undoes. -/
structure OpEntry.Later (entry entry' : OpEntry) : Prop where
  coherent : entry'.Coherent
  dnsReleased : entry.op.DnsReleased → entry'.op.DnsReleased
  identity : entry'.op.identity = entry.op.identity
  origin : entry'.origin = entry.origin
  attempts : ∃ more, entry'.attempts = entry.attempts ++ more

theorem OpEntry.Coherent.later (coherent : entry.Coherent)
    (changes : Relation.ReflTransGen OpChange entry entry') : entry.Later entry' := by
  induction changes with
  | refl =>
    exact ⟨coherent, id, rfl, rfl, [], (List.append_nil _).symm⟩
  | tail _ change ih =>
    obtain ⟨more, attempts⟩ := ih.attempts
    obtain ⟨more', attempts'⟩ := change.attempts
    exact ⟨change.coherent ih.coherent, change.released ∘ ih.dnsReleased,
      change.identity.trans ih.identity, change.origin.trans ih.origin,
      more ++ more', by rw [attempts', attempts, List.append_assoc]⟩

theorem OpEntry.Later.winner (later : entry.Later entry') {completion : Done}
    (won : entry.winner = some completion) : entry'.winner = some completion := by
  obtain ⟨more, attempts⟩ := later.attempts
  simp only [OpEntry.winner] at won ⊢
  rw [attempts, List.head?_append, won]
  rfl

theorem OpEntry.Later.isTerminal (later : entry.Later entry') (before : entry.Coherent)
    (terminal : entry.op.isTerminal = true) : entry'.op.isTerminal = true := by
  obtain ⟨more, attempts⟩ := later.attempts
  rw [before.isTerminal_iff] at terminal
  rw [later.coherent.isTerminal_iff, attempts]
  exact fun empty => terminal (List.append_eq_nil_iff.mp empty).1

end Keeps

end NbReq
