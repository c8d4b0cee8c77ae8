import NbReq.Registry.Invariant

/-!
# The sections on one operation

Each critical section of the engine on the record of one operation is a `Section`: it keeps the entry coherent,
loses no permit, and counts the outcome that it settled. The lemmas are named after the source
functions.
-/

namespace NbReq

section Sections

variable {ref : Nat} {entry : OpEntry}

/-! ## Commits -/

/-- A section whose record came out of a sound section on it. -/
theorem Section.of_sound {result : Op × Effect} {attempts : List Done}
    (change : OpChange entry { entry with op := result.1, attempts := entry.attempts ++ attempts })
    (sound : Sound ref (entry.attempts ++ attempts).head? entry.origin entry.op result)
    (counted : result.2.counted =
      entry.settlement { entry with op := result.1, attempts := entry.attempts ++ attempts }) :
    Section ref entry { entry with op := result.1, attempts := entry.attempts ++ attempts } result.2 [] where
  change := change
  calm := sound.calm
  job := sound.job
  permits := by
    intro k
    have := sound.permits k
    simpa using this
  counted := counted

theorem commit_section (coherent : entry.Coherent) (c : Done) :
    Section ref entry
      { entry with op := (entry.op.commit ref c).1, attempts := entry.attempts ++ [c] }
      (entry.op.commit ref c).2 [] := by
  refine Section.of_sound (.commit ref c) ?_ ?_
  · rw [head?_append_singleton]
    exact Op.commit_sound coherent.op c
  rw [(Op.commit_won c).2]
  have terminal := coherent.isTerminal_iff
  cases h : entry.attempts with
  | nil =>
    have pending : entry.op.isTerminal = false := by simpa [h] using terminal
    simp [OpEntry.settlement, OpEntry.winner, h, pending]
  | cons first rest =>
    have isTerminal : entry.op.isTerminal = true := by simpa [h] using terminal
    simp [OpEntry.settlement, OpEntry.winner, h, isTerminal]

/-- A section that attempts no commit. -/
theorem Section.of_sound_same {result : Op × Effect}
    (change : OpChange entry { entry with op := result.1 })
    (sound : Sound ref entry.winner entry.origin entry.op result) (counted : result.2.counted = none) :
    Section ref entry { entry with op := result.1 } result.2 [] := by
  have settled : result.2.counted = entry.settlement { entry with op := result.1 } := by
    rw [counted, OpEntry.settlement]
    simp only [OpEntry.winner]
    cases entry.attempts <;> rfl
  have whole := @Section.of_sound ref entry result []
  simp only [List.append_nil] at whole
  exact whole change sound settled

/-- A section that commits nothing settles nothing. -/
theorem OpEntry.settlement_of_winner_eq {entry' : OpEntry} (same : entry'.winner = entry.winner) :
    entry.settlement entry' = none := by
  rw [settlement, same]
  cases entry.winner <;> rfl

section Flags

attribute [local simp] RequestState.takeTerminalJob_frame ResolveState.takeTerminalJob_frame
  ConnectState.takeTerminalJob_frame RequestState.activateCallback ResolveState.activateCallback
  ConnectState.activateCallback ConnectState.publishTerminal Op.activateCallback Op.publishTerminal

theorem activateCallback_section (coherent : entry.Coherent) :
    Section ref entry { entry with op := (entry.op.activateCallback ref).1 }
      (entry.op.activateCallback ref).2 [] :=
  Section.of_sound_same (.activate ref) (Op.activateCallback_sound coherent.op) (by cases entry.op <;> simp)

theorem publishTerminal_section (coherent : entry.Coherent) (terminal : entry.op.isTerminal = true) :
    Section ref entry { entry with op := (entry.op.publishTerminal ref).1 }
      (entry.op.publishTerminal ref).2 [] :=
  Section.of_sound_same (.publish ref terminal) (Op.publishTerminal_sound coherent.op terminal)
    (by cases entry.op <;> simp)

end Flags

/-! ## Waiters and readers -/

theorem Op.tryCompletion_frame (op : Op) :
    op.tryCompletion.1.permits = op.permits ∧ op.tryCompletion.1.isTerminal = op.isTerminal := by
  cases op with
  | connect s | tls s =>
    cases ready : s.deliveryReady <;>
      simp [Op.tryCompletion, ConnectState.tryCompletion, ready, Op.permits, ConnectState.permits,
        ConnectState.reservations, Op.isTerminal]
  | _ => exact ⟨rfl, rfl⟩

theorem tryCompletion_section (waiter : entry.origin = none) :
    Section ref entry
      { entry with op := entry.op.tryCompletion.1,
                   received := entry.received ++ entry.op.tryCompletion.2.toList } {} [] where
  change := .waiter waiter
  calm := rfl
  job := by simp
  permits := by simp [(Op.tryCompletion_frame entry.op).1]
  counted := (OpEntry.settlement_of_winner_eq rfl).symm

section Stream

variable {s : StreamRequestState} {origin : Option Callback} {attempts received : List Done}

/-- A section on a streamed response counts the outcome that it committed. -/
theorem stream_section {result : ResponsePair × Option Done × Option Done}
    (coherent : OpEntry.Coherent ⟨.stream s, origin, attempts, received⟩)
    (step : StreamStep s.response result) :
    Section ref ⟨.stream s, origin, attempts, received⟩
      ⟨.stream { s with response := result.1 }, origin, attempts ++ result.2.1.toList,
        received ++ result.2.2.toList⟩
      { counted := result.2.1.map fun completion => (.request, completion.outcome) } [] where
  change := .stream step
  calm := rfl
  job := by simp
  permits := by
    intro k
    simp [Op.permits, StreamRequestState.permitList]
  counted := by
    obtain ⟨pair, committed, observed⟩ := result
    cases committed with
    | none => exact (OpEntry.settlement_of_winner_eq (by simp [OpEntry.winner])).symm
    | some completion =>
      have fresh : attempts = [] := by
        have := coherent.op.1.symm.trans (step.fresh rfl)
        simpa [OpEntry.winner] using this
      simp [OpEntry.settlement, OpEntry.winner, fresh, Op.family]

theorem releasePermits_section :
    Section ref ⟨.stream s, origin, attempts, received⟩
      ⟨.stream s.releasePermits.1, origin, attempts, received⟩ { dropped := s.releasePermits.2 } [] where
  change := .streamPermits
  calm := rfl
  job := by simp
  permits := by
    intro k
    simp [Op.permits, StreamRequestState.releasePermits, StreamRequestState.permitList]
  counted := (OpEntry.settlement_of_winner_eq rfl).symm

end Stream

/-! ## Transports -/

section Connect

variable {origin : Option Callback} {attempts received : List Done}

theorem ConnectState.releaseDnsBorrow_permits (s : ConnectState) (k : Counter) :
    held k s.permits = held k s.releaseDnsBorrow.1.permits + held k s.releaseDnsBorrow.2 := by
  unfold releaseDnsBorrow
  split
  · simp
  · simp [ConnectState.permits, ConnectState.reservations]
    omega

theorem ConnectState.releaseDnsBorrow_terminal (s : ConnectState) : s.releaseDnsBorrow.1.terminal = s.terminal := by
  unfold releaseDnsBorrow
  split <;> rfl

theorem connectDns_section {s : ConnectState} :
    Section ref ⟨.connect s, origin, attempts, received⟩
      ⟨.connect s.releaseDnsBorrow.1, origin, attempts, received⟩
      { dropped := s.releaseDnsBorrow.2 } [] where
  change := .connectDns
  calm := rfl
  job := by simp
  permits := by
    intro k
    simpa [Op.permits] using s.releaseDnsBorrow_permits k
  counted := (OpEntry.settlement_of_winner_eq rfl).symm

theorem tlsDns_section {s : TlsConnectState} :
    Section ref ⟨.tls s, origin, attempts, received⟩
      ⟨.tls { s with toConnectState := s.toConnectState.releaseDnsBorrow.1 }, origin, attempts, received⟩
      { dropped := s.toConnectState.releaseDnsBorrow.2 } [] where
  change := .tlsDns
  calm := rfl
  job := by simp
  permits := by
    intro k
    simpa [Op.permits] using s.toConnectState.releaseDnsBorrow_permits k
  counted := (OpEntry.settlement_of_winner_eq rfl).symm

/-- The first section of `complete_tcp_connected`: the outcome is committed and published at once, and the
three reservations leave the record. -/
theorem connected_section {s : ConnectState} {occupancy queued metric : Permit}
    (coherent : OpEntry.Coherent ⟨.connect s, origin, attempts, received⟩) (pending : s.terminal = false)
    (dns : s.dnsBorrow = none) (isOccupancy : s.occupancyPermit = some occupancy)
    (isQueued : s.queuedBytesPermit = some queued) (isMetric : s.metricBytesPermit = some metric) (io : Nat) :
    Section ref ⟨.connect s, origin, attempts, received⟩
      ⟨.connect ((s.connected (.completed (.session io))).takeTerminalJob ref).1, origin,
        attempts ++ [.completed (.session io)], received⟩
      { ((s.connected (.completed (.session io))).takeTerminalJob ref).2 with
        counted := some (.tcpConnect, .completed) }
      [occupancy, queued, metric] := by
  have fresh : attempts = [] := by
    have := coherent.isTerminal_iff
    simpa [Op.isTerminal, pending] using this
  subst fresh
  have sound : ConnectSound ref (some (.completed (.session io))) origin _ _ :=
    ConnectState.connected_sound coherent.op.1 pending dns _
  refine ⟨.connected ref io pending dns, sound.calm, sound.job, fun k => ?_, rfl⟩
  have := sound.permits k
  simp only [ConnectState.connected, ConnectState.permits, ConnectState.reservations, Op.permits, isOccupancy,
    isQueued, isMetric, dns, held_append, Option.toList_some, Option.toList_none, held_nil, held_cons] at this ⊢
  omega

/-- The first section of `complete_tls_transport_connected`. -/
theorem transport_section {s : TlsConnectState} {occupancy queued metric : Permit}
    (pending : s.terminal = false) (connect : s.upgrade = false)
    (isOccupancy : s.occupancyPermit = some occupancy) (isQueued : s.queuedBytesPermit = some queued)
    (isMetric : s.metricBytesPermit = some metric) :
    Section ref ⟨.tls s, origin, attempts, received⟩ ⟨.tls s.transportTaken, origin, attempts, received⟩ {}
      [occupancy, queued, metric] where
  change := .transport pending connect
  calm := rfl
  job := by simp
  permits := by
    intro k
    simp only [Op.permits, TlsConnectState.transportTaken, ConnectState.permits, ConnectState.reservations,
      isOccupancy, isQueued, isMetric, held_append, Option.toList_some, Option.toList_none, held_nil,
      held_cons, jobPermits_none]
    omega
  counted := (OpEntry.settlement_of_winner_eq rfl).symm

end Connect

end Sections

end NbReq
