import NbReq.Registry.SectionMoves

/-!
# Admission as sequences of moves

The six `accept*` functions take permits one after another; on every early return the permits in their locals
are dropped. `submit_moves` is their common tail: the operation is accepted, or the thread drops what it
took, or it keeps it for ever because a destructor locked the core again.
-/

namespace NbReq

open TaskSystem Ledger

variable {sh sh' sh₁ : Shared} {tokens tokens' : Multiset Token}

/-! ## Surroundings -/

/-- Surroundings in which only what no invariant reads has changed. -/
theorem Surroundings.Advances.of_eq {ops : List OpEntry} {s s' : Surroundings}
    (sequence : s'.nextSequence = s.nextSequence) (queue : s'.queue = s.queue) (reactor : s'.reactor = s.reactor) :
    s.Advances ops s' where
  sequence := by omega
  bound := by omega
  queue := by rw [queue]; exact fun _ h => h
  reactor := by rw [reactor]; exact id

theorem surroundings_moves (s : Surroundings) (advances : sh.surroundings.Advances sh.ops s) :
    Moves Move sh tokens (sh.within s) tokens :=
  Moves.one (.surroundings s advances) tokens (zero_add _).symm (zero_add _).symm

theorem body_moves (n : Nat) : Moves Move sh tokens { sh with bodyUsed := n } tokens :=
  surroundings_moves { sh.surroundings with bodyUsed := n } (.of_eq rfl rfl rfl)

theorem admitBody_moves (tokens : Multiset Token) {capacity : Nat} (admitted : sh.admitBody capacity = some sh₁) :
    Moves Move sh tokens sh₁ tokens ∧ ∃ n, sh₁ = { sh with bodyUsed := n } := by
  unfold Shared.admitBody at admitted
  repeat' split at admitted
  all_goals cases admitted
  · exact ⟨.refl, sh.bodyUsed, rfl⟩
  · exact ⟨body_moves _, _, rfl⟩

theorem refundBody_moves (capacity : Nat) : Moves Move sh tokens (sh.refundBody capacity) tokens :=
  body_moves _

/-! ## Permits -/

variable {counter : Counter}

theorem admit_moves (tokens : Multiset Token) {permit : Permit}
    (admitted : sh.acquire counter = some (sh₁, permit)) :
    Moves Move sh tokens sh₁ ({.permit permit} + tokens) ∧
      sh₁ = { sh with counters := sh.counters.charge permit } := by
  obtain ⟨⟨counters, taken⟩, acquired, same⟩ := Option.map_eq_some_iff.mp admitted
  obtain ⟨rfl, rfl⟩ := Prod.mk.inj same
  obtain ⟨isPermit, rfl, room⟩ := Counters.tryAdmit_eq_some acquired
  exact ⟨Moves.one (.acquire taken (by rw [isPermit]; exact room)) tokens (zero_add _).symm rfl, rfl⟩

theorem reserve_moves (tokens : Multiset Token) {bytes : Nat} {permit : Permit}
    (reserved : sh.reserve counter bytes = some (sh₁, permit)) :
    Moves Move sh tokens sh₁ ({.permit permit} + tokens) ∧
      sh₁ = { sh with counters := sh.counters.charge permit } := by
  obtain ⟨⟨counters, taken⟩, acquired, same⟩ := Option.map_eq_some_iff.mp reserved
  obtain ⟨rfl, rfl⟩ := Prod.mk.inj same
  obtain ⟨isPermit, rfl, room⟩ := Counters.tryReserve_eq_some acquired
  exact ⟨Moves.one (.acquire taken (by rw [isPermit]; exact room)) tokens (zero_add _).symm rfl, rfl⟩

theorem admitIf_moves (tokens : Multiset Token) {needed : Bool} {permit : Option Permit}
    (admitted : sh.acquireIf needed counter = some (sh₁, permit)) :
    Moves Move sh tokens sh₁ (permitTokens permit.toList + tokens) ∧
      (∃ counters, sh₁ = { sh with counters := counters }) ∧ permit.isSome = needed := by
  unfold Shared.acquireIf at admitted
  split at admitted
  · next isNeeded =>
    obtain ⟨⟨sh₂, taken⟩, acquired, same⟩ := Option.map_eq_some_iff.mp admitted
    obtain ⟨rfl, rfl⟩ := Prod.mk.inj same
    obtain ⟨moves, rfl⟩ := admit_moves tokens acquired
    exact ⟨by simpa using moves, ⟨_, rfl⟩, isNeeded.symm⟩
  · next notNeeded =>
    obtain ⟨rfl, rfl⟩ := Prod.mk.inj (Option.some.inj admitted)
    exact ⟨by simpa using Moves.refl, ⟨_, rfl⟩, by simpa using notNeeded⟩

/-- An early return drops the permits that were taken. -/
theorem drop_moves {held : Multiset Token} (taken : Moves Move sh tokens sh₁ held) (permits : List Permit)
    (owns : held = permitTokens permits + tokens') :
    Moves Move sh tokens (sh₁.dropPermits permits) tokens' := by
  subst owns
  exact taken.trans (release_moves permits)

variable {owned : Multiset Token}

theorem endow_moves {io : Nat} {session : TcpIo}
    (taken : Moves Move sh tokens sh₁ owned) (session' : TcpIo) (permits : List Permit)
    (owns : owned = permitTokens permits + tokens') (found : sh₁.ios[io]? = some session)
    (coherent : session'.Coherent) (id : session'.id = session.id)
    (keeps : ∀ k, held k session'.permits = held k session.permits + held k permits) :
    Moves Move sh tokens { sh₁ with ios := sh₁.ios.set io session' } tokens' :=
  taken.trans (Moves.one (.endow permits found coherent id keeps) tokens' owns (zero_add _).symm)

/-! ## The common tail -/

/-- What follows a call that ends in `result`. -/
def CallMoves (sh : Shared) (tokens : Multiset Token) (call : Shared × CallResult) (tokens' : Multiset Token) :
    Prop :=
  Moves Move sh tokens call.1 (listTokens Act.tokens (call.1.acceptActs call.2) + tokens')

theorem CallMoves.rejected {error : Error} (moves : Moves Move sh tokens sh' tokens') :
    CallMoves sh tokens (sh', .rejected error) tokens' := by
  simpa [CallMoves, Shared.acceptActs] using moves

theorem CallMoves.panicked (moves : Moves Move sh tokens sh' tokens') :
    CallMoves sh tokens (sh', .panicked) tokens' := by
  simpa [CallMoves, Shared.acceptActs] using moves

theorem CallMoves.stuck (moves : Moves Move sh tokens sh' tokens') :
    CallMoves sh tokens (sh', .stuck) tokens' := by
  simpa [CallMoves, Shared.acceptActs, Act.tokens] using moves

variable {call : Shared × CallResult}

/-- A check that rejects the call before it has taken anything. -/
theorem CallMoves.guard {fails : Prop} [Decidable fails] {error : Error}
    (rest : ¬fails → CallMoves sh tokens call tokens) :
    CallMoves sh tokens (if fails then (sh, .rejected error) else call) tokens := by
  split
  · exact .rejected .refl
  · exact rest ‹_›

/-- A call continues where a sequence of moves has led. -/
theorem CallMoves.after {tokens₁ : Multiset Token}
    (moves : Moves Move sh tokens sh₁ tokens₁) (rest : CallMoves sh₁ tokens₁ call tokens') :
    CallMoves sh tokens call tokens' :=
  Ledger.Moves.trans moves rest

theorem NewIdentity.sequence_moves {op : Op} {next : Nat} (identity : NewIdentity sh op next) :
    Moves Move sh tokens { sh with core := { sh.core with nextSequence := next } } tokens := by
  apply surroundings_moves { sh.surroundings with nextSequence := next }
  cases identity with
  | sequence _ _ room =>
    exact ⟨Nat.le_succ _, Nat.le_trans room (Nat.le_max_right _ _), fun _ h => h, id⟩
  | upgrade _ _ _ => exact .of_eq rfl rfl rfl

theorem submit_moves {op : Op} {next : Nat} {submission : Nat → Submission} {counted : Option Family}
    (owns : owned = permitTokens op.permits) (sane : Sane sh (owned + tokens))
    (free : sh.deadlock = none) (fresh : OpEntry.Fresh { op := op, origin := op.callback })
    (identity : NewIdentity sh op next)
    (submitted : ∀ ref, (submission ref).op = ref ∧ (submission ref).kind = op.kind) :
    CallMoves sh (owned + tokens)
      ({ sh with core := { sh.core with nextSequence := next } }.submit op submission counted) tokens := by
  subst owns
  have unlisted := identity.free sane
  unfold Shared.submit
  simp only
  split
  · refine .after identity.sequence_moves ?_
    have restored : ({ sh.core with nextSequence := next }.insert op.kind op.id sh.ops.length).remove op.kind
        op.id = { sh.core with nextSequence := next } :=
      CoreState.remove_insert _ _ (by rw [CoreState.table_nextSequence]; exact unlisted)
    unfold Shared.withdraw
    simp only [restored]
    split
    · exact .stuck (Moves.one (.hang op.permits free) tokens rfl (zero_add _).symm)
    · exact .rejected (release_moves _)
  · have accepted := Moves.one (.accept op (submission sh.ops.length) counted fresh identity (submitted _)) tokens
      rfl rfl
    have acts : listTokens Act.tokens ((sh.afterAccept op (submission sh.ops.length) counted next).acceptActs
        (.accepted sh.ops.length)) = 0 := by
      simp only [Shared.acceptActs, Shared.afterAccept, List.getElem?_concat_length]
      split <;> rfl
    rw [← acts] at accepted
    exact accepted

/-! ## The accept functions -/

/-- The body of a request that was not accepted is dropped after the core was unlocked. -/
theorem CallMoves.dropBody (capacity : Nat) (moves : CallMoves sh tokens call tokens') :
    CallMoves sh tokens (Shared.dropBodyUnlessAccepted capacity call) tokens' := by
  obtain ⟨sh₁, result⟩ := call
  cases result with
  | accepted ref => exact moves
  | _ => exact Ledger.Moves.trans moves (refundBody_moves capacity)

theorem Sane.room (sane : Sane sh tokens) (notLast : sh.core.nextSequence ≠ u64Max) :
    sh.core.nextSequence < u64Max :=
  Nat.lt_of_le_of_ne sane.identities.bound notLast

variable {callback : Option Callback} {callbackPermit : Option Permit}

theorem fresh_request (id : RequestId) (inflight : Permit) (has : callbackPermit.isSome = callback.isSome) :
    OpEntry.Fresh { op := .request ⟨id, none, false, callback, false, some inflight, callbackPermit⟩
                    origin := callback } :=
  ⟨⟨by simp [Op.Coherent, RequestState.Coherent, OpEntry.winner, has], by simp⟩, rfl⟩

theorem accept_moves (sane : Sane sh tokens) (free : sh.deadlock = none) (request : Request)
    (callback : Option Callback) : CallMoves sh tokens (sh.accept request callback) tokens := by
  unfold Shared.accept
  refine .guard fun _ => .guard fun notLast => ?_
  split
  · exact .rejected .refl
  split
  · exact .rejected .refl
  rename_i sh₁ admittedBody
  obtain ⟨body, n, rfl⟩ := admitBody_moves tokens admittedBody
  split
  · exact .rejected (body.trans (refundBody_moves _))
  rename_i sh₂ inflight admitted
  obtain ⟨first, rfl⟩ := admit_moves tokens admitted
  have taken := body.trans first
  split
  · exact .rejected ((taken.trans (release_moves [inflight])).trans (refundBody_moves _))
  rename_i sh₃ callbackPermit admittedCallback
  obtain ⟨second, ⟨counters, rfl⟩, has⟩ := admitIf_moves ({.permit inflight} + tokens) admittedCallback
  have taken := taken.trans second
  rw [← add_assoc] at taken
  exact .after taken (.dropBody _ (submit_moves (by simp [Op.permits, RequestState.permits, add_comm])
    (Moves.sane taken sane) free (fresh_request _ inflight has) (.sequence rfl rfl (sane.room notLast)) fun ref =>
    ⟨rfl, rfl⟩))

theorem fresh_resolve (id : RequestId) (inflight : Permit) (has : callbackPermit.isSome = callback.isSome) :
    OpEntry.Fresh { op := .resolve ⟨id, none, callback, false, some inflight, callbackPermit⟩
                    origin := callback } :=
  ⟨⟨by simp [Op.Coherent, ResolveState.Coherent, OpEntry.winner, has], by simp⟩, rfl⟩

theorem acceptResolve_moves (sane : Sane sh tokens) (free : sh.deadlock = none) (request : ResolveRequest)
    (callback : Option Callback) (maxResolveResults : Nat) :
    CallMoves sh tokens (sh.acceptResolve request callback maxResolveResults) tokens := by
  unfold Shared.acceptResolve
  refine .guard fun _ => .guard fun _ => .guard fun _ => .guard fun notLast => ?_
  split
  · exact .rejected .refl
  rename_i sh₁ inflight admitted
  obtain ⟨first, rfl⟩ := admit_moves tokens admitted
  split
  · exact .rejected (first.trans (release_moves [inflight]))
  rename_i sh₂ callbackPermit admittedCallback
  obtain ⟨second, ⟨counters, rfl⟩, has⟩ := admitIf_moves ({.permit inflight} + tokens) admittedCallback
  have taken := first.trans second
  rw [← add_assoc] at taken
  exact .after taken (submit_moves (by simp [Op.permits, ResolveState.permits, add_comm]) (Moves.sane taken sane) free
    (fresh_resolve _ inflight has) (.sequence rfl rfl (sane.room notLast)) fun ref => ⟨rfl, rfl⟩)

/-! ## Connects -/

def Shared.ConnectPermits.toList (permits : Shared.ConnectPermits) : List Permit :=
  [permits.occupancy, permits.queued, permits.metric] ++ permits.dns.toList ++ permits.callback.toList

/-- All permits of a connect are taken, or what was taken is dropped. -/
def AdmitsConnect (sh : Shared) (tokens : Multiset Token) (hasCallback : Bool) :
    Except (Shared × CallResult) (Shared × Shared.ConnectPermits) → Prop
  | .error call => CallMoves sh tokens call tokens
  | .ok (sh₁, permits) => Moves Move sh tokens sh₁ (permitTokens permits.toList + tokens) ∧
      (∃ counters, sh₁ = { sh with counters := counters }) ∧ permits.callback.isSome = hasCallback

theorem admitConnect_moves (tokens : Multiset Token) {reserved : Nat} {hostname hasCallback : Bool}
    {queuedError dnsError callbackError : Error}
    {result : Except (Shared × CallResult) (Shared × Shared.ConnectPermits)}
    (isResult : sh.admitConnect reserved hostname hasCallback queuedError dnsError callbackError = result) :
    AdmitsConnect sh tokens hasCallback result := by
  subst isResult
  unfold Shared.admitConnect
  cases admitted : sh.acquire .tcpConnections with
  | none => exact .rejected .refl
  | some pair =>
  obtain ⟨sh₁, occupancy⟩ := pair
  obtain ⟨first, rfl⟩ := admit_moves tokens admitted
  simp only
  cases reservedQueue : Shared.reserve _ .queuedBytes reserved with
  | none => exact .rejected (first.trans (release_moves [occupancy]))
  | some pair =>
  obtain ⟨sh₂, queued⟩ := pair
  obtain ⟨second, rfl⟩ := reserve_moves ({.permit occupancy} + tokens) reservedQueue
  have taken := first.trans second
  simp only
  cases reservedMetric : Shared.reserve _ .tcpQueuedBytes reserved with
  | none =>
    exact .panicked (drop_moves taken [queued, occupancy]
      (by simp only [permitTokens_cons, permitTokens_nil, add_zero, add_assoc]))
  | some pair =>
  obtain ⟨sh₃, metric⟩ := pair
  obtain ⟨third, rfl⟩ := reserve_moves _ reservedMetric
  have taken := taken.trans third
  simp only
  cases admittedDns : Shared.acquireIf _ hostname .resolutionInflight with
  | none =>
    exact .rejected (drop_moves taken [metric, queued, occupancy]
      (by simp only [permitTokens_cons, permitTokens_nil, add_zero, add_assoc]))
  | some pair =>
  obtain ⟨sh₄, dns⟩ := pair
  obtain ⟨fourth, ⟨counters, rfl⟩, -⟩ := admitIf_moves _ admittedDns
  have taken := taken.trans fourth
  simp only
  cases admittedCallback : Shared.acquireIf _ hasCallback .callbackInflight with
  | none =>
    exact .rejected (drop_moves taken (dns.toList ++ [metric, queued, occupancy])
      (by simp only [permitTokens_append, permitTokens_cons, permitTokens_nil, add_zero, add_assoc]))
  | some pair =>
  obtain ⟨sh₅, callback⟩ := pair
  obtain ⟨fifth, ⟨counters, rfl⟩, has⟩ := admitIf_moves _ admittedCallback
  refine ⟨?_, ⟨counters, rfl⟩, has⟩
  convert taken.trans fifth using 1
  simp only [Shared.ConnectPermits.toList, permitTokens_append, permitTokens_cons, permitTokens_nil, add_zero]
  ac_rfl

theorem connectState_permits (id : RequestId) (sendWindow receiveWindow : Nat) (callback : Option Callback)
    (permits : Shared.ConnectPermits) :
    (Shared.connectState id sendWindow receiveWindow callback permits).permits = permits.toList := by
  simp [Shared.connectState, ConnectState.permits, ConnectState.reservations, Shared.ConnectPermits.toList]

theorem connectState_coherent (id : RequestId) (sendWindow receiveWindow : Nat)
    {permits : Shared.ConnectPermits} (has : permits.callback.isSome = callback.isSome) :
    (Shared.connectState id sendWindow receiveWindow callback permits).Coherent none callback := by
  simp [ConnectState.Coherent, Shared.connectState, has]

theorem connectState_reserved (id : RequestId) (sendWindow receiveWindow : Nat) (callback : Option Callback)
    (permits : Shared.ConnectPermits) :
    (Shared.connectState id sendWindow receiveWindow callback permits).Reserved :=
  ⟨rfl, rfl, rfl⟩

theorem acceptTcpConnect_moves (sane : Sane sh tokens) (free : sh.deadlock = none)
    (request : TcpConnectRequest) (callback : Option Callback) :
    CallMoves sh tokens (sh.acceptTcpConnect request callback) tokens := by
  unfold Shared.acceptTcpConnect
  refine .guard fun _ => .guard fun _ => .guard fun _ => ?_
  split
  · exact .rejected .refl
  refine .guard fun notLast => ?_
  split
  · next call refused => exact admitConnect_moves tokens refused
  rename_i sh₁ permits admitted
  obtain ⟨taken, ⟨counters, rfl⟩, has⟩ := admitConnect_moves tokens admitted
  exact .after taken (submit_moves (by rw [Op.permits, connectState_permits]) (Moves.sane taken sane) free
    ⟨⟨⟨connectState_coherent _ _ _ has, fun _ => connectState_reserved _ _ _ _ _⟩, by simp⟩, rfl⟩
    (.sequence rfl rfl (sane.room notLast)) fun ref => ⟨rfl, rfl⟩)

theorem acceptTlsConnect_moves (sane : Sane sh tokens) (free : sh.deadlock = none)
    (request : TcpConnectRequest) (options : TlsOptions) (clockRoom : Nat) (callback : Option Callback) :
    CallMoves sh tokens (sh.acceptTlsConnect request options clockRoom callback) tokens := by
  unfold Shared.acceptTlsConnect
  split
  · exact .rejected .refl
  refine .guard fun _ => .guard fun _ => .guard fun _ => ?_
  split
  · exact .rejected .refl
  refine .guard fun notLast => ?_
  split
  · next call refused => exact admitConnect_moves tokens refused
  rename_i sh₁ permits admitted
  obtain ⟨taken, ⟨counters, rfl⟩, has⟩ := admitConnect_moves tokens admitted
  exact .after taken (submit_moves (by simp only [Op.permits]; rw [← connectState_permits]) (Moves.sane taken sane)
    free
    ⟨⟨⟨connectState_coherent _ _ _ has, fun _ => .inl ⟨connectState_reserved _ _ _ _ _, rfl⟩, by simp⟩, by simp⟩,
      rfl⟩ (.sequence rfl rfl (sane.room notLast)) fun ref => ⟨rfl, rfl⟩)

/-! ## Upgrades -/

theorem beginUpgrade_ok {session session' : TcpIo} (ok : session.beginUpgrade = .ok session') :
    session' = { session with upgrading := true } := by
  unfold TcpIo.beginUpgrade at ok
  split at ok
  · cases ok
  · exact (Except.ok.inj ok).symm

theorem attachTlsReserve_ok {session session' : TcpIo} {reserve : List Permit}
    (ok : session.attachTlsReserve reserve = .ok session') :
    session.released = false ∧ ∃ prior, session.onRelease = some prior ∧
      session' = { session with onRelease := some (reserve ++ prior) } := by
  unfold TcpIo.attachTlsReserve at ok
  split at ok
  · cases ok
  next isOpen =>
  split at ok
  · cases ok
  · next prior isPrior =>
    simp only [Bool.or_eq_true, not_or, Bool.not_eq_true] at isOpen
    exact ⟨isOpen.2, prior, isPrior, (Except.ok.inj ok).symm⟩

theorem fresh_upgrade (id : RequestId) (has : callbackPermit.isSome = callback.isSome) :
    OpEntry.Fresh { op := .tls (Shared.upgradeState id callback callbackPermit), origin := callback } := by
  refine ⟨⟨⟨?_, fun _ => .inr ⟨rfl, rfl, rfl⟩, fun _ => rfl⟩, by simp⟩, rfl⟩
  simp [ConnectState.Coherent, Shared.upgradeState, OpEntry.winner, has]

theorem acceptTlsUpgrade_moves (sane : Sane sh tokens) (free : sh.deadlock = none) (io : Nat)
    (options : TlsOptions) (clockRoom : Nat) (callback : Option Callback) :
    CallMoves sh tokens (sh.acceptTlsUpgrade io options clockRoom callback) tokens := by
  unfold Shared.acceptTlsUpgrade
  split
  · exact .rejected .refl
  · exact .rejected .refl
  rename_i session _ found
  have coherent := (sane.sessions session (List.mem_of_getElem? found)).1
  refine .guard fun _ => .guard fun unlisted => ?_
  split
  · exact .rejected .refl
  rename_i sh₁ queued reserved
  obtain ⟨first, rfl⟩ := reserve_moves tokens reserved
  split
  · exact .panicked (first.trans (release_moves [queued]))
  rename_i sh₂ metric reservedMetric
  obtain ⟨second, rfl⟩ := reserve_moves _ reservedMetric
  have taken := first.trans second
  split
  · exact .rejected (drop_moves taken [metric, queued]
      (by simp only [permitTokens_cons, permitTokens_nil, add_zero, add_assoc]))
  rename_i sh₃ callbackPermit admitted
  obtain ⟨third, ⟨counters, rfl⟩, has⟩ := admitIf_moves _ admitted
  have taken := taken.trans third
  split
  · exact .rejected (drop_moves taken (callbackPermit.toList ++ [metric, queued])
      (by simp only [permitTokens_append, permitTokens_cons, permitTokens_nil, add_zero, add_assoc]))
  rename_i session₁ upgrading
  obtain rfl := beginUpgrade_ok upgrading
  split
  · -- The upgrade was begun, but the session has been released.
    have begun := endow_moves taken { session with upgrading := true } [] (zero_add _).symm found
      ⟨coherent.finish, coherent.unregistered, coherent.release⟩ rfl (fun k => rfl)
    exact .rejected (drop_moves begun ([queued, metric] ++ callbackPermit.toList) (by
      simp only [permitTokens_append, permitTokens_cons, permitTokens_nil, add_zero]
      ac_rfl))
  rename_i session₂ attached
  obtain ⟨notReleased, prior, isPrior, rfl⟩ := attachTlsReserve_ok attached
  have isOpen : session.released = false := notReleased
  have endowed : Moves Move sh tokens _ (permitTokens callbackPermit.toList + tokens) :=
    endow_moves taken { session with upgrading := true, onRelease := some ([queued, metric] ++ prior) }
      [queued, metric] (by
        simp only [permitTokens_cons, permitTokens_nil, add_zero]
        ac_rfl)
      found ⟨coherent.finish, coherent.unregistered, by simp [isOpen]⟩ rfl (fun k => by
        have isPrior : session.onRelease = some prior := isPrior
        simp only [TcpIo.permits, isPrior, Option.getD_some, held_append]
        omega)
  have there := List.getElem?_set_self (a :=
    { session with upgrading := true, onRelease := some ([queued, metric] ++ prior) })
    (List.getElem?_eq_some_iff.mp found).1
  exact .after endowed (submit_moves
    (by simp [Op.permits, Shared.upgradeState, ConnectState.permits, ConnectState.reservations])
    (Moves.sane endowed sane) free (fresh_upgrade _ has)
    (.upgrade rfl (by simp at unlisted; exact unlisted.2) ⟨_, List.mem_of_getElem? there, rfl⟩) fun ref => ⟨rfl, rfl⟩)

/-! ## Streaming requests -/

theorem responsePair_ok {window limit : Nat} {pair : ResponsePair} (ok : responsePair window limit = .ok pair) :
    pair.state.terminal = none ∧ pair.sinkTerminal = false ∧ pair.reader.eofReached = false := by
  unfold responsePair at ok
  split at ok
  · cases ok
  · obtain rfl := Except.ok.inj ok
    exact ⟨rfl, rfl, rfl⟩

theorem sequence_moves (room : sh.core.nextSequence < u64Max) :
    Moves Move sh tokens sh.takeSequence tokens :=
  surroundings_moves { sh.surroundings with nextSequence := sh.core.nextSequence + 1 }
    ⟨Nat.le_succ _, Nat.le_trans room (Nat.le_max_right _ _), fun _ h => h, id⟩

/-- The three permits of a streaming request are taken, or what was taken is dropped. -/
def AdmitsStream (sh : Shared) (tokens : Multiset Token) :
    Except (Shared × Error) (Shared × Permit × Permit × Permit) → Prop
  | .error (sh₁, _) => Moves Move sh tokens sh₁ tokens
  | .ok (sh₁, inflight, queued, parentQueued) =>
      Moves Move sh tokens sh₁ (permitTokens [inflight, queued, parentQueued] + tokens) ∧
        ∃ counters, sh₁ = { sh with counters := counters }

theorem admitStream_moves (tokens : Multiset Token) {reserved : Nat}
    {result : Except (Shared × Error) (Shared × Permit × Permit × Permit)}
    (isResult : sh.admitStream reserved = result) : AdmitsStream sh tokens result := by
  subst isResult
  unfold Shared.admitStream
  cases admitted : sh.acquire .inflight with
  | none => exact .refl
  | some pair =>
  obtain ⟨sh₁, inflight⟩ := pair
  obtain ⟨first, rfl⟩ := admit_moves tokens admitted
  simp only
  cases reservedStream : Shared.reserve _ .streamQueuedBytes reserved with
  | none => exact first.trans (release_moves [inflight])
  | some pair =>
  obtain ⟨sh₂, queued⟩ := pair
  obtain ⟨second, rfl⟩ := reserve_moves _ reservedStream
  have taken := first.trans second
  simp only
  cases reservedQueue : Shared.reserve _ .queuedBytes reserved with
  | none =>
    exact drop_moves taken [queued, inflight] (by simp only [permitTokens_cons, permitTokens_nil, add_zero, add_assoc])
  | some pair =>
  obtain ⟨sh₃, parentQueued⟩ := pair
  obtain ⟨third, rfl⟩ := reserve_moves _ reservedQueue
  refine ⟨?_, _, rfl⟩
  convert taken.trans third using 1
  simp only [permitTokens_cons, permitTokens_nil, add_zero]
  ac_rfl

/-- The tail of `accept_stream`: on a full queue the dropped sink counts a failure, and the dropped reader
locks the core again. -/
theorem submitStream_moves {request : StreamRequest} {s : StreamRequestState}
    (owns : owned = permitTokens s.permitList) (sane : Sane sh (owned + tokens)) (free : sh.deadlock = none)
    (id : s.id = sh.nextId) (room : sh.core.nextSequence < u64Max)
    (terminal : s.response.state.terminal = none) (sink : s.response.sinkTerminal = false)
    (eof : s.response.reader.eofReached = false) :
    CallMoves sh (owned + tokens) (sh.takeSequence.submitStream request s) tokens := by
  subst owns
  have identity : NewIdentity sh (.stream s) (sh.core.nextSequence + 1) := .sequence rfl id room
  have fresh : OpEntry.Fresh { op := .stream s, origin := none } :=
    ⟨⟨⟨terminal, rfl, by simp [eof]⟩, by simp⟩, rfl⟩
  unfold Shared.submitStream
  simp only
  split
  · have counts : s.response.sinkDrop.2 = true := by
      simp [ResponsePair.sinkDrop, ResponsePair.sinkCommit, sink, terminal]
    have restored : (({ sh.core with nextSequence := sh.core.nextSequence + 1 } : CoreState).insert .stream
        s.id sh.ops.length).remove .stream s.id = { sh.core with nextSequence := sh.core.nextSequence + 1 } :=
      CoreState.remove_insert _ _ (by
        rw [CoreState.table_nextSequence]
        exact identity.free sane)
    have dropped : Moves Move sh (permitTokens s.permitList + tokens) (sh.dropPermits s.permitList) tokens :=
      release_moves s.permitList
    have refunded := dropped.trans (refundBody_moves request.request.bodyCapacity)
    have hung := refunded.trans (Moves.one (.hangSink free room) tokens (zero_add _).symm (zero_add _).symm)
    unfold Shared.withdrawStream
    refine .stuck ?_
    convert hung using 1
    simp only [counts, if_true, Shared.takeSequence, Shared.refundBody, restored]
    rfl
  · have accepted := Moves.one (.accept (.stream s) (.stream request sh.ops.length) (some .request) fresh identity
      ⟨rfl, rfl⟩) tokens rfl rfl
    have acts : listTokens Act.tokens ((sh.afterAccept (.stream s) (.stream request sh.ops.length)
        (some .request) (sh.core.nextSequence + 1)).acceptActs (.accepted sh.ops.length)) = 0 := by
      simp [Shared.acceptActs, Shared.afterAccept, Op.callback]
    rw [← acts] at accepted
    exact accepted

theorem acceptStream_moves (sane : Sane sh tokens) (free : sh.deadlock = none) (request : StreamRequest) :
    CallMoves sh tokens (sh.acceptStream request) tokens := by
  unfold Shared.acceptStream
  refine .guard fun _ => .guard fun _ => .guard fun notLast => ?_
  split
  · exact .rejected .refl
  · exact .rejected .refl
  simp only
  split
  · exact .rejected .refl
  rename_i sh₁ admittedBody
  obtain ⟨body, n, rfl⟩ := admitBody_moves tokens admittedBody
  split
  · exact .rejected (body.trans (refundBody_moves _))
  split
  · next sh₂ error refused =>
    exact .rejected ((body.trans (admitStream_moves tokens refused)).trans (refundBody_moves _))
  rename_i sh₂ inflight queued parentQueued admitted
  obtain ⟨permits, counters, rfl⟩ := admitStream_moves tokens admitted
  have taken := body.trans permits
  have room := sane.room notLast
  have withdrawn : Moves Move sh tokens _ tokens :=
    drop_moves (taken.trans (sequence_moves room)) [parentQueued, queued, inflight] (by
      simp only [permitTokens_cons, permitTokens_nil, add_zero]
      ac_rfl)
  split
  · exact .rejected (withdrawn.trans (refundBody_moves _))
  split
  · exact .rejected (withdrawn.trans (refundBody_moves _))
  rename_i pair isPair
  obtain ⟨terminal, sink, eof⟩ := responsePair_ok isPair
  exact .after taken (submitStream_moves rfl (Moves.sane taken sane) free rfl room terminal sink eof)

end NbReq
