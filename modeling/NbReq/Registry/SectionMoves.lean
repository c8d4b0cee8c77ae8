import NbReq.Registry.Sections

/-!
# The critical sections as sequences of moves

The functions of the model that run under the core lock or on one operation, session or response, one after
another, as sequences of moves on the tokens of the thread that calls them. The model's functions are unfolded
here, and not again in the proofs of invariants.

`completeLocked_cases` says why the locked completions of connects never lose their race.
-/

namespace NbReq

open TaskSystem Ledger

variable {sh sh' : Shared} {tokens tokens' used given : Multiset Token}

/-! ## Rules for sequences of moves -/

theorem Moves.one (move : Move sh used sh' given) (others : Multiset Token)
    (before : tokens = used + others) (after : tokens' = given + others) :
    Moves Move sh tokens sh' tokens' := by
  subst before after
  exact Ledger.Moves.single move others

theorem Sane.weaken (sane : Sane sh tokens) (fewer : ∀ token ∈ tokens', token ∈ tokens) :
    Sane sh tokens' :=
  { sane with tokens := fun token mem => sane.tokens token (fewer token mem) }

/-- A thread may write down everything it knows. -/
theorem learn_moves (news : Multiset Token)
    (known : ∀ token ∈ news, ∃ fact : Fact, token = .known fact ∧ fact.Holds sh.ops) :
    Moves Move sh tokens sh (news + tokens) := by
  induction news using Multiset.induction with
  | empty => rw [zero_add]; exact .refl
  | cons token news ih =>
    obtain ⟨fact, rfl, holds⟩ := known token (Multiset.mem_cons_self _ _)
    have rest := ih fun token mem => known token (Multiset.mem_cons_of_mem mem)
    exact rest.trans (Moves.one (.learn fact holds) (news + tokens) (zero_add _).symm
      (by rw [Multiset.singleton_add, Multiset.cons_add]))

theorem forget_moves (olds : Multiset Token) (known : ∀ token ∈ olds, ∃ fact : Fact, token = .known fact) :
    Moves Move sh (olds + tokens) sh tokens := by
  induction olds using Multiset.induction with
  | empty => rw [zero_add]; exact .refl
  | cons token olds ih =>
    obtain ⟨fact, rfl⟩ := known token (Multiset.mem_cons_self _ _)
    have rest := ih fun token mem => known token (Multiset.mem_cons_of_mem mem)
    refine (Moves.one (.forget fact) (olds + tokens) ?_ (zero_add _).symm).trans rest
    rw [Multiset.singleton_add, Multiset.cons_add]

theorem release_moves (permits : List Permit) :
    Moves Move sh (permitTokens permits + tokens) (sh.dropPermits permits) tokens := by
  induction permits generalizing sh with
  | nil => rw [permitTokens, List.map_nil, Multiset.coe_nil, zero_add]; exact .refl
  | cons permit permits ih =>
    refine (Moves.one (.release permit) (permitTokens permits + tokens) ?_ (zero_add _).symm).trans ih
    rw [permitTokens, List.map_cons, ← Multiset.cons_coe, Multiset.cons_add, Multiset.singleton_add]
    rfl

theorem mem_listTokens {acts : List Act} {token : Token} :
    token ∈ listTokens Act.tokens acts ↔ ∃ act ∈ acts, token ∈ act.tokens := by
  simp [listTokens, Multiset.mem_bind]

@[simp] theorem permitTokens_nil : permitTokens [] = 0 := rfl

@[simp] theorem permitTokens_cons (permit : Permit) (permits : List Permit) :
    permitTokens (permit :: permits) = {.permit permit} + permitTokens permits := rfl

@[simp] theorem permitTokens_append (permits permits' : List Permit) :
    permitTokens (permits ++ permits') = permitTokens permits + permitTokens permits' := by
  simp [permitTokens, ← Multiset.coe_add]

@[simp] theorem jobTokens_none : jobTokens none = 0 := rfl

theorem listTokens_dropPermit (permits : List Permit) :
    listTokens Act.tokens (permits.map .dropPermit) = permitTokens permits := by
  induction permits with
  | nil => rfl
  | cons permit permits ih => rw [List.map_cons, listTokens_cons, ih]; rfl

theorem listTokens_enqueueActs (job : Option CallbackJob) :
    listTokens Act.tokens (Shared.enqueueActs job) = jobTokens job := by
  cases job <;> simp [Shared.enqueueActs, jobTokens, Act.tokens]

/-- What a call does, together with the actions that it goes on with. -/
def Leads (sh : Shared) (before : Multiset Token) (call : Shared × List Act) (others : Multiset Token) : Prop :=
  Moves Move sh before call.1 (listTokens Act.tokens call.2 + others)

theorem Leads.idle : Leads sh tokens (sh, []) tokens := by
  simpa [Leads] using Moves.refl

theorem Leads.guard {fails : Prop} [Decidable fails] {call : Shared × List Act}
    (rest : ¬fails → Leads sh tokens call tokens) : Leads sh tokens (if fails then (sh, []) else call) tokens := by
  split
  · exact .idle
  · exact rest ‹_›

variable {effect : Effect}

/-- A section on an operation that does not make a connect terminal leaves the maps alone. -/
theorem Shared.afterSection_eq_update {ref : Nat} {entry entry' : OpEntry}
    (stays : entry.leavesMap entry' = false) : sh.afterSection ref entry entry' effect =
      sh.update ref entry' effect := by
  simp [afterSection, stays]
  rfl

/-! ## Commits -/

section Commits

variable {ref : Nat} {entry : OpEntry} {origin : Option Callback}

/-- A section that is not a commit of a connect, and what its thread holds after it. -/
theorem section_moves {entry' : OpEntry} {moved : List Permit}
    (found : sh.ops[ref]? = some entry) (sound : Section ref entry entry' effect moved)
    (stays : entry.leavesMap entry' = false) :
    Moves Move sh tokens (sh.update ref entry' effect) (jobTokens effect.job + permitTokens moved + tokens) := by
  rw [← Shared.afterSection_eq_update stays]
  exact Moves.one (.section found sound) tokens (zero_add _).symm rfl

theorem quietSection_moves {entry' : OpEntry} (found : sh.ops[ref]? = some entry)
    (sound : Section ref entry entry' effect []) (noJob : effect.job = none)
    (stays : entry.leavesMap entry' = false) : Moves Move sh tokens (sh.update ref entry' effect) tokens := by
  have moves : Moves Move sh tokens _ _ := section_moves found sound stays
  simpa [noJob] using moves

theorem commitOp_moves (sane : Sane sh tokens) (found : sh.ops[ref]? = some entry)
    (onePhase : entry.op.kind.twoPhase = false) (c : Done) :
    Moves Move sh tokens (sh.commitOp ref c).1 (jobTokens (sh.commitOp ref c).2.job + tokens) := by
  have coherent := sane.ops entry (List.mem_of_getElem? found)
  have moves : Moves Move sh tokens _ _ := section_moves found (commit_section coherent c)
    (by simp [OpEntry.leavesMap, onePhase])
  rw [permitTokens_nil, add_zero] at moves
  simp only [Shared.commitOp, found]
  exact moves

def OpEntry.committed (ref : Nat) (c : Done) (entry : OpEntry) : OpEntry :=
  { entry with op := (entry.op.commit ref c).1, attempts := entry.attempts ++ [c] }

theorem Shared.current_iff {kind : OpKind} : sh.current kind ref = true ↔
    ∃ entry, sh.ops[ref]? = some entry ∧ (sh.core.table kind).lookup entry.op.id = some ref := by
  cases found : sh.ops[ref]? <;> simp [current, op?, found]

/-- `complete_tcp_state_locked` and `complete_tls_state_locked` never lose: a map of connects only holds
pending ones. -/
theorem completeLocked_cases (sane : Sane sh tokens) {kind : OpKind} (twoPhase : kind.twoPhase = true)
    (ref : Nat) (c : Done) :
    (sh.current kind ref = false ∧ sh.completeLocked kind ref c = (sh, false)) ∨
      ∃ entry, sh.ops[ref]? = some entry ∧ entry.op.kind = kind ∧ entry.op.isTerminal = false ∧
        sh.completeLocked kind ref c =
          (sh.afterSection ref entry (entry.committed ref c) (entry.op.commit ref c).2, true) := by
  cases current : sh.current kind ref with
  | false => exact .inl ⟨rfl, by simp [Shared.completeLocked, current]⟩
  | true =>
    obtain ⟨entry, found, there⟩ := Shared.current_iff.mp current
    obtain ⟨entry', found', isKind, -, pending⟩ := sane.tables kind _ ref there
    obtain rfl := Option.some.inj (found.symm.trans found')
    subst isKind
    have isPending := pending twoPhase
    have won : (entry.op.commit ref c).2.won = true := by
      rw [(Op.commit_won c).1, isPending]
      rfl
    have leaves : entry.leavesMap (entry.committed ref c) = true := by
      simp [OpEntry.leavesMap, twoPhase, isPending, OpEntry.committed, Op.commit_isTerminal]
    refine .inr ⟨entry, found, rfl, isPending, ?_⟩
    simp only [Shared.completeLocked, current, Shared.op?, found, Shared.commitOp, won, if_true,
      Option.map_some, Shared.afterSection, leaves]
    rfl

/-- The commit of a pending connect, which its thread publishes later. -/
theorem commitConnect_moves (sane : Sane sh tokens) (found : sh.ops[ref]? = some entry)
    (twoPhase : entry.op.kind.twoPhase = true) (c : Done) :
    Moves Move sh tokens
      (sh.afterSection ref entry (entry.committed ref c) (entry.op.commit ref c).2)
      ({.known (.terminal ref)} + tokens) := by
  have coherent := sane.ops entry (List.mem_of_getElem? found)
  have noJob : (entry.op.commit ref c).2.job = none := by
    cases isOp : entry.op with
    | connect s | tls s =>
      simp only [Op.commit, ConnectState.commit]
      split <;> rfl
    | _ => simp [isOp, Op.kind, OpKind.twoPhase] at twoPhase
  have terminal : (Fact.terminal ref).Holds (sh.ops.set ref (entry.committed ref c)) :=
    ⟨_, List.getElem?_set_self (List.getElem?_eq_some_iff.mp found).1, Op.commit_isTerminal c⟩
  refine (Moves.one (.section found (commit_section coherent c)) tokens (zero_add _).symm ?_).trans
    (Moves.one (.learn _ terminal) tokens (zero_add _).symm rfl)
  rw [noJob, jobTokens_none, permitTokens_nil, add_zero, zero_add]

theorem completeLocked_moves (sane : Sane sh tokens) (kind : OpKind) (twoPhase : kind.twoPhase = true)
    (ref : Nat) (c : Done) :
    Moves Move sh tokens (sh.completeLocked kind ref c).1
      ((if (sh.completeLocked kind ref c).2 then {.known (.terminal ref)} else 0) + tokens) := by
  rcases completeLocked_cases sane twoPhase ref c with ⟨-, lost⟩ | ⟨entry, found, isKind, pending, won⟩
  · rw [lost]
    simpa using Moves.refl
  · rw [won]
    exact commitConnect_moves sane found (by rw [isKind]; exact twoPhase) c

/-- What the thread knows that committed these connects. -/
def publishTokens (refs : List Nat) : Multiset Token := (refs.map fun ref => Token.known (.terminal ref) : List Token)

theorem completeAllLocked_moves (kind : OpKind) (twoPhase : kind.twoPhase = true) (c : Done)
    (refs : List Nat) (sane : Sane sh tokens) :
    Moves Move sh tokens (Shared.completeAllLocked kind c refs sh).1
      (publishTokens (Shared.completeAllLocked kind c refs sh).2 + tokens) := by
  induction refs generalizing sh tokens with
  | nil => simpa [Shared.completeAllLocked, publishTokens] using Moves.refl
  | cons ref refs ih =>
    have first := completeLocked_moves sane kind twoPhase ref c
    have rest := ih (Moves.sane first sane)
    have same : publishTokens (Shared.completeAllLocked kind c (ref :: refs) sh).2 + tokens =
        publishTokens (Shared.completeAllLocked kind c refs (sh.completeLocked kind ref c).1).2 +
          ((if (sh.completeLocked kind ref c).2 then {.known (.terminal ref)} else 0) + tokens) := by
      simp only [Shared.completeAllLocked]
      cases (sh.completeLocked kind ref c).2 <;>
        simp [publishTokens, ← Multiset.cons_coe]
    rw [same]
    exact first.trans rest

end Commits

/-! ## Sweeps -/

theorem Shared.mem_selected {ω : Oracle} {select : RequestId → Bool} {table : Table} {ref : Nat} :
    ref ∈ selected ω select table ↔ ∃ id, select id = true ∧ table.lookup id = some ref := by
  rw [selected, (ω.order_perm _).mem_iff]
  simp only [List.mem_map, List.mem_filter, Sigma.exists, exists_eq_right]
  constructor
  · rintro ⟨id, there, isSelected⟩
    exact ⟨id, isSelected, AList.mem_lookup_iff.mpr there⟩
  · rintro ⟨id, isSelected, there⟩
    exact ⟨id, AList.mem_lookup_iff.mp there, isSelected⟩

theorem Sane.onePhase_of_listed (sane : Sane sh tokens) (kind : OpKind) {id : RequestId} {ref : Nat}
    (there : (sh.core.table kind).lookup id = some ref) (isKind : kind = .request ∨ kind = .resolve) :
    (Fact.onePhase ref).Holds sh.ops := by
  obtain ⟨entry, found, same, -⟩ := sane.tables kind id ref there
  exact ⟨entry, found, by rw [same]; exact isKind⟩

theorem Sane.streaming_of_listed (sane : Sane sh tokens) {id : RequestId} {ref : Nat}
    (there : sh.core.streamRequests.lookup id = some ref) : (Fact.streaming ref).Holds sh.ops := by
  obtain ⟨entry, found, same, -⟩ := sane.tables .stream id ref there
  exact ⟨entry, found, same⟩

theorem listTokens_publish (refs : List Nat) :
    listTokens Act.tokens (refs.map .publish) = publishTokens refs := by
  induction refs with
  | nil => rfl
  | cons ref refs ih => rw [List.map_cons, listTokens_cons, ih]; rfl

/-- The locked part of `cancel_all`, `begin_shutdown` and `fail_all`, and what the thread holds after it. -/
theorem sweep_moves (sane : Sane sh tokens) (ω : Oracle) (select : RequestId → Bool)
    (tlsDone tcpDone done : Done) (abort : TcpAbort) :
    Moves Move sh tokens (sh.sweep ω select tlsDone tcpDone).1
      (listTokens Act.tokens ((sh.sweep ω select tlsDone tcpDone).2.acts done abort) + tokens) := by
  have first := completeAllLocked_moves .tls rfl tlsDone
    (Shared.selected ω select sh.core.tlsConnects) sane
  rcases result₁ : Shared.completeAllLocked .tls tlsDone
    (Shared.selected ω select sh.core.tlsConnects) sh with ⟨sh₁, tlsStates⟩
  rw [result₁] at first
  have sane₁ := Moves.sane first sane
  have second := completeAllLocked_moves .connect rfl tcpDone
    (Shared.selected ω select sh₁.core.connects) sane₁
  rcases result₂ : Shared.completeAllLocked .connect tcpDone
    (Shared.selected ω select sh₁.core.connects) sh₁ with ⟨sh₂, tcpTerminals⟩
  rw [result₂] at second
  have sane₂ := Moves.sane second sane₁
  simp only [Shared.sweep, result₁, result₂]
  -- What was collected is known to be of the right kinds.
  let collected : List Act :=
    (Shared.selected ω select sh₂.core.requests).map (.complete · done) ++
      (Shared.selected ω select sh₂.core.streamRequests).map (.commitStream · done) ++
      (Shared.selected ω select sh₂.core.resolutions).map (.complete · done)
  have known : ∀ token ∈ listTokens Act.tokens collected,
      ∃ fact : Fact, token = .known fact ∧ fact.Holds sh₂.ops := by
    intro token mem
    obtain ⟨act, there, isToken⟩ := mem_listTokens.mp mem
    simp only [collected, List.mem_append, List.mem_map] at there
    rcases there with (⟨ref, isSelected, rfl⟩ | ⟨ref, isSelected, rfl⟩) | ⟨ref, isSelected, rfl⟩
    · obtain ⟨id, -, listed⟩ := Shared.mem_selected.mp isSelected
      exact ⟨_, Multiset.mem_singleton.mp isToken, sane₂.onePhase_of_listed .request listed (.inl rfl)⟩
    · obtain ⟨id, -, listed⟩ := Shared.mem_selected.mp isSelected
      exact ⟨_, Multiset.mem_singleton.mp isToken, sane₂.streaming_of_listed listed⟩
    · obtain ⟨id, -, listed⟩ := Shared.mem_selected.mp isSelected
      exact ⟨_, Multiset.mem_singleton.mp isToken, sane₂.onePhase_of_listed .resolve listed (.inr rfl)⟩
  refine ((first.trans second).trans (learn_moves _ known)).trans ?_
  have aborts : listTokens Act.tokens
      ((Shared.selected ω select sh₂.core.liveTcp).map (Act.abort · abort)) = 0 := by
    apply listTokens_eq_zero
    intro act mem
    obtain ⟨io, -, rfl⟩ := List.mem_map.mp mem
    rfl
  simp only [Shared.Swept.acts, collected, listTokens_append, listTokens_cons, listTokens_nil,
    listTokens_publish, aborts, add_zero, Act.tokens, List.map_nil, Multiset.coe_nil, publishTokens]
  rw [show ∀ a b c d e f : Multiset Token, a + b + c + (d + (e + f)) = a + b + c + d + e + f by
    intros; ac_rfl]
  exact .refl

/-! ## Cancelling one operation -/

/-- What `cancel` does with the operations that it only looks up. -/
theorem cancel_known (sane : Sane sh tokens) (id : RequestId) {first : List Act}
    (only : ∀ act ∈ first, act.tokens = 0 ∨
      (∃ ref, sh.core.requests.lookup id = some ref ∧ act = .complete ref .cancelled) ∨
      ∃ ref, sh.core.streamRequests.lookup id = some ref ∧ act = .commitStream ref .cancelled) :
    Leads sh tokens
      (sh, first ++ ((sh.core.resolutions.lookup id).map (Act.complete · .cancelled)).toList) tokens := by
  apply learn_moves
  intro token mem
  obtain ⟨act, there, isToken⟩ := mem_listTokens.mp mem
  rcases List.mem_append.mp there with early | last
  · rcases only act early with none | ⟨ref, listed, rfl⟩ | ⟨ref, listed, rfl⟩
    · simp [none] at isToken
    · exact ⟨_, Multiset.mem_singleton.mp isToken, sane.onePhase_of_listed .request listed (.inl rfl)⟩
    · exact ⟨_, Multiset.mem_singleton.mp isToken, sane.streaming_of_listed listed⟩
  · obtain ⟨ref, listed, rfl⟩ := Option.map_eq_some_iff.mp (Option.mem_toList.mp last)
    exact ⟨_, Multiset.mem_singleton.mp isToken, sane.onePhase_of_listed .resolve listed (.inr rfl)⟩

/-- Without a pending connect the id is looked up in the other maps. -/
theorem cancelOther_moves (sane : Sane sh tokens) (id : RequestId) :
    Leads sh tokens (sh, sh.cancelOther id (sh.core.liveTcp.lookup id) ++
      ((sh.core.resolutions.lookup id).map (Act.complete · .cancelled)).toList) tokens := by
  refine cancel_known sane id fun act mem => ?_
  unfold Shared.cancelOther at mem
  split at mem
  · exact .inl (by rw [List.mem_singleton.mp mem]; rfl)
  · next ref _ listed => exact .inr (.inl ⟨ref, listed, List.mem_singleton.mp mem⟩)
  · next ref _ _ listed => exact .inr (.inr ⟨ref, listed, List.mem_singleton.mp mem⟩)
  · simp at mem

/-- A connect was cancelled, and is published next. -/
theorem cancelled_moves {ref : Nat} (sane : Sane sh ({.known (.terminal ref)} + tokens)) (id : RequestId) {first : List Act}
    (zero : ∀ act ∈ first, act.tokens = 0) :
    Leads sh ({.known (.terminal ref)} + tokens) (sh, first ++ [.publish ref] ++
      ((sh.core.resolutions.lookup id).map (Act.complete · .cancelled)).toList) tokens := by
  have moves := cancel_known sane id fun act mem => .inl (zero act mem)
  simp only [Leads, listTokens_append, listTokens_cons, listTokens_nil, add_zero, Act.tokens] at moves ⊢
  convert moves using 1
  ac_rfl

/-- The TLS operation of an id that is not a pending TCP connect's. -/
theorem cancelTls_moves (sane : Sane sh tokens) (id : RequestId) (ref : Nat) {won : Bool}
    (result : sh.completeLocked .tls ref .cancelled = (sh', won)) :
    Leads sh tokens (sh', (if won then ((sh'.core.liveTcp.lookup id).map (Act.abort · .cancelled)).toList ++
        [.publish ref] else sh'.cancelOther id (sh'.core.liveTcp.lookup id)) ++
      ((sh'.core.resolutions.lookup id).map (Act.complete · .cancelled)).toList) tokens := by
  have moves := completeLocked_moves sane .tls rfl ref .cancelled
  rw [result] at moves
  have sane' := Moves.sane moves sane
  refine moves.trans ?_
  cases won with
  | true =>
    refine cancelled_moves sane' id fun act mem => ?_
    obtain ⟨io, -, rfl⟩ := Option.map_eq_some_iff.mp (Option.mem_toList.mp mem)
    rfl
  | false => simpa [Leads] using cancelOther_moves sane' id

theorem cancel_moves (sane : Sane sh tokens) (id : RequestId) : Leads sh tokens (sh.cancel id) tokens := by
  unfold Shared.cancel
  refine .guard fun _ => ?_
  cases connect : sh.core.connects.lookup id with
  | none =>
    cases tls : sh.core.tlsConnects.lookup id with
    | none => exact cancelOther_moves sane id
    | some ref => exact cancelTls_moves sane id ref rfl
  | some ref =>
    have moves := completeLocked_moves sane .connect rfl ref .cancelled
    rcases result : sh.completeLocked .connect ref .cancelled with ⟨sh₁, won⟩
    rw [result] at moves
    have sane₁ := Moves.sane moves sane
    simp only [result]
    refine moves.trans ?_
    cases tls : sh.core.tlsConnects.lookup id with
    | none =>
      cases won with
      | true =>
        have rest : Leads sh₁ _ (sh₁, [] ++ [.publish ref] ++ _) tokens := cancelled_moves sane₁ id (by simp)
        exact rest
      | false => simpa [Leads] using cancelOther_moves sane₁ id
    | some ref' =>
      rcases result' : sh₁.completeLocked .tls ref' .cancelled with ⟨sh₂, won'⟩
      simp only [result']
      cases won with
      | true =>
        -- A TLS operation of the same id is not published by this call.
        have second := completeLocked_moves sane₁ .tls rfl ref' .cancelled
        rw [result'] at second
        have sane₂ := Moves.sane second sane₁
        refine (second.trans (forget_moves _ fun token mem => ?_)).trans ?_
        · split at mem
          · exact ⟨_, Multiset.mem_singleton.mp mem⟩
          · simp at mem
        · have rest : Leads sh₂ _ (sh₂, [] ++ [.publish ref] ++ _) tokens :=
            cancelled_moves (sane₂.weaken fun token mem => Multiset.mem_add.mpr (.inr mem)) id (by simp)
          exact rest
      | false =>
        have rest := cancelTls_moves (sane₁.weaken fun token mem => Multiset.mem_add.mpr (.inr mem)) id ref' result'
        simpa [Leads] using rest

/-! ## Connected transports -/

section Transports

variable {ref : Nat} {origin : Option Callback} {attempts received : List Done}

theorem newSession_coherent (s : ConnectState) (release : List Permit) :
    (Shared.newSession s release).Coherent := ⟨rfl, fun _ => rfl, rfl⟩

theorem newSession_permits (s : ConnectState) (release : List Permit) :
    (Shared.newSession s release).permits = release := by
  simp [Shared.newSession, TcpIo.permits]

/-- A connect hands its reservations to a new session. -/
theorem openSession_moves (sane : Sane sh tokens) {entry entry' : OpEntry}
    {permits : List Permit} (session : TcpIo) (found : sh.ops[ref]? = some entry)
    (sound : Section ref entry entry' effect permits) (owns : session.permits = permits)
    (coherent : session.Coherent)
    (isId : session.id = entry.op.id) :
    Moves Move sh tokens
      { sh.afterSection ref entry entry' effect with
        ios := sh.ios ++ [session]
        core := { (sh.afterSection ref entry entry' effect).core with
          liveTcp := (sh.afterSection ref entry entry' effect).core.liveTcp.insert session.id
            sh.ios.length } }
      (jobTokens effect.job + tokens) := by
  subst owns
  have later := (sane.ops entry (List.mem_of_getElem? found)).later (.single sound.change)
  have there : entry' ∈ sh.ops.set ref entry' :=
    List.mem_iff_getElem?.mpr ⟨ref, List.getElem?_set_self (List.getElem?_eq_some_iff.mp found).1⟩
  have first := Moves.one (.section found sound) tokens (zero_add _).symm rfl
  refine first.trans (Moves.one (.openSession session coherent
    ⟨entry', there, later.id.trans isId.symm⟩)
    (jobTokens effect.job + tokens) ?_ (zero_add _).symm)
  ac_rfl

theorem ConnectState.Reserved.permits {s : ConnectState} (reserved : s.Reserved) : ∃ occupancy queued metric,
    s.occupancyPermit = some occupancy ∧ s.queuedBytesPermit = some queued ∧ s.metricBytesPermit = some metric := by
  obtain ⟨occupancy, isOccupancy⟩ := Option.isSome_iff_exists.mp reserved.1
  obtain ⟨queued, isQueued⟩ := Option.isSome_iff_exists.mp reserved.2.1
  obtain ⟨metric, isMetric⟩ := Option.isSome_iff_exists.mp reserved.2.2
  exact ⟨occupancy, queued, metric, isOccupancy, isQueued, isMetric⟩

attribute [local simp] OpEntry.leavesMap Op.kind OpKind.twoPhase Op.isTerminal
  ConnectState.takeTerminalJob_frame ConnectState.connected TlsConnectState.transportTaken

/-- A connect that has given its DNS share back goes on. -/
theorem dnsReleased_moves {entry entry' : OpEntry} {dropped : List Permit} {next : Act}
    (found : sh.ops[ref]? = some entry) (sound : Section ref entry entry' { dropped := dropped } [])
    (stays : entry.leavesMap entry' = false) (released : entry'.op.DnsReleased)
    (isNext : next.tokens = {.known (.dnsReleased ref)}) :
    Leads sh tokens (sh.update ref entry' { dropped := dropped }, [next]) tokens := by
  have holds : (Fact.dnsReleased ref).Holds (sh.update ref entry' { dropped := dropped }).ops :=
    ⟨entry', List.getElem?_set_self (List.getElem?_eq_some_iff.mp found).1, released⟩
  have moves : Moves Move sh tokens _ tokens := quietSection_moves found sound rfl stays
  refine moves.trans (Moves.one (.learn _ holds) tokens (zero_add _).symm ?_)
  rw [listTokens_cons, listTokens_nil, add_zero, isNext]

theorem releaseDnsBorrow_moves : Leads sh tokens (sh.releaseDnsBorrow ref) tokens := by
  have released : ∀ s : ConnectState, s.releaseDnsBorrow.1.terminal = true ∨ s.releaseDnsBorrow.1.dnsBorrow = none := by
    intro s
    cases terminal : s.terminal <;> simp [ConnectState.releaseDnsBorrow, terminal]
  unfold Shared.releaseDnsBorrow
  split
  · next s _ _ _ found =>
    have moves : Leads sh tokens (_, [.completeTcpConnected ref]) tokens := dnsReleased_moves found connectDns_section
      (by simp [s.releaseDnsBorrow_terminal]) (released s) rfl
    exact moves
  · next s _ _ _ found =>
    have moves : Leads sh tokens (_, [.completeTlsTransportConnected ref]) tokens :=
      dnsReleased_moves found tlsDns_section (by simp [s.toConnectState.releaseDnsBorrow_terminal])
        (released s.toConnectState) rfl
    exact moves
  · exact .idle

theorem completeTcpConnected_moves (sane : Sane sh tokens)
    (dns : (Fact.dnsReleased ref).Holds sh.ops) :
    Leads sh tokens (sh.completeTcpConnected ref) tokens := by
  unfold Shared.completeTcpConnected
  split
  · next s origin attempts received found =>
    refine .guard fun open_ => ?_
    have pending : s.terminal = false := by simp at open_; exact open_.2
    have coherent := sane.ops _ (List.mem_of_getElem? found)
    obtain ⟨occupancy, queued, metric, isOccupancy, isQueued, isMetric⟩ := (coherent.op.2 pending).permits
    have noBorrow : s.dnsBorrow = none := by
      obtain ⟨entry, found', released⟩ := dns
      obtain rfl := Option.some.inj (found.symm.trans found')
      exact released.resolve_left (by simp [pending])
    have leaves : OpEntry.leavesMap ⟨.connect s, origin, attempts, received⟩
        ⟨.connect ((s.connected (.completed (.session sh.ios.length))).takeTerminalJob ref).1, origin,
          attempts ++ [.completed (.session sh.ios.length)], received⟩ = true := by
      simp [pending]
    have moves := openSession_moves sane (Shared.newSession s [occupancy, queued, metric]) found
      (connected_section coherent pending noBorrow isOccupancy isQueued isMetric sh.ios.length)
      (newSession_permits _ _) (newSession_coherent _ _) rfl
    simp only [Shared.afterSection, leaves, if_true] at moves
    simp only [Leads, isOccupancy, isQueued, isMetric, listTokens_enqueueActs]
    exact moves
  · exact .idle

theorem completeTlsTransportConnected_moves (sane : Sane sh tokens) :
    Leads sh tokens (sh.completeTlsTransportConnected ref) tokens := by
  unfold Shared.completeTlsTransportConnected
  split
  · next s origin attempts received found =>
    refine .guard fun open_ => ?_
    obtain ⟨⟨⟨-, connect⟩, -⟩, pending⟩ : ((sh.core.lifecycle = .running ∧ s.upgrade = false) ∧
        sh.current .tls ref = true) ∧ s.terminal = false := by simpa using open_
    have coherent := sane.ops _ (List.mem_of_getElem? found)
    rcases coherent.op.2.1 pending with ⟨reserved, -⟩ | ⟨noOccupancy, noQueued, noMetric⟩
    · obtain ⟨occupancy, queued, metric, isOccupancy, isQueued, isMetric⟩ := reserved.permits
      have moves := openSession_moves sane (Shared.newSession s.toConnectState [occupancy, queued, metric])
        found (transport_section pending connect isOccupancy isQueued isMetric)
        (newSession_permits _ _) (newSession_coherent _ _) rfl
      have stays : OpEntry.leavesMap ⟨.tls s, origin, attempts, received⟩
          ⟨.tls s.transportTaken, origin, attempts, received⟩ = false := by
        simp
      simp only [Shared.afterSection, stays, Bool.false_eq_true, if_false, jobTokens_none] at moves
      simp only [Leads, isOccupancy, isQueued, isMetric]
      exact moves
    · simp only [noOccupancy, noQueued, noMetric]
      exact .idle
  · exact .idle

theorem completeUpgrade_coherent {io : TcpIo} (coherent : io.Coherent) (upgrade : Bool) :
    (if upgrade then io.completeUpgrade else io).Coherent := by
  cases upgrade
  · exact coherent
  · exact ⟨coherent.finish, coherent.unregistered, coherent.release⟩

/-- `complete_tls_connected` never loses, so that the connection is not dropped under the lock. -/
theorem completeTlsConnected_moves (sane : Sane sh tokens) :
    Leads sh tokens (sh.completeTlsConnected ref) tokens := by
  unfold Shared.completeTlsConnected
  split
  · next s isTls =>
    refine .guard fun open_ => ?_
    have current : sh.current .tls ref = true := by simp at open_; exact open_.2
    split
    · exact .idle
    rename_i io listed
    split
    · exact .idle
    rename_i session foundIo
    refine .guard fun _ => ?_
    obtain ⟨entry, found, there⟩ := Shared.current_iff.mp current
    obtain ⟨entry', found', isKind, -, isPending⟩ := sane.tables .tls _ ref there
    obtain rfl := Option.some.inj (found.symm.trans found')
    have isOp : entry.op = .tls s := by simpa [Shared.op?, found] using isTls
    have pending := isPending rfl
    have won : ∀ c, (entry.op.commit ref c).2.won = true := fun c => by
      rw [(Op.commit_won c).1, pending]
      rfl
    have leaves : ∀ c, entry.leavesMap (entry.committed ref c) = true := fun c => by
      simp only [OpEntry.leavesMap, isKind, OpKind.twoPhase, pending, OpEntry.committed, Op.commit_isTerminal]
      rfl
    have first : Moves Move sh tokens
        { sh with ios := sh.ios.set io (if s.upgrade then session.completeUpgrade else session) } tokens := by
      refine Moves.one (.endow [] foundIo
        (completeUpgrade_coherent (sane.sessions _ (List.mem_of_getElem? foundIo)).1 _) ?_ ?_) tokens (zero_add _).symm (zero_add _).symm
      all_goals split <;> simp [TcpIo.completeUpgrade, TcpIo.permits]
    have second := commitConnect_moves (Moves.sane first sane) found
      (by rw [isKind]; rfl) (.completed (.session io))
    have isId : entry.op.id = s.id := by rw [isOp]; rfl
    simp only [Shared.afterSection, leaves, if_true] at second
    rw [isKind, isId] at second
    simp only [Leads, Shared.commitOp, found, won, if_true, listTokens_cons, listTokens_nil, add_zero, Act.tokens]
    exact first.trans second
  · exact .idle

theorem completeTcpState_moves (sane : Sane sh tokens) (c : Done) :
    Leads sh tokens (sh.completeTcpState ref c) tokens := by
  have moves := completeLocked_moves sane .connect rfl ref c
  unfold Shared.completeTcpState
  rcases result : sh.completeLocked .connect ref c with ⟨sh₁, won⟩
  rw [result] at moves
  cases won <;> simpa [Leads, Act.tokens] using moves

theorem completeTlsState_moves (sane : Sane sh tokens) (c : Done) :
    Leads sh tokens (sh.completeTlsState ref c) tokens := by
  unfold Shared.completeTlsState
  split
  · exact .idle
  rename_i op isOp
  split
  · have moves := completeLocked_moves sane .tls rfl ref c
    rcases result : sh.completeLocked .tls ref c with ⟨sh₁, won⟩
    rw [result] at moves
    have aborts : listTokens Act.tokens ((Shared.tlsAbort c).bind fun abort =>
        (sh.core.liveTcp.lookup op.id).map (Act.abort · abort)).toList = 0 := by
      apply listTokens_eq_zero
      intro act mem
      obtain ⟨abort, -, isAct⟩ := Option.bind_eq_some_iff.mp (Option.mem_toList.mp mem)
      obtain ⟨io, -, rfl⟩ := Option.map_eq_some_iff.mp isAct
      rfl
    cases won <;> simpa [Leads, Act.tokens, aborts] using moves
  · exact .idle

end Transports

/-! ## Other sections on one operation -/

section OnOne

variable {ref : Nat}

/-- A section on one operation that only takes its job. -/
theorem sectionOn_moves {run : Op → Op × Effect}
    (sound : ∀ entry, sh.ops[ref]? = some entry → Section ref entry { entry with op := (run entry.op).1 }
      (run entry.op).2 [] ∧ entry.leavesMap { entry with op := (run entry.op).1 } = false) :
    Moves Move sh tokens (sh.sectionOn ref run).1 (jobTokens (sh.sectionOn ref run).2 + tokens) := by
  unfold Shared.sectionOn
  split
  · simpa using Moves.refl
  next entry found =>
  obtain ⟨isSound, stays⟩ := sound entry found
  have moves : Moves Move sh tokens _ _ := section_moves found isSound stays
  simpa using moves

theorem activateCallback_moves (sane : Sane sh tokens) :
    Moves Move sh tokens (sh.sectionOn ref (·.activateCallback ref)).1
      (jobTokens (sh.sectionOn ref (·.activateCallback ref)).2 + tokens) := by
  refine sectionOn_moves fun entry found => ?_
  have coherent := sane.ops entry (List.mem_of_getElem? found)
  -- The section attempts no commit, so the record is terminal after it only if it was before.
  have before := coherent.isTerminal_iff
  rw [← (coherent.later (.single (.activate ref))).coherent.isTerminal_iff] at before
  exact ⟨activateCallback_section coherent, by simp [OpEntry.leavesMap, Bool.eq_iff_iff.mpr before.symm]⟩

theorem publish_moves (sane : Sane sh tokens) (terminal : (Fact.terminal ref).Holds sh.ops) :
    Moves Move sh tokens (sh.sectionOn ref (·.publishTerminal ref)).1
      (jobTokens (sh.sectionOn ref (·.publishTerminal ref)).2 + tokens) := by
  refine sectionOn_moves fun entry found => ?_
  obtain ⟨entry', found', isTerminal⟩ := terminal
  obtain rfl := Option.some.inj (found.symm.trans found')
  exact ⟨publishTerminal_section (sane.ops entry (List.mem_of_getElem? found)) isTerminal,
    by simp [OpEntry.leavesMap, isTerminal]⟩

theorem waiterRead_moves (waiter : (Fact.waiter ref).Holds sh.ops) :
    Moves Move sh tokens (sh.waiterRead ref) tokens := by
  obtain ⟨entry, found, noCallback⟩ := waiter
  have moves : Moves Move sh tokens _ tokens := quietSection_moves found (tryCompletion_section noCallback) rfl
    (by rw [OpEntry.leavesMap, (Op.tryCompletion_frame entry.op).2]; simp)
  simp only [Shared.waiterRead, found]
  simpa [Shared.update, Shared.count, Counters.releaseAll] using moves

theorem streamSection_moves (sane : Sane sh tokens)
    {run : ResponsePair → ResponsePair × Option Done × Option Done}
    (step : ∀ pair, StreamStep pair (run pair)) :
    Moves Move sh tokens (sh.streamSection ref run) tokens := by
  unfold Shared.streamSection
  split
  · next s origin attempts received found =>
    exact quietSection_moves found (stream_section (sane.ops _ (List.mem_of_getElem? found)) (step s.response)) rfl
      rfl
  · exact .refl

theorem releasePermits_moves : Moves Move sh tokens (sh.releasePermits ref) tokens := by
  unfold Shared.releasePermits
  split
  · next s origin attempts received found =>
    exact quietSection_moves found releasePermits_section rfl rfl
  · exact .refl

end OnOne

/-! ## Sections on one session -/

section OnSession

variable {io : Nat}

theorem ioActs_tokens (id : RequestId) (effect : IoEffect) :
    listTokens Act.tokens (Shared.ioActs id effect) =
      permitTokens (effect.release.getD []) + jobTokens effect.job := by
  unfold Shared.ioActs
  rw [listTokens_append, listTokens_enqueueActs]
  cases effect.release with
  | none => simp
  | some permits =>
    simp only [listTokens_append, listTokens_dropPermit, listTokens_cons, listTokens_nil, Act.tokens,
      Option.getD_some, add_zero]

theorem ioSection_moves (sane : Sane sh tokens) {run : TcpIo → TcpIo × IoEffect}
    (sound : ∀ session : TcpIo, session.Coherent → IoSound io session (run session)) :
    Leads sh tokens (sh.ioSection io run) tokens := by
  unfold Shared.ioSection
  split
  · exact .idle
  · next session found =>
    have isSound := sound session (sane.sessions session (List.mem_of_getElem? found)).1
    exact Moves.one (.session found isSound) tokens (zero_add _).symm (by rw [ioActs_tokens])

end OnSession

end NbReq
