import NbReq.Registry.Move

/-!
# The invariant of the registry

`Sane` is what holds of the shared state and of the tokens of all threads between any two moves: the records
and sessions are coherent, the maps of connects only hold pending ones, ids are fresh, queued and taken jobs
report the winner of their operation, and no `expect` has failed.

1. `Move.ops_step`: a move only changes entries along `OpChange`.
2. `Move.sane`: every move keeps the invariant.
-/

namespace NbReq

/-! ## Jobs and tokens -/

/-- A job of an operation reports the operation's winner to the callback it was accepted with. -/
def CallbackJob.Ok (ops : List OpEntry) (job : CallbackJob) : Prop :=
  job.kind = .terminal ∧
    match job.body with
    | .operation ref completion => ∃ entry, ops[ref]? = some entry ∧ entry.winner = some completion ∧
        entry.origin = some job.callback ∧ entry.op.id = job.requestId
    | .finish _ _ => True

def Token.Ok (ops : List OpEntry) : Token → Prop
  | .job taken => taken.Ok ops
  | .running taken => taken.Ok ops
  | .known fact => fact.Holds ops
  | .permit _ => True

/-! ## Growth

What is true of an operation and cannot become false. -/

variable {token : Token}

/-- Every entry is still there, changed only as entries change. -/
def OpsGrow (ops ops' : List OpEntry) : Prop :=
  ∀ (ref : Nat) (entry : OpEntry), ops[ref]? = some entry →
    ∃ entry', ops'[ref]? = some entry' ∧ entry.Later entry'

section Growth

variable {ops ops' : List OpEntry}

theorem OpsGrow.of_step (step : Heap.Step OpChange OpEntry.Fresh ops ops')
    (coherent : ∀ entry ∈ ops, entry.Coherent) : OpsGrow ops ops' := by
  intro ref entry found
  obtain ⟨entry', found', changes⟩ := step.lookup found
  exact ⟨entry', found', (coherent entry (List.mem_of_getElem? found)).later changes⟩

theorem OpEntry.Later.kind {entry entry' : OpEntry} (later : entry.Later entry') :
    entry'.op.kind = entry.op.kind := congrArg (·.2.1) later.identity

theorem OpEntry.Later.id {entry entry' : OpEntry} (later : entry.Later entry') :
    entry'.op.id = entry.op.id := congrArg (·.1) later.identity

theorem OpEntry.Later.family {entry entry' : OpEntry} (later : entry.Later entry') :
    entry'.op.family = entry.op.family := congrArg (·.2.2) later.identity

theorem CallbackJob.Ok.mono {job : CallbackJob} (grow : OpsGrow ops ops') (ok : job.Ok ops) :
    job.Ok ops' := by
  obtain ⟨kind, body⟩ := ok
  refine ⟨kind, ?_⟩
  revert body
  cases job.body with
  | finish => exact id
  | operation ref completion =>
    rintro ⟨entry, found, won, origin, requestId⟩
    obtain ⟨entry', found', later⟩ := grow ref entry found
    exact ⟨entry', found', later.winner won, later.origin.trans origin, later.id.trans requestId⟩

theorem Fact.Holds.mono {fact : Fact} (grow : OpsGrow ops ops') (coherent : ∀ entry ∈ ops, entry.Coherent)
    (holds : fact.Holds ops) : fact.Holds ops' := by
  cases fact with
  | onePhase op =>
    obtain ⟨entry, found, kind⟩ := holds
    obtain ⟨entry', found', later⟩ := grow op entry found
    exact ⟨entry', found', by rw [later.kind]; exact kind⟩
  | streaming op =>
    obtain ⟨entry, found, kind⟩ := holds
    obtain ⟨entry', found', later⟩ := grow op entry found
    exact ⟨entry', found', later.kind.trans kind⟩
  | terminal op =>
    obtain ⟨entry, found, terminal⟩ := holds
    obtain ⟨entry', found', later⟩ := grow op entry found
    exact ⟨entry', found', later.isTerminal (coherent entry (List.mem_of_getElem? found)) terminal⟩
  | dnsReleased op =>
    obtain ⟨entry, found, released⟩ := holds
    obtain ⟨entry', found', later⟩ := grow op entry found
    exact ⟨entry', found', later.dnsReleased released⟩
  | waiter op =>
    obtain ⟨entry, found, origin⟩ := holds
    obtain ⟨entry', found', later⟩ := grow op entry found
    exact ⟨entry', found', later.origin.trans origin⟩
  | submitted submission =>
    obtain ⟨entry, found, kind⟩ := holds
    obtain ⟨entry', found', later⟩ := grow submission.op entry found
    exact ⟨entry', found', later.kind.trans kind⟩

theorem Token.Ok.mono (grow : OpsGrow ops ops') (coherent : ∀ entry ∈ ops, entry.Coherent)
    (ok : token.Ok ops) : token.Ok ops' := by
  cases token with
  | job job | running job => exact CallbackJob.Ok.mono grow ok
  | known fact => exact Fact.Holds.mono grow coherent ok
  | permit => trivial

end Growth

/-! ## The maps -/

/-- A map sends an id to an operation of its kind, and a map of connects to a pending one. -/
def Tables (core : CoreState) (ops : List OpEntry) : Prop :=
  ∀ (kind : OpKind) (id : RequestId) (ref : Nat), (core.table kind).lookup id = some ref →
    ∃ entry, ops[ref]? = some entry ∧ entry.op.kind = kind ∧ entry.op.id = id ∧
      (kind.twoPhase = true → entry.op.isTerminal = false)

/-- Ids are below the next one of the sequence. -/
structure Identities (next : Nat) (ops : List OpEntry) : Prop where
  below : ∀ entry ∈ ops, entry.op.id.sequence < next
  bound : next ≤ u64Max

section Maps

variable {core : CoreState} {ops : List OpEntry} {ref : Nat} {entry entry' : OpEntry} {next : Nat}

/-- A section on one operation: a connect leaves its map when it becomes terminal, and only then. -/
theorem Tables.update (tables : Tables core ops) (found : ops[ref]? = some entry) (later : entry.Later entry') :
    Tables (if entry.leavesMap entry' then core.remove entry.op.kind entry.op.id else core)
      (ops.set ref entry') := by
  intro kind id ref' there
  -- An entry that is still listed was listed before, and did not become terminal as a connect.
  have before : (core.table kind).lookup id = some ref' ∧
      ¬(entry.leavesMap entry' = true ∧ kind = entry.op.kind ∧ id = entry.op.id) := by
    split at there
    · next leaves =>
      rw [CoreState.lookup_remove] at there
      split at there
      · cases there
      · next apart => exact ⟨there, fun h => apart h.2⟩
    · next stays => exact ⟨there, fun h => stays h.1⟩
  obtain ⟨other, found', isKind, isId, pending⟩ := tables kind id ref' before.1
  by_cases same : ref = ref'
  · subst same
    obtain rfl : entry = other := Option.some.inj (found.symm.trans found')
    refine ⟨entry', List.getElem?_set_self (List.getElem?_eq_some_iff.mp found).1, later.kind.trans isKind,
      later.id.trans isId, ?_⟩
    intro twoPhase
    by_contra terminal
    apply before.2
    rw [← isKind] at twoPhase
    refine ⟨?_, isKind.symm, isId.symm⟩
    simp [OpEntry.leavesMap, twoPhase, pending (isKind ▸ twoPhase), terminal]
  · exact ⟨other, by rw [List.getElem?_set_ne same, found'], isKind, isId, pending⟩

theorem Identities.update (identities : Identities next ops) (found : ops[ref]? = some entry)
    (later : entry.Later entry') : Identities next (ops.set ref entry') := by
  refine ⟨?_, identities.bound⟩
  intro other mem
  rcases Heap.mem_set_cases mem with there | rfl
  · exact identities.below other there
  · rw [later.id]
    exact identities.below entry (List.mem_of_getElem? found)

@[simp] theorem CoreState.table_nextSequence (core : CoreState) (next : Nat) (kind : OpKind) :
    { core with nextSequence := next }.table kind = core.table kind := by
  cases kind <;> rfl

theorem Tables.of_table_eq {core' : CoreState} (tables : Tables core ops)
    (same : ∀ kind, core'.table kind = core.table kind) : Tables core' ops :=
  fun kind => by rw [same]; exact tables kind

theorem Tables.accept (tables : Tables core ops) (entry : OpEntry) (pending : entry.op.isTerminal = false)
    (next : Nat) : Tables ({ core with nextSequence := next }.insert entry.op.kind entry.op.id ops.length)
      (ops ++ [entry]) := by
  intro kind id ref' there
  rw [CoreState.lookup_insert, CoreState.table_nextSequence] at there
  split at there
  · next same =>
    obtain ⟨rfl, rfl⟩ := same
    obtain rfl := Option.some.inj there
    exact ⟨entry, by simp, rfl, rfl, fun _ => pending⟩
  · obtain ⟨other, found, isKind, isId, stillPending⟩ := tables kind id ref' there
    have bound := (List.getElem?_eq_some_iff.mp found).1
    exact ⟨other, by rw [List.getElem?_append_left bound, found], isKind, isId, stillPending⟩

theorem Tables.remove (tables : Tables core ops) (kind : OpKind) (id : RequestId) :
    Tables (core.remove kind id) ops := by
  intro kind' id' ref' there
  rw [CoreState.lookup_remove] at there
  split at there
  · cases there
  · exact tables kind' id' ref' there

theorem Identities.accept {next' : Nat} (identities : Identities next ops) (entry : OpEntry)
    (id : entry.op.id.sequence < next') (grows : next ≤ next') (bound : next' ≤ u64Max) :
    Identities next' (ops ++ [entry]) := by
  refine ⟨?_, bound⟩
  intro other mem
  rcases List.mem_append.mp mem with old | new
  · exact Nat.lt_of_lt_of_le (identities.below other old) grows
  · rw [List.mem_singleton.mp new]
    exact id

end Maps

/-! ## Sessions -/

/-- Sessions are coherent, and their ids below the next one of the sequence. -/
def Sessions (next : Nat) (ios : List TcpIo) : Prop := ∀ io ∈ ios, io.Coherent ∧ io.id.sequence < next

section Sessions

variable {next next' : Nat} {ios : List TcpIo} {ref : Nat} {io io' : TcpIo}

theorem Sessions.mono (sessions : Sessions next ios) (grows : next ≤ next') : Sessions next' ios :=
  fun io mem => ⟨(sessions io mem).1, Nat.lt_of_lt_of_le (sessions io mem).2 grows⟩

theorem Sessions.update (sessions : Sessions next ios) (found : ios[ref]? = some io) (coherent : io'.Coherent)
    (id : io'.id = io.id) : Sessions next (ios.set ref io') := by
  intro other mem
  rcases Heap.mem_set_cases mem with old | rfl
  · exact sessions other old
  · exact ⟨coherent, by rw [id]; exact (sessions io (List.mem_of_getElem? found)).2⟩

theorem Sessions.open (sessions : Sessions next ios) (coherent : io.Coherent) (id : io.id.sequence < next) :
    Sessions next (ios ++ [io]) := by
  intro other mem
  rcases List.mem_append.mp mem with old | new
  · exact sessions other old
  · rw [List.mem_singleton.mp new]
    exact ⟨coherent, id⟩

end Sessions

/-! ## The invariant -/

/-- What holds of the shared state and of the tokens of all threads. -/
structure Sane (sh : Shared) (tokens : Multiset Token) : Prop where
  ops : ∀ entry ∈ sh.ops, entry.Coherent
  tables : Tables sh.core sh.ops
  identities : Identities sh.core.nextSequence sh.ops
  sessions : Sessions sh.core.nextSequence sh.ios
  jobs : ∀ job ∈ sh.dispatch.queue, job.Ok sh.ops
  queue : ∀ submission ∈ sh.queue, (Fact.submitted submission).Holds sh.ops
  reactor : sh.reactor.Sane sh.ops
  tokens : ∀ token ∈ tokens, token.Ok sh.ops
  calm : sh.panicked = false

section Sane

variable {sh sh' : Shared} {used given others tokens : Multiset Token}

theorem Shared.removeOp_ops (sh : Shared) (ref : Nat) : (sh.removeOp ref).ops = sh.ops := by
  unfold removeOp
  split <;> rfl

/-- A move only changes entries along `OpChange`, and only adds entries of new operations. -/
theorem Move.ops_step (move : Move sh used sh' given) (sane : Sane sh (used + others)) :
    Heap.Step OpChange OpEntry.Fresh sh.ops sh'.ops := by
  cases move with
  | accept _ _ _ fresh => exact .alloc fresh
  | «section» found sound => exact .update found sound.change
  | remove ref => rw [Shared.removeOp_ops]; exact .refl _
  | deliver job =>
    have ok : job.Ok sh.ops := sane.tokens (.running job) (by simp)
    unfold Shared.invoke
    obtain ⟨-, body⟩ := ok
    split
    · next op completion isOperation =>
      rw [isOperation] at body
      obtain ⟨entry, found, won, -⟩ := body
      simp only [found]
      exact .update found (.deliver won)
    · exact .refl _
  | _ => exact .refl _

theorem mem_permitTokens {permits : List Permit} (mem : token ∈ permitTokens permits) :
    ∃ permit ∈ permits, token = .permit permit := by
  obtain ⟨permit, there, rfl⟩ := List.mem_map.mp (Multiset.mem_coe.mp mem)
  exact ⟨permit, there, rfl⟩

theorem mem_jobTokens {job : Option CallbackJob} (mem : token ∈ jobTokens job) :
    ∃ taken ∈ job, token = .job taken := by
  cases job with
  | none => simp [jobTokens] at mem
  | some taken => exact ⟨taken, rfl, by simpa [jobTokens] using mem⟩

theorem permitTokens_ok (permits : List Permit) (ops : List OpEntry) :
    ∀ token ∈ permitTokens permits, token.Ok ops := by
  intro token mem
  obtain ⟨permit, -, rfl⟩ := mem_permitTokens mem
  trivial

/-- The invariant of the new state, given what a move changed. Everything that only depends on the growth of
the heaps is kept. -/
theorem Sane.advance (sane : Sane sh (used + others)) (move : Move sh used sh' given)
    (tables : Tables sh'.core sh'.ops) (identities : Identities sh'.core.nextSequence sh'.ops)
    (sessions : Sessions sh'.core.nextSequence sh'.ios)
    (jobs : ∀ job ∈ sh'.dispatch.queue, job ∈ sh.dispatch.queue ∨ job.Ok sh'.ops)
    (queue : ∀ submission ∈ sh'.queue, submission ∈ sh.queue ∨
      (Fact.submitted submission).Holds sh'.ops)
    (reactor : sh.reactor.Sane sh'.ops → sh'.reactor.Sane sh'.ops)
    (new : ∀ token ∈ given, token.Ok sh'.ops) (calm : sh'.panicked = false) :
    Sane sh' (given + others) := by
  have step := move.ops_step sane
  have grow := OpsGrow.of_step step sane.ops
  have known : ∀ fact : Fact, fact.Holds sh.ops → fact.Holds sh'.ops := fun _ holds => holds.mono grow sane.ops
  constructor
  · exact step.all (fun _ fresh => fresh.coherent) (fun _ _ coherent change => change.coherent coherent)
      sane.ops
  · exact tables
  · exact identities
  · exact sessions
  · intro job mem
    rcases jobs job mem with old | ok
    · exact (sane.jobs job old).mono grow
    · exact ok
  · intro submission mem
    rcases queue submission mem with old | holds
    · exact known _ (sane.queue submission old)
    · exact holds
  · exact reactor ⟨fun op mem => known _ (sane.reactor.active op mem),
      fun op mem => known _ (sane.reactor.resolves op mem)⟩
  · intro token mem
    rcases Multiset.mem_add.mp mem with fresh | old
    · exact new token fresh
    · exact (sane.tokens token (Multiset.mem_add.mpr (.inr old))).mono grow sane.ops
  · exact calm

theorem CallbackJob.Reports.ok {ops : List OpEntry} {ref : Nat} {entry' : OpEntry} {job : CallbackJob}
    {id : RequestId} {origin : Option Callback} (reports : job.Reports ref id entry'.winner origin)
    (found : ops[ref]? = some entry') (sameId : entry'.op.id = id) (sameOrigin : entry'.origin = origin) :
    job.Ok ops := by
  obtain ⟨kind, requestId, callback, completion, body, won⟩ := reports
  refine ⟨kind, ?_⟩
  rw [body]
  exact ⟨entry', found, won, sameOrigin.trans callback, sameId.trans requestId.symm⟩

theorem Section.tokens_ok {ref : Nat} {entry entry' : OpEntry} {effect : Effect} {moved : List Permit}
    {ops : List OpEntry} (sound : Section ref entry entry' effect moved) (found : ops[ref]? = some entry')
    (later : entry.Later entry') : ∀ token ∈ jobTokens effect.job + permitTokens moved, token.Ok ops := by
  intro token mem
  rcases Multiset.mem_add.mp mem with job | permit
  · obtain ⟨taken, isTaken, rfl⟩ := mem_jobTokens job
    exact (sound.job taken isTaken).ok found later.id later.origin
  · exact permitTokens_ok moved ops token permit

theorem NewIdentity.free {op : Op} {next : Nat} (sane : Sane sh tokens) (identity : NewIdentity sh op next) :
    (sh.core.table op.kind).lookup op.id = none := by
  cases identity with
  | upgrade _ free _ => exact free
  | sequence _ id _ =>
    -- A listed id belongs to an operation, and the new id is above all of those.
    rw [Option.eq_none_iff_forall_ne_some]
    intro ref there
    obtain ⟨entry, found, -, isId, -⟩ := sane.tables _ _ ref there
    have := sane.identities.below entry (List.mem_of_getElem? found)
    rw [isId, id] at this
    exact Nat.lt_irrefl _ this

theorem Move.sane (move : Move sh used sh' given) (sane : Sane sh (used + others)) :
    Sane sh' (given + others) := by
  have keep := sane.advance move
  cases move with
  | learn fact holds =>
    exact keep sane.tables sane.identities sane.sessions (fun _ h => .inl h) (fun _ h => .inl h) id
      (fun token mem => by rw [Multiset.mem_singleton.mp mem]; exact holds) sane.calm
  | surroundings s advances =>
    refine keep (sane.tables.of_table_eq fun kind => by cases kind <;> rfl) ?_
      (sane.sessions.mono advances.sequence) (fun _ h => .inl h) (fun _ h => .inl (advances.queue _ h))
      advances.reactor (by simp) sane.calm
    refine ⟨fun entry mem => ?_, ?_⟩
    · exact Nat.lt_of_lt_of_le (sane.identities.below entry mem) advances.sequence
    have := advances.bound
    have := sane.identities.bound
    simp only [Shared.surroundings, Shared.within] at *
    omega
  | hangSink free room =>
    refine keep (sane.tables.of_table_eq fun kind => by cases kind <;> rfl) ?_
      (sane.sessions.mono (Nat.le_succ _)) (fun _ h => .inl h) (fun _ h => .inl h) id (by simp) sane.calm
    exact ⟨fun entry mem => Nat.lt_succ_of_lt (sane.identities.below entry mem), room⟩
  | @accept op submission counted next fresh identity submitted =>
    have pending : op.isTerminal = false := by
      have := fresh.coherent.isTerminal_iff
      rw [fresh.attempts] at this
      simpa using this
    have identities : Identities next (sh.ops ++ [{ op := op, origin := op.callback }]) ∧
        sh.core.nextSequence ≤ next := by
      cases identity with
      | sequence _ id room =>
        exact ⟨sane.identities.accept _ (by rw [id]; exact Nat.lt_succ_self _) (Nat.le_succ _) room,
          Nat.le_succ _⟩
      | upgrade _ _ session =>
        obtain ⟨io, mem, isId⟩ := session
        have below := (sane.sessions io mem).2
        rw [isId] at below
        exact ⟨sane.identities.accept _ below le_rfl sane.identities.bound, le_rfl⟩
    have there : (sh.ops ++ [{ op := op, origin := op.callback }])[sh.ops.length]? =
        some { op := op, origin := op.callback } := by simp
    refine keep (sane.tables.accept { op := op, origin := op.callback } pending next) ?_ ?_ (fun _ h => .inl h)
      ?_ id (by simp) sane.calm
    · simpa [Shared.afterAccept] using identities.1
    · simpa [Shared.afterAccept] using sane.sessions.mono identities.2
    intro s mem
    rcases List.mem_append.mp mem with old | new
    · exact .inl old
    · rw [List.mem_singleton.mp new]
      exact .inr ⟨_, by rw [submitted.1]; exact there, submitted.2.symm⟩
  | @«section» ref entry entry' effect moved found sound =>
    have coherent := sane.ops entry (List.mem_of_getElem? found)
    have later := coherent.later (.single sound.change)
    have there : (sh.ops.set ref entry')[ref]? = some entry' :=
      List.getElem?_set_self (List.getElem?_eq_some_iff.mp found).1
    refine keep (sane.tables.update found later) ?_ ?_ (fun _ h => .inl h) (fun _ h => .inl h) id
      (sound.tokens_ok there later) ?_
    · have := sane.identities.update found later
      unfold Shared.afterSection
      split <;> simpa [Shared.update] using this
    · have := sane.sessions
      unfold Shared.afterSection
      split <;> simpa [Shared.update] using this
    · simp [Shared.afterSection, Shared.update, sane.calm, sound.calm]
  | remove ref =>
    unfold Shared.removeOp at keep ⊢
    split at keep
    · exact keep (sane.tables.remove _ _) (by simpa using sane.identities) (by simpa using sane.sessions) (fun _ h => .inl h)
        (fun _ h => .inl h) id (by simp) sane.calm
    · exact sane
  | deliver job =>
    have ok : job.Ok sh.ops := sane.tokens (.running job) (by simp)
    cases isBody : job.body with
    | finish io result =>
      have same : sh.invoke job = sh := by simp [Shared.invoke, isBody]
      rw [same] at keep ⊢
      exact keep sane.tables sane.identities sane.sessions (fun _ h => .inl h) (fun _ h => .inl h) id
        (permitTokens_ok _ _) sane.calm
    | operation ref completion =>
      obtain ⟨-, body⟩ := ok
      rw [isBody] at body
      obtain ⟨entry, found, won, -⟩ := body
      have delivered : sh.invoke job = { sh with
          ops := sh.ops.set ref { entry with received := entry.received ++ [completion] } } := by
        simp [Shared.invoke, isBody, found]
      rw [delivered] at keep ⊢
      have coherent := sane.ops entry (List.mem_of_getElem? found)
      have later := coherent.later (.single (.deliver won))
      have tables := sane.tables.update found later
      rw [if_neg (by simp [OpEntry.leavesMap])] at tables
      exact keep tables (sane.identities.update found later) sane.sessions (fun _ h => .inl h)
        (fun _ h => .inl h) id (permitTokens_ok _ _) sane.calm
  | openSession session coherent owner =>
    obtain ⟨entry, there, isId⟩ := owner
    exact keep (sane.tables.of_table_eq fun kind => by cases kind <;> rfl) sane.identities
      (sane.sessions.open coherent (isId ▸ sane.identities.below entry there)) (fun _ h => .inl h) (fun _ h => .inl h) id (by simp)
      sane.calm
  | @session io session session' effect found sound =>
    have calm : effect.panicked = false := sound.calm
    refine keep sane.tables sane.identities
      (sane.sessions.update found sound.coherent sound.id)
      (fun _ h => .inl h) (fun _ h => .inl h) id ?_ (by simp [sane.calm, calm])
    intro token mem
    rcases Multiset.mem_add.mp mem with permit | job
    · exact permitTokens_ok _ _ token permit
    · obtain ⟨taken, isTaken, rfl⟩ := mem_jobTokens job
      obtain ⟨kind, -, outcome, body⟩ := sound.job taken isTaken
      exact ⟨kind, by rw [body]; trivial⟩
  | endow permits found coherent id owns =>
    exact keep sane.tables sane.identities (sane.sessions.update found coherent id)
      (fun _ h => .inl h) (fun _ h => .inl h) (fun h => h) (by simp) sane.calm
  | closeSession id =>
    exact keep (sane.tables.of_table_eq fun kind => by cases kind <;> rfl) sane.identities sane.sessions
      (fun _ h => .inl h) (fun _ h => .inl h) (fun h => h) (by simp) sane.calm
  | @enqueue job dispatch taken =>
    have ok : job.Ok sh.ops := sane.tokens (.job job) (by simp)
    refine keep sane.tables sane.identities sane.sessions ?_ (fun _ h => .inl h) id (by simp) sane.calm
    intro other mem
    unfold DispatchState.enqueueTerminal at taken
    split at taken
    · cases taken
    obtain rfl := Option.some.inj taken
    rcases List.mem_append.mp mem with old | new
    · rw [DispatchState.makeRoom_eq fun other there => (sane.jobs other there).1] at old
      exact .inl old
    · rw [List.mem_singleton.mp new]
      exact .inr ok
  | @take job dispatch taken =>
    have perm := (DispatchState.takeRunnable_eq_some taken).1
    refine keep sane.tables sane.identities sane.sessions
      (fun other mem => .inl (perm.mem_iff.mpr (List.mem_cons_of_mem _ mem))) (fun _ h => .inl h) id ?_
      sane.calm
    intro token mem
    rw [Multiset.mem_singleton.mp mem]
    exact sane.jobs job (perm.mem_iff.mpr List.mem_cons_self)
  | dispatch dispatch queue =>
    exact keep sane.tables sane.identities sane.sessions (fun _ mem => .inl (queue ▸ mem))
      (fun _ h => .inl h) id (by simp) sane.calm
  | acquire permit fits =>
    exact keep sane.tables sane.identities sane.sessions (fun _ h => .inl h) (fun _ h => .inl h) id
      (fun token mem => by rw [Multiset.mem_singleton.mp mem]; trivial) sane.calm
  | discard job =>
    exact keep sane.tables sane.identities sane.sessions (fun _ h => .inl h) (fun _ h => .inl h) id
      (permitTokens_ok _ _) sane.calm
  | forget | release | hang =>
    exact keep sane.tables sane.identities sane.sessions (fun _ h => .inl h) (fun _ h => .inl h) id
      (by simp) sane.calm

theorem Moves.sane {tokens' : Multiset Token} (moves : Ledger.Moves Move sh tokens sh' tokens')
    (sane : Sane sh tokens) : Sane sh' tokens' :=
  moves.invariant Sane (fun _ _ _ _ _ sane move => move.sane sane) sane

end Sane

end NbReq
