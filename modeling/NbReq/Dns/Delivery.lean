import NbReq.Dns.Moves
import NbReq.Lib.Scripts

/-!
# One result for each lookup

The runs of the resolver thread, from its start. As long as no datagram is taken for a query that has fallen back to
TCP, the indexes of the pending queries are exact (`Reached.indexes_exact`), and a lookup that is not cancelled has one
query in flight or one result, while a cancelled one gets no result any more (`Reached.delivered_once`).

A run in which such a datagram arrives loses a lookup: `a_lookup_is_lost`.
-/

namespace NbReq.Dns

open InFlight Script

/-- The thread as `NativeResolver::new_inner` starts it, with the socket connected to a nameserver. -/
def Thread.new (config : ResolverConfig) (current : Nat) (nextConfigRefresh : Option Instant) : Thread where
  resolver :=
    { pending := ∅, byKey := ∅, tcpByToken := ∅, nextTcpToken := firstTcpToken, currentNameserver := current
      udpGeneration := 1, configGeneration := 1, configAvailable := true, configError := none, configDirty := false
      nextConfigRefresh, cache := .new, config, socket := true, results := [], controls := [], asked := 0
      accepted := [], withdrawn := [], cancelled := [], cacheEvents := [], requests := [] }
  point := .top

/-- The thread can get there by such steps from a start. -/
def Reached (step : Thread → Thread → Prop) (thread : Thread) : Prop :=
  ∃ config current nextConfigRefresh, current < config.snapshot.nameservers.length ∧
    Relation.ReflTransGen step (Thread.new config current nextConfigRefresh) thread

/-- If the event is a datagram that is taken for a query, the query is still on UDP. -/
def Event.Calm (event : Event) (thread : Thread) : Prop :=
  match event with
  | .datagram bytes _ =>
    ∀ taken ∈ takesDatagram (bytes.take maxPacketLen) thread.resolver, taken.2.1.transport = .udp
  | _ => True

instance (event : Event) (thread : Thread) : Decidable (event.Calm thread) := by
  unfold Event.Calm
  split <;> infer_instance

/-- A step in which no datagram is taken for a query that has fallen back to TCP. -/
def Thread.CalmStep (env : Env) (thread thread' : Thread) : Prop :=
  ∃ event : Event, event.Calm thread ∧ thread.step env event = some thread'

section

variable {env : Env} {key : ResolveKey} {id : UInt16} {r r' : Resolver} {query : PendingQuery}
  {thread thread' : Thread}

/-! ## The nameserver in use -/

/-- The socket, the nameserver it is connected to and the whole configuration. -/
def Resolver.setup (r : Resolver) : Bool × Nat × ResolverConfig := (r.socket, r.currentNameserver, r.config)

/-- The socket, the nameserver it is connected to, and the configuration. -/
def Resolver.standing (r : Resolver) : Bool × Nat × Bool × ResolverConfig :=
  (r.socket, r.currentNameserver, r.configAvailable, r.config)

theorem setup_of_standing (same : r'.standing = r.standing) : r'.setup = r.setup :=
  congrArg (fun standing => (standing.1, standing.2.1, standing.2.2.2)) same

theorem route_of_setup (same : r'.setup = r.setup) : r'.route = r.route :=
  congrArg (fun setup => (setup.1, setup.2.1, setup.2.2.snapshot.nameservers)) same

theorem route_of_standing (same : r'.standing = r.standing) : r'.route = r.route :=
  route_of_setup (setup_of_standing same)

theorem standing_of_rest (rest : r'.rest = r.rest) : r'.standing = r.standing := by
  have same : r'.rest.standing = r.rest.standing := congrArg Resolver.standing rest
  exact same

theorem standing_emitFailure {failure : ResolveFailure} :
    ((r.forgetKey query.key).emitFailure query failure).standing = r.standing := standing_of_rest rest_emitFailure

theorem standing_removeQuery : (r.removeQuery id).1.standing = r.standing := by
  unfold Resolver.removeQuery
  split
  · rfl
  · split <;> rfl

theorem standing_dropLookup : (r.dropLookup key).standing = r.standing := by
  unfold Resolver.dropLookup
  split
  · rfl
  · rename_i id _
    have removed : ((r.forgetKey key).removeQuery id).1.standing = r.standing := standing_removeQuery
    split <;> (rename_i isRemoved; rw [isRemoved] at removed; exact removed)

theorem standing_handle {command : Command} : (r.handle env command).standing = r.standing := by
  have accepted : ∀ key, (r.accept key).standing = r.standing := fun key => standing_dropLookup
  cases command with
  | resolve key host => exact (standing_of_rest resolveHost_rest).trans (accepted key)
  | publicResolve key spec => exact (standing_of_rest resolvePublic_rest).trans (accepted key)
  | cancel key =>
    show (r.cancel key).standing = r.standing
    unfold Resolver.cancel
    dsimp only
    split <;> exact standing_dropLookup
  | shutdown => rfl

theorem standing_finishAnswer {result : Except ResolveFailure ParsedAnswer} :
    (finishAnswer env query result r).standing = r.standing := standing_of_rest finishAnswer_concluded.rest

/-- A datagram keeps the socket and the configuration. -/
theorem standing_receivePacket {bytes : Bytes} {io : StreamIo} (received : receivePacket env bytes io r = some r') :
    r'.standing = r.standing := by
  cases receivePacket_receives received with
  | ignored | diverted => rfl
  | answered => exact standing_finishAnswer
  | failed => exact standing_emitFailure

/-- A datagram is handled without a panic if the socket is connected to a nameserver. -/
theorem receivePacket_ne_none {bytes : Bytes} {io : StreamIo} (on : r.socket = true) (routed : Routed r.route) :
    receivePacket env bytes io r ≠ none := by
  obtain ⟨nameserver, found⟩ : ∃ nameserver,
      r.config.snapshot.nameservers[r.currentNameserver]? = some nameserver := ⟨_, List.getElem?_eq_getElem (routed on)⟩
  unfold receivePacket
  split
  · exact nofun
  dsimp only
  split
  · rw [found]
    simp only [Option.bind_eq_bind, Option.bind_some]
    split <;> exact nofun
  · exact nofun

theorem standing_receiveTcp {event : PollReady} {script : TcpScript} :
    (receiveTcp env event script r).standing = r.standing := by
  unfold receiveTcp
  split
  · rfl
  split
  · rfl
  dsimp only
  split
  · rfl
  split
  · rfl
  · exact standing_finishAnswer
  · exact standing_emitFailure

/-! ## What every step keeps -/

/-- The thread listens on its socket, which is connected to one of the nameservers, and has not panicked. -/
structure Listening (thread : Thread) : Prop where
  routed : Routed thread.resolver.route
  packets : ∀ ready, thread.point = .packets ready → thread.resolver.socket = true
  alive : thread.point ≠ .panicked

theorem afterStreams_elsewhere {ready : List PollReady} :
    (∀ streams, afterStreams ready ≠ .packets streams) ∧ afterStreams ready ≠ .panicked ∧
      afterStreams ready ≠ .stopped := by
  unfold afterStreams
  split
  · exact ⟨fun _ => nofun, nofun, nofun⟩
  · exact ⟨fun _ => nofun, nofun, nofun⟩

theorem standing_failAll : r.failAll.standing = r.standing :=
  List.foldlRecOn (motive := fun middle : Resolver => middle.standing = r.standing) _ _ rfl
    fun _ same _ _ => (standing_of_rest rest_emitFailure).trans same

theorem standing_replaceSocket {io : SocketIo} : (r.replaceSocket io).standing = r.standing := by
  unfold Resolver.replaceSocket
  split <;> rfl

variable {event : Event}

theorem Listening.step (listening : Listening thread)
    (step : Stepped env thread event thread') : Listening thread' := by
  have routed : Routed thread.resolver.route := listening.routed
  cases step with
  | wake => exact ⟨wake_looks.routed routed, fun _ => nofun, nofun⟩
  | drained | offline => exact ⟨refreshConfigurationIfDirty_looks.routed routed, fun _ => nofun, nofun⟩
  | command => exact ⟨by rw [route_of_standing standing_handle]; exact routed, fun _ => nofun, nofun⟩
  | shutdown | disconnected => exact ⟨routed, fun _ => nofun, nofun⟩
  | timers => exact ⟨refreshConfigurationIfDirty_looks.routed (transmitDue_timed.routed routed), fun _ => nofun, nofun⟩
  | pollFailed => exact ⟨by rw [route_of_standing standing_failAll]; exact routed, fun _ => nofun, nofun⟩
  | polled at_ =>
    rcases at_ with ⟨on, streams, rfl⟩ | ⟨streams, rfl⟩
    · exact ⟨routed, fun _ _ => on, nofun⟩
    · exact ⟨routed, fun ready at_ => absurd at_ (afterStreams_elsewhere.1 ready), afterStreams_elsewhere.2.1⟩
  | datagram received =>
    have same := route_of_standing (standing_receivePacket received)
    have on : _ = true := listening.packets _ rfl
    exact ⟨by rw [same]; exact routed, fun _ _ => (congrArg Prod.fst same).trans on, nofun⟩
  | panicked received => exact absurd received (receivePacket_ne_none (listening.packets _ rfl) routed)
  | interrupted => exact ⟨routed, listening.packets, nofun⟩
  | blocked =>
    exact ⟨routed, fun ready at_ => absurd at_ (afterStreams_elsewhere.1 ready), afterStreams_elsewhere.2.1⟩
  | @poisoned r ready io =>
    have same : (r.replaceSocket io).route = r.route := route_of_standing standing_replaceSocket
    exact ⟨by rw [same]; exact routed, fun ready at_ => absurd at_ (afterStreams_elsewhere.1 ready),
      afterStreams_elsewhere.2.1⟩
  | stream =>
    exact ⟨by rw [route_of_standing standing_receiveTcp]; exact routed,
      fun ready at_ => absurd at_ (afterStreams_elsewhere.1 ready), afterStreams_elsewhere.2.1⟩

/-- A step that does not stop the thread moves the table of its lookups. -/
theorem Stepped.run (indexed : Indexed thread.resolver.table)
    (balanced : Balanced thread.resolver.table) (calm : event.Calm thread) (step : Stepped env thread event thread') :
    (thread'.resolver = thread.resolver.failAll ∧ thread'.point = .stopped) ∨
      Run thread.resolver.table thread'.resolver.table := by
  cases step with
  | pollFailed => exact .inl ⟨rfl, rfl⟩
  | wake => exact .inr wake_looks.tended.run
  | command => exact .inr (handle_run indexed balanced)
  | drained | offline => exact .inr refreshConfigurationIfDirty_looks.tended.run
  | timers => exact .inr (transmitDue_timed.tended.run.trans refreshConfigurationIfDirty_looks.tended.run)
  | datagram received => exact .inr (receivePacket_run received calm)
  | @poisoned r ready io =>
    have same : (r.replaceSocket io).table = r.table := by
      unfold Resolver.replaceSocket
      split <;> rfl
    exact .inr (run_after .refl same)
  | stream => exact .inr (receiveTcp_run indexed)
  | shutdown | disconnected | polled | panicked | interrupted | blocked => exact .inr .refl

/-- Nothing happens to a thread that has stopped. -/
theorem Stepped.running (step : Stepped env thread event thread') : thread.point ≠ .stopped := by
  cases step <;> exact nofun

/-! ## The end of a failed poll -/

theorem table_failAll : r.failAll.table =
    { r.table with
      jobs := fun _ => none, byKey := fun _ => none
      settled := r.table.settled ++ r.pending.entries.map fun entry => entry.2.key } := by
  have folded : ∀ (entries : List (Sigma fun _ : UInt16 => PendingQuery)) (middle : Resolver)
      (failure : ResolveFailure),
      (entries.foldl (fun r entry => r.emitFailure entry.2 failure) middle).table =
        { middle.table with settled := middle.table.settled ++ entries.map fun entry => entry.2.key } := by
    intro entries
    induction entries with
    | nil => exact fun _ _ => by simp
    | cons first rest ih =>
      intro middle failure
      rw [List.foldl_cons, ih, table_emitFailure]
      simp [Table.settle]
  unfold Resolver.failAll
  rw [folded]
  rfl

/-- Each lookup in flight has one pending query. -/
theorem pendingKeys_count (indexed : Indexed r.table) (key : ResolveKey) :
    (r.pending.entries.map fun entry => entry.2.key).count key = r.table.carried key := by
  have found : ∀ entry ∈ r.pending.entries, r.pending.lookup entry.1 = some entry.2 := by
    intro entry mem
    exact AList.mem_lookup_iff.mpr mem
  have nodup : (r.pending.entries.map fun entry => entry.2.key).Nodup := by
    refine List.Nodup.map_on ?_ r.pending.nodupKeys.nodup
    intro left leftMem right rightMem sameKey
    have leftJob := job_of_pending (found left leftMem)
    have rightJob := job_of_pending (found right rightMem)
    rw [← sameKey] at rightJob
    have sameId : left.1 = right.1 := indexed.unique leftJob rightJob
    have leftFound := found left leftMem
    rw [sameId, found right rightMem] at leftFound
    exact Sigma.ext sameId (heq_of_eq (Option.some.inj leftFound).symm)
  rw [List.Nodup.count nodup]
  cases entry : r.table.byKey key with
  | none =>
    have absent : key ∉ r.pending.entries.map fun entry => entry.2.key := by
      intro mem
      obtain ⟨job, isEntry, rfl⟩ := List.mem_map.mp mem
      exact indexed.no_job entry _ _ (job_of_pending (found job isEntry))
    simp [absent, Table.carried, entry]
  | some id =>
    obtain ⟨token, job⟩ := (indexed.byKey key id).mp entry
    obtain ⟨query, isPending, rfl, -⟩ := pending_of_job job
    have present : query.key ∈ r.pending.entries.map fun entry => entry.2.key :=
      List.mem_map.mpr ⟨⟨id, query⟩, AList.mem_lookup_iff.mp isPending, rfl⟩
    simp [present, Table.carried, entry]

/-! ## Reached threads -/

/-- The indexes are exact, unless the poll has failed and the thread is gone. -/
def IndexedOrGone (thread : Thread) : Prop :=
  Indexed thread.resolver.table ∨
    thread.point = .stopped ∧ (∀ id, thread.resolver.table.jobs id = none) ∧
      ∀ key, thread.resolver.table.byKey key = none

/-- What holds of every thread that is reached by calm steps. -/
structure Sound (thread : Thread) : Prop where
  indexed : IndexedOrGone thread
  balanced : Balanced thread.resolver.table
  quiet : Quiet thread.resolver.table
  listening : Listening thread

theorem Sound.running (sound : Sound thread) (running : thread.point ≠ .stopped) : Indexed thread.resolver.table :=
  sound.indexed.resolve_right fun gone => running gone.1

theorem Sound.new {config : ResolverConfig} {current : Nat} {nextConfigRefresh : Option Instant}
    (inRange : current < config.snapshot.nameservers.length) : Sound (Thread.new config current nextConfigRefresh) where
  indexed := .inl ⟨by simp [Thread.new, Resolver.table], by simp [Thread.new, Resolver.table],
    by simp [Thread.new, Resolver.table]⟩
  balanced := by
    intro key
    simp [Thread.new, Resolver.table, Table.carried]
  quiet := ⟨by simp [Thread.new, Resolver.table], by simp [Thread.new, Resolver.table],
    by simp [Thread.new, Resolver.table]⟩
  listening := ⟨fun _ => inRange, fun _ => nofun, nofun⟩

theorem Sound.step (sound : Sound thread) (step : thread.CalmStep env thread') : Sound thread' := by
  obtain ⟨event, calm, step⟩ := step
  have stepped : Stepped env thread event thread' := Thread.stepped step
  have indexed : Indexed thread.resolver.table := sound.running stepped.running
  have listening : Listening thread' := sound.listening.step stepped
  rcases stepped.run indexed sound.balanced calm with ⟨failed, stopped⟩ | run
  · -- every lookup in flight is settled
    have table := table_failAll (r := thread.resolver)
    rw [← failed] at table
    refine ⟨.inr ⟨stopped, by simp [table], by simp [table]⟩, ?_, ?_, listening⟩
    · intro key
      have before := sound.balanced key
      rw [table]
      simp only [Table.carried, Option.elim_none, List.count_append, pendingKeys_count indexed key]
      simp only [Table.carried] at before
      omega
    · rw [table]
      exact ⟨sound.quiet.known, fun _ _ _ => rfl, sound.quiet.withdrawn⟩
  · exact ⟨.inl (indexed.run run), sound.balanced.run indexed run, sound.quiet.run indexed sound.balanced run,
      listening⟩

theorem Sound.steps (sound : Sound thread) (steps : Relation.ReflTransGen (Thread.CalmStep env) thread thread') :
    Sound thread' := by
  induction steps with
  | refl => exact sound
  | tail _ step ih => exact ih.step step

theorem Reached.sound (reached : Reached (Thread.CalmStep env) thread) : Sound thread := by
  obtain ⟨config, current, nextConfigRefresh, inRange, steps⟩ := reached
  exact (Sound.new inRange).steps steps

theorem accepted_grows (sound : Sound thread) (step : thread.CalmStep env thread') :
    ∃ more, thread'.resolver.accepted = thread.resolver.accepted ++ more := by
  obtain ⟨event, calm, step⟩ := step
  have stepped : Stepped env thread event thread' := Thread.stepped step
  rcases stepped.run (sound.running stepped.running) sound.balanced calm with ⟨failed, -⟩ | run
  · refine ⟨[], ?_⟩
    have same : thread'.resolver.table.accepted = thread.resolver.table.accepted := by rw [failed, table_failAll]
    rw [List.append_nil]
    exact same
  · exact Run.accepted_grows run

/-! ## What the pool sees -/

def Resolver.delivered (r : Resolver) (key : ResolveKey) : Nat := (r.results.map (·.key)).count key

def Resolver.Carries (r : Resolver) (id : UInt16) (key : ResolveKey) : Prop :=
  ∃ query, r.pending.lookup id = some query ∧ query.key = key

theorem carries_iff : r.Carries id key ↔ ∃ token, r.table.jobs id = some (key, token) := by
  constructor
  · rintro ⟨query, found, rfl⟩
    exact ⟨_, job_of_pending found⟩
  · rintro ⟨token, job⟩
    obtain ⟨query, found, isKey, -⟩ := pending_of_job job
    exact ⟨query, found, isKey⟩

/-- A lookup that is not cancelled has one query and no result, or one result and no query. -/
theorem Sound.once (sound : Sound thread) (fresh : thread.resolver.accepted.Nodup)
    (accepted : key ∈ thread.resolver.accepted) (active : key ∉ thread.resolver.cancelled) :
    ((∃! id, thread.resolver.Carries id key) ∧ thread.resolver.delivered key = 0) ∨
      ((∀ id, ¬thread.resolver.Carries id key) ∧ thread.resolver.delivered key = 1) := by
  have once : thread.resolver.accepted.count key = 1 := List.count_eq_one_of_mem fresh accepted
  have kept : thread.resolver.withdrawn.count key = 0 := by
    rw [List.count_eq_zero]
    intro withdrawn
    rcases sound.quiet.withdrawn key withdrawn with cancelled | twice
    · exact active cancelled
    · change 2 ≤ thread.resolver.accepted.count key at twice
      omega
  have balance : thread.resolver.accepted.count key =
      thread.resolver.table.carried key + thread.resolver.delivered key + thread.resolver.withdrawn.count key :=
    sound.balanced key
  rcases sound.indexed with indexed | ⟨-, noJobs, noKeys⟩
  · cases entry : thread.resolver.table.byKey key with
    | none =>
      refine .inr ⟨?_, ?_⟩
      · intro id carries
        obtain ⟨token, job⟩ := carries_iff.mp carries
        exact indexed.no_job entry id token job
      · simp only [Table.carried, entry, Option.elim_none] at balance
        omega
    | some id =>
      obtain ⟨token, job⟩ := (indexed.byKey key id).mp entry
      refine .inl ⟨⟨id, carries_iff.mpr ⟨token, job⟩, ?_⟩, ?_⟩
      · intro other carries
        obtain ⟨token', job'⟩ := carries_iff.mp carries
        exact indexed.unique job' job
      · simp only [Table.carried, entry, Option.elim_some] at balance
        omega
  · refine .inr ⟨?_, ?_⟩
    · intro id carries
      obtain ⟨token, job⟩ := carries_iff.mp carries
      rw [noJobs id] at job
      cases job
    · simp only [Table.carried, noKeys key, Option.elim_none] at balance
      omega

/-- A step sends nothing for a cancelled lookup. -/
theorem Sound.silent (sound : Sound thread) (step : thread.CalmStep env thread')
    (fresh : thread'.resolver.accepted.Nodup) (cancelled : key ∈ thread.resolver.cancelled) :
    key ∈ thread'.resolver.cancelled ∧ thread'.resolver.delivered key = thread.resolver.delivered key := by
  obtain ⟨more, grows⟩ := accepted_grows sound step
  have before : thread.resolver.accepted.Nodup := by
    rw [grows] at fresh
    exact fresh.of_append_left
  have known : key ∈ thread.resolver.accepted := sound.quiet.known key cancelled
  have idle : thread.resolver.table.byKey key = none := sound.quiet.idle before key cancelled
  obtain ⟨event, calm, step⟩ := step
  have stepped : Stepped env thread event thread' := Thread.stepped step
  have indexed : Indexed thread.resolver.table := sound.running stepped.running
  rcases stepped.run indexed sound.balanced calm with ⟨failed, -⟩ | run
  · have table := table_failAll (r := thread.resolver)
    rw [← failed] at table
    refine ⟨?_, ?_⟩
    · have mem : key ∈ thread'.resolver.table.cancelled := by
        rw [table]
        exact cancelled
      exact mem
    · have count : thread'.resolver.table.settled.count key = thread.resolver.table.settled.count key := by
        rw [table]
        simp only [List.count_append, pendingKeys_count indexed key, Table.carried, idle, Option.elim_none,
          Nat.add_zero]
      exact count
  · refine ⟨run.cancelled_mem cancelled, ?_⟩
    refine (Run.idle_same indexed run idle ?_).2
    have after : key ∈ thread'.resolver.accepted := by
      rw [grows]
      exact List.mem_append_left _ known
    exact (List.count_eq_one_of_mem fresh after).trans (List.count_eq_one_of_mem before known).symm

theorem Sound.silent_steps (sound : Sound thread)
    (steps : Relation.ReflTransGen (Thread.CalmStep env) thread thread') (fresh : thread'.resolver.accepted.Nodup)
    (cancelled : key ∈ thread.resolver.cancelled) :
    key ∈ thread'.resolver.cancelled ∧ thread'.resolver.delivered key = thread.resolver.delivered key := by
  induction steps with
  | refl => exact ⟨cancelled, rfl⟩
  | @tail middle last earlier step ih =>
    have soundThen : Sound middle := sound.steps earlier
    obtain ⟨more, grows⟩ := accepted_grows soundThen step
    have before : middle.resolver.accepted.Nodup := by
      rw [grows] at fresh
      exact fresh.of_append_left
    obtain ⟨stillCancelled, same⟩ := ih before
    obtain ⟨mem, silent⟩ := soundThen.silent step fresh stillCancelled
    exact ⟨mem, silent.trans same⟩

end

/-! ## A sample -/

/-- Surroundings whose clock counts the questions, and whose entropy always proposes the id 7. -/
def sampleEnv : Env where
  clock := fun question => question
  clock_mono := fun _ _ le => le
  entropy := fun _ => .ok (7, 0)
  latest := 10 ^ 30
  width := .bits64
  showAddress := fun _ => ""

def sampleConfig : ResolverConfig := ⟨⟨[⟨.v4 0, 53⟩], [], .fromSecs 1, 3⟩, .static⟩

def sampleSockets : SocketIo := ⟨fun _ => .ok (), fun _ => .ok ()⟩

def sampleStream : StreamIo := ⟨fun _ => .ok (), .ok ()⟩

def sampleRefresh : RefreshIo := ⟨.ok sampleConfig.snapshot, sampleSockets⟩

/-- A public lookup of both families of `h.t`. -/
def sampleLookup : PublicResolveSpec := ⟨ascii "h.t", .both, .ipv4ThenIpv6, .use, 8, false, false⟩

def sampleAnswer : Bytes :=
  [0, 7, 0x81, 0x80, 0, 1, 0, 1, 0, 0, 0, 0, 1, 0x68, 1, 0x74, 0, 0, 1, 0, 1, 0xC0, 12, 0, 1, 0, 1, 0, 0, 0, 60, 0, 4,
    1, 2, 3, 4]

def sampleTruncated : Bytes :=
  [0, 7, 0x83, 0x80, 0, 1, 0, 0, 0, 0, 0, 0, 1, 0x68, 1, 0x74, 0, 0, 1, 0, 1]

/-- The lookup is accepted and its query sent. -/
def sampleQuestion : List Event :=
  [.wake false sampleRefresh, .command (.publicResolve ⟨1⟩ sampleLookup), .drained sampleRefresh,
    .timers [7] (fun _ => ⟨sampleSockets, .sent 21⟩) sampleRefresh, .polled [⟨socketToken, true, false⟩]]

/-- The truncated answer arrives, and the query falls back to TCP. -/
def sampleFallback : List Event :=
  sampleQuestion ++
    [.datagram sampleTruncated sampleStream, .blocked, .wake false sampleRefresh, .drained sampleRefresh,
      .timers [] (fun _ => ⟨sampleSockets, .sent 21⟩) sampleRefresh,
      .polled [⟨socketToken, true, false⟩, ⟨firstTcpToken, false, true⟩]]

/-- The full answer arrives on UDP after all, before the stream is looked at. -/
def sampleLate : List Event := sampleFallback ++ [.datagram sampleAnswer sampleStream]

def Event.turn (env : Env) (event : Event) : Turn (Thread.Step env) :=
  ⟨(·.step env event), fun _ _ step => ⟨event, step⟩⟩

def Event.calmTurn (env : Env) (event : Event) : Turn (Thread.CalmStep env) :=
  .guarded event.Calm (·.step env event) fun _ _ calm step => ⟨event, calm, step⟩

theorem sample_reached {step : Thread → Thread → Prop} (turn : Event → Turn step) (events : List Event)
    (P : Thread → Prop) [DecidablePred P]
    (holds : (play (events.map turn) (Thread.new sampleConfig 0 none)).any (fun thread => decide (P thread)) = true) :
    ∃ thread, Reached step thread ∧ P thread := by
  obtain ⟨thread, steps, holds⟩ := reach (events.map turn) _ P holds
  exact ⟨thread, ⟨sampleConfig, 0, none, by decide, steps⟩, holds⟩

/-! ## The indexes of the pending queries -/

/-- `by_key` and the ids of the pending queries are inverse to each other, and `tcp_by_token` holds exactly the tokens
of the pending queries that have fallen back to TCP. -/
def Resolver.IndexesExact (r : Resolver) : Prop :=
  (∀ key id, r.byKey.lookup key = some id ↔ ∃ query, r.pending.lookup id = some query ∧ query.key = key) ∧
    ∀ token id, r.tcpByToken.lookup token = some id ↔
      ∃ query fallback, r.pending.lookup id = some query ∧ query.transport = .tcp fallback ∧ fallback.token = token

theorem indexesExact_of_indexed {r : Resolver} (indexed : Indexed r.table) : r.IndexesExact := by
  refine ⟨?_, ?_⟩
  · intro key id
    exact (indexed.byKey key id).trans carries_iff.symm
  intro token id
  rw [show r.tcpByToken.lookup token = some id ↔ _ from indexed.byToken token id]
  constructor
  · rintro ⟨key, job⟩
    obtain ⟨query, found, -, isToken⟩ := pending_of_job job
    cases transport : query.transport with
    | udp =>
      rw [transport] at isToken
      cases isToken
    | tcp fallback =>
      rw [transport] at isToken
      exact ⟨query, fallback, found, transport, Option.some.inj isToken⟩
  · rintro ⟨query, fallback, found, transport, rfl⟩
    refine ⟨query.key, ?_⟩
    rw [job_of_pending found, transport]
    rfl

/-- In every run whose datagrams are for queries that are still on UDP, the indexes are exact as long as the thread
runs. -/
theorem Reached.indexes_exact {env : Env} {thread : Thread} (reached : Reached (Thread.CalmStep env) thread)
    (running : thread.point ≠ .stopped) : thread.resolver.IndexesExact :=
  indexesExact_of_indexed (reached.sound.running running)

theorem indexes_exact_fallback : ∃ thread, Reached (Thread.CalmStep sampleEnv) thread ∧
    thread.resolver.tcpByToken.lookup firstTcpToken = some 7 ∧ thread.resolver.IndexesExact := by
  obtain ⟨thread, reached, entry, running⟩ := sample_reached (Event.calmTurn sampleEnv) sampleFallback
    (fun thread => thread.resolver.tcpByToken.lookup firstTcpToken = some 7 ∧ thread.point ≠ .stopped)
    (by decide +kernel)
  exact ⟨thread, reached, entry, reached.indexes_exact running⟩

/-- A datagram that is taken for a query in TCP leaves the token of the query behind. -/
theorem a_token_outlives_its_query : ∃ thread, Reached (Thread.Step sampleEnv) thread ∧ thread.point ≠ .stopped ∧
    ¬thread.resolver.IndexesExact := by
  obtain ⟨thread, reached, entry, udp, running⟩ := sample_reached (Event.turn sampleEnv) sampleLate
    (fun thread => thread.resolver.tcpByToken.lookup firstTcpToken = some 7 ∧
      (thread.resolver.pending.lookup 7).map (·.transport) = some .udp ∧ thread.point ≠ .stopped) (by decide +kernel)
  refine ⟨thread, reached, running, ?_⟩
  rintro ⟨-, tokens⟩
  obtain ⟨query, fallback, found, transport, -⟩ := (tokens _ _).mp entry
  rw [found, Option.map_some, transport] at udp
  cases udp

/-! ## The results of the lookups -/

/-- In every run whose datagrams are for queries that are still on UDP, and in which no key is used twice: each lookup
that was accepted and not cancelled has one pending query and no result, or one result and no pending query; no result
is sent for a lookup once its cancel has been processed; and the thread does not panic. -/
theorem Reached.delivered_once {env : Env} {middle last : Thread} (reached : Reached (Thread.CalmStep env) middle)
    (steps : Relation.ReflTransGen (Thread.CalmStep env) middle last) (fresh : last.resolver.accepted.Nodup) :
    (∀ key ∈ last.resolver.accepted, key ∉ last.resolver.cancelled →
      ((∃! id, last.resolver.Carries id key) ∧ last.resolver.delivered key = 0) ∨
        ((∀ id, ¬last.resolver.Carries id key) ∧ last.resolver.delivered key = 1)) ∧
    (∀ key ∈ middle.resolver.cancelled, last.resolver.delivered key = middle.resolver.delivered key) ∧
    last.point ≠ .panicked := by
  have sound : Sound last := reached.sound.steps steps
  refine ⟨?_, ?_, sound.listening.alive⟩
  · intro key accepted active
    exact sound.once fresh accepted active
  · intro key cancelled
    exact (reached.sound.silent_steps steps fresh cancelled).2

theorem delivered_once_fallback : ∃ thread, Reached (Thread.CalmStep sampleEnv) thread ∧
    thread.resolver.accepted = [⟨1⟩] ∧ ∃! id, thread.resolver.Carries id ⟨1⟩ := by
  obtain ⟨thread, reached, accepted, cancelled, delivered⟩ :=
    sample_reached (Event.calmTurn sampleEnv) sampleFallback
      (fun thread => thread.resolver.accepted = [⟨1⟩] ∧ thread.resolver.cancelled = [] ∧
        thread.resolver.delivered ⟨1⟩ = 0) (by decide +kernel)
  have result := (reached.delivered_once .refl (by rw [accepted]; decide)).1 ⟨1⟩
    (by rw [accepted]; decide) (by rw [cancelled]; decide)
  rcases result with ⟨carried, -⟩ | ⟨-, one⟩
  · exact ⟨thread, reached, accepted, carried⟩
  · rw [delivered] at one
    cases one

/-- The token that the query left behind leads to the query that is given its id next, and the event of the stream
drops it: the lookup has neither a query nor a result. -/
theorem a_lookup_is_lost : ∃ thread, Reached (Thread.Step sampleEnv) thread ∧ thread.point ≠ .stopped ∧
    thread.resolver.accepted = [⟨1⟩] ∧ thread.resolver.cancelled = [] ∧
    (∀ id, ¬thread.resolver.Carries id ⟨1⟩) ∧ thread.resolver.delivered ⟨1⟩ = 0 := by
  obtain ⟨thread, reached, running, accepted, cancelled, empty, delivered⟩ := sample_reached
    (Event.turn sampleEnv) (sampleLate ++ [.blocked, .stream ⟨.ok none, [], .ok (), []⟩])
    (fun thread => thread.point ≠ .stopped ∧ thread.resolver.accepted = [⟨1⟩] ∧ thread.resolver.cancelled = [] ∧
      thread.resolver.pending.entries.length = 0 ∧ thread.resolver.delivered ⟨1⟩ = 0) (by decide +kernel)
  refine ⟨thread, reached, running, accepted, cancelled, ?_, delivered⟩
  rintro id ⟨query, found, -⟩
  have mem := AList.mem_lookup_iff.mp found
  rw [List.length_eq_zero_iff.mp empty] at mem
  cases mem

end NbReq.Dns
