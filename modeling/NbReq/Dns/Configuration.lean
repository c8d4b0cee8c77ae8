import NbReq.Dns.Retries

/-!
# Changes of the configuration

What holds of the configuration, the socket and the queries in every state that the resolver thread can reach,
whatever is discovered and however the sockets turn out (`Reached.configured`). A query is never in flight across a
change of the nameservers, and a message completes a lookup or enters the cache only as the answer to a query in flight:
no answer that arrives later is one to a query that was sent under another list.
-/

namespace NbReq.Dns

def Thread.nameservers (thread : Thread) : List SocketAddr := thread.resolver.config.snapshot.nameservers

/-- A query with the id has been pending ever since the configured nameservers were these. -/
inductive PendingSince (env : Env) (nameservers : List SocketAddr) (id : UInt16) : Thread → Prop
  | now {thread : Thread} (reached : Reached (Thread.Step env) thread) (are : thread.nameservers = nameservers)
      (pending : (thread.resolver.pending.lookup id).isSome = true) : PendingSince env nameservers id thread
  | later {thread thread' : Thread} (since : PendingSince env nameservers id thread) (step : thread.Step env thread')
      (pending : (thread'.resolver.pending.lookup id).isSome = true) : PendingSince env nameservers id thread'

def Event.isMessage : Event → Bool
  | .datagram _ _ | .stream _ => true
  | _ => false

/-- The socket, the configuration and the queries fit together. -/
structure Configured (env : Env) (thread : Thread) : Prop where
  /-- There is a socket exactly while the configuration is available. -/
  socket : thread.resolver.socket = thread.resolver.configAvailable
  /-- No query is pending while it is not. -/
  idle : thread.resolver.configAvailable = false → ∀ id, thread.resolver.pending.lookup id = none
  /-- Datagrams are received from a socket only, and timers look at the nameserver only if there is one. -/
  packets : ∀ ready, thread.point = .packets ready → thread.resolver.socket = true
  /-- The index of the current nameserver is valid while there is a socket. -/
  current : thread.resolver.socket = true → thread.resolver.currentNameserver < thread.nameservers.length
  /-- The thread has not panicked on that index. -/
  alive : thread.point ≠ .panicked
  /-- A query that was pending under other nameservers is not pending any more. -/
  since : ∀ nameservers id, PendingSince env nameservers id thread → thread.nameservers = nameservers
  /-- A message from a server is the answer to a query that is pending, and was pending under these nameservers only; or
  it completes no lookup, and nothing of it enters the cache. -/
  taken : ∀ event thread', event.isMessage = true → thread.step env event = some thread' →
    (∃ id query parsed, event.Answers thread query parsed ∧ thread.resolver.pending.lookup id = some query ∧
      ∀ nameservers, PendingSince env nameservers id thread → nameservers = thread.nameservers) ∨
    (∀ result ∈ thread'.resolver.results, result ∈ thread.resolver.results ∨ result.Failed) ∧
      thread.resolver.cache.Wears thread'.resolver.cache
  /-- A change of the nameservers leaves nothing pending and nothing in the cache. -/
  changes : ∀ thread', thread.Step env thread' → thread'.nameservers ≠ thread.nameservers →
    (∀ id, thread'.resolver.pending.lookup id = none) ∧ thread'.resolver.cache.entries = ∅ ∧
      thread'.resolver.cache.familyEntries = ∅

section

variable {env : Env} {key : ResolveKey} {id : UInt16} {r r' r'' : Resolver} {query : PendingQuery}
  {thread thread' : Thread}

/-- There is a socket exactly while the configuration is available, and no query is pending while it is not. -/
structure Fitted (r : Resolver) : Prop where
  socket : r.socket = r.configAvailable
  idle : r.configAvailable = false → ∀ id, r.pending.lookup id = none

/-! ## Looking at the configuration -/

/-- What a step does to them: it keeps the nameservers, or nothing is left of what was asked before. -/
structure Looked (r r' : Resolver) : Prop where
  fitted : Fitted r → Fitted r'
  changes : r'.config.snapshot.nameservers ≠ r.config.snapshot.nameservers →
    (∀ id, r'.pending.lookup id = none) ∧ r'.cache.entries = ∅ ∧ r'.cache.familyEntries = ∅

theorem looked_of_eq (socket : r'.socket = r.socket) (available : r'.configAvailable = r.configAvailable)
    (pending : r'.pending = r.pending) (nameservers : r'.config.snapshot.nameservers = r.config.snapshot.nameservers) :
    Looked r r' := by
  refine ⟨fun fitted => ⟨?_, ?_⟩, fun changed => absurd nameservers changed⟩
  · rw [socket, available]
    exact fitted.socket
  · rw [available, pending]
    exact fitted.idle

theorem Looks.looked (looks : Looks r r') : Looked r r' := by
  rcases looks.outcome with ⟨route, available, pending⟩ | ⟨gone, cleared, socket, -⟩
  · exact looked_of_eq (congrArg (·.1) route) available pending (congrArg (·.2.2) route)
  · exact ⟨fun _ => ⟨socket, fun _ => gone⟩, fun _ => ⟨gone, cleared⟩⟩

/-- What keeps the nameservers may come before. -/
theorem Looked.trans (first : Looked r r') (second : Looked r' r'')
    (nameservers : r'.config.snapshot.nameservers = r.config.snapshot.nameservers) : Looked r r'' :=
  ⟨fun fitted => second.fitted (first.fitted fitted), nameservers ▸ second.changes⟩

/-! ## Everything else -/

theorem looked_of_availability (same : r'.availability = r.availability)
    (idle : r.configAvailable = false → (∀ id, r.pending.lookup id = none) → ∀ id, r'.pending.lookup id = none) :
    Looked r r' := by
  have available : r'.configAvailable = r.configAvailable := congrArg (·.2.1) same
  refine ⟨fun fitted => ⟨?_, ?_⟩, fun changed => absurd (congrArg (·.2.2.snapshot.nameservers) same) changed⟩
  · exact ((congrArg (·.1) same).trans fitted.socket).trans available.symm
  · rw [available]
    exact fun off => idle off (fitted.idle off)

theorem availability_of_standing (same : r'.standing = r.standing) : r'.availability = r.availability :=
  congrArg (fun standing => (standing.1, standing.2.2)) same

/-- `fail_all` takes every query out. -/
theorem failAll_pending : ∀ id, r.failAll.pending.lookup id = none := by
  have pending : r.failAll.pending = ∅ :=
    List.foldlRecOn (motive := fun middle : Resolver => middle.pending = ∅) _ _ rfl fun _ same _ _ => by
      rw [emitFailure_eq]
      exact same
  exact fun id => congrArg (·.lookup id) pending

theorem pending_dropLookup (none : ∀ id, r.pending.lookup id = none) : (r.dropLookup key).pending = r.pending := by
  unfold Resolver.dropLookup
  split
  · rfl
  rename_i id _
  have missing : (r.forgetKey key).removeQuery id = (r.forgetKey key, .none) := by
    unfold Resolver.removeQuery Resolver.forgetKey
    dsimp only
    rw [none id]
  rw [missing]
  rfl

/-- No lookup is started while the configuration is not available. -/
theorem looked_handle {command : Command} : Looked r (r.handle env command) := by
  have dropped (key : ResolveKey) : (r.accept key).availability = r.availability :=
    availability_of_standing standing_dropLookup
  have unavailable (key : ResolveKey) (off : r.configAvailable = false) :
      (!(r.accept key).configAvailable) = true := by
    have same : (r.accept key).configAvailable = r.configAvailable := congrArg (·.2.1) (dropped key)
    rw [same, off]
    rfl
  cases command with
  | resolve key host =>
    refine looked_of_availability ((availability_of_standing (standing_of_rest resolveHost_rest)).trans (dropped key)) ?_
    intro off none id
    show ((r.accept key).resolveHost env key host).pending.lookup id = _
    rw [Resolver.resolveHost, if_pos (unavailable key off)]
    exact (congrArg (·.lookup id) (pending_dropLookup none)).trans (none id)
  | publicResolve key spec =>
    refine looked_of_availability ((availability_of_standing (standing_of_rest resolvePublic_rest)).trans (dropped key)) ?_
    intro off none id
    show ((r.accept key).resolvePublic env key spec).pending.lookup id = _
    rw [Resolver.resolvePublic, if_pos (unavailable key off)]
    exact (congrArg (·.lookup id) (pending_dropLookup none)).trans (none id)
  | cancel key =>
    have same : (r.cancel key).availability = r.availability ∧ (r.cancel key).pending = (r.dropLookup key).pending := by
      unfold Resolver.cancel
      dsimp only
      split <;> exact ⟨availability_of_standing standing_dropLookup, rfl⟩
    refine looked_of_availability same.1 fun off none id => ?_
    show (r.cancel key).pending.lookup id = _
    rw [same.2, pending_dropLookup none]
    exact none id
  | shutdown => exact looked_of_eq rfl rfl rfl rfl

theorem looked_receiveTcp {event : PollReady} {script : TcpScript} : Looked r (receiveTcp env event script r) := by
  refine looked_of_availability (availability_of_standing standing_receiveTcp) fun off none => ?_
  unfold receiveTcp
  split
  · exact none
  · rename_i id _
    rw [none id]
    exact none

/-- What a step does to the socket, the configuration and the queries. -/
theorem Stepped.looked {event : Event} (listening : Listening thread) (fitted : Fitted thread.resolver)
    (step : Stepped env thread event thread') : Looked thread.resolver thread'.resolver := by
  cases step with
  | wake => exact wake_looks.looked
  | command => exact looked_handle
  | drained | offline => exact refreshConfigurationIfDirty_looks.looked
  | timers on =>
    refine (looked_of_availability transmitDue_timed.available fun off _ => ?_).trans
      refreshConfigurationIfDirty_looks.looked (congrArg (·.2.2.snapshot.nameservers) transmitDue_timed.available)
    cases (on.symm.trans fitted.socket).trans off
  | pollFailed => exact looked_of_availability (availability_of_standing standing_failAll) fun _ _ => failAll_pending
  | datagram received =>
    refine looked_of_availability (availability_of_standing (standing_receivePacket received)) fun off _ => ?_
    cases ((listening.packets _ rfl).symm.trans fitted.socket).trans off
  | poisoned =>
    refine looked_of_eq ?_ ?_ ?_ ?_ <;> (unfold Resolver.replaceSocket; split <;> rfl)
  | stream => exact looked_receiveTcp
  | _ => exact looked_of_eq rfl rfl rfl rfl

end

section

variable {env : Env} {thread thread' : Thread}

theorem Reached.step {step : Thread → Thread → Prop} (reached : Reached step thread) (next : step thread thread') :
    Reached step thread' := by
  obtain ⟨config, current, nextConfigRefresh, valid, steps⟩ := reached
  exact ⟨config, current, nextConfigRefresh, valid, steps.tail next⟩

theorem Reached.fitted (reached : Reached (Thread.Step env) thread) : Listening thread ∧ Fitted thread.resolver := by
  obtain ⟨config, current, nextConfigRefresh, valid, steps⟩ := reached
  induction steps with
  | refl => exact ⟨⟨fun _ => valid, fun _ => nofun, nofun⟩, rfl, nofun⟩
  | tail _ next ih =>
    obtain ⟨event, step⟩ := next
    have stepped := Thread.stepped step
    exact ⟨ih.1.step stepped, (stepped.looked ih.1 ih.2).fitted ih.2⟩

theorem Reached.changes (reached : Reached (Thread.Step env) thread) (next : thread.Step env thread')
    (changed : thread'.nameservers ≠ thread.nameservers) :
    (∀ id, thread'.resolver.pending.lookup id = none) ∧ thread'.resolver.cache.entries = ∅ ∧
      thread'.resolver.cache.familyEntries = ∅ := by
  obtain ⟨event, step⟩ := next
  exact ((Thread.stepped step).looked reached.fitted.1 reached.fitted.2).changes changed

/-- A query that stays pending stays under the same nameservers. -/
theorem PendingSince.current {nameservers : List SocketAddr} {id : UInt16}
    (since : PendingSince env nameservers id thread) :
    Reached (Thread.Step env) thread ∧ thread.nameservers = nameservers := by
  induction since with
  | now reached are => exact ⟨reached, are⟩
  | later _ step pending ih =>
    obtain ⟨reached, are⟩ := ih
    refine ⟨reached.step step, ?_⟩
    by_contra other
    have gone := (reached.changes step fun same => other (same.trans are)).1 id
    rw [gone] at pending
    cases pending

theorem Reached.taken {event : Event} (isMessage : event.isMessage = true) (step : thread.step env event = some thread') :
    (∃ id query parsed, event.Answers thread query parsed ∧ thread.resolver.pending.lookup id = some query ∧
      ∀ nameservers, PendingSince env nameservers id thread → nameservers = thread.nameservers) ∨
    (∀ result ∈ thread'.resolver.results, result ∈ thread.resolver.results ∨ result.Failed) ∧
      thread.resolver.cache.Wears thread'.resolver.cache := by
  have heard : Hears env event thread thread'.resolver := by
    cases Thread.stepped step with
    | datagram received => exact receivePacket_hears received
    | stream => exact receiveTcp_hears
    | panicked => exact .upkeep .refl
    | _ => cases isMessage
  generalize thread'.resolver = last at heard
  cases heard with
  | answered answers =>
    obtain ⟨id, found⟩ := answers.found
    exact .inl ⟨id, _, _, answers, found, fun _ since => since.current.2.symm⟩
  | upkeep upkeep => exact .inr ⟨upkeep.results, upkeep.cache⟩

/-- In every state that the thread can reach, the socket, the configuration and the queries fit together. -/
theorem Reached.configured (reached : Reached (Thread.Step env) thread) : Configured env thread where
  socket := reached.fitted.2.socket
  idle := reached.fitted.2.idle
  packets := reached.fitted.1.packets
  current := reached.fitted.1.routed
  alive := reached.fitted.1.alive
  since := fun _ _ since => since.current.2
  taken := fun _ _ => Reached.taken
  changes := fun _ => reached.changes

end

/-- Two other nameservers are discovered while a query is in flight, which fails. -/
theorem configured_sample :
    ∃ thread, (Thread.new ⟨sampleConfig.snapshot, .system⟩ 0 none).run sampleEnv (sampleQuestion ++ [.blocked,
        .wake true ⟨.ok ⟨[⟨.v4 1, 53⟩, ⟨.v4 2, 53⟩], [], .fromSecs 1, 3⟩, sampleSockets⟩]) = some thread ∧
      thread.nameservers = [⟨.v4 1, 53⟩, ⟨.v4 2, 53⟩] ∧ thread.resolver.results.length = 1 ∧
      Configured sampleEnv thread := by
  have ran : ((Thread.new ⟨sampleConfig.snapshot, .system⟩ 0 none).run sampleEnv (sampleQuestion ++ [.blocked,
      .wake true ⟨.ok ⟨[⟨.v4 1, 53⟩, ⟨.v4 2, 53⟩], [], .fromSecs 1, 3⟩, sampleSockets⟩])).map
        (fun thread => (thread.nameservers, thread.resolver.results.length)) =
      some ([⟨.v4 1, 53⟩, ⟨.v4 2, 53⟩], 1) := by decide +kernel
  obtain ⟨thread, isThread, ends⟩ := Option.map_eq_some_iff.mp ran
  have reached : Reached (Thread.Step sampleEnv) thread := ⟨_, 0, none, by decide, Thread.run_steps isThread⟩
  exact ⟨thread, isThread, congrArg (·.1) ends, congrArg (·.2) ends, reached.configured⟩

end NbReq.Dns
