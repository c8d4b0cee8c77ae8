import NbReq.Dns.Delivery

/-!
# Where queries and results come from

Every step of the resolver thread, seen from what there is after it (`Stepped.origin`): the queries that are in flight,
the results that have been sent, and what the cache holds. A query that was in flight before stays what it was (`Kept`):
only the timers touch the count of its attempts. A new one continues a query that the event of the step answers, or opens
a lookup. What the cache holds after a step it held before, or the step has put it there (`Thread.scene`).

`Came` is a run with all its steps, for what has to be said about where something came from in the end.
-/

namespace NbReq.Dns

/-! ## Answers -/

def StreamAnswers (ready : PollReady) (script : TcpScript) (r : Resolver) (query : PendingQuery)
    (result : Except ResolveFailure ParsedAnswer) : Prop :=
  ∃ id tcp driven message, r.tcpByToken.lookup ready.token = some id ∧ r.pending.lookup id = some query ∧
    query.transport = .tcp tcp ∧
    driveTcp ready.readable ready.writable script tcp = .ok (driven, some message) ∧
    result = (parseAnswer message id query.host query.recordType (maxCnameHops - query.cnameHops)).getD
      (.error (.classified .protocol "the DNS-over-TCP response did not match its query"))

/-- The event brings the answer to a query. -/
def Event.Answers (event : Event) (thread : Thread) (query : PendingQuery)
    (result : Except ResolveFailure ParsedAnswer) : Prop :=
  match event, thread.point with
  | .datagram bytes _, .packets _ =>
    ∃ id, takesDatagram (bytes.take maxPacketLen) thread.resolver = some (id, query, result)
  | .stream script, .streams (ready :: _) => StreamAnswers ready script thread.resolver query result
  | _, _ => False

def Event.isTimers : Event → Bool
  | .timers _ _ _ => true
  | _ => false

/-! ## The cache during a step -/

def Thread.moment (env : Env) (thread : Thread) : Moment := ⟨env, thread.resolver.now env⟩

/-- What the cache holds for public lookups during a step: what it had, and what the answer of the step says. -/
inductive Thread.Holds (env : Env) (thread : Thread) (event : Event) (key : Name × RecordType)
    (entry : Cached CachedFamily) : Prop where
  | kept {old : Cached CachedFamily} (found : thread.resolver.cache.familyEntries.lookup key = some old)
      (same : entry.Same old)
  | learned {query : PendingQuery} {result : Except ResolveFailure ParsedAnswer}
      (answers : event.Answers thread query result) (isName : key.1 = query.host)
      (stores : Stores query result key.2 entry.value) (stored : entry.stored = thread.resolver.now env)

/-- What HTTP lookups may be given during a step: what was there for them, what is there for public lookups, and what a
public lookup leaves there once it was told the answer of the step. -/
inductive Thread.Serves (env : Env) (thread : Thread) (event : Event) (name : Name) (address : IpAddr) : Prop where
  | kept {entry : Cached (Except ResolveFailure ResolveAnswer)} {answer : ResolveAnswer}
      (found : thread.resolver.cache.entries.lookup name = some entry) (isAnswer : entry.value = .ok answer)
      (mem : address ∈ answer.addresses)
  | read {recordType : RecordType} {entry : Cached CachedFamily} {addresses : List IpAddr}
      (holds : thread.Holds env event (name, recordType) entry) (isAnswer : entry.value = .answer addresses)
      (mem : address ∈ addresses)
  | published {query : PendingQuery} {result : Except ResolveFailure ParsedAnswer} {session told : PublicSession}
      (answers : event.Answers thread query result) (isName : name = query.host)
      (isPublic : query.policy = .publicLookup session) (isTold : Told (thread.moment env) query session result told)
      (publishes : told.Publishes address)

def Thread.scene (env : Env) (thread : Thread) (event : Event) : Scene where
  toMoment := thread.moment env
  holds := thread.Holds env event
  serves := thread.Serves env event
  same := by
    rintro key entry entry' same (⟨found, isSame⟩ | ⟨answers, isName, stores, stored⟩)
    · exact .kept found (same.trans isSame)
    · exact .learned answers isName (same.1 ▸ stores) (same.2.2.trans stored)
  reads := fun holds isAnswer _ mem => .read holds isAnswer mem

section

variable {env : Env} {event : Event} {thread : Thread} {query : PendingQuery}
  {result : Except ResolveFailure ParsedAnswer}

theorem scene_stocks : (thread.scene env event).Stocks thread.resolver :=
  ⟨Nat.le_refl _, fun _ _ found => .kept found .refl, fun _ _ _ found isAnswer _ mem => .kept found isAnswer mem⟩

theorem Event.Answers.scene (answers : event.Answers thread query result) :
    (thread.scene env event).Answered query result :=
  ⟨fun _ _ stores stored => .learned answers rfl stores stored,
    fun _ _ _ isPublic isTold publishes => .published answers rfl isPublic isTold publishes⟩

end

/-! ## Steps -/

/-- The public lookup that the event asks for, with the search suffixes then, unless it fails for lack of a
configuration. -/
def Event.requests (event : Event) (thread : Thread) : List (ResolveKey × PublicResolveSpec × List Bytes) :=
  match event with
  | .command (.publicResolve key spec) =>
    if thread.resolver.configAvailable then [(key, spec, thread.resolver.config.snapshot.searchSuffixes)] else []
  | _ => []

theorem Event.mem_requests {event : Event} {thread : Thread} {key : ResolveKey} {spec : PublicResolveSpec}
    {searchSuffixes : List Bytes} (mem : (key, spec, searchSuffixes) ∈ event.requests thread) :
    event = .command (.publicResolve key spec) ∧
      searchSuffixes = thread.resolver.config.snapshot.searchSuffixes := by
  unfold Event.requests at mem
  split at mem
  · split at mem
    · cases List.mem_singleton.mp mem
      exact ⟨rfl, rfl⟩
    · cases mem
  · cases mem

def Event.Starts (env : Env) (event : Event) (thread : Thread) (key : ResolveKey) (onward : Onward) : Prop :=
  Dns.Starts (thread.scene env event) (event.requests thread) thread.resolver.config.retry key onward

inductive Launches (env : Env) (event : Event) (thread : Thread) (query : PendingQuery) : Prop where
  | continues {old : PendingQuery} {result : Except ResolveFailure ParsedAnswer}
      (answers : event.Answers thread old result) (continues : Continues (thread.scene env event) old result query)
  | http {key : ResolveKey} {host : Bytes} (isCommand : event = .command (.resolve key host))
      (asks : AsksHost key host thread.resolver.config.retry query)
  | ofPublic {key : ResolveKey} (asks : AsksNext key (event.Starts env thread key) query)

inductive Sends (env : Env) (event : Event) (thread : Thread) (result : ResolveResult) : Prop where
  | failed (failed : result.Failed)
  | ends {old : PendingQuery} {parsed : Except ResolveFailure ParsedAnswer} (answers : event.Answers thread old parsed)
      (ends : Ends (thread.scene env event) old parsed result)
  | http {key : ResolveKey} {host : Bytes} (isCommand : event = .command (.resolve key host))
      (ends : EndsHost (thread.scene env event) key host result)
  | ofPublic {key : ResolveKey} (ends : EndsNow key (event.Starts env thread key) result)

/-- Where the queries and results after a step, and what the cache holds then, come from. -/
structure Origin (env : Env) (event : Event) (thread thread' : Thread) : Prop where
  pending : ∀ id new, thread'.resolver.pending.lookup id = some new →
    (∃ old, thread.resolver.pending.lookup id = some old ∧ Kept event.isTimers old new) ∨
      Launches env event thread new
  results : ∀ result ∈ thread'.resolver.results,
    result ∈ thread.resolver.results ∨ Sends env event thread result
  requests : thread'.resolver.requests = thread.resolver.requests ++ event.requests thread
  stocks : (thread.scene env event).Stocks thread'.resolver
  advances : Advances env thread.resolver thread'.resolver

section

variable {env : Env} {event : Event} {thread thread' : Thread} {r r' : Resolver}

theorem Upkeep.advances {retried : Bool} (upkeep : Upkeep retried r r') : Advances env r r' :=
  .quiet upkeep.cache.family upkeep.events upkeep.asked

theorem Upkeep.origin (upkeep : Upkeep event.isTimers thread.resolver thread'.resolver)
    (none : event.requests thread = []) : Origin env event thread thread' where
  pending := fun id new found => .inl (upkeep.pending id new found)
  results := fun result mem => (upkeep.results result mem).imp_right .failed
  requests := by rw [upkeep.requests, none, List.append_nil]
  stocks := scene_stocks.wears upkeep.cache upkeep.asked
  advances := upkeep.advances

section

variable {scene : Scene} {key : ResolveKey} {idle : Prop} {asks : PendingQuery → Prop} {ends : ResolveResult → Prop}

theorem Finishes.pending (finishes : Finishes scene key idle asks ends r r') {id : UInt16} {query : PendingQuery}
    (found : r'.pending.lookup id = some query) : r.pending.lookup id = some query ∨ asks query := by
  cases finishes with
  | @sent middle _ prelude =>
    have pending : middle.pending = r.pending := congrArg (fun still => still.pending) prelude.still
    rw [← pending]
    exact .inl found
  | @launched middle _ _ prelude _ _ _ isNew =>
    have pending : middle.pending = r.pending := congrArg (fun still => still.pending) prelude.still
    rcases AList.lookup_insert_eq_some.mp found with ⟨-, rfl⟩ | ⟨-, old⟩
    · exact .inr isNew
    · rw [← pending]
      exact .inl old

theorem Finishes.results (finishes : Finishes scene key idle asks ends r r') {result : ResolveResult}
    (mem : result ∈ r'.results) : result ∈ r.results ∨ result.Failed ∨ ends result := by
  cases finishes with
  | @sent middle _ prelude _ _ kind =>
    have results : middle.results = r.results := congrArg (fun still => still.results) prelude.still
    rcases List.mem_append.mp mem with old | isNew
    · rw [← results]
      exact .inl old
    · rw [List.mem_singleton.mp isNew]
      exact .inr kind
  | @launched middle _ _ prelude =>
    have results : middle.results = r.results := congrArg (fun still => still.results) prelude.still
    rw [← results]
    exact .inl mem

theorem Finishes.requests (finishes : Finishes scene key idle asks ends r r') : r'.requests = r.requests := by
  cases finishes with
  | @sent middle _ prelude | @launched middle _ _ prelude =>
    have requests : middle.requests = r.requests := congrArg (fun still => still.requests) prelude.still
    exact requests

theorem Finishes.advances (finishes : Finishes scene key idle asks ends r r') : Advances scene.env r r' := by
  cases finishes with
  | sent prelude | launched prelude => exact prelude.advances

theorem Finishes.stocks (finishes : Finishes scene key idle asks ends r r') (stocks : scene.Stocks r) :
    scene.Stocks r' := by
  cases finishes with
  | sent prelude | launched prelude => exact (prelude.stocks stocks).later_asked rfl (Nat.le_refl _)

end

/-- What is done for a lookup, once it is noted, is all that is new after the step. -/
theorem Finishes.origin {key : ResolveKey} {idle : Prop} {asks : PendingQuery → Prop} {ends : ResolveResult → Prop}
    {accepted noted : Resolver}
    (finishes : Finishes (thread.scene env event) key idle asks ends noted thread'.resolver)
    (out : Upkeep event.isTimers thread.resolver accepted)
    (isNoted : noted = { accepted with requests := accepted.requests ++ event.requests thread })
    (launches : ∀ query, asks query → Launches env event thread query)
    (sends : ∀ result, ends result → Sends env event thread result) : Origin env event thread thread' := by
  subst isNoted
  refine ⟨?_, ?_, ?_, finishes.stocks (scene_stocks.wears out.cache out.asked), out.advances.trans finishes.advances⟩
  · intro id new found
    rcases finishes.pending found with old | isNew
    · exact .inl (out.pending id new old)
    · exact .inr (launches new isNew)
  · intro result mem
    rcases finishes.results mem with old | failed | isNew
    · exact (out.results result old).imp_right .failed
    · exact .inr (.failed failed)
    · exact .inr (sends result isNew)
  · rw [finishes.requests, ← out.requests]

theorem noted_of_none (none : event.requests thread = []) :
    r = { r with requests := r.requests ++ event.requests thread } := by
  rw [none, List.append_nil]

theorem accept_standing {key : ResolveKey} : (r.accept key).config = r.config ∧
    (r.accept key).configAvailable = r.configAvailable := by
  have standing : (r.dropLookup key).standing = r.standing := standing_dropLookup
  exact ⟨congrArg (fun standing => standing.2.2.2) standing, congrArg (fun standing => standing.2.2.1) standing⟩

theorem handle_origin {command : Command} {point point' : Point} :
    Origin env (.command command) ⟨r, point⟩ ⟨r.handle env command, point'⟩ := by
  have accepted : ∀ key, Upkeep false r (r.accept key) := fun _ => accept_upkeep
  cases command with
  | cancel key => exact Upkeep.origin cancel_upkeep rfl
  | shutdown => exact Upkeep.origin .refl rfl
  | resolve key host =>
    have finishes := @resolveHost_finishes (Thread.scene env ⟨r, point⟩ (.command (.resolve key host))) key
      (r.accept key) host (scene_stocks.wears (accepted key).cache (accepted key).asked)
    rw [accept_standing.1] at finishes
    exact finishes.origin (accepted key) (noted_of_none rfl) (fun _ asks => .http rfl asks) fun _ ends => .http rfl ends
  | publicResolve key spec =>
    show Origin _ _ _ ⟨(r.accept key).resolvePublic env key spec, point'⟩
    unfold Resolver.resolvePublic
    rw [accept_standing.1, accept_standing.2]
    split
    · rename_i off
      refine Upkeep.origin ((accepted key).trans (.sent public_failed)) (if_neg ?_)
      simpa using off
    rename_i on
    have requests : Event.requests (.command (.publicResolve key spec)) ⟨r, point⟩ =
        [(key, spec, r.config.snapshot.searchSuffixes)] := if_pos (by simpa using on)
    have finishes := @beginPublicResolve_finishes (Thread.scene env ⟨r, point⟩ (.command (.publicResolve key spec))) key
      (r.accept key) spec r.config.snapshot.searchSuffixes r.config.retry
      (scene_stocks.wears (accepted key).cache (accepted key).asked)
    rw [← requests] at finishes
    refine finishes.origin (accepted key) ?_ (fun _ => .ofPublic) fun _ => .ofPublic
    rw [requests]
    rfl

/-- What a message does: it is the answer to a query, or it brings nothing new. -/
inductive Hears (env : Env) (event : Event) (thread : Thread) : Resolver → Prop where
  | answered {query : PendingQuery} {result : Except ResolveFailure ParsedAnswer} {middle : Resolver}
      (answers : event.Answers thread query result) (out : Upkeep false thread.resolver middle)
      (sameNow : middle.now env = thread.resolver.now env) : Hears env event thread (finishAnswer env query result middle)
  | upkeep {last : Resolver} (upkeep : Upkeep false thread.resolver last) : Hears env event thread last

theorem receiveTcp_hears {ready : PollReady} {rest : List PollReady} {script : TcpScript} :
    Hears env (.stream script) ⟨r, .streams (ready :: rest)⟩ (receiveTcp env ready script r) := by
  unfold receiveTcp
  split
  · exact .upkeep .refl
  rename_i id entry
  split
  · exact .upkeep (.of_eq rfl rfl (Nat.le_refl _))
  rename_i query found
  dsimp only
  split
  · exact .upkeep (.erase rfl rfl (Nat.le_refl _))
  rename_i tcp transport
  have out : Upkeep false r
      { r with pending := r.pending.erase id, tcpByToken := r.tcpByToken.erase tcp.token } :=
    .erase rfl rfl (Nat.le_refl _)
  split
  · rename_i driven drive
    refine .upkeep ?_
    dsimp only
    rw [AList.insert_erase]
    exact .insert found ⟨rfl, fun _ => ⟨rfl, rfl, rfl⟩, nofun⟩
  · rename_i driven message drive
    exact .answered ⟨id, tcp, driven, message, entry, found, transport, drive, rfl⟩ out rfl
  · exact .upkeep (failed_upkeep out)

theorem receivePacket_hears {bytes : Bytes} {io : StreamIo} {ready : List PollReady}
    (received : receivePacket env (bytes.take maxPacketLen) io r = some r') :
    Hears env (.datagram bytes io) ⟨r, .packets ready⟩ r' := by
  cases receivePacket_receives received with
  | ignored => exact .upkeep .refl
  | @answered id query result taken => exact .answered ⟨id, taken⟩ (.erase rfl rfl (Nat.le_refl _)) rfl
  | failed => exact .upkeep (failed_upkeep (.erase rfl rfl (Nat.le_refl _)))
  | @diverted id query _ deadline fallback _ taken _ later =>
    have kept : Kept false query { query with nextAttempt := deadline, transport := .tcp fallback } :=
      ⟨rfl, fun _ => ⟨rfl, rfl, rfl⟩, nofun⟩
    exact .upkeep ((Upkeep.insert (takesDatagram_parsed taken).2.1 kept).trans (.of_eq rfl rfl later))

theorem Hears.origin (hears : Hears env event thread thread'.resolver) (untimed : event.isTimers = false)
    (none : event.requests thread = []) : Origin env event thread thread' := by
  generalize isLast : thread'.resolver = last at hears
  cases hears with
  | @answered query result middle answers out sameNow =>
    have finishes := @finishAnswer_finishes (thread.scene env event) middle query result answers.scene sameNow
      (scene_stocks.wears out.cache out.asked)
    refine Finishes.origin (isLast ▸ finishes) (untimed ▸ out) (noted_of_none none) ?_ ?_
    · exact fun _ continues => .continues answers continues
    · exact fun _ ends => .ends answers ends
  | upkeep upkeep =>
    rw [← untimed, ← isLast] at upkeep
    exact upkeep.origin none

/-- Every query after a step was there before, continues one that the step has answered, or opens a lookup. -/
theorem Stepped.origin (step : Stepped env thread event thread') : Origin env event thread thread' := by
  cases step with
  | wake => exact Upkeep.origin wake_looks.upkeep rfl
  | command => exact handle_origin
  | drained | offline => exact Upkeep.origin refreshConfigurationIfDirty_looks.upkeep rfl
  | timers => exact Upkeep.origin (transmitDue_timed.tended.upkeep.trans refreshConfigurationIfDirty_looks.upkeep) rfl
  | pollFailed => exact Upkeep.origin failAll_upkeep rfl
  | datagram received => exact (receivePacket_hears received).origin rfl rfl
  | stream => exact receiveTcp_hears.origin rfl rfl
  | poisoned =>
    refine Upkeep.origin ?_ rfl
    unfold Resolver.replaceSocket
    split
    · exact .of_eq rfl rfl (Nat.le_refl _)
    · exact .refl
  | shutdown | disconnected | polled | panicked | interrupted | blocked => exact Upkeep.origin .refl rfl

end

/-! ## Runs -/

/-- A run from the start of the thread to where it is now: its steps, the last one first. -/
inductive Came (env : Env) : List (Thread × Event) → Thread → Prop where
  | start {config : ResolverConfig} {current : Nat} {nextConfigRefresh : Option Instant}
      (inside : current < config.snapshot.nameservers.length) : Came env [] (Thread.new config current nextConfigRefresh)
  | step {past : List (Thread × Event)} {thread thread' : Thread} {event : Event} (came : Came env past thread)
      (step : thread.step env event = some thread') : Came env ((thread, event) :: past) thread'

theorem Came.steps {env : Env} {past : List (Thread × Event)} {thread last : Thread} (came : Came env past thread)
    (steps : Relation.ReflTransGen (Thread.Step env) thread last) : ∃ past, Came env past last := by
  induction steps with
  | refl => exact ⟨past, came⟩
  | tail _ step ih =>
    obtain ⟨past, came⟩ := ih
    obtain ⟨event, step⟩ := step
    exact ⟨_, came.step step⟩

theorem Reached.came {env : Env} {thread : Thread} (reached : Reached (Thread.Step env) thread) :
    ∃ past, Came env past thread := by
  obtain ⟨config, current, nextConfigRefresh, inside, steps⟩ := reached
  exact (Came.start inside).steps steps

theorem Came.run {env : Env} {events : List Event} {past : List (Thread × Event)} {thread thread' : Thread}
    (came : Came env past thread) (ran : thread.run env events = some thread') :
    ∃ steps, Came env (steps ++ past) thread' ∧ steps.map (·.2) = events.reverse := by
  induction events generalizing past thread with
  | nil =>
    cases ran
    exact ⟨[], came, rfl⟩
  | cons event rest ih =>
    obtain ⟨next, step, ran⟩ := Option.bind_eq_some_iff.mp ran
    obtain ⟨steps, came, isRest⟩ := ih (came.step step) ran
    refine ⟨steps ++ [(thread, event)], ?_, ?_⟩
    · rw [List.append_assoc]
      exact came
    · rw [List.map_append, isRest, List.reverse_cons]
      rfl

end NbReq.Dns
