import NbReq.Dns.Chains
import NbReq.Lib.RoundRobin

/-!
# Retries

How often a query is sent over UDP, and to which nameservers. All queries share one current nameserver. A query that has
used up its attempts with it moves the thread on to the next one, and that starts the count of every other query anew.

If the only query on UDP is the one that moves the thread on, every query goes round the nameservers by itself
(`Rotates`): it is sent at most `attempt_limit` times to each of them, and it fails for lack of an answer only when it
has been sent that often to all of them. With several queries neither holds.
-/

namespace NbReq.Dns

open RoundRobin Script

/-! ## The transmissions of a query -/

/-- The query has gone round the nameservers, from where it started to the current one: all its attempts with the
earlier ones, and some with this one. -/
def Rotates (nameservers current : Nat) (query : PendingQuery) : Prop :=
  query.attemptsSent ≤ query.attemptLimit ∧
    ∃ start full, query.serversTried = full + 1 ∧ full < nameservers ∧ rotation nameservers start full = current ∧
      query.sent = rounds query.attemptLimit (rotation nameservers start) full query.attemptsSent

/-- The query was not sent too often, neither to one of so many nameservers nor to all of them. -/
structure Within (nameservers : Nat) (query : PendingQuery) : Prop where
  each : ∀ server, query.sent.count server ≤ query.attemptLimit
  total : query.sent.length ≤ nameservers * query.attemptLimit

section

variable {env : Env} {now : Instant} {generation nameservers current : Nat} {query old : PendingQuery}

theorem Rotates.within (rotates : Rotates nameservers current query) : Within nameservers query := by
  obtain ⟨attempts, start, full, -, inside, -, isSent⟩ := rotates
  rw [Nat.lt_iff_add_one_le] at inside
  refine ⟨?_, ?_⟩
  · intro server
    rw [isSent]
    exact count_rounds_le (rotation_injOn inside) attempts server
  · calc query.sent.length
        = full * query.attemptLimit + query.attemptsSent := by rw [isSent, length_rounds]
      _ ≤ full * query.attemptLimit + query.attemptLimit := Nat.add_le_add_left attempts _
      _ = (full + 1) * query.attemptLimit := (Nat.succ_mul _ _).symm
      _ ≤ nameservers * query.attemptLimit := Nat.mul_le_mul_right _ inside

/-- A query that is left without attempts and without nameservers was sent as often as it may be to each of them. -/
theorem Rotates.exhausted (rotates : Rotates nameservers current query)
    (attempts : query.attemptLimit ≤ query.attemptsSent) (tried : nameservers ≤ query.serversTried) {server : Nat}
    (inside : server < nameservers) : query.sent.count server = query.attemptLimit := by
  obtain ⟨most, start, full, isTried, isInside, -, isSent⟩ := rotates
  obtain ⟨k, before, rfl⟩ := exists_rotation_eq start inside
  rw [isSent, most.antisymm attempts]
  exact count_rounds_of_le (rotation_injOn isInside) (by omega)

theorem Rotates.of_tries (rotates : Rotates nameservers current old) (limit : query.attemptLimit = old.attemptLimit)
    (attempts : query.attemptsSent = old.attemptsSent) (tried : query.serversTried = old.serversTried)
    (sent : query.sent = old.sent) : Rotates nameservers current query := by
  unfold Rotates
  rw [limit, attempts, tried, sent]
  exact rotates

/-- A query that has not been sent starts at the current nameserver. -/
theorem rotates_unsent (inside : current < nameservers) (attempts : query.attemptsSent = 0)
    (tried : query.serversTried = 1) (sent : query.sent = []) : Rotates nameservers current query := by
  refine ⟨by rw [attempts]; exact Nat.zero_le _, current, 0, tried, Nat.zero_lt_of_lt inside, ?_, ?_⟩
  · exact Nat.mod_eq_of_lt inside
  · rw [sent, attempts, rounds_zero]

def PendingQuery.transmitted (env : Env) (now : Instant) (generation server : Nat) (query : PendingQuery) :
    PendingQuery :=
  query.afterSend env now generation server (.sent query.wire.length)

theorem transmitted_eq : query.transmitted env now generation current =
    { query with
      attemptsSent := query.attemptsSent + 1, lastUdpGeneration := generation
      nextAttempt := (checkedAddInstant env.latest now query.attemptTimeout).getD now
      sent := query.sent ++ [current] } := by
  rw [PendingQuery.transmitted, PendingQuery.afterSend, if_pos rfl]

variable (env now generation) in
theorem Rotates.transmitted (rotates : Rotates nameservers current query)
    (left : query.attemptsSent < query.attemptLimit) :
    Rotates nameservers current (query.transmitted env now generation current) := by
  obtain ⟨-, start, full, isTried, inside, isCurrent, isSent⟩ := rotates
  rw [transmitted_eq]
  refine ⟨left, start, full, isTried, inside, isCurrent, ?_⟩
  show query.sent ++ [current] = _
  rw [rounds_succ, ← isSent, isCurrent]

theorem restart_udp (udp : query.transport = .udp) : query.restart now =
    { query with attemptsSent := 0, serversTried := query.serversTried + 1, nextAttempt := now } := by
  rw [PendingQuery.restart, udp]

theorem restart_tcp {fallback : TcpFallback} (tcp : query.transport = .tcp fallback) : query.restart now = query := by
  rw [PendingQuery.restart, tcp]

variable (now) in
/-- The thread moves on to the next nameserver because the query has used up its attempts. -/
theorem Rotates.restart (rotates : Rotates nameservers current query) (udp : query.transport = .udp)
    (attempts : query.attemptLimit ≤ query.attemptsSent) (more : query.serversTried < nameservers) :
    Rotates nameservers ((current + 1) % nameservers) (query.restart now) := by
  obtain ⟨most, start, full, isTried, inside, isCurrent, isSent⟩ := rotates
  rw [restart_udp udp]
  refine ⟨Nat.zero_le _, start, full + 1, congrArg (· + 1) isTried, isTried ▸ more, ?_, ?_⟩
  · rw [rotation_succ, isCurrent]
  · show query.sent = rounds query.attemptLimit _ (full + 1) 0
    rw [← rounds_next, isSent, most.antisymm attempts]

end

/-- The query may be sent some times, was not sent too often, and goes round the nameservers while it is on UDP. -/
structure Measured (route : Bool × Nat × List SocketAddr) (query : PendingQuery) : Prop where
  limit : query.attemptLimit = query.policy.retry.attemptLimit
  budget : 0 < query.attemptLimit
  within : Within route.2.2.length query
  rotates : route.1 = true → query.transport = .udp → Rotates route.2.2.length route.2.1 query

section

variable {env : Env} {now : Instant} {route : Bool × Nat × List SocketAddr} {query old : PendingQuery}
  {retry : RetryPolicy}

/-! ## Queries that are new -/

structure Fresh (retry : RetryPolicy) (query : PendingQuery) : Prop where
  policy : query.policy.retry = retry
  limit : query.attemptLimit = retry.attemptLimit
  unsent : query.attemptsSent = 0 ∧ query.serversTried = 1 ∧ query.sent = []

theorem retry_issuing {policy : QueryPolicy} {issued : Nat} : (policy.issuing issued).retry = policy.retry := by
  cases policy <;> rfl

theorem Prepared.fresh {key : ResolveKey} {name : Name} {recordType : RecordType} {cnameHops : Nat}
    {policy : QueryPolicy} {trace : Trace} (prepared : Prepared key name recordType cnameHops policy trace query) :
    Fresh policy.retry query := by
  refine ⟨?_, prepared.limit, prepared.unsent⟩
  rw [prepared.isPolicy, retry_issuing]

/-- The retry policy of the query of a public lookup is one of its terms. -/
theorem retry_of_terms {session later : PublicSession} (terms : later.terms = session.terms) :
    (QueryPolicy.publicLookup later).retry = (QueryPolicy.publicLookup session).retry :=
  congrArg Terms.retry terms

theorem Continues.fresh {scene : Scene} {result : Except ResolveFailure ParsedAnswer}
    (continues : Continues scene old result query) : Fresh old.policy.retry query := by
  cases continues with
  | followed prepared | httpFamily _ _ prepared => exact prepared.fresh
  | family isPublic isTold _ prepared =>
    rw [isPublic, ← retry_of_terms isTold.terms]
    exact prepared.fresh
  | candidate isPublic isTold _ next =>
    obtain ⟨later, name, recordType, completes, prepared⟩ := next
    rw [isPublic, ← retry_of_terms isTold.terms, ← retry_of_terms completes.terms]
    exact prepared.fresh

theorem Event.Starts.fresh {event : Event} {thread : Thread} {key : ResolveKey}
    (asks : AsksNext key (event.Starts env thread key) query) : Fresh thread.resolver.config.retry query := by
  obtain ⟨later, name, recordType, ⟨session, requested, begins⟩, prepared⟩ := asks
  obtain ⟨spec, searchSuffixes, first, rest, -, -, rfl⟩ := requested
  have sameRetry : (QueryPolicy.publicLookup later).retry = thread.resolver.config.retry := retry_of_terms begins.terms
  rw [← sameRetry]
  exact prepared.fresh

theorem Fresh.measured (fresh : Fresh retry query) (budget : 0 < retry.attemptLimit) (routed : Routed route) :
    Measured route query := by
  obtain ⟨attempts, tried, sent⟩ := fresh.unsent
  refine ⟨by rw [fresh.limit, fresh.policy], by rw [fresh.limit]; exact budget, ⟨?_, ?_⟩, ?_⟩
  · intro server
    rw [sent]
    exact Nat.zero_le _
  · rw [sent]
    exact Nat.zero_le _
  · intro on _
    exact rotates_unsent (routed on) attempts tried sent

/-- A query that stays and was not retried. -/
theorem Kept.measured (kept : Kept false old query) (measured : Measured route old) : Measured route query := by
  obtain ⟨attempts, tried, sent⟩ := kept.tries rfl
  have limit : query.attemptLimit = old.attemptLimit := congrArg (fun query => query.attemptLimit) kept.core
  have policy : query.policy = old.policy := congrArg (fun query => query.policy) kept.core
  refine ⟨by rw [limit, policy, measured.limit], by rw [limit]; exact measured.budget, ⟨?_, ?_⟩, ?_⟩
  · intro server
    rw [sent, limit]
    exact measured.within.each server
  · rw [sent, limit]
    exact measured.within.total
  · intro on udp
    exact (measured.rotates on (kept.udp rfl udp)).of_tries limit attempts tried sent

end

/-! ## Failures -/

/-- The failure of a query whose stream has not brought an answer in time. -/
def fallbackExpired : ResolveFailure :=
  .classified .io "the DNS-over-TCP fallback did not complete before its deadline"

/-- The lookup has failed for lack of an answer. -/
def ResolveResult.Unanswered (result : ResolveResult) : Prop := ∃ query : PendingQuery, result = query.failed unanswered

/-- Some results are added, and each of them that says that an answer is missing is one of these. -/
def Reports (spent : ResolveResult → Prop) (r r' : Resolver) : Prop :=
  ∃ more, r'.results = r.results ++ more ∧ ∀ result ∈ more, result.Unanswered → spent result

section

variable {env : Env} {id : UInt16} {r r' r'' : Resolver} {query : PendingQuery} {failure : ResolveFailure}
  {spent : ResolveResult → Prop}

/-- The failure can be told from the result. -/
theorem answered_of_ne (other : failure.message ≠ unanswered.message) : ¬(query.failed failure).Unanswered := by
  rintro ⟨query', same⟩
  unfold PendingQuery.failed at same
  split at same <;> split at same
  · have result := congrArg ResolveResult.result same
    exact other (congrArg ResolveFailure.message (Except.error.inj result))
  · cases congrArg ResolveResult.publicOutcome same
  · cases congrArg ResolveResult.publicOutcome same
  · have outcome := Option.some.inj (congrArg ResolveResult.publicOutcome same)
    exact other (congrArg Error.message (PublicLookupOutcome.failed.inj outcome))

theorem Reports.of_eq (same : r'.results = r.results) : Reports spent r r' :=
  ⟨[], by rw [same, List.append_nil], fun _ mem => absurd mem List.not_mem_nil⟩

theorem Reports.trans (first : Reports spent r r') (second : Reports spent r' r'') : Reports spent r r'' := by
  obtain ⟨more, results, told⟩ := first
  obtain ⟨more', results', told'⟩ := second
  refine ⟨more ++ more', by rw [results', results, List.append_assoc], ?_⟩
  intro result mem
  exact (List.mem_append.mp mem).elim (told result) (told' result)

theorem Reports.mono {spent' : ResolveResult → Prop} (reports : Reports spent r r')
    (more : ∀ result, spent result → spent' result) : Reports spent' r r' := by
  obtain ⟨added, results, told⟩ := reports
  exact ⟨added, results, fun result mem isUnanswered => more result (told result mem isUnanswered)⟩

theorem Reports.failed (told : (query.failed failure).Unanswered → spent (query.failed failure)) :
    Reports spent r ((r.forgetKey query.key).emitFailure query failure) := by
  refine ⟨[query.failed failure], by rw [emitFailure_eq]; rfl, ?_⟩
  intro result mem
  rw [List.mem_singleton.mp mem]
  exact told

/-- A look at the configuration reports no missing answer. -/
theorem Tended.reports (tended : Tended false (· = configurationChanged) r r') : Reports (fun _ => False) r r' := by
  induction tended with
  | refl => exact .of_eq rfl
  | tail _ tends ih =>
    refine ih.trans ?_
    cases tends with
    | quiet same =>
      simp only [Resolver.affairs, Prod.mk.injEq] at same
      exact .of_eq same.2.2.2.2.2.2.2.1
    | resend again => cases again
    | @fail id query failure found isChange =>
      obtain ⟨tokens, removed⟩ := removeQuery_found found
      have told : ¬(query.failed failure).Unanswered := answered_of_ne (by rw [isChange]; decide)
      rw [removed]
      exact (Reports.of_eq rfl).trans (.failed fun isUnanswered => absurd isUnanswered told)

theorem emitFailure_facts : ((r.forgetKey query.key).emitFailure query failure).pending = r.pending ∧
    ((r.forgetKey query.key).emitFailure query failure).config = r.config ∧
    ((r.forgetKey query.key).emitFailure query failure).setup = r.setup ∧
    ((r.forgetKey query.key).emitFailure query failure).results = r.results ++ [query.failed failure] := by
  rw [emitFailure_eq]
  exact ⟨rfl, rfl, rfl, rfl⟩

end

/-! ## Timers -/

def Event.Succeeds (event : Event) (thread : Thread) : Prop :=
  match event with
  | .timers _ io _ =>
    (∀ id nameserver, (io id).sockets.reaches nameserver = true) ∧
      ∀ id query, thread.resolver.pending.lookup id = some query → (io id).send = .sent query.wire.length
  | _ => True

/-- The query has used up its attempts with the current nameserver, and there is another one to try. -/
def PendingQuery.MovesOn (nameservers : Nat) (query : PendingQuery) : Prop :=
  query.transport = .udp ∧ query.attemptLimit ≤ query.attemptsSent ∧ query.serversTried < nameservers

/-- If a due query moves the thread on to another nameserver, it is the only query on UDP. -/
def Event.Alone (event : Event) (thread : Thread) : Prop :=
  match event with
  | .timers due _ _ =>
    ∀ id ∈ due, ∀ query, thread.resolver.pending.lookup id = some query →
      query.MovesOn thread.resolver.config.snapshot.nameservers.length →
      ∀ other rival, thread.resolver.pending.lookup other = some rival → rival.transport = .udp → other = id
  | _ => True

/-- A step in which sends and reconnections succeed and no query disturbs another one. -/
def Thread.SteadyStep (env : Env) (thread thread' : Thread) : Prop :=
  ∃ event : Event, event.Succeeds thread ∧ event.Alone thread ∧ thread.step env event = some thread'

/-- What the timer of a query does if sends and reconnections succeed. -/
inductive Transmits (env : Env) (now : Instant) (id : UInt16) (r r' : Resolver) : Prop where
  | absent (none : r.pending.lookup id = none) (same : r' = r)
  | fails {query : PendingQuery} {failure : ResolveFailure} (found : r.pending.lookup id = some query)
      (why : failure = fallbackExpired ∧ query.transport ≠ .udp ∨
        failure = unanswered ∧ query.transport = .udp ∧ query.attemptLimit ≤ query.attemptsSent ∧
          r.config.snapshot.nameservers.length ≤ query.serversTried)
      (pending : r'.pending = r.pending.erase id) (setup : r'.setup = r.setup)
      (results : r'.results = r.results ++ [query.failed failure])
  | sends {query : PendingQuery} (found : r.pending.lookup id = some query) (udp : query.transport = .udp)
      (left : query.attemptsSent < query.attemptLimit)
      (pending : r'.pending =
        r.pending.insert id (query.transmitted env now r.udpGeneration r.currentNameserver))
      (setup : r'.setup = r.setup) (results : r'.results = r.results)
  | movesOn {query : PendingQuery} {generation next : Nat} (found : r.pending.lookup id = some query)
      (moves : query.MovesOn r.config.snapshot.nameservers.length)
      (isNext : next = (r.currentNameserver + 1) % r.config.snapshot.nameservers.length)
      (pending : r'.pending =
        (r.pending.mapValues (·.restart now)).insert id ((query.restart now).transmitted env now generation next))
      (setup : r'.setup = (r.socket, next, r.config)) (results : r'.results = r.results)

section

variable {env : Env} {now : Instant} {id : UInt16} {r r' : Resolver} {query : PendingQuery}

theorem advanceNameserver_next {io : SocketIo} {nameservers : List SocketAddr} {current : Nat}
    (reaches : ∀ nameserver, io.reaches nameserver = true) (several : 1 < nameservers.length) :
    advanceNameserver io nameservers current = some ((current + 1) % nameservers.length) := by
  obtain ⟨more, isLength⟩ : ∃ more, nameservers.length - 1 = more + 1 := ⟨nameservers.length - 2, by omega⟩
  have inside : (current + 1) % nameservers.length < nameservers.length := Nat.mod_lt _ (by omega)
  unfold advanceNameserver
  rw [isLength, List.range'_succ, List.findSome?_cons]
  dsimp only
  rw [List.getElem?_eq_getElem inside, Option.any_some, reaches]
  rfl

theorem sendDue_found {result : SendResult} (found : r.pending.lookup id = some query) (udp : query.transport = .udp)
    (sent : result = .sent query.wire.length) :
    r.sendDue env now id result =
      { r with pending := r.pending.insert id (query.transmitted env now r.udpGeneration r.currentNameserver) } := by
  unfold Resolver.sendDue
  rw [found, sent]
  dsimp only
  rw [udp]
  rfl

theorem transmit_cases {io : DueIo} (reaches : ∀ nameserver, io.sockets.reaches nameserver = true)
    (sends : ∀ query, r.pending.lookup id = some query → io.send = .sent query.wire.length)
    (tried : ∀ query, r.pending.lookup id = some query → query.transport = .udp → 0 < query.serversTried) :
    Transmits env now id r (r.transmit env now id io) := by
  unfold Resolver.transmit
  cases found : r.pending.lookup id with
  | none => exact .absent found rfl
  | some query =>
    dsimp only
    split
    · rename_i fallback tcp
      obtain ⟨tokens, removed⟩ := removeQuery_found found
      rw [removed]
      obtain ⟨pending, -, setup, results⟩ := emitFailure_facts
      exact .fails found (.inl ⟨rfl, by rw [tcp]; exact nofun⟩) pending setup results
    rename_i udp
    split
    · rename_i attempts
      split
      · rename_i index advanced
        split at advanced
        · rename_i more
          have several : 1 < r.config.snapshot.nameservers.length := by
            have := tried query found udp
            omega
          rw [advanceNameserver_next reaches several] at advanced
          have isNext := (Option.some.inj advanced).symm
          have restarted : (r.pending.mapValues (·.restart now)).lookup id = some (query.restart now) := by
            rw [AList.lookup_mapValues, found]
            rfl
          have still : (query.restart now).transport = .udp := by
            rw [restart_udp udp]
            exact udp
          have wire : (query.restart now).wire = query.wire := by rw [restart_udp udp]
          rw [sendDue_found restarted still (by rw [sends query found, wire])]
          exact .movesOn found ⟨udp, attempts, more⟩ isNext rfl rfl rfl
        · cases advanced
      · rename_i stuck
        have all : r.config.snapshot.nameservers.length ≤ query.serversTried := by
          by_contra more
          have several : 1 < r.config.snapshot.nameservers.length := by
            have := tried query found udp
            omega
          rw [if_pos (Nat.lt_of_not_le more), advanceNameserver_next reaches several] at stuck
          cases stuck
        obtain ⟨pending, -, setup, results⟩ := emitFailure_facts
        exact .fails found (.inr ⟨rfl, udp, attempts, all⟩) pending setup results
    · rename_i left
      rw [sendDue_found found udp (sends query found)]
      exact .sends found udp (Nat.lt_of_not_le left) rfl rfl rfl

theorem Measured.transmitted {route : Bool × Nat × List SocketAddr} {generation : Nat} (measured : Measured route query)
    (on : route.1 = true) (udp : query.transport = .udp) (left : query.attemptsSent < query.attemptLimit) :
    Measured route (query.transmitted env now generation route.2.1) := by
  have rotates := (measured.rotates on udp).transmitted env now generation left
  have limit := measured.limit
  have budget := measured.budget
  refine ⟨?_, ?_, rotates.within, fun _ _ => rotates⟩
  · rw [transmitted_eq]
    exact limit
  · rw [transmitted_eq]
    exact budget

variable (now) in
theorem Measured.restart {route : Bool × Nat × List SocketAddr} (measured : Measured route query) (on : route.1 = true)
    (moves : query.MovesOn route.2.2.length) :
    Measured (route.1, (route.2.1 + 1) % route.2.2.length, route.2.2) (query.restart now) := by
  obtain ⟨udp, attempts, more⟩ := moves
  have rotates := (measured.rotates on udp).restart now udp attempts more
  have limit := measured.limit
  have budget := measured.budget
  refine ⟨?_, ?_, rotates.within, fun _ _ => rotates⟩
  · rw [restart_udp udp]
    exact limit
  · rw [restart_udp udp]
    exact budget

/-- The nameserver in use does not matter to a query that has left UDP. -/
theorem Measured.reroute {route route' : Bool × Nat × List SocketAddr} (measured : Measured route query)
    (nameservers : route'.2.2 = route.2.2) (tcp : query.transport ≠ .udp) : Measured route' query :=
  ⟨measured.limit, measured.budget, by rw [nameservers]; exact measured.within, fun _ udp => absurd udp tcp⟩

end

/-- The result is the one of a query that was sent as often as it may be to every nameserver. -/
def Resolver.Spent (r : Resolver) (result : ResolveResult) : Prop :=
  ∃ id query, r.pending.lookup id = some query ∧ query.key = result.key ∧
    ∀ server < r.config.snapshot.nameservers.length, query.sent.count server = query.attemptLimit

/-- The resolver between two timers: those of some queries have been looked at since, and those of others not yet. -/
structure Midway (r : Resolver) (done todo : List UInt16) (r' : Resolver) : Prop where
  config : r'.config = r.config
  socket : r'.socket = r.socket
  routed : Routed r'.route
  unchanged : ∀ id ∈ todo, r'.pending.lookup id = r.pending.lookup id
  measured : ∀ id query, r'.pending.lookup id = some query → Measured r'.route query
  origin : ∀ id query, r'.pending.lookup id = some query → ∃ old, r.pending.lookup id = some old ∧
    query.transport = old.transport ∧ (id ∈ done → old.transport = .udp → query.sent.length = old.sent.length + 1)
  reports : Reports r.Spent r r'

section

variable {env : Env} {now : Instant} {id : UInt16} {done todo : List UInt16} {r r' r'' : Resolver}
  {query : PendingQuery}

/-- One timer. The other queries stay as they are, the route being one that they can go on with. -/
theorem Midway.next (midway : Midway r done (id :: todo) r') (fresh : id ∉ todo) (config : r''.config = r'.config)
    (socket : r''.socket = r'.socket) (routed : Routed r''.route)
    (others : ∀ other, other ≠ id → r''.pending.lookup other = r'.pending.lookup other)
    (rerouted : ∀ other query, other ≠ id → r'.pending.lookup other = some query → Measured r''.route query)
    (own : ∀ new, r''.pending.lookup id = some new → Measured r''.route new ∧
      ∃ old, r.pending.lookup id = some old ∧ new.transport = old.transport ∧ new.sent.length = old.sent.length + 1)
    (reports : Reports r.Spent r' r'') : Midway r (done ++ [id]) todo r'' where
  config := config.trans midway.config
  socket := socket.trans midway.socket
  routed := routed
  unchanged := by
    intro other mem
    rw [others other (ne_of_mem_of_not_mem mem fresh)]
    exact midway.unchanged other (List.mem_cons_of_mem _ mem)
  measured := by
    intro other query found
    by_cases isOther : other = id
    · subst isOther
      exact (own query found).1
    · exact rerouted other query isOther (others other isOther ▸ found)
  origin := by
    intro other query found
    by_cases isOther : other = id
    · subst isOther
      obtain ⟨-, old, isOld, transport, sent⟩ := own query found
      exact ⟨old, isOld, transport, fun _ _ => sent⟩
    · obtain ⟨old, isOld, transport, sent⟩ := midway.origin other query (others other isOther ▸ found)
      refine ⟨old, isOld, transport, fun mem => sent ?_⟩
      exact (List.mem_append.mp mem).resolve_right fun isLast => isOther (List.mem_singleton.mp isLast)
  reports := midway.reports.trans reports

/-- The timer of a query that moves the thread on to the next nameserver: all the others have left UDP. -/
theorem Midway.movesOn {generation next : Nat} (midway : Midway r done (id :: todo) r') (fresh : id ∉ todo)
    (on : r.socket = true) (found : r'.pending.lookup id = some query)
    (moves : query.MovesOn r'.config.snapshot.nameservers.length)
    (isNext : next = (r'.currentNameserver + 1) % r'.config.snapshot.nameservers.length)
    (pending : r''.pending =
      (r'.pending.mapValues (·.restart now)).insert id ((query.restart now).transmitted env now generation next))
    (setup : r''.setup = (r'.socket, next, r'.config)) (results : r''.results = r'.results)
    (alone : ∀ other rival, r.pending.lookup other = some rival → rival.transport = .udp → other = id) :
    Midway r (done ++ [id]) todo r'' := by
  have route : r''.route = (r'.route.1, (r'.route.2.1 + 1) % r'.route.2.2.length, r'.route.2.2) := by
    have moved : r''.route = (r''.setup.1, r''.setup.2.1, r''.setup.2.2.snapshot.nameservers) := rfl
    rw [moved, setup, isNext]
    rfl
  have onStill : r'.route.1 = true := midway.socket.trans on
  -- whoever else is in flight has left UDP, and is not restarted
  have left : ∀ other rival, other ≠ id → r'.pending.lookup other = some rival →
      rival.transport ≠ .udp ∧ rival.restart now = rival := by
    intro other rival isOther isRival
    obtain ⟨old, isOld, transport, -⟩ := midway.origin other rival isRival
    cases isTransport : rival.transport with
    | udp => exact absurd (alone other old isOld (transport.symm.trans isTransport)) isOther
    | tcp fallback => exact ⟨nofun, restart_tcp isTransport⟩
  refine midway.next fresh (congrArg (fun setup => setup.2.2) setup) (congrArg (fun setup => setup.1) setup) ?_ ?_ ?_ ?_
    (.of_eq results)
  · rw [route]
    exact fun _ => Nat.mod_lt _ (Nat.zero_lt_of_lt (midway.routed onStill))
  · intro other isOther
    rw [pending, AList.lookup_insert_ne isOther, AList.lookup_mapValues]
    cases isRival : r'.pending.lookup other with
    | none => rfl
    | some rival => exact congrArg some (left other rival isOther isRival).2
  · intro other rival isOther isRival
    rw [route]
    exact (midway.measured other rival isRival).reroute rfl (left other rival isOther isRival).1
  · intro new isNew
    rw [pending, AList.lookup_insert] at isNew
    cases isNew
    refine ⟨?_, query, (midway.unchanged _ List.mem_cons_self).symm.trans found, ?_, ?_⟩
    · have measured := (midway.measured id query found).restart now onStill moves
      rw [route, isNext]
      refine measured.transmitted onStill ?_ ?_
      · rw [restart_udp moves.1]
        exact moves.1
      · have budget := measured.budget
        rw [restart_udp moves.1] at budget ⊢
        exact budget
    · rw [transmitted_eq, restart_udp moves.1]
    · rw [transmitted_eq, restart_udp moves.1]
      exact List.length_append

theorem Midway.step (midway : Midway r done (id :: todo) r') (fresh : id ∉ todo) (on : r.socket = true)
    (transmits : Transmits env now id r' r'')
    (alone : ∀ query, r.pending.lookup id = some query → query.MovesOn r.config.snapshot.nameservers.length →
      ∀ other rival, r.pending.lookup other = some rival → rival.transport = .udp → other = id) :
    Midway r (done ++ [id]) todo r'' := by
  have unchanged := midway.unchanged id List.mem_cons_self
  -- unless the thread moves on, the others can go on as they are
  have stays (setup : r''.setup = r'.setup) := @Midway.next id done todo r r' r'' midway fresh
    (congrArg (fun setup => setup.2.2) setup) (congrArg (fun setup => setup.1) setup)
    (route_of_setup setup ▸ midway.routed)
  have measured (setup : r''.setup = r'.setup) : ∀ other query, other ≠ id → r'.pending.lookup other = some query →
      Measured r''.route query := fun other query _ found => route_of_setup setup ▸ midway.measured other query found
  cases transmits with
  | absent none same =>
    subst same
    refine stays rfl (fun _ _ => rfl) (measured rfl) (fun new isNew => ?_) (.of_eq rfl)
    rw [none] at isNew
    cases isNew
  | @fails query failure found why pending setup results =>
    refine stays setup (fun other isOther => ?_) (measured setup) (fun new isNew => ?_) ⟨_, results, fun result mem => ?_⟩
    · rw [pending, AList.lookup_erase_ne isOther]
    · rw [pending, AList.lookup_erase] at isNew
      cases isNew
    rw [List.mem_singleton.mp mem]
    intro isUnanswered
    rcases why with ⟨rfl, -⟩ | ⟨rfl, udp, attempts, tried⟩
    · exact absurd isUnanswered (answered_of_ne (by decide))
    refine ⟨id, query, unchanged.symm.trans found, failed_key.symm, ?_⟩
    rw [← midway.config]
    intro server inside
    exact ((midway.measured id query found).rotates (midway.socket.trans on) udp).exhausted attempts tried inside
  | @sends query found udp left pending setup results =>
    refine stays setup (fun other isOther => ?_) (measured setup) (fun new isNew => ?_) (.of_eq results)
    · rw [pending, AList.lookup_insert_ne isOther]
    rw [pending, AList.lookup_insert] at isNew
    cases isNew
    refine ⟨?_, query, unchanged.symm.trans found, ?_, ?_⟩
    · rw [route_of_setup setup]
      exact (midway.measured id query found).transmitted (midway.socket.trans on) udp left
    · rw [transmitted_eq]
    · rw [transmitted_eq]
      exact List.length_append
  | movesOn found moves isNext pending setup results =>
    have isOld := unchanged.symm.trans found
    refine midway.movesOn fresh on found moves isNext pending setup results (alone _ isOld ?_)
    rw [← midway.config]
    exact moves

theorem transmitDue_midway {io : UInt16 → DueIo} (on : r.socket = true) (routed : Routed r.route)
    (measured : ∀ id query, r.pending.lookup id = some query → Measured r.route query) (due : List UInt16)
    (distinct : due.Nodup) (reaches : ∀ id nameserver, (io id).sockets.reaches nameserver = true)
    (sends : ∀ id query, r.pending.lookup id = some query → (io id).send = .sent query.wire.length)
    (alone : ∀ id ∈ due, ∀ query, r.pending.lookup id = some query →
      query.MovesOn r.config.snapshot.nameservers.length →
      ∀ other rival, r.pending.lookup other = some rival → rival.transport = .udp → other = id) :
    Midway r due [] (r.transmitDue env due io) := by
  have folded : ∀ (now : Instant) (todo done : List UInt16) (middle : Resolver), done ++ todo = due →
      Midway r done todo middle →
      Midway r due [] (todo.foldl (fun state id => state.transmit env now id (io id)) middle) := by
    intro now todo
    induction todo with
    | nil =>
      intro done middle isDue midway
      rw [List.append_nil] at isDue
      rw [← isDue]
      exact midway
    | cons id todo ih =>
      intro done middle isDue midway
      have isDue' : done ++ [id] ++ todo = due := by rw [List.append_assoc]; exact isDue
      have fresh : id ∉ todo := by
        rw [← isDue] at distinct
        exact (List.nodup_cons.mp distinct.of_append_right).1
      have unchanged := midway.unchanged id List.mem_cons_self
      have transmits : Transmits env now id middle (middle.transmit env now id (io id)) := by
        refine transmit_cases (reaches id) ?_ ?_
        · intro query found
          exact sends id query (unchanged.symm.trans found)
        intro query found udp
        obtain ⟨-, start, full, tried, -⟩ := (midway.measured id query found).rotates (midway.socket.trans on) udp
        rw [tried]
        exact Nat.succ_pos full
      have isAlone := alone id (by rw [← isDue]; exact List.mem_append_right _ List.mem_cons_self)
      exact ih (done ++ [id]) _ isDue' (midway.step fresh on transmits isAlone)
  refine folded (r.now env) due [] r.tick rfl ⟨rfl, rfl, routed, fun _ _ => rfl, measured, ?_, .of_eq rfl⟩
  intro id query found
  exact ⟨query, found, rfl, fun mem => absurd mem List.not_mem_nil⟩

end

/-! ## Runs -/

variable {due : List UInt16}

structure Paced (thread : Thread) : Prop where
  budget : 0 < thread.resolver.config.snapshot.attempts
  listening : Listening thread
  measured : ∀ id query, thread.resolver.pending.lookup id = some query → Measured thread.resolver.route query

section

variable {env : Env} {event : Event} {thread thread' : Thread} {r : Resolver}

theorem dueIds_nodup {now : Instant} : (r.dueIds now).Nodup := by
  have keys : (r.pending.entries.map Sigma.fst).Nodup := r.pending.nodupKeys
  exact keys.sublist (List.filter_sublist.map Sigma.fst)

/-- Looking at the configuration keeps the pace. -/
theorem Looks.measured {r r' : Resolver} (looks : Looks r r')
    (measured : ∀ id query, r.pending.lookup id = some query → Measured r.route query) :
    ∀ id query, r'.pending.lookup id = some query → Measured r'.route query := by
  intro id query found
  rcases looks.outcome with ⟨route, -, pending⟩ | ⟨gone, -⟩
  · rw [pending] at found
    rw [route]
    exact measured id query found
  · rw [gone id] at found
    cases found

/-- What leaves the configuration and the socket alone keeps the pace. -/
theorem Paced.of_setup (paced : Paced thread) (step : Stepped env thread event thread')
    (untimed : event.isTimers = false) (setup : thread'.resolver.setup = thread.resolver.setup) : Paced thread' := by
  have listening := paced.listening.step step
  have config : thread'.resolver.config = thread.resolver.config := congrArg (fun setup => setup.2.2) setup
  refine ⟨by rw [config]; exact paced.budget, listening, ?_⟩
  intro id query found
  have same := route_of_setup setup
  rcases step.origin.pending id query found with ⟨old, isOld, kept⟩ | launches
  · rw [untimed] at kept
    rw [same]
    exact kept.measured (paced.measured id old isOld)
  cases launches with
  | @continues old result answers continues =>
    obtain ⟨oldId, isOld⟩ := answers.found
    have measured := paced.measured oldId old isOld
    refine continues.fresh.measured ?_ listening.routed
    rw [← measured.limit]
    exact measured.budget
  | http _ asks =>
    obtain ⟨name, -, prepared⟩ := asks
    exact prepared.fresh.measured paced.budget listening.routed
  | ofPublic asks => exact (Event.Starts.fresh asks).measured paced.budget listening.routed

theorem Paced.of_looks (paced : Paced thread) (step : Stepped env thread event thread')
    (looks : Looks thread.resolver thread'.resolver) : Paced thread' :=
  ⟨looks.budget paced.budget, paced.listening.step step, looks.measured paced.measured⟩

theorem Paced.timers {io : UInt16 → DueIo} {refresh : RefreshIo} (paced : Paced thread)
    (step : Stepped env thread (.timers due io refresh) thread') (on : thread.resolver.socket = true)
    (succeeds : Event.Succeeds (.timers due io refresh) thread)
    (alone : Event.Alone (.timers due io refresh) thread) :
    ∃ middle, Midway thread.resolver due [] middle ∧ Looks middle thread'.resolver := by
  cases step with
  | offline off =>
    rw [off] at on
    cases on
  | @timers r _ _ _ _ isDue =>
    exact ⟨r.transmitDue env due io,
      transmitDue_midway on paced.listening.routed paced.measured due (isDue.nodup_iff.mpr dueIds_nodup) succeeds.1
        succeeds.2 alone,
      refreshConfigurationIfDirty_looks⟩

theorem Paced.step (paced : Paced thread) (step : Stepped env thread event thread') (succeeds : event.Succeeds thread)
    (alone : event.Alone thread) : Paced thread' := by
  have stepped := step
  cases step with
  | wake => exact paced.of_looks stepped wake_looks
  | drained | offline => exact paced.of_looks stepped refreshConfigurationIfDirty_looks
  | timers on =>
    obtain ⟨middle, midway, looks⟩ := paced.timers stepped on succeeds alone
    refine ⟨looks.budget ?_, paced.listening.step stepped, looks.measured midway.measured⟩
    rw [midway.config]
    exact paced.budget
  | command => exact paced.of_setup stepped rfl (setup_of_standing standing_handle)
  | pollFailed => exact paced.of_setup stepped rfl (setup_of_standing standing_failAll)
  | datagram received => exact paced.of_setup stepped rfl (setup_of_standing (standing_receivePacket received))
  | stream => exact paced.of_setup stepped rfl (setup_of_standing standing_receiveTcp)
  | poisoned => exact paced.of_setup stepped rfl (setup_of_standing standing_replaceSocket)
  | polled | panicked | shutdown | disconnected | interrupted | blocked => exact paced.of_setup stepped rfl rfl

theorem Paced.new {config : ResolverConfig} {current : Nat} {nextConfigRefresh : Option Instant}
    (budget : 0 < config.snapshot.attempts) (connected : current < config.snapshot.nameservers.length) :
    Paced (Thread.new config current nextConfigRefresh) :=
  ⟨budget, ⟨fun _ => connected, fun _ => nofun, nofun⟩, fun _ _ => nofun⟩

theorem Paced.steps (paced : Paced thread) (steps : Relation.ReflTransGen (Thread.SteadyStep env) thread thread') :
    Paced thread' := by
  induction steps with
  | refl => exact paced
  | tail _ step ih =>
    obtain ⟨event, succeeds, alone, step⟩ := step
    exact ih.step (Thread.stepped step) succeeds alone

end

/-- If sends and reconnections succeed, and a query moves the thread on to another nameserver only while no other query
is on UDP, every query is sent at most `attempt_limit` times to each nameserver. Each of its timeouts sends it once more
or ends it, and it fails for lack of an answer only when it was sent that often to all of them. -/
theorem transmissions_bounded {env : Env} {config : ResolverConfig} {current : Nat}
    {nextConfigRefresh : Option Instant} {thread : Thread} (budget : 0 < config.snapshot.attempts)
    (connected : current < config.snapshot.nameservers.length)
    (steps : Relation.ReflTransGen (Thread.SteadyStep env) (Thread.new config current nextConfigRefresh) thread) :
    (∀ id query, thread.resolver.pending.lookup id = some query →
      (∀ server, query.sent.count server ≤ query.attemptLimit) ∧
        query.sent.length ≤ thread.resolver.config.snapshot.nameservers.length * query.attemptLimit) ∧
    ∀ due io refresh thread', Event.Succeeds (.timers due io refresh) thread →
      Event.Alone (.timers due io refresh) thread → thread.step env (.timers due io refresh) = some thread' →
      (thread.resolver.socket = true → ∀ id ∈ due, ∀ query next, thread.resolver.pending.lookup id = some query →
        query.transport = .udp → thread'.resolver.pending.lookup id = some next →
        next.sent.length = query.sent.length + 1) ∧
      ∃ more, thread'.resolver.results = thread.resolver.results ++ more ∧
        ∀ result ∈ more, result.Unanswered → thread.resolver.Spent result := by
  have paced : Paced thread := (Paced.new budget connected).steps steps
  refine ⟨?_, ?_⟩
  · intro id query found
    have within := (paced.measured id query found).within
    exact ⟨within.each, within.total⟩
  intro due io refresh thread' succeeds alone step
  have stepped := Thread.stepped step
  refine ⟨?_, ?_⟩
  · intro on id mem query next found udp isNext
    obtain ⟨middle, midway, looks⟩ := paced.timers stepped on succeeds alone
    rcases looks.outcome with ⟨-, -, pending⟩ | ⟨gone, -⟩
    · rw [pending] at isNext
      obtain ⟨old, isOld, -, sent⟩ := midway.origin id next isNext
      rw [found] at isOld
      cases isOld
      exact sent mem udp
    · rw [gone id] at isNext
      cases isNext
  · show Reports thread.resolver.Spent thread.resolver thread'.resolver
    cases on : thread.resolver.socket with
    | false =>
      cases stepped with
      | offline => exact refreshConfigurationIfDirty_looks.tended.reports.mono fun _ => False.elim
      | timers isOn =>
        rw [isOn] at on
        cases on
    | true =>
      obtain ⟨middle, midway, looks⟩ := paced.timers stepped on succeeds alone
      exact midway.reports.trans (looks.tended.reports.mono fun _ => False.elim)

/-! ## Samples -/

theorem Event.steady_of_untimed {event : Event} (thread : Thread) (untimed : event.isTimers = false) :
    event.Succeeds thread ∧ event.Alone thread := by
  cases event with
  | timers => cases untimed
  | _ => exact ⟨trivial, trivial⟩

/-- What a query has to send, how often it may and where it was sent. -/
structure Sending where
  key : ResolveKey
  transport : QueryTransport
  octets : Nat
  attemptsSent : Nat
  attemptLimit : Nat
  sent : List Nat
deriving DecidableEq

def PendingQuery.sending (query : PendingQuery) : Sending :=
  ⟨query.key, query.transport, query.wire.length, query.attemptsSent, query.attemptLimit, query.sent⟩

def Resolver.sendings (r : Resolver) : List (UInt16 × Sending) :=
  r.pending.entries.map fun entry => (entry.1, entry.2.sending)

theorem mem_sendings {r : Resolver} {id : UInt16} {query : PendingQuery} (found : r.pending.lookup id = some query) :
    (id, query.sending) ∈ r.sendings :=
  List.mem_map.mpr ⟨⟨id, query⟩, AList.mem_lookup_iff.mp found, rfl⟩

theorem found_of_mem_sendings {r : Resolver} {id : UInt16} {sending : Sending} (mem : (id, sending) ∈ r.sendings) :
    ∃ query, r.pending.lookup id = some query ∧ query.sending = sending := by
  obtain ⟨⟨id, query⟩, isEntry, same⟩ := List.mem_map.mp mem
  cases same
  exact ⟨query, AList.mem_lookup_iff.mpr isEntry, rfl⟩

/-- The timers of queries of 21 octets, which are sent as a whole. -/
def sampleTimers (due : List UInt16) : Event := .timers due (fun _ => ⟨sampleSockets, .sent 21⟩) sampleRefresh

theorem sampleTimers_succeeds {thread : Thread}
    (octets : ∀ sending ∈ thread.resolver.sendings, sending.2.octets = 21) : (sampleTimers due).Succeeds thread := by
  refine ⟨fun _ _ => rfl, ?_⟩
  intro id query found
  exact congrArg SendResult.sent (octets _ (mem_sendings found)).symm

def Event.steadyTurn (env : Env) (event : Event) (untimed : event.isTimers = false) : Turn (Thread.SteadyStep env) :=
  ⟨(·.step env event), fun thread _ step =>
    ⟨event, (event.steady_of_untimed thread untimed).1, (event.steady_of_untimed thread untimed).2, step⟩⟩

/-- The loop takes these commands. -/
def sampleStart (env : Env) (commands : List Command) : List (Turn (Thread.SteadyStep env)) :=
  [Event.steadyTurn env (.wake false sampleRefresh) rfl] ++ commands.map (fun command =>
    Event.steadyTurn env (.command command) rfl) ++ [Event.steadyTurn env (.drained sampleRefresh) rfl]

theorem transmissions_bounded_sample : ∃ thread thread' query next,
    Relation.ReflTransGen (Thread.SteadyStep sampleEnv) (Thread.new sampleConfig 0 none) thread ∧
    thread.step sampleEnv (sampleTimers [7]) = some thread' ∧
    thread.resolver.pending.lookup 7 = some query ∧ thread'.resolver.pending.lookup 7 = some next ∧
    (∀ server, query.sent.count server ≤ query.attemptLimit) ∧ next.sent.length = query.sent.length + 1 := by
  obtain ⟨thread, steps, on, sendings, sends⟩ :=
    reach (sampleStart sampleEnv [.publicResolve ⟨1⟩ sampleLookup]) (Thread.new sampleConfig 0 none)
      (fun thread => thread.resolver.socket = true ∧ thread.resolver.sendings = [(7, ⟨⟨1⟩, .udp, 21, 0, 3, []⟩)] ∧
        (thread.step sampleEnv (sampleTimers [7])).map (·.resolver.sendings) =
          some [(7, ⟨⟨1⟩, .udp, 21, 1, 3, [0]⟩)]) (by decide +kernel)
  obtain ⟨thread', sends, sendings'⟩ := Option.map_eq_some_iff.mp sends
  obtain ⟨query, found, isQuery⟩ := found_of_mem_sendings (sendings ▸ List.mem_singleton_self _)
  obtain ⟨next, isNext, -⟩ := found_of_mem_sendings (sendings' ▸ List.mem_singleton_self _)
  have succeeds : (sampleTimers [7]).Succeeds thread := sampleTimers_succeeds (by rw [sendings]; decide)
  have alone : (sampleTimers [7]).Alone thread := by
    rintro id - query found ⟨-, attempts, -⟩
    have unsent : ∀ sending ∈ thread.resolver.sendings, sending.2.attemptsSent < sending.2.attemptLimit := by
      rw [sendings]
      decide
    exact absurd attempts (Nat.not_le_of_lt (unsent _ (mem_sendings found)))
  have bounded := transmissions_bounded (by decide) (by decide) steps
  have udp : query.transport = .udp := congrArg Sending.transport isQuery
  exact ⟨thread, thread', query, next, steps, sends, found, isNext, (bounded.1 7 query found).1,
    (bounded.2 _ _ _ thread' succeeds alone sends).1 on 7 List.mem_cons_self query next found udp isNext⟩

def Thread.SucceedingStep (env : Env) (thread thread' : Thread) : Prop :=
  ∃ event : Event, event.Succeeds thread ∧ thread.step env event = some thread'

theorem Thread.SteadyStep.succeeding {env : Env} (thread thread' : Thread) (step : Thread.SteadyStep env thread thread') :
    Thread.SucceedingStep env thread thread' := by
  obtain ⟨event, succeeds, -, step⟩ := step
  exact ⟨event, succeeds, step⟩

/-- The loop takes these commands and looks at these timers, if all queries in flight have 21 octets. -/
def sampleTurns (env : Env) (commands : List Command) (due : List UInt16) :
    List (Turn (Thread.SucceedingStep env)) :=
  (sampleStart env commands).map (·.mono Thread.SteadyStep.succeeding) ++
    [.guarded (fun thread => ∀ sending ∈ thread.resolver.sendings, sending.2.octets = 21)
      (·.step env (sampleTimers due)) fun _ _ octets step => ⟨_, sampleTimers_succeeds octets, step⟩,
      (Event.steadyTurn env (.polled []) rfl).mono Thread.SteadyStep.succeeding]

def samplePair (attemptTimeout : Duration) : ResolverConfig :=
  ⟨⟨[⟨.v4 0, 53⟩, ⟨.v4 1, 53⟩], [], attemptTimeout, 1⟩, .static⟩

/-- A clock that counts the questions, and jumps after the thirteenth. -/
def sampleClock (question : Nat) : Nat := if question < 14 then question else question + 100

theorem sampleClock_mono : Monotone sampleClock := by
  intro question later le
  unfold sampleClock
  split <;> split <;> omega

def sampleJump : Env := { sampleEnv with clock := sampleClock, clock_mono := sampleClock_mono }

def sampleDirect (key : Nat) : Command := .publicResolve ⟨key⟩ { sampleLookup with cacheMode := .bypass }

/-- The first query moves on to the second nameserver, where a second one starts. When both are due, the second one
moves back to the first nameserver, and the first one starts there anew. -/
def sampleOverdrawn : List (Turn (Thread.SucceedingStep sampleJump)) :=
  [([sampleDirect 1], [7]), ([], []), ([], []), ([], [7]), ([sampleDirect 2], [8]), ([], [8, 7])].flatMap
    fun turn => sampleTurns sampleJump turn.1 turn.2

/-- The second query starts when the first one moves on to the second nameserver, and both are due again. -/
def sampleCutShort : List (Turn (Thread.SucceedingStep sampleEnv)) :=
  sampleTurns sampleEnv [sampleDirect 1] [7] ++ sampleTurns sampleEnv [sampleDirect 2] [7, 8] ++
    (sampleStart sampleEnv []).map (·.mono Thread.SteadyStep.succeeding)

/-- With two queries, one may be sent to a nameserver more often than `attempt_limit`, and one may fail for lack of an
answer without having been sent to every nameserver. -/
theorem queries_disturb_each_other :
    (∃ thread query, Relation.ReflTransGen (Thread.SucceedingStep sampleJump) (Thread.new (samplePair 6) 0 none) thread ∧
      thread.resolver.pending.lookup 7 = some query ∧ query.attemptLimit < query.sent.count 0) ∧
    ∃ thread thread' result,
      Relation.ReflTransGen (Thread.SucceedingStep sampleEnv) (Thread.new (samplePair 1) 0 none) thread ∧
      (sampleTimers [8, 7]).Succeeds thread ∧ thread.step sampleEnv (sampleTimers [8, 7]) = some thread' ∧
      thread.resolver.results = [] ∧ result ∈ thread'.resolver.results ∧ result.Unanswered ∧
      ¬thread.resolver.Spent result := by
  refine ⟨?_, ?_⟩
  · obtain ⟨thread, steps, sendings⟩ := reach sampleOverdrawn (Thread.new (samplePair 6) 0 none)
      (fun thread => thread.resolver.sendings =
        [(7, ⟨⟨1⟩, .udp, 21, 1, 1, [0, 1, 0]⟩), (8, ⟨⟨2⟩, .udp, 21, 1, 1, [1, 0]⟩)]) (by decide +kernel)
    obtain ⟨query, found, isQuery⟩ := found_of_mem_sendings (sendings ▸ List.mem_cons_self)
    have limit : query.attemptLimit = 1 := congrArg Sending.attemptLimit isQuery
    have sent : query.sent = [0, 1, 0] := congrArg Sending.sent isQuery
    refine ⟨thread, query, steps, found, ?_⟩
    rw [limit, sent]
    decide
  obtain ⟨thread, steps, two, sendings, noResult, isResult, ends⟩ :=
    reach sampleCutShort (Thread.new (samplePair 1) 0 none)
      (fun thread => thread.resolver.config.snapshot.nameservers.length = 2 ∧
        thread.resolver.sendings = [(8, ⟨⟨2⟩, .udp, 21, 1, 1, [1]⟩), (7, ⟨⟨1⟩, .udp, 21, 1, 1, [0, 1]⟩)] ∧
        thread.resolver.results = [] ∧ (thread.resolver.pending.lookup 8).map (·.failed unanswered) =
          some (.ofPublic ⟨2⟩ (.failed (publicError unanswered))) ∧
        (thread.step sampleEnv (sampleTimers [8, 7])).map (·.resolver.results) = some
          [.ofPublic ⟨2⟩ (.failed (publicError unanswered)), .ofPublic ⟨1⟩ (.failed (publicError unanswered))])
      (by decide +kernel)
  obtain ⟨query, -, isResult⟩ := Option.map_eq_some_iff.mp isResult
  obtain ⟨thread', ends, results⟩ := Option.map_eq_some_iff.mp ends
  refine ⟨thread, thread', _, steps, sampleTimers_succeeds (by rw [sendings]; decide), ends, noResult,
    by rw [results]; exact List.mem_cons_self, ⟨query, isResult.symm⟩, ?_⟩
  rintro ⟨id, query, found, isKey, spent⟩
  -- the query of the second lookup was never sent to the first nameserver
  have unspent : ∀ sending ∈ thread.resolver.sendings, sending.2.key = ⟨2⟩ →
      sending.2.sent.count 0 ≠ sending.2.attemptLimit := by
    rw [sendings]
    decide
  exact unspent _ (mem_sendings found) isKey (spent 0 (by rw [two]; decide))

end NbReq.Dns
