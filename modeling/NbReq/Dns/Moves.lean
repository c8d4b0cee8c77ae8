import NbReq.Dns.Lookups
import NbReq.Dns.Upkeep

/-!
# The steps of the resolver as moves of its table

Every handler of the resolver thread moves the table of its lookups by moves of `InFlight`: commands, timers, changes of
the configuration and events of DNS-over-TCP streams always, a datagram if the query it is for has not fallen back to
TCP. That condition cannot be dropped. `receive_packets` takes a datagram for a query that has, and finishes it or opens
a second stream without closing its channel; the channel then leads to whatever query is next given the id.
-/

namespace NbReq.Dns

open InFlight

section

variable {env : Env} {key : ResolveKey} {id : UInt16} {r r' : Resolver} {query : PendingQuery}

theorem job_of_pending (found : r.pending.lookup id = some query) :
    r.table.jobs id = some (query.key, query.transport.token) := by
  simp [Resolver.table, found]

variable {token : Option Nat}

theorem pending_of_job (job : r.table.jobs id = some (key, token)) :
    ∃ query, r.pending.lookup id = some query ∧ query.key = key ∧ query.transport.token = token := by
  simp only [Resolver.table, Option.map_eq_some_iff, Prod.mk.injEq] at job
  exact job

/-! ## Answers -/

/-- The table once the query has been taken out for an answer: its key still leads to its id. -/
def taken (s : Table UInt16 ResolveKey) (id : UInt16) (token : Option Nat) : Table UInt16 ResolveKey :=
  { s with jobs := Function.update s.jobs id none, byToken := s.close token }

theorem forget_taken {s : Table UInt16 ResolveKey} :
    forget (taken s id token) key = s.remove id key token := rfl

/-- What becomes of the lookup of a query that has been taken out is one move. -/
theorem Concludes.move {s t : Table UInt16 ResolveKey} (found : s.jobs id = some (key, token))
    (concludes : Concludes key (taken s id token) t) : Move s t := by
  cases concludes with
  | settled =>
    rw [forget_taken]
    exact .settle found
  | @carried next free =>
    have same : (taken s id token).add next key = (s.remove id key token).add next key := by
      simp [taken, Table.add, Table.remove]
    rw [same]
    exact .replace found free

/-- An accepted lookup is rejected or started. -/
theorem Concludes.accepted {s dropped t : Table UInt16 ResolveKey} (drop : Dropped key s dropped)
    (idle : dropped.byKey key = none)
    (concludes : Concludes key { dropped with accepted := dropped.accepted ++ [key] } t) : Move s t := by
  cases concludes with
  | settled =>
    have same : forget { dropped with accepted := dropped.accepted ++ [key] } key =
        { dropped with accepted := dropped.accepted ++ [key] } := forget_of_idle idle
    rw [same]
    exact .reject drop
  | carried free => exact .start drop free

/-- A query that is on UDP is taken out by erasing it. -/
theorem table_erase (udp : query.transport = .udp) :
    Resolver.table { r with pending := r.pending.erase id } = taken r.table id query.transport.token := by
  have jobs := jobs_erase r id
  simp only [Resolver.table, taken, udp, QueryTransport.token, Table.close] at jobs ⊢
  rw [jobs]

/-- A query that has fallen back to TCP is taken out by erasing it and its channel. -/
theorem table_erase_both {fallback : TcpFallback} (tcp : query.transport = .tcp fallback) :
    Resolver.table { r with pending := r.pending.erase id, tcpByToken := r.tcpByToken.erase fallback.token } =
      taken r.table id query.transport.token := by
  have jobs := jobs_erase r id
  simp only [Resolver.table, taken, tcp, QueryTransport.token, Table.close, update_lookup_erase] at jobs ⊢
  rw [jobs]

theorem failed_move {failure : ResolveFailure} (found : r.pending.lookup id = some query)
    (out : r'.table = taken r.table id query.transport.token) :
    Move r.table ((r'.forgetKey query.key).emitFailure query failure).table := by
  have concludes : Concludes query.key r'.table ((r'.forgetKey query.key).emitFailure query failure).table :=
    failed_concluded.table
  rw [out] at concludes
  exact concludes.move (job_of_pending found)

variable {result : Except ResolveFailure ParsedAnswer}

theorem finished_move (found : r.pending.lookup id = some query)
    (out : r'.table = taken r.table id query.transport.token) :
    Move r.table (finishAnswer env query result r').table := by
  have concludes : Concludes query.key r'.table (finishAnswer env query result r').table :=
    finishAnswer_concluded.table
  rw [out] at concludes
  exact concludes.move (job_of_pending found)

/-- What leaves the table alone may come before a run. -/
theorem run_after {t : Table UInt16 ResolveKey} (run : Run r'.table t) (same : r'.table = r.table) : Run r.table t := by
  rw [← same]
  exact run

/-! ## Upkeep -/

/-- Replacing a query by one for the same lookup with the same channel changes nothing. -/
theorem table_update {next : PendingQuery} (found : r.pending.lookup id = some query) (sameKey : next.key = query.key)
    (sameToken : next.transport.token = query.transport.token) :
    Resolver.table { r with pending := r.pending.insert id next } = r.table := by
  have jobs : (Resolver.table { r with pending := r.pending.insert id next }).jobs = r.table.jobs := by
    rw [jobs_insert, sameKey, sameToken, ← job_of_pending found]
    exact Function.update_eq_self id _
  simp only [Resolver.table] at jobs ⊢
  rw [jobs]

theorem Tended.run {retried : Bool} {failures : ResolveFailure → Prop} (tended : Tended retried failures r r') : Run r.table r'.table := by
  induction tended with
  | refl => exact .refl
  | @tail r r' _ tends ih =>
    refine ih.trans ?_
    cases tends with
    | quiet same =>
      simp only [Resolver.affairs, Prod.mk.injEq] at same
      obtain ⟨pending, byKey, tokens, next, accepted, withdrawn, cancelled, results, -⟩ := same
      refine run_after .refl ?_
      rw [Resolver.table, Resolver.table, pending, byKey, tokens, next, accepted, withdrawn, cancelled, results]
    | @resend pending _ same =>
      have jobs : (Resolver.table { r with pending }).jobs = r.table.jobs := by
        funext id
        have job := congrArg (Option.map fun lasting => (lasting.1.key, lasting.2.token)) (same id)
        rw [Option.map_map, Option.map_map] at job
        exact job
      refine run_after .refl ?_
      simp only [Resolver.table] at jobs ⊢
      rw [jobs]
    | fail found => exact .single (failed_move found (table_removeQuery found).2)

/-! ## Commands -/

/-- Dropping a lookup withdraws its query, if it has one. -/
theorem dropLookup_dropped (key : ResolveKey) (indexed : Indexed r.table) :
    Dropped key r.table (r.dropLookup key).table := by
  unfold Resolver.dropLookup
  cases entry : r.byKey.lookup key with
  | none => exact .idle entry
  | some id =>
    obtain ⟨token, job⟩ := (indexed.byKey key id).mp entry
    obtain ⟨query, found, isKey, isToken⟩ := pending_of_job job
    obtain ⟨isQuery, table⟩ := table_removeQuery (r := r.forgetKey key) found
    dsimp only
    split
    · rename_i isNone
      rw [isNone] at isQuery
      cases isQuery
    rename_i removed query' isSome
    rw [isSome] at isQuery table
    cases isQuery
    have removedTable : removed.table = r.table.remove id key token := by
      rw [table, table_forgetKey, isToken]
      rfl
    have sameWithdrawn : removed.withdrawn = r.withdrawn := congrArg Table.withdrawn removedTable
    have withdrawn : Resolver.table { removed with withdrawn := removed.withdrawn ++ [query.key] } =
        { r.table.remove id key token with withdrawn := r.table.withdrawn ++ [key] } := by
      rw [isKey, sameWithdrawn]
      exact congrArg (fun s : Table UInt16 ResolveKey => { s with withdrawn := r.withdrawn ++ [key] }) removedTable
    rw [withdrawn]
    exact .withdrawn job

/-- An accepted lookup is settled at once or gets its first query. -/
theorem accept_run (indexed : Indexed r.table) (concluded : Concluded key (r.accept key) r') :
    Run r.table r'.table := by
  have drop : Dropped key r.table (r.dropLookup key).table := dropLookup_dropped key indexed
  exact .single (concluded.table.accepted drop (indexed.drop drop).2)

theorem handle_run {command : Command} (indexed : Indexed r.table) (balanced : Balanced r.table) :
    Run r.table (r.handle env command).table := by
  have idle : ∀ key, (r.accept key).table.byKey key = none := fun key =>
    (indexed.drop (dropLookup_dropped key indexed)).2
  cases command with
  | resolve key host => exact accept_run indexed (resolveHost_concluded (idle key))
  | publicResolve key spec => exact accept_run indexed (resolvePublic_concluded (idle key))
  | cancel key =>
    have drop : Dropped key r.table (r.dropLookup key).table := dropLookup_dropped key indexed
    have accepted : (r.dropLookup key).accepted = r.accepted := by
      have : (r.dropLookup key).table.accepted = r.table.accepted := by
        generalize (r.dropLookup key).table = dropped at drop
        cases drop <;> rfl
      exact this
    show Run r.table (r.cancel key).table
    unfold Resolver.cancel
    dsimp only
    split
    · rename_i known
      rw [accepted] at known
      exact .single (.cancel drop known)
    rename_i unknown
    rw [accepted] at unknown
    -- a key that was never accepted has no query
    have none : r.table.carried key = 0 := by
      have count : r.table.accepted.count key = 0 := List.count_eq_zero.mpr unknown
      have := balanced key
      omega
    generalize (r.dropLookup key).table = dropped at drop
    cases drop with
    | idle => exact .refl
    | withdrawn found =>
      rw [Balanced.carried_of_job indexed found] at none
      cases none
  | shutdown => exact .refl

/-! ## DNS over TCP -/

variable {tcp driven : TcpFallback}

theorem writeQuery_token {results : List WriteResult}
    (ok : writeQuery results tcp = .ok driven) : driven.token = tcp.token := by
  fun_induction writeQuery results tcp with
  | case1 | case4 | case6 => cases ok; rfl
  | case2 => cases ok
  | case3 rest tcp more count isPositive ih => exact ih ok
  | case5 => cases ok

variable {script : TcpScript}

theorem driveWrites_token (ok : driveWrites script tcp = .ok driven) :
    driven.token = tcp.token := by
  unfold driveWrites at ok
  split at ok
  · cases ok
  · cases ok
  split at ok
  · cases ok
  rename_i sent written
  have same : driven = sent := by
    split at ok
    · split at ok
      · cases ok
      · cases ok; rfl
    · cases ok; rfl
  rw [same]
  exact writeQuery_token written

variable {bytes : Bytes}

theorem acceptBytes_token (ok : acceptBytes bytes tcp = .ok driven) :
    driven.token = tcp.token := by
  unfold acceptBytes expectLength at ok
  split at ok
  · cases ok
  split at ok
  · dsimp only at ok
    split at ok
    · cases ok
    · cases ok; rfl
  · cases ok; rfl

theorem readMessage_token {results : List ReadResult} {message : Option Bytes}
    (ok : readMessage results tcp = .ok (driven, message)) : driven.token = tcp.token := by
  fun_induction readMessage results tcp with
  | case1 => cases ok; rfl
  | case2 => cases ok; rfl
  | case3 => cases ok
  | case4 => cases ok
  | case5 => cases ok
  | case6 bytes rest tcp isSome next accepted complete =>
    cases ok
    exact acceptBytes_token accepted
  | case7 bytes rest tcp isSome next accepted incomplete ih => exact (ih ok).trans (acceptBytes_token accepted)

/-- Driving a stream keeps its channel. -/
theorem driveTcp_token {readable writable : Bool}
    {message : Option Bytes} (ok : driveTcp readable writable script tcp = .ok (driven, message)) :
    driven.token = tcp.token := by
  unfold driveTcp at ok
  split at ok
  · cases ok
  rename_i sent isSent
  have same : sent.token = tcp.token := by
    split at isSent
    · exact driveWrites_token isSent
    · cases isSent; rfl
  split at ok
  · exact (readMessage_token ok).trans same
  · cases ok
    exact same

theorem receiveTcp_run {event : PollReady} (indexed : Indexed r.table) :
    Run r.table (receiveTcp env event script r).table := by
  unfold receiveTcp
  split
  · exact .refl
  rename_i id entry
  -- the channel leads to the query that has it
  obtain ⟨key, job⟩ := (indexed.byToken event.token id).mp entry
  obtain ⟨query, found, isKey, isToken⟩ := pending_of_job job
  rw [found]
  dsimp only
  split
  · rename_i udp
    rw [udp] at isToken
    cases isToken
  rename_i tcp transport
  split
  · rename_i driven drive
    have same : (QueryTransport.tcp driven).token = query.transport.token := by
      rw [transport]
      exact congrArg some (driveTcp_token drive)
    have table : Resolver.table
        { r with pending := (r.pending.erase id).insert id { query with transport := .tcp driven } } = r.table := by
      rw [AList.insert_erase]
      exact table_update found rfl same
    exact run_after .refl table
  · exact .single (finished_move found (table_erase_both transport))
  · exact .single (failed_move found (table_erase_both transport))

/-! ## Datagrams -/

/-- What `begin_tcp_fallback` may do: fail, where it may have used up a token, or give the query the next token. -/
theorem beginTcpFallback_cases (env : Env) (id : UInt16) (query : PendingQuery) (io : StreamIo)
    (nameserver : SocketAddr) (timeout : Duration) (r : Resolver) :
    (∃ failure token, r.nextTcpToken ≤ token ∧
      beginTcpFallback env id query io nameserver timeout r = ({ r with nextTcpToken := token }, .error failure)) ∨
    ∃ asked deadline fallback, r.asked ≤ asked ∧ fallback.token = r.nextTcpToken ∧
      beginTcpFallback env id query io nameserver timeout r =
        ({ r with
          nextTcpToken := r.nextTcpToken + 1, tcpByToken := r.tcpByToken.insert r.nextTcpToken id, asked },
          .ok { query with nextAttempt := deadline, transport := .tcp fallback }) := by
  unfold beginTcpFallback
  split
  · exact .inl ⟨_, r.nextTcpToken, Nat.le_refl _, rfl⟩
  split
  · exact .inl ⟨_, r.nextTcpToken, Nat.le_refl _, rfl⟩
  rename_i following isNext
  obtain ⟨rfl, -⟩ := checkedAdd_eq_some.mp isNext
  split
  · exact .inl ⟨_, _, Nat.le_succ _, rfl⟩
  split
  · exact .inl ⟨_, _, Nat.le_succ _, rfl⟩
  · exact .inr ⟨_, _, _, Nat.le_add_right r.asked 2, rfl, rfl⟩

inductive Receives (env : Env) (bytes : Bytes) (r : Resolver) : Resolver → Prop where
  | ignored (none : takesDatagram bytes r = none) : Receives env bytes r r
  | answered {id : UInt16} {query : PendingQuery} {result : Except ResolveFailure ParsedAnswer}
      (taken : takesDatagram bytes r = some (id, query, result)) :
      Receives env bytes r (finishAnswer env query result { r with pending := r.pending.erase id })
  /-- The fallback to a stream fails, where it may have used up a token. -/
  | failed {id : UInt16} {query : PendingQuery} {result : Except ResolveFailure ParsedAnswer}
      {failure : ResolveFailure} {token : Nat} (taken : takesDatagram bytes r = some (id, query, result))
      (later : r.nextTcpToken ≤ token) :
      Receives env bytes r ((Resolver.forgetKey query.key
        { r with pending := r.pending.erase id, nextTcpToken := token }).emitFailure query failure)
  /-- The query gets a stream with the next token. -/
  | diverted {id : UInt16} {query : PendingQuery} {result : Except ResolveFailure ParsedAnswer} {deadline : Instant}
      {fallback : TcpFallback} {asked : Nat} (taken : takesDatagram bytes r = some (id, query, result))
      (isToken : fallback.token = r.nextTcpToken) (later : r.asked ≤ asked) :
      Receives env bytes r
        { r with
          pending := r.pending.insert id { query with nextAttempt := deadline, transport := .tcp fallback }
          nextTcpToken := r.nextTcpToken + 1, tcpByToken := r.tcpByToken.insert r.nextTcpToken id, asked }

theorem receivePacket_receives {io : StreamIo} (received : receivePacket env bytes io r = some r') :
    Receives env bytes r r' := by
  unfold receivePacket at received
  split at received
  · rename_i none
    cases received
    exact .ignored none
  rename_i id query result taken
  dsimp only at received
  split at received
  · simp only [Option.bind_eq_bind, Option.bind_eq_some_iff] at received
    obtain ⟨nameserver, -, received⟩ := received
    obtain ⟨failure, token, later, began⟩ | ⟨asked, deadline, fallback, later, isToken, began⟩ :=
      beginTcpFallback_cases env id query io nameserver query.attemptTimeout { r with pending := r.pending.erase id }
    all_goals
      rw [began] at received
      cases received
    · exact .failed taken later
    · rw [AList.insert_erase]
      exact .diverted taken isToken later
  · cases received
    exact .answered taken

/-- A datagram is taken for a query that is in flight. -/
theorem takesDatagram_parsed (taken : takesDatagram bytes r = some (id, query, result)) :
    datagramId bytes = some id ∧ r.pending.lookup id = some query ∧
      parseAnswer bytes id query.host query.recordType (maxCnameHops - query.cnameHops) = some result := by
  unfold takesDatagram at taken
  simp only [Option.bind_eq_bind, Option.bind_eq_some_iff, Option.pure_def, Option.some.injEq] at taken
  obtain ⟨_, isId, _, found, _, parsed, same⟩ := taken
  cases same
  exact ⟨isId, found, parsed⟩

theorem takesDatagram_found
    (taken : takesDatagram bytes r = some (id, query, result)) : r.pending.lookup id = some query :=
  (takesDatagram_parsed taken).2.1

theorem receivePacket_run {io : StreamIo} (received : receivePacket env bytes io r = some r')
    (calm : ∀ taken, takesDatagram bytes r = some taken → taken.2.1.transport = .udp) :
    Run r.table r'.table := by
  cases receivePacket_receives received with
  | ignored => exact .refl
  | answered taken => exact .single (finished_move (takesDatagram_found taken) (table_erase (calm _ taken)))
  | @failed id query _ _ token taken later =>
    -- the token that was used up is skipped, then the lookup fails
    have skipped : Move r.table (Resolver.table { r with nextTcpToken := token }) := .skip later
    have out : Resolver.table { r with pending := r.pending.erase id, nextTcpToken := token } =
        Dns.taken (Resolver.table { r with nextTcpToken := token }) id query.transport.token :=
      table_erase (r := { r with nextTcpToken := token }) (calm _ taken)
    exact .head skipped (.single (failed_move (r := { r with nextTcpToken := token }) (takesDatagram_found taken) out))
  | @diverted id query _ deadline fallback asked taken isToken =>
    have job : r.table.jobs id = some (query.key, none) := by
      rw [job_of_pending (takesDatagram_found taken), calm _ taken]
      rfl
    have jobs := jobs_insert r id { query with nextAttempt := deadline, transport := .tcp fallback }
    rw [QueryTransport.token, isToken] at jobs
    have move : Move r.table (r.table.divert id query.key) := .divert job
    simp only [Resolver.table, Table.divert, update_lookup_insert] at jobs move ⊢
    rw [jobs]
    exact .single move

end

end NbReq.Dns
