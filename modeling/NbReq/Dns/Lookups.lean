import NbReq.Dns.Handlers
import NbReq.Lib.InFlight

/-!
# The lookups of the resolver

The resolver's pending queries with `by_key` and `tcp_by_token` are a table of jobs in flight (`Resolver.table`): a query
is a job for the lookup of its key, under its transaction id, and has a channel once it has fallen back to TCP. This
module says what each function of the resolver does to that table. An answer takes a lookup to its next query or
settles it (`finishAnswer_concluded`), whatever the answer and the cache are.
-/

namespace NbReq.Dns

open InFlight

/-- The queries in flight, their indexes, and what became of the lookups. -/
def Resolver.table (r : Resolver) : Table UInt16 ResolveKey where
  jobs id := (r.pending.lookup id).map fun query => (query.key, query.transport.token)
  byKey key := r.byKey.lookup key
  byToken token := r.tcpByToken.lookup token
  nextToken := r.nextTcpToken
  accepted := r.accepted
  settled := r.results.map (·.key)
  withdrawn := r.withdrawn
  cancelled := r.cancelled

/-- The resolver apart from its lookups, the cache and the history: what answering a query leaves alone. -/
def Resolver.rest (r : Resolver) : Resolver :=
  { r with
    pending := ∅, byKey := ∅, cache := .new, results := [], asked := 0, cacheEvents := [], requests := [] }

/-- The table without an entry for the key in the index of the keys. -/
def forget (s : Table UInt16 ResolveKey) (key : ResolveKey) : Table UInt16 ResolveKey :=
  { s with byKey := Function.update s.byKey key none }

theorem forget_of_idle {s : Table UInt16 ResolveKey} {key : ResolveKey} (idle : s.byKey key = none) :
    forget s key = s := by
  have same : Function.update s.byKey key none = s.byKey := by
    rw [← idle]
    exact Function.update_eq_self key s.byKey
  simp [forget, same]

variable {failure : ResolveFailure}

/-! ## The primitives -/

section

variable {r : Resolver} {key : ResolveKey} {id : UInt16} {query : PendingQuery}

theorem update_lookup_erase {α β : Type} [DecidableEq α] {s : AList fun _ : α => β} {a : α} :
    (fun x => (s.erase a).lookup x) = Function.update (fun x => s.lookup x) a none := by
  funext x
  by_cases same : x = a
  · subst same
    simp
  · rw [Function.update_of_ne same, AList.lookup_erase_ne same]

theorem update_lookup_insert {α β : Type} [DecidableEq α] {s : AList fun _ : α => β} {a : α} {b : β} :
    (fun x => (s.insert a b).lookup x) = Function.update (fun x => s.lookup x) a (some b) := by
  funext x
  by_cases same : x = a
  · subst same
    simp
  · rw [Function.update_of_ne same, AList.lookup_insert_ne same]

theorem jobs_erase (r : Resolver) (id : UInt16) :
    (Resolver.table { r with pending := r.pending.erase id }).jobs = Function.update r.table.jobs id none := by
  funext x
  by_cases same : x = id
  · subst same
    simp [Resolver.table]
  · simp [Resolver.table, Function.update_of_ne same, AList.lookup_erase_ne same]

theorem jobs_insert (r : Resolver) (id : UInt16) (query : PendingQuery) :
    (Resolver.table { r with pending := r.pending.insert id query }).jobs =
      Function.update r.table.jobs id (some (query.key, query.transport.token)) := by
  funext x
  by_cases same : x = id
  · subst same
    simp [Resolver.table]
  · simp [Resolver.table, Function.update_of_ne same, AList.lookup_insert_ne same]

theorem table_sendResult {result : ResolveResult} : (r.sendResult result).table = r.table.settle result.key := by
  simp [Resolver.table, Resolver.sendResult, Table.settle]

theorem table_forgetKey : (r.forgetKey key).table = forget r.table key := by
  simp only [Resolver.table, Resolver.forgetKey, forget, update_lookup_erase]

theorem table_failLookup {policy : QueryPolicy} :
    (r.failLookup key policy failure).table = r.table.settle key := by
  cases policy with
  | http retry | publicLookup session => exact table_sendResult

theorem table_emitFailure : (r.emitFailure query failure).table = r.table.settle query.key := table_failLookup

theorem table_launch (udp : query.transport = .udp) : (r.launch id query).table = r.table.add id query.key := by
  have jobs : (r.launch id query).table.jobs = Function.update r.table.jobs id (some (query.key, none)) := by
    have inserted := jobs_insert r id query
    rw [udp] at inserted
    exact inserted
  have byKey : (r.launch id query).table.byKey = Function.update r.table.byKey query.key (some id) :=
    update_lookup_insert
  show Table.mk (r.launch id query).table.jobs (r.launch id query).table.byKey _ _ _ _ _ _ = _
  rw [jobs, byKey]
  rfl

theorem rest_emitFailure : (r.emitFailure query failure).rest = r.rest := by
  unfold Resolver.emitFailure Resolver.failLookup
  split <;> rfl

/-- What `remove_query` does when it finds the query: its id and its channel are free again. -/
theorem table_removeQuery (found : r.pending.lookup id = some query) :
    (r.removeQuery id).2 = some query ∧
      (r.removeQuery id).1.table =
        { r.table with
          jobs := Function.update r.table.jobs id none, byToken := r.table.close query.transport.token } := by
  unfold Resolver.removeQuery
  rw [found]
  dsimp only
  cases transport : query.transport with
  | udp =>
    refine ⟨rfl, ?_⟩
    have jobs := jobs_erase r id
    simp only [Resolver.table] at jobs ⊢
    rw [jobs]
    rfl
  | tcp fallback =>
    refine ⟨rfl, ?_⟩
    have jobs := jobs_erase r id
    simp only [Resolver.table, Table.close, QueryTransport.token, update_lookup_erase] at jobs ⊢
    rw [jobs]

end

/-! ## Concluding a query -/

/-- What becomes of a lookup whose query has been taken out of the table: it is settled, or its next query is in
flight. -/
inductive Concludes (key : ResolveKey) (s : Table UInt16 ResolveKey) : Table UInt16 ResolveKey → Prop where
  | settled : Concludes key s ((forget s key).settle key)
  | carried {next : UInt16} (free : s.jobs next = none) : Concludes key s (s.add next key)

/-- The same for the resolver: nothing but its lookups, its cache and the history changes. -/
structure Concluded (key : ResolveKey) (r r' : Resolver) : Prop where
  table : Concludes key r.table r'.table
  rest : r'.rest = r.rest

section

variable {scene : Scene} {env : Env} {key : ResolveKey} {r r' : Resolver} {query : PendingQuery} {idle : Prop}
  {asks : PendingQuery → Prop} {ends : ResolveResult → Prop}

/-- The table knows the key as before, or not any more. -/
theorem Prelude.table (prelude : Prelude scene key r r') : r'.table = r.table ∨ r'.table = forget r.table key := by
  have table : r'.table = { r.table with byKey := r'.table.byKey } :=
    congrArg (fun still => { Resolver.table still with byKey := r'.table.byKey }) prelude.still
  rw [table]
  rcases prelude.byKey with same | erased
  · refine .inl ?_
    rw [show r'.table.byKey = r.table.byKey from congrArg (fun keys key => AList.lookup key keys) same]
  refine .inr ?_
  rw [show r'.table.byKey = Function.update r.table.byKey key none from
    (congrArg (fun keys key => AList.lookup key keys) erased).trans update_lookup_erase]
  rfl

theorem Finishes.rest (finishes : Finishes scene key idle asks ends r r') : r'.rest = r.rest := by
  cases finishes with
  | @sent middle _ prelude | @launched middle _ _ prelude =>
    have same : middle.still.rest = r.still.rest := congrArg Resolver.rest prelude.still
    exact same

/-- Whatever is done for a lookup settles it or gives it its next query. -/
theorem Finishes.concluded (finishes : Finishes scene key idle asks ends r r') (isIdle : idle) : Concluded key r r' := by
  refine ⟨?_, finishes.rest⟩
  cases finishes with
  | @sent middle result prelude forgotten isKey kind =>
    have gone : middle.table = forget r.table key := by
      rcases prelude.table with same | gone
      · have none : r.table.byKey key = none := by
          rw [← same]
          exact forgotten isIdle
        rw [same, forget_of_idle none]
      · exact gone
    rw [table_sendResult, gone, isKey]
    exact .settled
  | @launched middle id query prelude unused isKey udp isNew =>
    have free : r.table.jobs id = none := by
      have pending : middle.pending = r.pending := congrArg (fun still => still.pending) prelude.still
      rw [pending] at unused
      simpa [Resolver.table] using unused
    have added : middle.table.add id key = r.table.add id key := by
      rcases prelude.table with same | gone
      · rw [same]
      · rw [gone]
        simp [forget, Table.add]
    rw [table_launch udp, isKey, added]
    exact .carried free

theorem failed_concluded : Concluded query.key r ((r.forgetKey query.key).emitFailure query failure) := by
  refine ⟨?_, rest_emitFailure⟩
  rw [table_emitFailure, table_forgetKey]
  exact .settled

/-- An answer takes the lookup of a query to its next query or settles it. -/
theorem finishAnswer_concluded {result : Except ResolveFailure ParsedAnswer} :
    Concluded query.key r (finishAnswer env query result r) :=
  Finishes.concluded (@finishAnswer_finishes (.any env (r.now env)) r query result any_answered rfl any_stocks) trivial

theorem resolveHost_concluded {host : Bytes} (idle : r.table.byKey key = none) :
    Concluded key r (r.resolveHost env key host) :=
  Finishes.concluded (@resolveHost_finishes (.any env (r.now env)) key r host any_stocks) idle

theorem resolveHost_rest {host : Bytes} : (r.resolveHost env key host).rest = r.rest :=
  Finishes.rest (@resolveHost_finishes (.any env (r.now env)) key r host any_stocks)

theorem resolvePublic_concluded {spec : PublicResolveSpec} (idle : r.table.byKey key = none) :
    Concluded key r (r.resolvePublic env key spec) := by
  unfold Resolver.resolvePublic
  split
  · exact Finishes.concluded (@Finishes.sent (.any env 0) key True (fun _ => True) (fun _ => True) r r _ .refl
      (fun _ => idle) rfl (.inr trivial)) trivial
  · obtain ⟨table, rest⟩ := Finishes.concluded (@beginPublicResolve_finishes (.any env (r.now env)) key r spec _ _
      any_stocks) idle
    exact ⟨table, rest⟩

theorem resolvePublic_rest {spec : PublicResolveSpec} : (r.resolvePublic env key spec).rest = r.rest := by
  unfold Resolver.resolvePublic
  split
  · rfl
  · have rest := Finishes.rest (@beginPublicResolve_finishes (.any env (r.now env)) key r spec
      r.config.snapshot.searchSuffixes r.config.retry any_stocks)
    exact rest

end

end NbReq.Dns
