import NbReq.Dns.Handlers

/-!
# Upkeep of the lookups

What the timers, a look at the configuration, a dropped lookup and a failed poll do: queries stay or their lookups fail,
and the cache learns nothing (`Upkeep`). A query that stays is the same one (`Kept`): only the timers touch the count of
its attempts. What the timers and a look at the configuration do is read once, as tasks that follow one another
(`Tends`) and with what becomes of the socket (`Timed`, `Looks`).
-/

namespace NbReq.Dns

/-- What a query asks and for whom, without what has been done about it. -/
def PendingQuery.core (query : PendingQuery) : PendingQuery :=
  { query with
    attemptsSent := 0, serversTried := 0, lastUdpGeneration := 0, nextAttempt := 0, transport := .udp, sent := [] }

/-- The query is still the same one. Unless it was retried, nothing has been sent for it, and it is on UDP only if it was
before. -/
structure Kept (retried : Bool) (old new : PendingQuery) : Prop where
  core : new.core = old.core
  tries : retried = false →
    new.attemptsSent = old.attemptsSent ∧ new.serversTried = old.serversTried ∧ new.sent = old.sent
  udp : retried = false → new.transport = .udp → old.transport = .udp

/-- No query is new, every new result is a failure, and the cache is neither written nor read. -/
structure Upkeep (retried : Bool) (r r' : Resolver) : Prop where
  pending : ∀ id new, r'.pending.lookup id = some new → ∃ old, r.pending.lookup id = some old ∧ Kept retried old new
  results : ∀ result ∈ r'.results, result ∈ r.results ∨ result.Failed
  requests : r'.requests = r.requests
  cache : r.cache.Wears r'.cache
  events : r'.cacheEvents = r.cacheEvents
  asked : r.asked ≤ r'.asked

/-- The results, what was asked for, and the cache with its history. -/
def Resolver.ledger (r : Resolver) :=
  (r.results, r.requests, r.cache, r.cacheEvents)

section

variable {env : Env} {key : ResolveKey} {id : UInt16} {r r' r'' : Resolver} {query : PendingQuery} {retried : Bool}

theorem Kept.refl : Kept retried query query := ⟨rfl, fun _ => ⟨rfl, rfl, rfl⟩, fun _ udp => udp⟩

theorem Kept.trans {first second third : PendingQuery} (kept : Kept retried first second)
    (kept' : Kept retried second third) : Kept retried first third where
  core := kept'.core.trans kept.core
  tries := by
    intro unretried
    obtain ⟨attempts, servers, sent⟩ := kept.tries unretried
    obtain ⟨attempts', servers', sent'⟩ := kept'.tries unretried
    exact ⟨attempts'.trans attempts, servers'.trans servers, sent'.trans sent⟩
  udp := fun unretried isUdp => kept.udp unretried (kept'.udp unretried isUdp)

namespace Upkeep

theorem trans (first : Upkeep retried r r') (second : Upkeep retried r' r'') : Upkeep retried r r'' where
  pending := by
    intro id new found
    obtain ⟨middle, isMiddle, kept'⟩ := second.pending id new found
    obtain ⟨old, isOld, kept⟩ := first.pending id middle isMiddle
    exact ⟨old, isOld, kept.trans kept'⟩
  results := fun result mem => (second.results result mem).elim (first.results result) .inr
  requests := second.requests.trans first.requests
  cache := first.cache.trans second.cache
  events := second.events.trans first.events
  asked := first.asked.trans second.asked

theorem of_pending
    (pending : ∀ id new, r'.pending.lookup id = some new → ∃ old, r.pending.lookup id = some old ∧ Kept retried old new)
    (same : r'.ledger = r.ledger) (asked : r.asked ≤ r'.asked) : Upkeep retried r r' := by
  simp only [Resolver.ledger, Prod.mk.injEq] at same
  obtain ⟨results, requests, cache, events⟩ := same
  exact ⟨pending, fun result mem => .inl (results ▸ mem), requests, (by rw [cache]; exact .refl), events,
    asked⟩

theorem of_eq (pending : r'.pending = r.pending) (same : r'.ledger = r.ledger) (asked : r.asked ≤ r'.asked) :
    Upkeep retried r r' :=
  of_pending (fun _ new found => ⟨new, pending ▸ found, .refl⟩) same asked

theorem refl : Upkeep retried r r := of_eq rfl rfl (Nat.le_refl _)

/-- What leaves the lookups and the cache alone may come before. -/
theorem after (upkeep : Upkeep retried r' r'') (pending : r'.pending = r.pending) (same : r'.ledger = r.ledger)
    (asked : r.asked ≤ r'.asked) : Upkeep retried r r'' :=
  (of_eq pending same asked).trans upkeep

theorem erase (erased : r'.pending = r.pending.erase id) (same : r'.ledger = r.ledger) (asked : r.asked ≤ r'.asked) :
    Upkeep retried r r' :=
  of_pending (fun _ new found => ⟨new, (AList.lookup_erase_eq_some.mp (erased ▸ found)).2, .refl⟩) same asked

theorem insert {new : PendingQuery} (found : r.pending.lookup id = some query) (kept : Kept retried query new) :
    Upkeep retried r { r with pending := r.pending.insert id new } := by
  refine of_pending (fun other next isNext => ?_) rfl (Nat.le_refl _)
  rcases AList.lookup_insert_eq_some.mp isNext with ⟨rfl, rfl⟩ | ⟨-, old⟩
  · exact ⟨query, found, kept⟩
  · exact ⟨next, old, .refl⟩

end Upkeep

theorem Upkeep.sent {result : ResolveResult} (failed : result.Failed) : Upkeep retried r (r.sendResult result) := by
  refine ⟨fun _ new found => ⟨new, found, .refl⟩, fun other mem => ?_, rfl, .refl, rfl,
    Nat.le_refl _⟩
  rcases List.mem_append.mp mem with old | isNew
  · exact .inl old
  · rw [List.mem_singleton.mp isNew]
    exact .inr failed

theorem emitFailure_upkeep {failure : ResolveFailure} : Upkeep retried r (r.emitFailure query failure) := by
  rw [emitFailure_eq]
  exact .sent failed_failed

theorem failed_upkeep {failure : ResolveFailure} (upkeep : Upkeep retried r r') :
    Upkeep retried r ((r'.forgetKey query.key).emitFailure query failure) :=
  upkeep.trans (emitFailure_upkeep.after rfl rfl (Nat.le_refl _))

theorem removeQuery_found (found : r.pending.lookup id = some query) : ∃ tokens,
    r.removeQuery id = ({ r with pending := r.pending.erase id, tcpByToken := tokens }, some query) := by
  unfold Resolver.removeQuery
  rw [found]
  dsimp only
  split
  · exact ⟨r.tcpByToken, rfl⟩
  · exact ⟨_, rfl⟩

theorem removeQuery_missing (missing : r.pending.lookup id = none) : r.removeQuery id = (r, none) := by
  rw [Resolver.removeQuery, missing]

theorem removeQuery_upkeep : Upkeep retried r (r.removeQuery id).1 := by
  cases found : r.pending.lookup id with
  | none =>
    rw [removeQuery_missing found]
    exact .refl
  | some query =>
    obtain ⟨tokens, removed⟩ := removeQuery_found found
    rw [removed]
    exact .erase rfl rfl (Nat.le_refl _)

end

/-! ## Tasks -/

/-- What a query asks, for whom, and on which channel. -/
def PendingQuery.lasting (query : PendingQuery) : PendingQuery × QueryTransport := (query.core, query.transport)

/-- The lookups, what became of them, and what was written down about them. -/
def Resolver.affairs (r : Resolver) :=
  (r.pending, r.byKey, r.tcpByToken, r.nextTcpToken, r.accepted, r.withdrawn, r.cancelled, r.results, r.requests,
    r.cacheEvents)

/-- The tasks by which the lookups are tended, with the failures that they may end in, and whether queries are sent
again. -/
inductive Tends (retried : Bool) (failures : ResolveFailure → Prop) (r : Resolver) : Resolver → Prop where
  | quiet {r' : Resolver} (same : r'.affairs = r.affairs) (cache : r.cache.Wears r'.cache) (asked : r.asked ≤ r'.asked) :
      Tends retried failures r r'
  /-- Queries are sent again. -/
  | resend {pending : AList fun _ : UInt16 => PendingQuery} (again : retried = true)
      (same : ∀ id, (pending.lookup id).map (·.lasting) = (r.pending.lookup id).map (·.lasting)) :
      Tends retried failures r { r with pending }
  /-- A query is taken out, and its lookup fails. -/
  | fail {id : UInt16} {query : PendingQuery} {failure : ResolveFailure} (found : r.pending.lookup id = some query)
      (why : failures failure) :
      Tends retried failures r (((r.removeQuery id).1.forgetKey query.key).emitFailure query failure)

abbrev Tended (retried : Bool) (failures : ResolveFailure → Prop) : Resolver → Resolver → Prop :=
  Relation.ReflTransGen (Tends retried failures)

section

variable {env : Env} {now : Instant} {id : UInt16} {r r' r'' : Resolver} {query : PendingQuery}
  {failures : ResolveFailure → Prop} {retried : Bool}

theorem Tends.upkeep (tends : Tends retried failures r r') : Upkeep retried r r' := by
  cases tends with
  | quiet same cache asked =>
    simp only [Resolver.affairs, Prod.mk.injEq] at same
    obtain ⟨pending, -, -, -, -, -, -, results, requests, events⟩ := same
    exact ⟨fun _ new found => ⟨new, pending ▸ found, .refl⟩, fun _ mem => .inl (results ▸ mem), requests, cache, events,
      asked⟩
  | resend again same =>
    subst again
    refine .of_pending (fun id new found => ?_) rfl (Nat.le_refl _)
    have isNew := same id
    rw [show AList.lookup id _ = some new from found] at isNew
    obtain ⟨old, isOld, lasting⟩ := Option.map_eq_some_iff.mp isNew.symm
    exact ⟨old, isOld, congrArg Prod.fst lasting.symm, nofun, nofun⟩
  | fail => exact failed_upkeep removeQuery_upkeep

theorem Tended.upkeep (tended : Tended retried failures r r') : Upkeep retried r r' := by
  induction tended with
  | refl => exact .refl
  | tail _ tends ih => exact ih.trans tends.upkeep

/-! ## The nameserver in use -/

/-- Whether there is a socket, which nameserver it is connected to and the list of them. -/
def Resolver.route (r : Resolver) : Bool × Nat × List SocketAddr :=
  (r.socket, r.currentNameserver, r.config.snapshot.nameservers)

def Routed (route : Bool × Nat × List SocketAddr) : Prop := route.1 = true → route.2.1 < route.2.2.length

def Resolver.availability (r : Resolver) : Bool × Bool × ResolverConfig := (r.socket, r.configAvailable, r.config)

variable {nameservers : List SocketAddr} {io : SocketIo}

theorem advanceNameserver_lt {current index : Nat}
    (advanced : advanceNameserver io nameservers current = some index) : index < nameservers.length := by
  unfold advanceNameserver at advanced
  obtain ⟨offset, -, chosen⟩ := List.exists_of_findSome?_eq_some advanced
  dsimp only at chosen
  split at chosen
  · rename_i reaches
    rw [← Option.some.inj chosen]
    by_contra outside
    rw [List.getElem?_eq_none (Nat.le_of_not_lt outside)] at reaches
    cases reaches
  · cases chosen

theorem connectFirst_lt :
    ∀ {first : Nat} {last : Option String} {index : Nat},
      connectFirst env io first last nameservers = .ok index → index < first + nameservers.length := by
  induction nameservers with
  | nil => exact nofun
  | cons nameserver rest ih =>
    intro first last index connected
    rw [connectFirst] at connected
    split at connected
    · cases connected
      simp
    · have := ih connected
      simp only [List.length_cons]
      omega

theorem installConfiguredSocket_lt {index : Nat}
    (installed : installConfiguredSocket env io nameservers = .ok index) : index < nameservers.length := by
  unfold installConfiguredSocket at installed
  obtain ⟨connected, isConnected, registered⟩ := bind_eq_ok.mp installed
  have same : index = connected := by
    split at registered
    · cases registered
    · exact (Except.ok.inj registered).symm
  unfold connectNameserver at isConnected
  split at isConnected
  · rename_i first isFirst
    have := connectFirst_lt isFirst
    rw [same, ← Except.ok.inj isConnected]
    omega
  · cases isConnected
  · cases isConnected

/-! ## Timers -/

def unanswered : ResolveFailure :=
  .classified .noNameserver "the configured DNS servers did not answer within the retry budget"

/-- What the timers do: the lookups are tended, and the socket stays connected to one of the same nameservers. -/
structure Timed (r r' : Resolver) : Prop where
  tended : Tended true (fun _ => True) r r'
  available : r'.availability = r.availability
  routed : Routed r.route → Routed r'.route

theorem Timed.refl : Timed r r := ⟨.refl, rfl, fun routed => routed⟩

theorem Timed.trans (first : Timed r r') (second : Timed r' r'') : Timed r r'' :=
  ⟨first.tended.trans second.tended, second.available.trans first.available, second.routed ∘ first.routed⟩

theorem afterSend_lasting {generation server : Nat} {result : SendResult} :
    (query.afterSend env now generation server result).lasting = query.lasting := by
  unfold PendingQuery.afterSend PendingQuery.lasting PendingQuery.core
  repeat' split
  all_goals rfl

theorem restart_lasting : (query.restart now).lasting = query.lasting := by
  unfold PendingQuery.restart PendingQuery.lasting PendingQuery.core
  split <;> rfl

theorem sendDue_timed {result : SendResult} : Timed r (r.sendDue env now id result) := by
  unfold Resolver.sendDue
  split
  · exact .refl
  rename_i query found
  split
  · refine ⟨.single (.resend rfl fun other => ?_), rfl, fun routed => routed⟩
    by_cases same : other = id
    · rw [same, AList.lookup_insert, found]
      exact congrArg some afterSend_lasting
    · rw [AList.lookup_insert_ne same]
  · exact .refl

theorem failed_timed {failure : ResolveFailure} (found : r.pending.lookup id = some query) :
    Timed r (((r.removeQuery id).1.forgetKey query.key).emitFailure query failure) := by
  have tended : Tended true (fun _ => True) r _ := .single (@Tends.fail _ _ _ _ _ failure found trivial)
  obtain ⟨tokens, removed⟩ := removeQuery_found found
  rw [removed, emitFailure_eq] at tended ⊢
  exact ⟨tended, rfl, fun routed => routed⟩

/-- The socket is connected to another nameserver. -/
theorem advanced_timed {index generation : Nat} (inside : index < r.config.snapshot.nameservers.length) :
    Timed r
      { r with
        currentNameserver := index, udpGeneration := generation, pending := r.pending.mapValues (·.restart now) } := by
  have resent : Tends true (fun _ => True) r { r with pending := r.pending.mapValues (·.restart now) } := by
    refine .resend rfl fun other => ?_
    rw [AList.lookup_mapValues, Option.map_map]
    exact congrArg (Option.map · _) (funext fun query => restart_lasting)
  exact ⟨.tail (.single resent) (.quiet rfl .refl (Nat.le_refl _)), rfl, fun _ _ => inside⟩

theorem exhausted_timed (found : r.pending.lookup id = some query) (udp : query.transport = .udp) :
    Timed r (r.failExhausted id query io) := by
  have failed (udpGeneration : Nat) : Timed r ((Resolver.forgetKey query.key
      { r with configDirty := true, udpGeneration, pending := r.pending.erase id }).emitFailure query unanswered) := by
    have removed : Resolver.removeQuery id { r with configDirty := true, udpGeneration } =
        ({ r with configDirty := true, udpGeneration, pending := r.pending.erase id }, some query) := by
      unfold Resolver.removeQuery
      rw [found]
      dsimp only
      rw [udp]
    have failed := @failed_timed id { r with configDirty := true, udpGeneration } query unanswered found
    rw [removed] at failed
    have noted : Timed r { r with configDirty := true, udpGeneration } :=
      ⟨.single (.quiet rfl .refl (Nat.le_refl _)), rfl, fun routed => routed⟩
    exact noted.trans failed
  exact failed _

theorem transmit_timed {io : DueIo} : Timed r (r.transmit env now id io) := by
  unfold Resolver.transmit
  split
  · exact .refl
  rename_i query found
  split
  · exact failed_timed found
  rename_i udp
  split
  · split
    · rename_i index advanced
      split at advanced
      · exact (advanced_timed (advanceNameserver_lt advanced)).trans sendDue_timed
      · cases advanced
    · exact exhausted_timed found udp
  · exact sendDue_timed

theorem transmitDue_timed {due : List UInt16} {io : UInt16 → DueIo} : Timed r (r.transmitDue env due io) :=
  List.foldlRecOn _ _ ⟨.single (.quiet rfl .refl (Nat.le_succ _)), rfl, fun routed => routed⟩ fun _ timed _ _ =>
    timed.trans transmit_timed

/-! ## Configuration -/

/-- The failure of a query that is dropped because the nameservers change. -/
def configurationChanged : ResolveFailure :=
  .classified .noNameserver "the system DNS configuration changed while the lookup was pending"

/-- What a look at the configuration does: it keeps the socket and the queries, or nothing is left of what was asked
before. -/
structure Looks (r r' : Resolver) : Prop where
  tended : Tended false (· = configurationChanged) r r'
  budget : 0 < r.config.snapshot.attempts → 0 < r'.config.snapshot.attempts
  outcome : (r'.route = r.route ∧ r'.configAvailable = r.configAvailable ∧ r'.pending = r.pending) ∨
    ((∀ id, r'.pending.lookup id = none) ∧ (r'.cache.entries = ∅ ∧ r'.cache.familyEntries = ∅) ∧
      r'.socket = r'.configAvailable ∧ Routed r'.route)

theorem failPending_cases : (r.failPending id).pending = r.pending.erase id ∧ (r.failPending id).config = r.config ∧
    Tended false (· = configurationChanged) r (r.failPending id) := by
  cases found : r.pending.lookup id with
  | none =>
    rw [Resolver.failPending, removeQuery_missing found]
    exact ⟨(AList.erase_of_lookup_none found).symm, rfl, .refl⟩
  | some query =>
    have tended : Tended false (· = configurationChanged) r _ := .single (.fail found rfl)
    obtain ⟨tokens, removed⟩ := removeQuery_found found
    rw [removed] at tended
    rw [Resolver.failPending, removed]
    refine ⟨?_, ?_, tended⟩ <;> (dsimp only; rw [emitFailure_eq]; rfl)

theorem failPendingForConfigurationChange_cases :
    (∀ id, r.failPendingForConfigurationChange.pending.lookup id = none) ∧
    r.failPendingForConfigurationChange.config = r.config ∧
    Tended false (· = configurationChanged) r r.failPendingForConfigurationChange := by
  have folded : ∀ (ids : List UInt16) (middle : Resolver),
      (∀ id, middle.pending.lookup id = none ∨ id ∈ ids →
        (ids.foldl Resolver.failPending middle).pending.lookup id = none) ∧
      (ids.foldl Resolver.failPending middle).config = middle.config ∧
      Tended false (· = configurationChanged) middle (ids.foldl Resolver.failPending middle) := by
    intro ids
    induction ids with
    | nil => exact fun middle => ⟨fun id none => none.resolve_right List.not_mem_nil, rfl, .refl⟩
    | cons first rest ih =>
      intro middle
      have failed : (middle.failPending first).pending = middle.pending.erase first ∧ _ := failPending_cases
      obtain ⟨pending, config, tended⟩ := failed
      obtain ⟨gone, config', tended'⟩ := ih (middle.failPending first)
      refine ⟨fun id none => gone id ?_, config'.trans config, tended.trans tended'⟩
      rw [pending]
      by_cases isFirst : id = first
      · rw [isFirst]
        exact .inl (AList.lookup_erase _ _)
      · rw [AList.lookup_erase_ne isFirst]
        exact none.imp_right fun mem => (List.mem_cons.mp mem).resolve_left isFirst
  obtain ⟨gone, rest⟩ := folded r.pending.keys r
  exact ⟨fun id => gone id (or_iff_not_imp_right.mpr AList.lookup_eq_none.mpr), rest⟩

theorem changeRoute_looks {snapshot : ResolverSnapshot} (budget : 0 < snapshot.attempts) :
    Looks r (r.changeRoute env io snapshot) := by
  obtain ⟨gone, -, tended⟩ := failPendingForConfigurationChange_cases (r := r)
  unfold Resolver.changeRoute
  dsimp only
  generalize r.failPendingForConfigurationChange = middle at gone tended
  split
  all_goals refine ⟨tended.tail (.quiet rfl DnsCache.wears_clear (Nat.le_refl _)), fun _ => budget, .inr ⟨gone, ⟨rfl, rfl⟩, rfl, ?_⟩⟩
  · rename_i installed
    exact fun _ => installConfiguredSocket_lt installed
  · exact nofun

theorem transitionConfigurationUnavailable_looks : Looks r r.transitionConfigurationUnavailable := by
  obtain ⟨gone, config, tended⟩ := failPendingForConfigurationChange_cases (r := r)
  unfold Resolver.transitionConfigurationUnavailable
  split
  · exact ⟨.refl, id, .inl ⟨rfl, rfl, rfl⟩⟩
  generalize r.failPendingForConfigurationChange = middle at gone config tended
  refine ⟨tended.tail (.quiet rfl DnsCache.wears_clear (Nat.le_refl _)), ?_, .inr ⟨gone, ⟨rfl, rfl⟩, rfl, nofun⟩⟩
  rw [← config]
  exact id

/-- What only looks at the clock and the flags may come before. -/
theorem Looks.after {asked : Nat} {configDirty : Bool} {nextConfigRefresh : Option Instant} {configError : Option Error}
    (looks : Looks { r with asked, configDirty, nextConfigRefresh, configError } r') (later : r.asked ≤ asked) :
    Looks r r' := by
  have ticked : Tends false (· = configurationChanged) r { r with asked, configDirty, nextConfigRefresh, configError } :=
    .quiet rfl .refl later
  exact ⟨.head ticked looks.tended, looks.budget, looks.outcome⟩

theorem refreshConfigurationIfDirty_looks {io : RefreshIo} : Looks r (r.refreshConfigurationIfDirty env io) := by
  unfold Resolver.refreshConfigurationIfDirty
  split
  · exact ⟨.refl, id, .inl ⟨rfl, rfl, rfl⟩⟩
  dsimp only
  split
  · exact Looks.after ⟨.refl, id, .inl ⟨rfl, rfl, rfl⟩⟩ (Nat.le_succ _)
  split
  · exact transitionConfigurationUnavailable_looks.after (Nat.le_succ _)
  split
  · exact transitionConfigurationUnavailable_looks.after (Nat.le_succ _)
  rename_i snapshot _ usable
  have budget : 0 < snapshot.attempts := Nat.pos_of_ne_zero fun none => usable (.inr (.inl none))
  split
  · exact Looks.after ⟨.refl, id, .inl ⟨rfl, rfl, rfl⟩⟩ (Nat.le_succ _)
  split
  · rename_i sameServers
    refine ⟨.single (.quiet rfl .refl (Nat.le_succ _)), fun _ => budget, .inl ⟨?_, rfl, rfl⟩⟩
    show (r.socket, r.currentNameserver, snapshot.nameservers) = r.route
    rw [sameServers.2]
    rfl
  · exact (changeRoute_looks budget).after (Nat.le_succ _)

theorem wake_looks {pumped : Bool} {io : RefreshIo} : Looks r (r.wake env pumped io) := by
  unfold Resolver.wake
  exact refreshConfigurationIfDirty_looks.after (Nat.le_succ _)

/-- The look comes after timers. -/
theorem Looks.upkeep (looks : Looks r r') : Upkeep retried r r' :=
  { looks.tended.upkeep with
    pending := fun id new found => by
      obtain ⟨old, isOld, kept⟩ := looks.tended.upkeep.pending id new found
      exact ⟨old, isOld, kept.core, fun _ => kept.tries rfl, fun _ => kept.udp rfl⟩ }

theorem Looks.routed (looks : Looks r r') (routed : Routed r.route) : Routed r'.route := by
  rcases looks.outcome with ⟨route, -⟩ | ⟨-, -, -, routed'⟩
  · rw [route]
    exact routed
  · exact routed'

/-! ## Commands -/

variable {key : ResolveKey}

theorem dropLookup_upkeep : Upkeep retried r (r.dropLookup key) := by
  unfold Resolver.dropLookup
  split
  · exact .refl
  rename_i id _
  have removed : Upkeep retried r ((r.forgetKey key).removeQuery id).1 :=
    removeQuery_upkeep.after rfl rfl (Nat.le_refl _)
  split
  all_goals
    rename_i isRemoved
    rw [isRemoved] at removed
  · exact removed
  · exact removed.trans (.of_eq rfl rfl (Nat.le_refl _))

theorem accept_upkeep : Upkeep retried r (r.accept key) := dropLookup_upkeep.trans (.of_eq rfl rfl (Nat.le_refl _))

theorem cancel_upkeep : Upkeep retried r (r.cancel key) := by
  unfold Resolver.cancel
  dsimp only
  split
  · exact dropLookup_upkeep.trans (.of_eq rfl rfl (Nat.le_refl _))
  · exact dropLookup_upkeep

theorem failAll_upkeep : Upkeep retried r r.failAll :=
  List.foldlRecOn _ _ (.of_pending (fun _ _ => nofun) rfl (Nat.le_refl _)) fun _ upkeep _ _ =>
    upkeep.trans emitFailure_upkeep

end

end NbReq.Dns
