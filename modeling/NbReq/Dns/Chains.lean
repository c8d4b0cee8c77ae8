import NbReq.Dns.Closure
import NbReq.Dns.Origins

/-!
# What messages say

A message that is taken for a query says what its records say: the addresses of an answer are those of names to which
its aliases lead, and so is the alias under which the query is made again (`Event.Answers.message`).
-/

namespace NbReq.Dns

/-! ## Paths of aliases -/

/-- So many aliases lead from one name to another. -/
inductive AliasPath (leads : Name → Name → Prop) (name : Name) : Nat → Name → Prop where
  | start : AliasPath leads name 0 name
  | step {hops : Nat} {owner target : Name} (path : AliasPath leads name hops owner) (isAlias : leads owner target) :
      AliasPath leads name (hops + 1) target

/-- What a message that is taken says about a name, when so many hops are left: addresses that are not further away than
that, or an alias that uses up as many hops as it is away. -/
structure Conveys (message : Response) (name : Name) (recordType : RecordType) (remaining : Nat) (parsed : ParsedAnswer) :
    Prop where
  answer : ∀ answer, parsed = .answer answer → answer.addresses ≠ [] ∧
    ∀ address ∈ answer.addresses, ∃ record ∈ message.answers, addressOf recordType record.data = some address ∧
      ∃ hops ≤ remaining, AliasPath (Alias message.answers) name hops record.name
  canonical : ∀ target hops, parsed = .canonical target hops → 0 < hops ∧ hops ≤ remaining ∧
    ∃ steps ≤ hops, AliasPath (Alias message.answers) name steps target

section

variable {answers : List Record} {start result : List Name} {records : List Record} {name : Name}

theorem Builds.length (builds : Builds answers start records result) :
    result.length = start.length + records.length := by
  induction builds with
  | done => rfl
  | add _ _ _ _ _ ih =>
    rw [ih, List.length_append, List.length_singleton, List.length_cons]
    omega

/-- Every name is as far away as there are records that lead to it. -/
theorem Builds.paths (builds : Builds answers start records result) {most : Nat}
    (within : ∀ other ∈ start, ∃ hops ≤ most, AliasPath (Alias answers) name hops other) :
    ∀ other ∈ result, ∃ hops ≤ most + records.length, AliasPath (Alias answers) name hops other := by
  induction builds generalizing most with
  | done => exact within
  | @add names result record records target mem owner isAlias new rest ih =>
    have longer : ∀ other ∈ names ++ [target], ∃ hops ≤ most + 1, AliasPath (Alias answers) name hops other := by
      intro other isOther
      rcases List.mem_append.mp isOther with old | isNew
      · obtain ⟨hops, le, path⟩ := within other old
        exact ⟨hops, Nat.le_succ_of_le le, path⟩
      · obtain ⟨hops, le, path⟩ := within record.name owner
        rw [List.mem_singleton.mp isNew]
        exact ⟨hops + 1, Nat.succ_le_succ le, path.step ⟨record, mem, rfl, isAlias⟩⟩
    have reached := ih longer
    rw [List.length_cons]
    rwa [Nat.add_assoc, Nat.add_comm 1] at reached

theorem collectAddresses_conveys {message : Response} {recordType : RecordType} {remaining : Nat} {parsed : ParsedAnswer}
    (collected : collectAddresses message name recordType remaining = .ok parsed) :
    Conveys message name recordType remaining parsed := by
  rcases followAliases_cases remaining _ _ (follows_start message.answers name) with
    ⟨failure, failed, -⟩ | ⟨aliases, records, followed, follows, -, fits, -⟩
  · rw [collectAddresses, failed] at collected
    cases collected
  rw [Nat.zero_add] at fits
  have hops : records.length = aliases.hops := by
    have length := follows.builds.length
    rw [follows.count, List.length_singleton, Nat.add_comm 1] at length
    exact (Nat.succ.inj length).symm
  have start : ∀ other ∈ [name], ∃ hops ≤ 0, AliasPath (Alias message.answers) name hops other := by
    intro other mem
    rw [List.mem_singleton.mp mem]
    exact ⟨0, le_rfl, .start⟩
  have paths := follows.builds.paths start
  rw [Nat.zero_add, hops] at paths
  rcases collectAddresses_cases followed with ⟨-, ⟨target, isTarget, found⟩ | ⟨-, found⟩⟩ | ⟨some, found⟩
  all_goals
    rw [found] at collected
    cases collected
  · refine ⟨fun _ no => (by cases no), ?_⟩
    rintro _ _ ⟨⟩
    rcases follows.target_cases with ⟨-, noTarget⟩ | ⟨used, other, mem, isOther⟩
    · rw [isTarget] at noTarget
      cases noTarget
    · rw [isTarget] at isOther
      cases isOther
      exact ⟨Nat.pos_of_ne_zero used, fits, paths target mem⟩
  · exact ⟨fun _ no => (by cases no), fun _ _ no => (by cases no)⟩
  · refine ⟨?_, fun _ _ no => (by cases no)⟩
    rintro _ ⟨⟩
    refine ⟨fun empty => some (List.map_eq_nil_iff.mp empty), ?_⟩
    intro address mem
    obtain ⟨⟨_, ttl⟩, used, rfl⟩ := List.mem_map.mp mem
    obtain ⟨record, isRecord, taken⟩ := List.mem_filterMap.mp used
    split at taken
    · rename_i owned
      obtain ⟨_, isAddress, same⟩ := Option.map_eq_some_iff.mp taken
      cases same
      obtain ⟨steps, le, path⟩ := paths record.name owned
      exact ⟨record, isRecord, isAddress, steps, le.trans fits, path⟩
    · cases taken

theorem parseAnswer_conveys {bytes : Bytes} {id : UInt16} {recordType : RecordType} {remaining : Nat}
    {parsed : ParsedAnswer} (taken : parseAnswer bytes id name recordType remaining = some (.ok parsed)) :
    ∃ message, parseResponse bytes = .ok message ∧ Conveys message name recordType remaining parsed := by
  obtain ⟨message, isMessage, -, verdict⟩ := parseAnswer_taken taken
  refine ⟨message, isMessage, ?_⟩
  unfold Response.verdict at verdict
  split at verdict
  · cases verdict
    exact ⟨fun _ no => (by cases no), fun _ _ no => (by cases no)⟩
  split at verdict
  · cases verdict
    exact ⟨fun _ no => (by cases no), fun _ _ no => (by cases no)⟩
  split at verdict
  · cases verdict
  · exact collectAddresses_conveys verdict

end

/-! ## Messages -/

section

variable {event : Event} {thread : Thread} {query : PendingQuery} {result : Except ResolveFailure ParsedAnswer}

/-- The event brings a message that is looked at for a query. -/
def Event.Brings (event : Event) (thread : Thread) (query : PendingQuery) (bytes : Bytes) : Prop :=
  match event, thread.point with
  | .datagram packet _, .packets _ =>
    bytes = packet.take maxPacketLen ∧
      ∃ id, datagramId bytes = some id ∧ thread.resolver.pending.lookup id = some query
  | .stream script, .streams (ready :: _) =>
    ∃ id tcp driven, thread.resolver.tcpByToken.lookup ready.token = some id ∧
      thread.resolver.pending.lookup id = some query ∧ query.transport = .tcp tcp ∧
      driveTcp ready.readable ready.writable script tcp = .ok (driven, some bytes)
  | _, _ => False

/-- The event brings a message that is taken for a query. -/
def Event.Takes (event : Event) (thread : Thread) (query : PendingQuery) (message : Response) : Prop :=
  ∃ bytes id parsed, event.Brings thread query bytes ∧ parseResponse bytes = .ok message ∧
    parseAnswer bytes id query.host query.recordType (maxCnameHops - query.cnameHops) = some (.ok parsed)

/-- The query that an event answers is in flight. -/
theorem Event.Answers.found (answers : event.Answers thread query result) :
    ∃ id, thread.resolver.pending.lookup id = some query := by
  obtain ⟨r, point⟩ := thread
  unfold Event.Answers at answers
  dsimp only at answers
  split at answers
  · obtain ⟨id, taken⟩ := answers
    exact ⟨id, (takesDatagram_parsed taken).2.1⟩
  · obtain ⟨id, tcp, driven, message, entry, found, -⟩ := answers
    exact ⟨id, found⟩
  · exact answers.elim

/-- What the answer says is in the message that the event brings. -/
theorem Event.Answers.message (answers : event.Answers thread query result) (parsed : ParsedAnswer)
    (isParsed : result = .ok parsed) :
    ∃ message, event.Takes thread query message ∧
      Conveys message query.host query.recordType (maxCnameHops - query.cnameHops) parsed := by
  obtain ⟨r, point⟩ := thread
  obtain ⟨bytes, id, brings, taken⟩ : ∃ bytes id, event.Brings ⟨r, point⟩ query bytes ∧
      parseAnswer bytes id query.host query.recordType (maxCnameHops - query.cnameHops) = some (.ok parsed) := by
    unfold Event.Answers at answers
    dsimp only at answers
    split at answers
    · obtain ⟨id, taken⟩ := answers
      obtain ⟨isId, found, taken⟩ := takesDatagram_parsed taken
      exact ⟨_, id, ⟨rfl, id, isId, found⟩, isParsed ▸ taken⟩
    · obtain ⟨id, tcp, driven, message, entry, found, transport, drive, rfl⟩ := answers
      refine ⟨message, id, ⟨id, tcp, driven, entry, found, transport, drive⟩, ?_⟩
      cases isResult : parseAnswer message id query.host query.recordType (maxCnameHops - query.cnameHops) with
      | none =>
        rw [isResult] at isParsed
        cases isParsed
      | some result =>
        rw [isResult] at isParsed
        exact congrArg some isParsed
    · exact answers.elim
  obtain ⟨message, isMessage, conveys⟩ := parseAnswer_conveys taken
  exact ⟨message, ⟨bytes, id, parsed, brings, isMessage, taken⟩, conveys⟩

end

end NbReq.Dns
