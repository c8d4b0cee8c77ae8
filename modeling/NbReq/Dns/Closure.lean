import NbReq.Dns.Answer
import Mathlib.Data.Set.Card

/-!
# The aliases of a response

`parse_answer` adds one alias target after another to the names it accepts, until no record leads to a new one. What it
ends with is the set of names that the aliases of the response lead to from the name that was asked for (`aliasClosure`),
however the records are ordered and whatever loops and branches they have. `Describes` says what is returned in terms of
that set, and `parseAnswer_describes` that it is.
-/

namespace NbReq.Dns

/-! ## The reference -/

/-- A record of the answer section says that one name is an alias of another. -/
def Alias (answers : List Record) (name target : Name) : Prop :=
  ∃ record ∈ answers, record.name = name ∧ record.data = .cname target

def aliasClosure (answers : List Record) (name : Name) : Set Name :=
  { target | Relation.ReflTransGen (Alias answers) name target }

open Classical in
/-- The addresses of a type that the names own, in the order of the message, each with the TTL of its record. -/
noncomputable def ownedAddresses (names : Set Name) (recordType : RecordType) (answers : List Record) :
    List (IpAddr × Nat) :=
  answers.filterMap fun record =>
    if record.name ∈ names then (addressOf recordType record.data).map (·, record.ttl) else none

/-- The records lead from some names to more of them, each to one that was not there yet. -/
inductive Builds (answers : List Record) : List Name → List Record → List Name → Prop where
  | done {names : List Name} : Builds answers names [] names
  | add {names result : List Name} {record : Record} {records : List Record} {target : Name}
      (mem : record ∈ answers) (owner : record.name ∈ names) (isAlias : record.data = .cname target)
      (new : target ∉ names) (rest : Builds answers (names ++ [target]) records result) :
      Builds answers names (record :: records) result

/-- What a response without an error says about a name and a type, when so many hops remain. -/
structure Describes (answers : List Record) (name : Name) (recordType : RecordType) (remaining : Nat)
    (outcome : Except ResolveFailure ParsedAnswer) : Prop where
  /-- It is rejected if and only if there are more names than the hops allow or an alias of the root. -/
  rejected : (∃ failure, outcome = .error failure) ↔
    remaining + 1 < (aliasClosure answers name).ncard ∨ ∃ owner ∈ aliasClosure answers name, Alias answers owner .root
  /-- The addresses are those that the names own, and the TTL is not longer than any that was used. -/
  answered : ∀ answer, outcome = .ok (.answer answer) →
    answer.addresses = (ownedAddresses (aliasClosure answers name) recordType answers).map (·.1) ∧
    (∀ owned ∈ ownedAddresses (aliasClosure answers name) recordType answers, answer.ttl ≤ .fromSecs owned.2) ∧
    ∃ records names, Builds answers [name] records names ∧ (∀ other, other ∈ names ↔ other ∈ aliasClosure answers name) ∧
      ∀ record ∈ records, answer.ttl ≤ .fromSecs record.ttl
  /-- If there are addresses and it is not rejected, it is an answer. -/
  some_address : ownedAddresses (aliasClosure answers name) recordType answers ≠ [] →
    (∃ failure, outcome = .error failure) ∨ ∃ answer, outcome = .ok (.answer answer)
  /-- If there is no address and it is not rejected, it is an alias to follow exactly if there is another name. -/
  no_address : ownedAddresses (aliasClosure answers name) recordType answers = [] →
    (∃ failure, outcome = .error failure) ∨
    ((∃ other ∈ aliasClosure answers name, other ≠ name) ∧ ∃ target hops, outcome = .ok (.canonical target hops) ∧
      target ∈ aliasClosure answers name ∧ hops + 1 = (aliasClosure answers name).ncard) ∨
    ((∀ other ∈ aliasClosure answers name, other = name) ∧ ∃ ttl, outcome = .ok (.noRecords ttl))

/-! ## The next alias -/

section

variable {answers : List Record} {names : List Name} {name : Name}

/-- What the scan for the next alias may find: an alias of the root, an alias to a new name, or neither. -/
def Scanned (answers : List Record) (names : List Name) (found : Except ResolveFailure (Option (Name × Nat))) : Prop :=
  (∃ failure, found = .error failure ∧ ∃ owner ∈ names, Alias answers owner .root) ∨
  (∃ record ∈ answers, ∃ target, found = .ok (some (target, record.ttl)) ∧ record.name ∈ names ∧
    record.data = .cname target ∧ target ∉ names) ∨
  (found = .ok none ∧ ∀ record ∈ answers, record.name ∈ names → ∀ target, record.data = .cname target →
    target ∈ names ∧ target ≠ .root)

theorem nextTarget_cases (answers : List Record) (names : List Name) :
    Scanned answers names (nextTarget names answers) := by
  induction answers with
  | nil => exact .inr (.inr ⟨rfl, fun _ => nofun⟩)
  | cons answer rest ih =>
    -- the rest of the section decides if this record adds nothing
    have skipped : nextTarget names (answer :: rest) = nextTarget names rest →
        (answer.name ∈ names → ∀ target, answer.data = .cname target → target ∈ names ∧ target ≠ .root) →
        Scanned (answer :: rest) names (nextTarget names (answer :: rest)) := by
      intro same harmless
      rw [same]
      rcases ih with ⟨failure, failed, owner, isOwner, record, mem, isRoot⟩ | ⟨record, mem, found⟩ | ⟨none, closed⟩
      · exact .inl ⟨failure, failed, owner, isOwner, record, List.mem_cons_of_mem _ mem, isRoot⟩
      · exact .inr (.inl ⟨record, List.mem_cons_of_mem _ mem, found⟩)
      refine .inr (.inr ⟨none, ?_⟩)
      intro record mem
      rcases List.mem_cons.mp mem with rfl | mem
      · exact harmless
      · exact closed record mem
    by_cases owned : answer.name ∈ names
    · cases isData : answer.data with
      | cname target =>
        by_cases isRoot : target.isRoot = true
        · have root : target = .root := by
            obtain ⟨labels⟩ := target
            exact congrArg Name.mk (List.isEmpty_iff.mp isRoot)
          refine .inl ⟨.classified .protocol "the DNS CNAME target is the root name", ?_, answer.name, owned, answer,
            List.mem_cons_self, rfl, by rw [isData, root]⟩
          rw [nextTarget, if_pos owned, isData]
          dsimp only
          rw [if_pos isRoot]
        · by_cases known : target ∈ names
          · refine skipped ?_ ?_
            · rw [nextTarget, if_pos owned, isData]
              dsimp only
              rw [if_neg isRoot, if_pos known]
            intro _ other isOther
            rw [isData] at isOther
            cases isOther
            refine ⟨known, ?_⟩
            rintro rfl
            exact isRoot rfl
          · refine .inr (.inl ⟨answer, List.mem_cons_self, target, ?_, owned, isData, known⟩)
            rw [nextTarget, if_pos owned, isData]
            dsimp only
            rw [if_neg isRoot, if_neg known]
      | _ =>
        refine skipped ?_ ?_
        · rw [nextTarget, if_pos owned, isData]
        · intro _ target isAlias
          rw [isData] at isAlias
          cases isAlias
    · refine skipped ?_ fun isOwned => absurd isOwned owned
      rw [nextTarget, if_neg owned]

/-! ## The closure -/

variable {target : Name}

theorem Alias.mem_closure (mem : name ∈ aliasClosure answers target) {other : Name}
    (isAlias : Alias answers name other) : other ∈ aliasClosure answers target :=
  Relation.ReflTransGen.tail mem isAlias

/-- Names without an alias to others are the whole closure. -/
theorem closure_of_closed (start : name ∈ names) (reached : ∀ other ∈ names, other ∈ aliasClosure answers name)
    (closed : ∀ record ∈ answers, record.name ∈ names → ∀ target, record.data = .cname target → target ∈ names) :
    ∀ other, other ∈ names ↔ other ∈ aliasClosure answers name := by
  intro other
  refine ⟨reached other, ?_⟩
  intro leads
  induction leads with
  | refl => exact start
  | tail _ isAlias ih =>
    obtain ⟨record, mem, owner, isTarget⟩ := isAlias
    exact closed record mem (owner ▸ ih) _ isTarget

theorem aliasClosure_finite : (aliasClosure answers name).Finite := by
  have targets : { target | ∃ owner, Alias answers owner target }.Finite := by
    have datas : ((·.data) '' { record | record ∈ answers }).Finite := (List.finite_toSet answers).image _
    refine (datas.preimage fun _ _ _ _ same => RData.cname.inj same).subset ?_
    rintro target ⟨owner, record, mem, -, isAlias⟩
    exact ⟨record, mem, isAlias⟩
  refine (targets.insert name).subset ?_
  intro other leads
  rcases Relation.ReflTransGen.cases_tail leads with same | ⟨owner, -, isAlias⟩
  · exact .inl same
  · exact .inr ⟨owner, isAlias⟩

/-- Names of the closure without repetition are at most as many as it has. -/
theorem length_le_ncard (distinct : names.Nodup) (reached : ∀ other ∈ names, other ∈ aliasClosure answers name) :
    names.length ≤ (aliasClosure answers name).ncard := by
  rw [← List.toFinset_card_of_nodup distinct, ← Set.ncard_coe_finset]
  refine Set.ncard_le_ncard ?_ aliasClosure_finite
  intro other mem
  exact reached other (List.mem_toFinset.mp mem)

theorem length_eq_ncard (distinct : names.Nodup) (whole : ∀ other, other ∈ names ↔ other ∈ aliasClosure answers name) :
    names.length = (aliasClosure answers name).ncard := by
  rw [← List.toFinset_card_of_nodup distinct, ← Set.ncard_coe_finset]
  congr 1
  ext other
  rw [Finset.mem_coe, List.mem_toFinset, whole]

/-! ## The loop -/

variable {records : List Record}

theorem Builds.snoc {start result : List Name} {record : Record}
    (builds : Builds answers start records result) (mem : record ∈ answers) (owner : record.name ∈ result)
    (isAlias : record.data = .cname target) (new : target ∉ result) :
    Builds answers start (records ++ [record]) (result ++ [target]) := by
  induction builds with
  | done => exact .add mem owner isAlias new .done
  | add mem' owner' isAlias' new' _ ih => exact .add mem' owner' isAlias' new' (ih owner new)

/-- What the loop has so far: the names that the records lead to, with the least TTL of the records. -/
structure Follows (answers : List Record) (name : Name) (records : List Record) (aliases : Aliases) : Prop where
  builds : Builds answers [name] records aliases.acceptedNames
  start : name ∈ aliases.acceptedNames
  reached : ∀ other ∈ aliases.acceptedNames, other ∈ aliasClosure answers name
  distinct : aliases.acceptedNames.Nodup
  count : aliases.acceptedNames.length = aliases.hops + 1
  ttl : ∀ record ∈ records, aliases.ttl ≤ record.ttl
  target : aliases.canonicalTarget = if aliases.hops = 0 then none else aliases.acceptedNames.getLast?

variable {aliases : Aliases}

theorem Follows.next {record : Record} (follows : Follows answers name records aliases) (mem : record ∈ answers)
    (owner : record.name ∈ aliases.acceptedNames) (isAlias : record.data = .cname target)
    (new : target ∉ aliases.acceptedNames) :
    Follows answers name (records ++ [record])
      ⟨aliases.acceptedNames ++ [target], some target, min aliases.ttl record.ttl, aliases.hops + 1⟩ where
  builds := follows.builds.snoc mem owner isAlias new
  start := List.mem_append_left _ follows.start
  reached := by
    intro other isOther
    rcases List.mem_append.mp isOther with old | isNew
    · exact follows.reached other old
    · rw [List.mem_singleton.mp isNew]
      exact Alias.mem_closure (follows.reached _ owner) ⟨record, mem, rfl, isAlias⟩
  distinct := List.nodup_append.mpr
    ⟨follows.distinct, List.nodup_singleton _, fun other old => by
      rintro last isLast rfl
      rw [List.mem_singleton.mp isLast] at old
      exact new old⟩
  count := by rw [List.length_append, follows.count, List.length_singleton]
  ttl := by
    intro used isUsed
    rcases List.mem_append.mp isUsed with old | isNew
    · exact (Nat.min_le_left _ _).trans (follows.ttl used old)
    · rw [List.mem_singleton.mp isNew]
      exact Nat.min_le_right _ _
  target := by simp

/-- The loop ends with the whole closure, or is rejected. -/
theorem followAliases_cases (remaining : Nat) (aliases : Aliases) (records : List Record)
    (follows : Follows answers name records aliases) :
    (∃ failure, followAliases answers remaining aliases = .error failure ∧
      (aliases.hops + remaining + 1 < (aliasClosure answers name).ncard ∨
        ∃ owner ∈ aliasClosure answers name, Alias answers owner .root)) ∨
    ∃ result records', followAliases answers remaining aliases = .ok result ∧
      Follows answers name records' result ∧
      (∀ other, other ∈ result.acceptedNames ↔ other ∈ aliasClosure answers name) ∧
      result.hops ≤ aliases.hops + remaining ∧ ¬∃ owner ∈ aliasClosure answers name, Alias answers owner .root := by
  induction remaining generalizing aliases records with
  | zero =>
    rw [followAliases]
    rcases nextTarget_cases answers aliases.acceptedNames with
      ⟨failure, found, owner, isOwner, isRoot⟩ | ⟨record, mem, target, found, owner, isAlias, new⟩ | ⟨found, closed⟩
    · rw [found]
      exact .inl ⟨_, rfl, .inr ⟨owner, follows.reached owner isOwner, isRoot⟩⟩
    · rw [found]
      refine .inl ⟨_, rfl, .inl ?_⟩
      have next := follows.next mem owner isAlias new
      have bound := length_le_ncard next.distinct next.reached
      rw [next.count] at bound
      exact bound
    · rw [found]
      exact .inr (followed_closed follows closed)
  | succ remaining ih =>
    rw [followAliases]
    rcases nextTarget_cases answers aliases.acceptedNames with
      ⟨failure, found, owner, isOwner, isRoot⟩ | ⟨record, mem, target, found, owner, isAlias, new⟩ | ⟨found, closed⟩
    · rw [found]
      exact .inl ⟨_, rfl, .inr ⟨owner, follows.reached owner isOwner, isRoot⟩⟩
    · rw [found]
      have next := ih _ _ (follows.next mem owner isAlias new)
      have sum : aliases.hops + 1 + remaining = aliases.hops + (remaining + 1) := by omega
      rw [← sum]
      exact next
    · rw [found]
      exact .inr (followed_closed follows closed)
where
  followed_closed {remaining : Nat} {aliases : Aliases} {records : List Record}
      (follows : Follows answers name records aliases)
      (closed : ∀ record ∈ answers, record.name ∈ aliases.acceptedNames → ∀ target, record.data = .cname target →
        target ∈ aliases.acceptedNames ∧ target ≠ .root) :
      ∃ result records', (.ok aliases : Except ResolveFailure Aliases) = .ok result ∧
        Follows answers name records' result ∧
        (∀ other, other ∈ result.acceptedNames ↔ other ∈ aliasClosure answers name) ∧
        result.hops ≤ aliases.hops + remaining ∧ ¬∃ owner ∈ aliasClosure answers name, Alias answers owner .root := by
    have whole := closure_of_closed follows.start follows.reached
      fun record mem owner target isAlias => (closed record mem owner target isAlias).1
    refine ⟨aliases, records, rfl, follows, whole, Nat.le_add_right _ _, ?_⟩
    rintro ⟨owner, inClosure, record, mem, rfl, isRoot⟩
    exact (closed record mem ((whole _).mpr inClosure) _ isRoot).2 rfl

/-! ## What is returned -/

theorem usedRecords_eq_owned (whole : ∀ other, other ∈ names ↔ other ∈ aliasClosure answers name)
    (recordType : RecordType) :
    usedRecords recordType names answers = ownedAddresses (aliasClosure answers name) recordType answers := by
  refine List.filterMap_congr ?_
  intro record _
  by_cases owned : record.name ∈ names
  · rw [if_pos owned, if_pos ((whole _).mp owned)]
  · rw [if_neg owned, if_neg (mt (whole _).mpr owned)]

/-- The TTL of an answer is at most the one of each address and the one the aliases left. -/
theorem foldl_min_le (ttls : List Nat) (ttl : Nat) :
    ttls.foldl min ttl ≤ ttl ∧ ∀ other ∈ ttls, ttls.foldl min ttl ≤ other := by
  induction ttls generalizing ttl with
  | nil => exact ⟨le_rfl, fun _ => nofun⟩
  | cons first rest ih =>
    obtain ⟨start, each⟩ := ih (min ttl first)
    refine ⟨start.trans (Nat.min_le_left _ _), ?_⟩
    intro other mem
    rcases List.mem_cons.mp mem with rfl | mem
    · exact start.trans (Nat.min_le_right _ _)
    · exact each other mem

theorem Duration.fromSecs_mono {shorter longer : Nat} (le : shorter ≤ longer) :
    Duration.fromSecs shorter ≤ Duration.fromSecs longer :=
  Nat.mul_le_mul_right _ le

/-- The name itself is the whole closure if and only if the loop made no hop. -/
theorem Follows.alone_iff (follows : Follows answers name records aliases)
    (whole : ∀ other, other ∈ aliases.acceptedNames ↔ other ∈ aliasClosure answers name) :
    aliases.hops = 0 ↔ ∀ other ∈ aliasClosure answers name, other = name := by
  have count := follows.count
  constructor
  · intro none other leads
    rw [none] at count
    obtain ⟨only, isOnly⟩ := List.length_eq_one_iff.mp count
    have start := follows.start
    rw [isOnly, List.mem_singleton] at start
    have mem := (whole other).mpr leads
    rw [isOnly, List.mem_singleton] at mem
    rw [mem, start]
  · intro alone
    have same : aliases.acceptedNames ⊆ [name] := by
      intro other mem
      exact List.mem_singleton.mpr (alone other ((whole other).mp mem))
    have bound := (follows.distinct.subperm same).length_le
    rw [count, List.length_singleton] at bound
    exact Nat.le_zero.mp (Nat.le_of_succ_le_succ bound)

/-- The alias to follow is in the closure. -/
theorem Follows.target_cases (follows : Follows answers name records aliases) :
    (aliases.hops = 0 ∧ aliases.canonicalTarget = none) ∨
    (aliases.hops ≠ 0 ∧ ∃ target ∈ aliases.acceptedNames, aliases.canonicalTarget = some target) := by
  have target := follows.target
  by_cases none : aliases.hops = 0
  · rw [if_pos none] at target
    exact .inl ⟨none, target⟩
  · rw [if_neg none, List.getLast?_eq_some_getLast (List.ne_nil_of_mem follows.start)] at target
    exact .inr ⟨none, _, List.getLast_mem _, target⟩

/-- What is returned once the loop has ended. -/
theorem collectAddresses_cases {message : Response} {recordType : RecordType} {remaining : Nat}
    (followed : followAliases message.answers remaining ⟨[name], none, 2 ^ 32 - 1, 0⟩ = .ok aliases) :
    (usedRecords recordType aliases.acceptedNames message.answers = [] ∧
      ((∃ target, aliases.canonicalTarget = some target ∧
        collectAddresses message name recordType remaining = .ok (.canonical target aliases.hops)) ∨
      (aliases.canonicalTarget = none ∧
        collectAddresses message name recordType remaining = .ok (.noRecords (negativeTtl message.authorities))))) ∨
    (usedRecords recordType aliases.acceptedNames message.answers ≠ [] ∧
      collectAddresses message name recordType remaining =
        .ok (.answer ⟨(usedRecords recordType aliases.acceptedNames message.answers).map (·.1),
          .fromSecs (((usedRecords recordType aliases.acceptedNames message.answers).map (·.2)).foldl min
            aliases.ttl)⟩)) := by
  rw [collectAddresses, followed]
  dsimp only [Bind.bind, Except.bind]
  by_cases empty : usedRecords recordType aliases.acceptedNames message.answers = []
  · refine .inl ⟨empty, ?_⟩
    rw [if_pos (List.isEmpty_iff.mpr empty)]
    cases aliases.canonicalTarget with
    | none => exact .inr ⟨rfl, rfl⟩
    | some target => exact .inl ⟨target, rfl, rfl⟩
  · rw [if_neg (mt List.isEmpty_iff.mp empty)]
    exact .inr ⟨empty, rfl⟩

theorem follows_start (answers : List Record) (name : Name) :
    Follows answers name [] ⟨[name], none, 2 ^ 32 - 1, 0⟩ where
  builds := .done
  start := List.mem_singleton_self name
  reached := by
    intro other mem
    rw [List.mem_singleton.mp mem]
    exact .refl
  distinct := List.nodup_singleton name
  count := rfl
  ttl := fun _ => nofun
  target := rfl

/-- What is returned for a closure that fits, from the case of the collection that applies. -/
theorem describes_found {message : Response} {recordType : RecordType} {remaining : Nat}
    (follows : Follows message.answers name records aliases)
    (followed : followAliases message.answers remaining ⟨[name], none, 2 ^ 32 - 1, 0⟩ = .ok aliases)
    (whole : ∀ other, other ∈ aliases.acceptedNames ↔ other ∈ aliasClosure message.answers name)
    (fits : aliases.hops ≤ remaining)
    (noRoot : ¬∃ owner ∈ aliasClosure message.answers name, Alias message.answers owner .root) :
    Describes message.answers name recordType remaining
      (collectAddresses message name recordType remaining) := by
  have count := length_eq_ncard follows.distinct whole
  rw [follows.count] at count
  have allowed : ¬(remaining + 1 < (aliasClosure message.answers name).ncard ∨
      ∃ owner ∈ aliasClosure message.answers name, Alias message.answers owner .root) := by
    rintro (tooMany | isRoot)
    · omega
    · exact noRoot isRoot
  have used := usedRecords_eq_owned whole recordType
  have rejected {parsed : ParsedAnswer} : (∃ failure, (.ok parsed : Except ResolveFailure ParsedAnswer) = .error failure) ↔
      remaining + 1 < (aliasClosure message.answers name).ncard ∨
        ∃ owner ∈ aliasClosure message.answers name, Alias message.answers owner .root :=
    ⟨fun ⟨_, isError⟩ => (nomatch isError), fun isRejected => absurd isRejected allowed⟩
  have alone := follows.alone_iff whole
  rcases collectAddresses_cases followed with
    ⟨empty, ⟨target, isTarget, found⟩ | ⟨isTarget, found⟩⟩ | ⟨some, found⟩
  -- no address, but an alias
  · rw [found]
    rw [used] at empty
    refine ⟨rejected, nofun, fun isSome => absurd empty isSome, fun _ => .inr (.inl ?_)⟩
    rcases follows.target_cases with ⟨_, noTarget⟩ | ⟨hops, other, mem, isOther⟩
    · rw [isTarget] at noTarget
      cases noTarget
    rw [isTarget] at isOther
    cases isOther
    refine ⟨?_, target, aliases.hops, rfl, (whole target).mp mem, count⟩
    by_contra none
    refine hops (alone.mpr ?_)
    intro other leads
    by_contra differs
    exact none ⟨other, leads, differs⟩
  -- neither an address nor an alias
  · rw [found]
    rw [used] at empty
    refine ⟨rejected, nofun, fun isSome => absurd empty isSome, fun _ => .inr (.inr ⟨?_, _, rfl⟩)⟩
    rcases follows.target_cases with ⟨none, _⟩ | ⟨_, other, _, isOther⟩
    · exact alone.mp none
    · rw [isTarget] at isOther
      cases isOther
  -- addresses
  · rw [found]
    rw [used] at some ⊢
    refine ⟨rejected, ?_, fun _ => .inr ⟨_, rfl⟩, fun empty => absurd empty some⟩
    rintro answer isAnswer
    cases isAnswer
    obtain ⟨least, each⟩ := foldl_min_le
      ((ownedAddresses (aliasClosure message.answers name) recordType message.answers).map (·.2)) aliases.ttl
    refine ⟨rfl, ?_, records, aliases.acceptedNames, follows.builds, whole, ?_⟩
    · intro owned mem
      exact Duration.fromSecs_mono (each owned.2 (List.mem_map_of_mem mem))
    · intro record mem
      exact Duration.fromSecs_mono (least.trans (follows.ttl record mem))

/-- What `parse_answer` returns for the records of a message describes them. -/
theorem collectAddresses_describes (message : Response) (name : Name) (recordType : RecordType) (remaining : Nat) :
    Describes message.answers name recordType remaining
      (collectAddresses message name recordType remaining) := by
  rcases followAliases_cases remaining _ _ (follows_start message.answers name) with
    ⟨failure, failed, why⟩ | ⟨aliases, records, followed, follows, whole, fits, noRoot⟩
  · have unfolded : collectAddresses message name recordType remaining = .error failure := by
      rw [collectAddresses, failed]
      rfl
    rw [unfolded]
    refine ⟨⟨fun _ => ?_, fun _ => ⟨failure, rfl⟩⟩, nofun, fun _ => .inl ⟨failure, rfl⟩, fun _ => .inl ⟨failure, rfl⟩⟩
    rwa [Nat.zero_add] at why
  · rw [Nat.zero_add] at fits
    exact describes_found follows followed whole fits noRoot

end

/-! ## The message and the query -/

/-- The message is a response with the id of a query, and its one question has the name and the type of it. -/
def Response.IsFor (message : Response) (id : UInt16) (name : Name) (recordType : RecordType) : Prop :=
  message.id = id ∧ message.isResponse = true ∧
    ∃ question, message.questions = [question] ∧ question.name = name ∧ question.recordType = recordType.code

/-- What a message says to the query it is for. -/
def Response.verdict (message : Response) (name : Name) (recordType : RecordType) (remaining : Nat) :
    Except ResolveFailure ParsedAnswer :=
  if message.truncated then .ok .truncated
  else if message.rcode = 3 then
    .ok (.negative (.new "the DNS server returned NXDomain") (negativeTtl message.authorities))
  else if message.rcode ≠ 0 then
    .error (.classified (rcodeFailure message.rcode.toNat)
      ("the DNS server returned " ++ dnsResponseCodeDebug message.rcode.toNat))
  else collectAddresses message name recordType remaining

section

variable {bytes : Bytes} {id : UInt16} {name : Name} {recordType : RecordType} {remaining : Nat} {message : Response}

/-- A message is looked at if and only if it is for the query. -/
theorem parseAnswer_cases (parsed : parseResponse bytes = .ok message) :
    (message.IsFor id name recordType ∧
      parseAnswer bytes id name recordType remaining = some (message.verdict name recordType remaining)) ∨
    (¬message.IsFor id name recordType ∧ parseAnswer bytes id name recordType remaining = none) := by
  rw [parseAnswer, parsed]
  dsimp only
  by_cases header : message.id ≠ id ∨ ¬message.isResponse = true
  · rw [if_pos header]
    refine .inr ⟨?_, rfl⟩
    rintro ⟨isId, isResponse, -⟩
    rcases header with differs | isQuery
    · exact differs isId
    · exact isQuery isResponse
  rw [if_neg header]
  have sameId : message.id = id := by
    by_contra differs
    exact header (.inl differs)
  have isResponse : message.isResponse = true := by
    by_contra isQuery
    exact header (.inr isQuery)
  cases isQuestions : message.questions with
  | nil => exact .inr ⟨fun ⟨_, _, _, isOne, _⟩ => (nomatch isQuestions.symm.trans isOne), rfl⟩
  | cons question rest =>
    cases rest with
    | cons second others => exact .inr ⟨fun ⟨_, _, _, isOne, _⟩ => (nomatch isQuestions.symm.trans isOne), rfl⟩
    | nil =>
      dsimp only
      by_cases asked : question.name ≠ name ∨ question.recordType ≠ recordType.code
      · rw [if_pos asked]
        refine .inr ⟨?_, rfl⟩
        rintro ⟨-, -, other, isOne, isName, isType⟩
        rw [isQuestions] at isOne
        cases isOne
        rcases asked with differs | differs
        · exact differs isName
        · exact differs isType
      · rw [if_neg asked, Response.verdict]
        refine .inl ⟨⟨sameId, isResponse, question, isQuestions, ?_, ?_⟩, ?_⟩
        · by_contra differs
          exact asked (.inl differs)
        · by_contra differs
          exact asked (.inr differs)
        · repeat' split
          all_goals rfl

/-- What is taken from a message is what it says to the query it is for. -/
theorem parseAnswer_taken {parsed : ParsedAnswer}
    (taken : parseAnswer bytes id name recordType remaining = some (.ok parsed)) :
    ∃ message, parseResponse bytes = .ok message ∧ message.IsFor id name recordType ∧
      message.verdict name recordType remaining = .ok parsed := by
  cases isMessage : parseResponse bytes with
  | error failure =>
    rw [parseAnswer, isMessage] at taken
    cases taken
  | ok message =>
    rcases parseAnswer_cases isMessage with ⟨isFor, found⟩ | ⟨-, found⟩
    · rw [found] at taken
      exact ⟨message, rfl, isFor, Option.some.inj taken⟩
    · rw [found] at taken
      cases taken

end

/-- A response to the query without an error is described by the aliases and addresses of its answer section, and
addresses and aliases are taken from no other message. -/
theorem parseAnswer_describes (bytes : Bytes) (id : UInt16) (name : Name) (recordType : RecordType) (remaining : Nat) :
    (∀ message, parseResponse bytes = .ok message → message.IsFor id name recordType → message.truncated = false →
      message.rcode = 0 → ∃ outcome, parseAnswer bytes id name recordType remaining = some outcome ∧
        Describes message.answers name recordType remaining outcome) ∧
    (∀ parsed, parseAnswer bytes id name recordType remaining = some (.ok parsed) →
      ((∃ answer, parsed = .answer answer) ∨ ∃ target hops, parsed = .canonical target hops) →
      ∃ message, parseResponse bytes = .ok message ∧ message.IsFor id name recordType ∧ message.truncated = false ∧
        message.rcode = 0) := by
  constructor
  · intro message isMessage isFor whole noError
    have verdict : message.verdict name recordType remaining =
        collectAddresses message name recordType remaining := by
      rw [Response.verdict, if_neg (by rw [whole]; nofun), noError, if_neg (by decide), if_neg (by decide)]
    rcases parseAnswer_cases isMessage with ⟨-, found⟩ | ⟨other, -⟩
    · refine ⟨_, found, ?_⟩
      rw [verdict]
      exact collectAddresses_describes message name recordType remaining
    · exact absurd isFor other
  intro parsed taken kind
  obtain ⟨message, isMessage, isFor, verdict⟩ := parseAnswer_taken taken
  refine ⟨message, isMessage, isFor, ?_⟩
  rw [Response.verdict] at verdict
  by_cases truncated : message.truncated = true
  · rw [if_pos truncated] at verdict
    cases verdict
    rcases kind with ⟨_, isAnswer⟩ | ⟨_, _, isAlias⟩
    · cases isAnswer
    · cases isAlias
  rw [if_neg truncated] at verdict
  refine ⟨Bool.eq_false_of_not_eq_true truncated, ?_⟩
  by_cases missing : message.rcode = 3
  · rw [if_pos missing] at verdict
    cases verdict
    rcases kind with ⟨_, isAnswer⟩ | ⟨_, _, isAlias⟩
    · cases isAnswer
    · cases isAlias
  · by_contra failed
    rw [if_neg missing, if_pos failed] at verdict
    cases verdict

/-- A response to a query for the name `h.t`: it is an alias of `w.h.t`, which has one address. -/
def sampleAliased : Bytes :=
  [0, 7, 0x81, 0x80, 0, 1, 0, 2, 0, 0, 0, 0, 1, 0x68, 1, 0x74, 0, 0, 1, 0, 1,
    0xC0, 12, 0, 5, 0, 1, 0, 0, 0, 60, 0, 4, 1, 0x77, 0xC0, 12,
    0xC0, 33, 0, 1, 0, 1, 0, 0, 0, 30, 0, 4, 1, 2, 3, 4]

def sampleAliasedMessage : Response :=
  { id := 7, isResponse := true, truncated := false, rcode := 0, questions := [⟨⟨[[0x68], [0x74]]⟩, 1, 1⟩]
    answers := [⟨⟨[[0x68], [0x74]]⟩, 5, 1, 60, .cname ⟨[[0x77], [0x68], [0x74]]⟩⟩,
      ⟨⟨[[0x77], [0x68], [0x74]]⟩, 1, 1, 30, .a 0x01020304⟩]
    authorities := [] }

theorem parseAnswer_describes_example :
    ∃ outcome, parseAnswer sampleAliased 7 ⟨[[0x68], [0x74]]⟩ .a 8 = some outcome ∧
      Describes sampleAliasedMessage.answers ⟨[[0x68], [0x74]]⟩ .a 8 outcome :=
  (parseAnswer_describes sampleAliased 7 ⟨[[0x68], [0x74]]⟩ .a 8).1 sampleAliasedMessage
    (ok_of_toOption (by decide +kernel)) ⟨rfl, rfl, _, rfl, rfl, rfl⟩ rfl rfl

end NbReq.Dns
