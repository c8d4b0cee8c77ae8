import NbReq.Dns.Closure

/-!
# The class of a question and of a record

`parse_answer` does not look at classes (`other_classes_are_taken`). `Response.sources` are the records of a message that
its result is taken from: the records of the aliases that the loop follows and of the addresses it collects, or the SOA
record of a negative answer. A message does what a reader that only knows class IN would do, by the same records, exactly
if its question and these records are of class IN (`taken_matches_query`); what else it holds does not matter.
-/

namespace NbReq.Dns

/-! ## The records that are used -/

/-- The name that a record adds to those that are accepted. -/
def Record.leadsTo (names : List Name) (record : Record) : Option Name :=
  match record.data with
  | .cname target => if record.name ∈ names ∧ target ∉ names then some target else none
  | _ => none

def aliasRecords (answers : List Record) : Nat → List Name → List Record
  | 0, _ => []
  | remaining + 1, names =>
    match answers.find? fun record => (record.leadsTo names).isSome with
    | none => []
    | some record => record :: aliasRecords answers remaining (names ++ (record.leadsTo names).toList)

def addressRecords (recordType : RecordType) (names : List Name) (answers : List Record) : List Record :=
  answers.filter fun record => decide (record.name ∈ names) && (addressOf recordType record.data).isSome

def Record.isSoa (record : Record) : Bool :=
  match record.data with
  | .soa _ => true
  | _ => false

/-- The records of a message that what it says is taken from. -/
def Response.sources (message : Response) (name : Name) (recordType : RecordType) (remaining : Nat) :
    ParsedAnswer → List Record
  | .answer _ =>
    match followAliases message.answers remaining ⟨[name], none, 2 ^ 32 - 1, 0⟩ with
    | .ok aliases =>
      aliasRecords message.answers remaining [name] ++ addressRecords recordType aliases.acceptedNames message.answers
    | .error _ => []
  | .canonical _ _ => aliasRecords message.answers remaining [name]
  | .noRecords _ | .negative _ _ => (message.authorities.find? Record.isSoa).toList
  | .truncated => []

def Response.internet (message : Response) : Response :=
  { message with
    answers := message.answers.filter (·.recordClass = classIn)
    authorities := message.authorities.filter (·.recordClass = classIn) }

section

variable {p : Record → Bool} {answers : List Record} {names : List Name} {found : Option (Name × Nat)}

/-- The first record is passed over, or it leads to a new name; the others do not matter then. -/
theorem nextTarget_cons {record : Record} {rest : List Record} (ok : nextTarget names (record :: rest) = .ok found) :
    (record.leadsTo names = none ∧ ∀ others, nextTarget names (record :: others) = nextTarget names others) ∨
    ∃ target, record.leadsTo names = some target ∧ found = some (target, record.ttl) ∧
      ∀ others, nextTarget names (record :: others) = .ok found := by
  unfold Record.leadsTo
  simp only [nextTarget] at ok ⊢
  split at ok
  · rename_i owned
    cases isData : record.data with
    | cname target =>
      rw [isData] at ok
      dsimp only at ok ⊢
      split at ok
      · cases ok
      rename_i notRoot
      split at ok
      · rename_i known
        refine .inl ⟨if_neg fun both => both.2 known, fun _ => ?_⟩
        rw [if_pos owned, if_neg notRoot, if_pos known]
      · rename_i new
        cases ok
        refine .inr ⟨target, if_pos ⟨owned, new⟩, rfl, fun _ => ?_⟩
        rw [if_pos owned, if_neg notRoot, if_neg new]
    | _ => exact .inl ⟨rfl, fun _ => by rw [if_pos owned]⟩
  · rename_i other
    refine .inl ⟨?_, fun _ => by rw [if_neg other]⟩
    cases record.data with
    | cname target => exact if_neg fun both => other both.1
    | _ => rfl

/-- The scan finds what the first record that leads to a new name says. -/
theorem nextTarget_found (ok : nextTarget names answers = .ok found) :
    (answers.find? (fun record => (record.leadsTo names).isSome) = none ∧ found = none) ∨
    ∃ record target, answers.find? (fun record => (record.leadsTo names).isSome) = some record ∧
      record.leadsTo names = some target ∧ found = some (target, record.ttl) := by
  induction answers with
  | nil =>
    cases ok
    exact .inl ⟨rfl, rfl⟩
  | cons record rest ih =>
    rcases nextTarget_cons ok with ⟨idle, passes⟩ | ⟨target, leads, isFound, -⟩
    · rw [passes] at ok
      rw [List.find?_cons_of_neg (by rw [idle]; exact Bool.false_ne_true)]
      exact ih ok
    · exact .inr ⟨record, target, List.find?_cons_of_pos (by rw [leads]; rfl), leads, isFound⟩

/-- A record that is found is found among fewer records. -/
theorem find?_filter_of_kept {q : Record → Bool} (kept : ∀ record, answers.find? q = some record → p record = true) :
    (answers.filter p).find? q = answers.find? q := by
  induction answers with
  | nil => rfl
  | cons record rest ih =>
    by_cases here : q record = true
    · have isKept := kept record (List.find?_cons_of_pos here)
      rw [List.filter_cons_of_pos isKept, List.find?_cons_of_pos here, List.find?_cons_of_pos here]
    rw [List.find?_cons_of_neg here] at kept ⊢
    rw [← ih kept]
    by_cases isKept : p record = true
    · rw [List.filter_cons_of_pos isKept, List.find?_cons_of_neg here]
    · rw [List.filter_cons_of_neg isKept]

theorem nextTarget_filter (ok : nextTarget names answers = .ok found)
    (kept : ∀ record, answers.find? (fun record => (record.leadsTo names).isSome) = some record → p record = true) :
    nextTarget names (answers.filter p) = .ok found := by
  induction answers with
  | nil => exact ok
  | cons record rest ih =>
    rcases nextTarget_cons ok with ⟨idle, passes⟩ | ⟨target, leads, -, same⟩
    · rw [passes] at ok
      rw [List.find?_cons_of_neg (by rw [idle]; exact Bool.false_ne_true)] at kept
      by_cases isKept : p record = true
      · rw [List.filter_cons_of_pos isKept, passes]
        exact ih ok kept
      · rw [List.filter_cons_of_neg isKept]
        exact ih ok kept
    · rw [List.filter_cons_of_pos (kept record (List.find?_cons_of_pos (by rw [leads]; rfl)))]
      exact same _

/-- The loop makes a hop for each of its records, and it comes to the same without the others. -/
theorem followAliases_sources {remaining : Nat} {aliases result : Aliases}
    (ok : followAliases answers remaining aliases = .ok result) :
    result.hops = aliases.hops + (aliasRecords answers remaining aliases.acceptedNames).length ∧
    ((∀ record ∈ aliasRecords answers remaining aliases.acceptedNames, p record = true) →
      followAliases (answers.filter p) remaining aliases = .ok result ∧
      aliasRecords (answers.filter p) remaining aliases.acceptedNames =
        aliasRecords answers remaining aliases.acceptedNames) := by
  induction remaining generalizing aliases with
  | zero =>
    rw [followAliases] at ok
    split at ok
    · cases ok
    · rename_i none
      cases ok
      refine ⟨rfl, fun _ => ⟨?_, rfl⟩⟩
      rcases nextTarget_found none with ⟨notFound, -⟩ | ⟨_, _, -, -, isSome⟩
      · rw [followAliases, nextTarget_filter none fun _ isFound => by rw [notFound] at isFound; cases isFound]
      · cases isSome
    · cases ok
  | succ remaining ih =>
    rw [followAliases] at ok
    split at ok
    · cases ok
    · rename_i none
      cases ok
      rcases nextTarget_found none with ⟨notFound, -⟩ | ⟨_, _, -, -, isSome⟩
      · have noneKept : ∀ record, answers.find? (fun record => (record.leadsTo result.acceptedNames).isSome) =
            some record → p record = true := fun _ isFound => by rw [notFound] at isFound; cases isFound
        rw [aliasRecords, aliasRecords, find?_filter_of_kept noneKept, notFound]
        refine ⟨rfl, fun _ => ⟨?_, rfl⟩⟩
        rw [followAliases, nextTarget_filter none noneKept]
      · cases isSome
    rename_i target ttl next
    rcases nextTarget_found next with ⟨-, isNone⟩ | ⟨record, _, isFound, leads, isSome⟩
    · cases isNone
    cases isSome
    obtain ⟨hops, same⟩ := ih ok
    dsimp only at hops same
    simp only [aliasRecords, isFound, leads, Option.toList_some]
    refine ⟨by rw [hops, List.length_cons]; omega, fun kept => ?_⟩
    obtain ⟨follows, records⟩ := same fun other mem => kept other (List.mem_cons_of_mem _ mem)
    have firstKept : ∀ other, answers.find? (fun record => (record.leadsTo aliases.acceptedNames).isSome) =
        some other → p other = true := by
      intro other isOther
      rw [isFound] at isOther
      cases isOther
      exact kept record List.mem_cons_self
    rw [find?_filter_of_kept firstKept, isFound]
    simp only [leads, Option.toList_some, records]
    refine ⟨?_, trivial⟩
    rw [followAliases, nextTarget_filter next firstKept]
    exact follows

theorem usedRecords_filter (p : Record → Bool) (recordType : RecordType) (names : List Name) (answers : List Record)
    (kept : ∀ record ∈ addressRecords recordType names answers, p record = true) :
    usedRecords recordType names (answers.filter p) = usedRecords recordType names answers ∧
      addressRecords recordType names (answers.filter p) = addressRecords recordType names answers := by
  constructor
  · rw [usedRecords, usedRecords, List.filterMap_filter]
    refine List.filterMap_congr fun record mem => ?_
    by_cases isKept : p record = true
    · rw [if_pos isKept]
    rw [if_neg isKept]
    by_cases owned : record.name ∈ names
    · rw [if_pos owned]
      cases isAddress : addressOf recordType record.data with
      | none => rfl
      | some address => exact absurd (kept record (List.mem_filter.mpr ⟨mem, by simp [owned, isAddress]⟩)) isKept
    · rw [if_neg owned]
  · rw [addressRecords, addressRecords, List.filter_filter]
    refine List.filter_congr fun record mem => ?_
    rw [Bool.and_eq_left_iff_imp]
    exact fun used => kept record (List.mem_filter.mpr ⟨mem, used⟩)

theorem addressRecords_of_usedRecords {recordType : RecordType} (empty : usedRecords recordType names answers = []) :
    addressRecords recordType names answers = [] := by
  refine List.filter_eq_nil_iff.mpr fun record mem used => ?_
  rw [Bool.and_eq_true, decide_eq_true_iff] at used
  have none := List.filterMap_eq_nil_iff.mp empty record mem
  rw [if_pos used.1, Option.map_eq_none_iff] at none
  rw [none] at used
  exact Bool.false_ne_true used.2

theorem negativeTtl_filter (kept : ∀ record, answers.find? Record.isSoa = some record → p record = true) :
    negativeTtl (answers.filter p) = negativeTtl answers := by
  have first : ∀ records : List Record, negativeTtl records = (records.find? Record.isSoa).bind fun record =>
      match record.data with
      | .soa minimum => some (.fromSecs (min record.ttl minimum))
      | _ => none := by
    intro records
    induction records with
    | nil => rfl
    | cons record rest ih =>
      rw [negativeTtl, List.findSome?_cons, ← negativeTtl, ih, List.find?_cons, Record.isSoa]
      cases isData : record.data with
      | soa minimum => simp [isData]
      | _ => rfl
  rw [first, first, find?_filter_of_kept kept]

end

section

variable {message : Response} {name : Name} {recordType : RecordType} {remaining : Nat} {parsed : ParsedAnswer}

/-- The collection takes the same from the records of class IN, if it takes nothing from the others. -/
theorem collectAddresses_internet (said : collectAddresses message name recordType remaining = .ok parsed)
    (kept : ∀ record ∈ message.sources name recordType remaining parsed,
      decide (record.recordClass = classIn) = true) :
    collectAddresses message.internet name recordType remaining = .ok parsed ∧
      message.internet.sources name recordType remaining parsed = message.sources name recordType remaining parsed := by
  rcases followAliases_cases remaining _ _ (follows_start message.answers name) with
    ⟨failure, failed, -⟩ | ⟨aliases, records, followed, follows, -⟩
  · rw [collectAddresses, failed] at said
    cases said
  obtain ⟨hops, same⟩ := @followAliases_sources (fun record => decide (record.recordClass = classIn)) _ _ _ _ followed
  have used := usedRecords_filter (fun record => decide (record.recordClass = classIn)) recordType
    aliases.acceptedNames message.answers
  rcases collectAddresses_cases followed with
    ⟨empty, ⟨target, isTarget, found⟩ | ⟨isTarget, found⟩⟩ | ⟨some, found⟩
  -- an alias to follow
  · rw [found] at said
    cases said
    obtain ⟨followed', records'⟩ := same kept
    rw [addressRecords_of_usedRecords empty] at used
    obtain ⟨used', -⟩ := used fun _ mem => absurd mem List.not_mem_nil
    refine ⟨?_, records'⟩
    rw [collectAddresses, Response.internet, followed']
    dsimp only [Bind.bind, Except.bind]
    rw [used', if_pos (List.isEmpty_iff.mpr empty), isTarget]
    rfl
  -- no record, and the loop has not made a hop
  · rw [found] at said
    cases said
    have soa : ∀ record, message.authorities.find? Record.isSoa = some record →
        decide (record.recordClass = classIn) = true := fun record isFound => kept record (Option.mem_toList.mpr isFound)
    have noAlias : aliasRecords message.answers remaining [name] = [] := by
      rcases follows.target_cases with ⟨zero, -⟩ | ⟨-, _, -, isOther⟩
      · rw [zero, Nat.zero_add] at hops
        exact List.eq_nil_of_length_eq_zero hops.symm
      · rw [isTarget] at isOther
        cases isOther
    rw [noAlias] at same
    rw [addressRecords_of_usedRecords empty] at used
    obtain ⟨followed', -⟩ := same fun _ mem => absurd mem List.not_mem_nil
    obtain ⟨used', -⟩ := used fun _ mem => absurd mem List.not_mem_nil
    refine ⟨?_, congrArg Option.toList (find?_filter_of_kept soa)⟩
    rw [collectAddresses, Response.internet, followed']
    dsimp only [Bind.bind, Except.bind]
    rw [used', if_pos (List.isEmpty_iff.mpr empty), isTarget, negativeTtl_filter soa]
    rfl
  -- addresses
  · rw [found] at said
    cases said
    simp only [Response.sources, followed] at kept ⊢
    obtain ⟨followed', records'⟩ := same fun record mem => kept record (List.mem_append_left _ mem)
    obtain ⟨used', addresses'⟩ := used fun record mem => kept record (List.mem_append_right _ mem)
    rw [collectAddresses, Response.internet, followed']
    dsimp only [Bind.bind, Except.bind]
    rw [used', if_neg (mt List.isEmpty_iff.mp some), records', addresses']
    exact ⟨rfl, rfl⟩

/-- If what a message says is taken from records of class IN, then it says the same without the others, and takes it
from the same records. -/
theorem verdict_internet (said : message.verdict name recordType remaining = .ok parsed)
    (internet : ∀ record ∈ message.sources name recordType remaining parsed, record.recordClass = classIn) :
    message.internet.verdict name recordType remaining = .ok parsed ∧
      message.internet.sources name recordType remaining parsed = message.sources name recordType remaining parsed := by
  have kept : ∀ record ∈ message.sources name recordType remaining parsed,
      decide (record.recordClass = classIn) = true := fun record mem => decide_eq_true (internet record mem)
  have truncated' : message.internet.truncated = message.truncated := rfl
  have rcode' : message.internet.rcode = message.rcode := rfl
  unfold Response.verdict at said ⊢
  rw [truncated', rcode']
  by_cases truncated : message.truncated = true
  · rw [if_pos truncated] at said ⊢
    cases said
    exact ⟨rfl, rfl⟩
  rw [if_neg truncated] at said ⊢
  by_cases missing : message.rcode = 3
  · rw [if_pos missing] at said ⊢
    cases said
    have soa : ∀ record, message.authorities.find? Record.isSoa = some record →
        decide (record.recordClass = classIn) = true := fun record isFound => kept record (Option.mem_toList.mpr isFound)
    exact ⟨by rw [Response.internet, negativeTtl_filter soa], congrArg Option.toList (find?_filter_of_kept soa)⟩
  rw [if_neg missing] at said ⊢
  by_cases failed : message.rcode ≠ 0
  · rw [if_pos failed] at said
    cases said
  · rw [if_neg failed] at said ⊢
    exact collectAddresses_internet said kept

theorem mem_of_mem_aliasRecords {answers : List Record} {record : Record} {names : List Name}
    (mem : record ∈ aliasRecords answers remaining names) : record ∈ answers := by
  induction remaining generalizing names with
  | zero => exact absurd mem List.not_mem_nil
  | succ remaining ih =>
    rw [aliasRecords] at mem
    split at mem
    · exact absurd mem List.not_mem_nil
    rename_i found
    rcases List.mem_cons.mp mem with rfl | mem
    · exact List.mem_of_find?_eq_some found
    · exact ih mem

/-- What is taken is taken from records of the message. -/
theorem mem_of_mem_sources {record : Record} (mem : record ∈ message.sources name recordType remaining parsed) :
    record ∈ message.answers ∨ record ∈ message.authorities := by
  unfold Response.sources at mem
  split at mem
  · split at mem
    · rcases List.mem_append.mp mem with isAlias | isAddress
      · exact .inl (mem_of_mem_aliasRecords isAlias)
      · exact .inl (List.mem_of_mem_filter isAddress)
    · exact absurd mem List.not_mem_nil
  · exact .inl (mem_of_mem_aliasRecords mem)
  · exact .inr (List.mem_of_find?_eq_some (Option.mem_toList.mp mem))
  · exact .inr (List.mem_of_find?_eq_some (Option.mem_toList.mp mem))
  · exact absurd mem List.not_mem_nil

end

/-- Only the records of class IN contribute: without the others the message says the same, and it is taken from the same
records. -/
def Response.SaidByInternet (message : Response) (name : Name) (recordType : RecordType) (remaining : Nat)
    (parsed : ParsedAnswer) : Prop :=
  message.internet.verdict name recordType remaining = .ok parsed ∧
    message.internet.sources name recordType remaining parsed = message.sources name recordType remaining parsed

/-- What is taken from a message is taken from a response with the id of the query. Its one question is the query and
only its records of class IN contribute, if and only if the question and the records that are used are of class IN. -/
theorem taken_matches_query (bytes : Bytes) (id : UInt16) (name : Name) (recordType : RecordType) (remaining : Nat)
    (parsed : ParsedAnswer) (taken : parseAnswer bytes id name recordType remaining = some (.ok parsed)) :
    ∃ message, parseResponse bytes = .ok message ∧ message.id = id ∧ message.isResponse = true ∧
      (message.questions = [⟨name, recordType.code, classIn⟩] ∧
          message.SaidByInternet name recordType remaining parsed ↔
        (∀ question ∈ message.questions, question.recordClass = classIn) ∧
          ∀ record ∈ message.sources name recordType remaining parsed, record.recordClass = classIn) := by
  obtain ⟨message, isMessage, ⟨isId, isResponse, question, isOne, isName, isType⟩, said⟩ := parseAnswer_taken taken
  refine ⟨message, isMessage, isId, isResponse, ?_⟩
  constructor
  · rintro ⟨isQuery, -, sources⟩
    constructor
    · intro other mem
      rw [isQuery] at mem
      rw [List.mem_singleton.mp mem]
    · intro record mem
      rw [← sources] at mem
      rcases mem_of_mem_sources mem with mem | mem
      · exact of_decide_eq_true (List.mem_filter.mp mem).2
      · exact of_decide_eq_true (List.mem_filter.mp mem).2
  · rintro ⟨isClass, internet⟩
    have isClass := isClass question (by rw [isOne]; exact List.mem_singleton_self _)
    refine ⟨?_, verdict_internet said internet⟩
    rw [isOne, ← isName, ← isType, ← isClass]

theorem taken_matches_query_example :
    ∃ message, parseResponse sampleAliased = .ok message ∧ message.id = 7 ∧ message.isResponse = true ∧
      message.questions = [⟨⟨[[0x68], [0x74]]⟩, 1, classIn⟩] ∧
      message.SaidByInternet ⟨[[0x68], [0x74]]⟩ .a 8 (.answer ⟨[.v4 0x01020304], .fromSecs 30⟩) := by
  obtain ⟨message, isMessage, isId, isResponse, exactly⟩ :=
    taken_matches_query sampleAliased 7 ⟨[[0x68], [0x74]]⟩ .a 8 (.answer ⟨[.v4 0x01020304], .fromSecs 30⟩)
      (by decide +kernel)
  have isSample : parseResponse sampleAliased = .ok sampleAliasedMessage := ok_of_toOption (by decide +kernel)
  cases isSample.symm.trans isMessage
  exact ⟨_, isMessage, isId, isResponse, exactly.mpr ⟨by decide, by decide⟩⟩

/-- The same response as `sampleAliased`, but its question and its records are of class CH. -/
def sampleChaos : Bytes :=
  [0, 7, 0x81, 0x80, 0, 1, 0, 2, 0, 0, 0, 0, 1, 0x68, 1, 0x74, 0, 0, 1, 0, 3,
    0xC0, 12, 0, 5, 0, 3, 0, 0, 0, 60, 0, 4, 1, 0x77, 0xC0, 12,
    0xC0, 33, 0, 1, 0, 3, 0, 0, 0, 30, 0, 4, 1, 2, 3, 4]

/-- The class is not looked at: a question and records of class CH give an answer. -/
theorem other_classes_are_taken :
    parseAnswer sampleChaos 7 ⟨[[0x68], [0x74]]⟩ .a 8 =
      some (.ok (.answer ⟨[.v4 0x01020304], .fromSecs 30⟩)) ∧
    (parseResponse sampleChaos).toOption.map (fun message =>
      (message.questions.map (·.recordClass), message.answers.map (·.recordClass))) = some ([3], [3, 3]) := by
  decide +kernel

end NbReq.Dns
