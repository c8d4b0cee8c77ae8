import NbReq.Dns.Chains
import NbReq.Dns.Freshness
import NbReq.Dns.SearchRule

/-!
# Public lookups follow the search rule

A session walks its candidates, families and aliases with what the cache holds at each point, and keeps only a flag and
an instant of the candidates behind it. `Searched` says what these are, in terms of what the lookup was told, and every
step of a lookup keeps that. When the lookup ends, its outcome is the one of the search rule. What the lookup was told
about a family of a candidate it has read from the cache in some step of the run, or an answer has said it (`Grounded`).
-/

namespace NbReq.Dns

/-! ## Sessions -/

def PublicSession.said (session : PublicSession) : Sayings := sayings session.heard session.candidateIndex

def PublicSession.past (session : PublicSession) : List Sayings :=
  (List.range session.candidateIndex).map (sayings session.heard)

/-- What the session keeps of the candidates behind it. -/
structure Searched (session : PublicSession) : Prop where
  positive : 0 < session.maxResults
  candidate : session.candidates[session.candidateIndex]? = some session.candidate
  sane : ∀ told ∈ session.heard, told.candidateIndex ≤ session.candidateIndex ∧ told.outcome.Sane
  unanswered : ∀ said ∈ session.past, Settled session.family said ∧ verdict session.family said ≠ .answer
  nodata : session.sawNodata = session.past.any fun said => verdict session.family said == .noData
  validity : session.negativeValidity =
    if session.past = [] then none else some (earliest (session.past.map (negativeUntil session.family)))

/-- The session says that it was answered from the cache if it may use the cache and has not made a query. -/
def Sourced (session : PublicSession) : Prop :=
  session.fromCache = true ↔ session.cacheMode = .use ∧ session.issued = 0

/-- The session has to ask for a family of its candidate. -/
structure Asking (session : PublicSession) (recordType : RecordType) : Prop where
  searched : Searched session
  undenied : denial session.family session.said = none
  agrees : ∀ recordType, session.outcome recordType = session.said recordType
  needs : session.needs = some recordType
  uncached : session.fromCache = false

structure Known (session : PublicSession) : Prop where
  searched : Searched session
  current : Current session session.said
  nothing : session.needs = none
  sourced : Sourced session
  learned : session.cacheMode = .use ∨ session.issued ≠ 0

/-- The session is the one that a lookup ends with. -/
def Finished (last : PublicSession) : Prop :=
  ∃ session, Known session ∧
    (session.response.1 = .answer ∧ last = session ∨
      session.response.1 ≠ .answer ∧ session.following = none ∧ last = session.negative)

section

variable {scene : Scene} {moment : Moment} {name : Name} {query : PendingQuery} {session read told : PublicSession}
  {recordType : RecordType} {outcome : FamilyOutcome}

/-! ### Hearing about the candidate -/

theorem past_hear : (session.hear recordType outcome).past = session.past := by
  refine List.map_congr_left fun index mem => ?_
  exact sayings_other (Nat.ne_of_gt (List.mem_range.mp mem))

theorem Searched.hear (searched : Searched session) (sane : outcome.Sane) :
    Searched (session.hear recordType outcome) := by
  have past : (session.hear recordType outcome).past = session.past := past_hear
  refine ⟨searched.positive, searched.candidate, ?_, ?_, ?_, ?_⟩
  · intro told mem
    rcases List.mem_append.mp mem with old | isNew
    · exact searched.sane told old
    · rw [List.mem_singleton.mp isNew]
      exact ⟨le_rfl, sane⟩
  · rw [past]
    exact searched.unanswered
  · rw [past]
    exact searched.nodata
  · rw [past]
    exact searched.validity

/-- What the session knows about its candidate does not matter for the ones behind it. -/
theorem Searched.update (searched : Searched session) (ipv4 ipv6 : Option FamilyOutcome) (fromCache : Bool)
    (issued : Nat) : Searched { session with ipv4, ipv6, fromCache, issued } :=
  ⟨searched.positive, searched.candidate, searched.sane, searched.unanswered, searched.nodata, searched.validity⟩

theorem Searched.withOutcome (searched : Searched session) (sane : outcome.Sane) :
    Searched (session.withOutcome recordType outcome) := by
  cases recordType <;> exact (searched.hear sane).update _ _ session.fromCache session.issued

theorem said_sane (searched : Searched session) (recordType : RecordType) (outcome : FamilyOutcome)
    (isSaid : session.said recordType = some outcome) : outcome.Sane :=
  (searched.sane _ (mem_of_sayings isSaid)).2

theorem said_withOutcome : (session.withOutcome recordType outcome).said =
    sayings (session.heard ++ [⟨session.candidateIndex, recordType, outcome⟩]) session.candidateIndex := by
  cases recordType <;> rfl

theorem withOutcome_agrees (agrees : ∀ recordType, session.outcome recordType = session.said recordType)
    (unknown : session.outcome recordType = none) (other : RecordType) :
    (session.withOutcome recordType outcome).outcome other =
      (session.withOutcome recordType outcome).said other := by
  have unsaid : session.said recordType = none := (agrees recordType).symm.trans unknown
  rw [said_withOutcome]
  by_cases same : recordType = other
  · subst same
    have isSaid : sayings (session.heard ++ [⟨session.candidateIndex, recordType, outcome⟩]) session.candidateIndex
        recordType = some outcome := sayings_told unsaid
    rw [isSaid]
    cases recordType <;> rfl
  · rw [sayings_otherType same]
    refine Eq.trans ?_ (agrees other)
    cases recordType <;> cases other <;> first | exact absurd rfl same | rfl

/-! ### Reading the cache -/

theorem cachedFamilyOutcome_sane {entry : Cached CachedFamily} (some : entry.value ≠ .answer []) :
    (cachedFamilyOutcome entry).Sane := by
  unfold cachedFamilyOutcome FamilyOutcome.Sane
  split
  · rename_i addresses isAnswer
    refine ⟨fun _ empty => some ?_, fun _ => rfl⟩
    rw [isAnswer]
    exact congrArg _ empty
  · exact ⟨nofun, fun isSome => absurd rfl isSome⟩
  · exact ⟨nofun, fun isSome => absurd rfl isSome⟩

/-- No answer that the cache holds during the step is empty. -/
def Scene.Filled (scene : Scene) : Prop := ∀ key entry, scene.holds key entry → entry.value ≠ .answer []

theorem Searched.readFamily {entry : Option (Cached CachedFamily)} (searched : Searched session) (filled : scene.Filled)
    (readable : ∀ read ∈ entry, scene.Readable session.family (name, recordType) read) :
    Searched (session.readFamily recordType entry) := by
  cases entry with
  | none => exact searched
  | some read => exact searched.withOutcome (cachedFamilyOutcome_sane (filled _ _ (readable read rfl).2.1))

theorem readFamily_agrees {entry : Option (Cached CachedFamily)}
    (agrees : ∀ recordType, session.outcome recordType = session.said recordType)
    (unknown : session.outcome recordType = none) (other : RecordType) :
    (session.readFamily recordType entry).outcome other = (session.readFamily recordType entry).said other := by
  cases entry with
  | none => exact agrees other
  | some read => exact withOutcome_agrees agrees unknown other

theorem isNameNotFound_iff {said : Option FamilyOutcome} :
    isNameNotFound said = true ↔ ∃ outcome, said = some outcome ∧ outcome.status = .nameNotFound := by
  cases said <;> simp [isNameNotFound]

theorem shareNameNotFound_said : (shareNameNotFound session).said = session.said := by
  unfold shareNameNotFound
  repeat' split
  all_goals rfl

theorem Searched.shareNameNotFound (searched : Searched session) : Searched (shareNameNotFound session) := by
  unfold Dns.shareNameNotFound
  repeat' split
  all_goals exact searched.update _ _ session.fromCache session.issued

/-- A denial of one family is taken for both. -/
theorem shareNameNotFound_current (agrees : ∀ recordType, session.outcome recordType = session.said recordType) :
    Current (shareNameNotFound session) session.said := by
  have tells : ∀ recordType outcome, session.outcome recordType = some outcome →
      session.said recordType = some outcome :=
    fun recordType outcome known => (agrees recordType).symm.trans known
  have present : ∀ recordType, isNameNotFound (session.outcome recordType) = false → ∀ outcome,
      session.said recordType = some outcome → outcome.status ≠ .nameNotFound := by
    intro recordType notMissing outcome isSaid missing
    rw [isNameNotFound_iff.mpr ⟨outcome, (agrees recordType).trans isSaid, missing⟩] at notMissing
    cases notMissing
  by_cases both : session.family = .both
  · cases missing4 : isNameNotFound session.ipv4 with
    | true =>
      obtain ⟨outcome, is4, missing⟩ := isNameNotFound_iff.mp missing4
      have isDenial : denial session.family session.said = some outcome := by
        simp [denial, both, AddressFamily.types, tells .a outcome is4, missing]
      rw [shareNameNotFound, if_pos both, if_pos missing4]
      refine .denied isDenial fun recordType _ => ?_
      cases recordType <;> exact is4
    | false =>
      cases missing6 : isNameNotFound session.ipv6 with
      | true =>
        obtain ⟨outcome, is6, missing⟩ := isNameNotFound_iff.mp missing6
        have isDenial : denial session.family session.said = some outcome := by
          refine denial_eq_some (by rw [both]; decide) (tells .aaaa outcome is6) missing fun other _ differ => ?_
          cases other with
          | a => exact present .a missing4
          | aaaa => exact absurd rfl differ
        rw [shareNameNotFound, if_pos both, missing4, if_neg Bool.false_ne_true, if_pos missing6]
        refine .denied isDenial fun recordType _ => ?_
        cases recordType <;> exact is6
      | false =>
        rw [shareNameNotFound, if_pos both, missing4, if_neg Bool.false_ne_true, missing6, if_neg Bool.false_ne_true]
        refine .undenied (denial_eq_none fun recordType _ => present recordType ?_) agrees
        cases recordType with
        | a => exact missing4
        | aaaa => exact missing6
  · rw [shareNameNotFound, if_neg both]
    cases isDenial : denial session.family session.said with
    | none => exact .undenied isDenial agrees
    | some outcome =>
      obtain ⟨-, recordType, mem, isSaid⟩ := denial_said isDenial
      refine .denied isDenial fun other isOther => ?_
      have same : other = recordType := by
        cases family : session.family <;> rw [family] at mem isOther
        · exact absurd family both
        all_goals rw [List.mem_singleton.mp mem, List.mem_singleton.mp isOther]
      rw [same, agrees, isSaid]

/-- After the cache was read, the session knows what it was told about its candidate. -/
theorem Consulted.current (consulted : Consulted scene name session read) (filled : scene.Filled)
    (searched : Searched session)
    (unknown : ∀ recordType, session.outcome recordType = none)
    (unsaid : ∀ recordType, session.said recordType = none) :
    Searched read ∧ Current read read.said := by
  have agrees : ∀ recordType, session.outcome recordType = session.said recordType :=
    fun recordType => (unknown recordType).trans (unsaid recordType).symm
  cases consulted with
  | unread =>
    refine ⟨searched, .undenied (denial_eq_none fun recordType _ outcome isSaid => ?_) agrees⟩
    rw [unsaid] at isSaid
    cases isSaid
  | @read ipv4 ipv6 _ readable4 readable6 =>
    have unknown6 : (session.readFamily .a ipv4).outcome .aaaa = none := by
      cases ipv4 <;> exact unknown .aaaa
    have found : Searched ((session.readFamily .a ipv4).readFamily .aaaa ipv6) := by
      have second : ∀ entry ∈ ipv6, scene.Readable (session.readFamily .a ipv4).family (name, .aaaa) entry := by
        rw [readFamily_family]
        exact readable6
      exact (searched.readFamily filled readable4).readFamily filled second
    rw [shareNameNotFound_said]
    exact ⟨found.shareNameNotFound,
      shareNameNotFound_current (readFamily_agrees (readFamily_agrees agrees (unknown .a)) unknown6)⟩

/-! ### Asking -/

theorem needs_unknown (needs : session.needs = some recordType) :
    recordType ∈ session.family.types ∧ session.outcome recordType = none := by
  unfold PublicSession.needs at needs
  split at needs
  all_goals
    rename_i family
    rw [family]
    repeat' split at needs
  all_goals cases needs
  all_goals exact ⟨by decide, Option.isNone_iff_eq_none.mp ‹_›⟩

theorem Current.asks {said : Sayings} (current : Current session said) (needs : session.needs = some recordType) :
    denial session.family said = none ∧ ∀ recordType, session.outcome recordType = said recordType := by
  cases current with
  | undenied none agrees => exact ⟨none, agrees⟩
  | denied _ known =>
    obtain ⟨mem, unknown⟩ := needs_unknown needs
    rw [known recordType mem] at unknown
    cases unknown

theorem withOutcome_undenied (undenied : denial session.family session.said = none)
    (present : outcome.status ≠ .nameNotFound) :
    denial session.family (session.withOutcome recordType outcome).said = none := by
  refine denial_eq_none fun other mem told isSaid => ?_
  rw [said_withOutcome, sayings_concat] at isSaid
  rcases Option.or_eq_some_iff.mp isSaid with old | ⟨-, isNew⟩
  · exact status_ne_of_undenied undenied mem old
  split at isNew
  · cases isNew
    exact present
  · cases isNew

/-- After an answer, the session knows what it was told about its candidate. -/
theorem Told.current {result : Except ResolveFailure ParsedAnswer} (isTold : Told moment query session result told)
    (nonempty : ∀ answer, result = .ok (.answer answer) → answer.addresses ≠ [])
    (asking : Asking session query.recordType) : Searched told ∧ Current told told.said := by
  obtain ⟨mem, unknown⟩ := needs_unknown asking.needs
  have present : ∀ outcome : FamilyOutcome, outcome.Sane → outcome.status ≠ .nameNotFound →
      Searched (session.withOutcome query.recordType outcome) ∧
        Current (session.withOutcome query.recordType outcome) (session.withOutcome query.recordType outcome).said := by
    intro outcome sane present
    have family : (session.withOutcome query.recordType outcome).family = session.family := by
      cases query.recordType <;> rfl
    refine ⟨asking.searched.withOutcome sane, .undenied ?_ (withOutcome_agrees asking.agrees unknown)⟩
    rw [family]
    exact withOutcome_undenied asking.undenied present
  cases isTold with
  | answer =>
    exact present _ ⟨fun _ => nonempty _ rfl, fun _ => rfl⟩ nofun
  | noRecords => exact present _ ⟨nofun, fun some => absurd rfl some⟩ nofun
  | negative =>
    have sane : ∀ validUntil, FamilyOutcome.Sane ⟨.nameNotFound, [], validUntil, none⟩ :=
      fun _ => ⟨nofun, fun some => absurd rfl some⟩
    refine ⟨(asking.searched.hear (sane _)).update _ _ session.fromCache session.issued, .denied (denial_eq_some mem
      (sayings_told ((asking.agrees query.recordType).symm.trans unknown)) rfl ?_) ?_⟩
    · intro other isAsked differ outcome isSaid
      refine status_ne_of_undenied asking.undenied isAsked (Eq.trans ?_ isSaid)
      exact (sayings_otherType differ.symm).symm
    · intro other _
      cases other <;> rfl

/-! ### From candidate to candidate -/

theorem Known.judged (known : Known session) : Judged session session.said :=
  known.current.judged known.nothing (said_sane known.searched) known.searched.positive

/-- What the session keeps of a candidate without an answer. -/
theorem Known.negative (known : Known session) (noAnswer : session.response.1 ≠ .answer) :
    session.negative.sawNodata =
        ((session.past ++ [session.said]).any fun said => verdict session.family said == .noData) ∧
      session.negative.negativeValidity =
        some (earliest ((session.past ++ [session.said]).map (negativeUntil session.family))) := by
  have judged := known.judged
  have validUntil : session.response.2.2 = negativeUntil session.family session.said := by
    rw [judged.negative noAnswer]
  refine ⟨?_, ?_⟩
  · rw [List.any_append, ← known.searched.nodata, List.any_cons, List.any_nil, Bool.or_false, ← judged.status]
    rfl
  have recorded : session.negative.negativeValidity = some
      (session.negativeValidity.elim session.response.2.2 (Option.map₂ min · session.response.2.2)) := by
    unfold PublicSession.negative recordSearchNegative
    dsimp only
    rcases session.negativeValidity with _ | _ | previous
    · rfl
    · rfl
    · cases session.response.2.2 <;> rfl
  rw [recorded, known.searched.validity, validUntil, List.map_append, List.map_singleton]
  split
  · rename_i first
    rw [first]
    rfl
  · rename_i later
    rw [earliest_concat (fun none => later (List.map_eq_nil_iff.mp none))]
    rfl

theorem Known.unanswered (known : Known session) (noAnswer : session.response.1 ≠ .answer) :
    ∀ said ∈ session.past ++ [session.said], Settled session.family said ∧ verdict session.family said ≠ .answer := by
  intro said mem
  rcases List.mem_append.mp mem with old | isNew
  · exact known.searched.unanswered said old
  · rw [List.mem_singleton.mp isNew, ← known.judged.status]
    exact ⟨known.judged.settled, noAnswer⟩

structure Arrived (session : PublicSession) : Prop where
  searched : Searched session
  unsaid : ∀ recordType, session.said recordType = none
  sourced : Sourced session

theorem Known.next {candidate : Bytes} (known : Known session) (noAnswer : session.response.1 ≠ .answer)
    (more : session.following = some candidate) : Arrived (session.next candidate) := by
  obtain ⟨nodata, validity⟩ := known.negative noAnswer
  have past : (session.next candidate).past = session.past ++ [session.said] := by
    show (List.range (session.candidateIndex + 1)).map (sayings session.heard) = _
    rw [List.range_succ, List.map_append]
    rfl
  refine ⟨⟨known.searched.positive, more, ?_, ?_, ?_, ?_⟩, ?_, known.sourced⟩
  · intro told mem
    obtain ⟨le, sane⟩ := known.searched.sane told mem
    exact ⟨Nat.le_succ_of_le le, sane⟩
  · rw [past]
    exact known.unanswered noAnswer
  · rw [past]
    exact nodata
  · rw [past, if_neg (by simp)]
    exact validity
  · intro recordType
    refine Option.eq_none_iff_forall_ne_some.mpr fun outcome isSaid => ?_
    exact absurd (known.searched.sane _ (mem_of_sayings isSaid)).1 (Nat.not_succ_le_self _)

theorem Arrived.current (arrived : Arrived session) (filled : scene.Filled)
    (consulted : Consulted scene name session.cleared read) :
    Searched read ∧ Current read read.said ∧ Sourced read := by
  have cleared : Searched session.cleared := arrived.searched.update none none session.fromCache session.issued
  obtain ⟨searched, current⟩ := consulted.current filled cleared (fun recordType => by cases recordType <;> rfl) arrived.unsaid
  refine ⟨searched, current, ?_⟩
  obtain ⟨ipv4, ipv6, heard, rfl⟩ := consulted.fields
  exact arrived.sourced

theorem Arrived.asks (arrived : Arrived session) (filled : scene.Filled)
    (consulted : Consulted scene name session.cleared read) (needs : read.needs = some recordType) : Asking read.uncached recordType := by
  obtain ⟨searched, current, sourced⟩ := arrived.current filled consulted
  obtain ⟨undenied, agrees⟩ := current.asks needs
  unfold PublicSession.uncached
  split
  · exact ⟨searched.update _ _ false read.issued, undenied, agrees, needs, rfl⟩
  · rename_i mode
    exact ⟨searched, undenied, agrees, needs, Bool.eq_false_of_not_eq_true fun isTrue => mode (sourced.mp isTrue).1⟩

/-- A lookup knows a candidate without asking only if it may use the cache. -/
theorem Arrived.known (arrived : Arrived session) (filled : scene.Filled)
    (consulted : Consulted scene name session.cleared read) (nothing : read.needs = none) : Known read := by
  obtain ⟨searched, current, sourced⟩ := arrived.current filled consulted
  refine ⟨searched, current, nothing, sourced, .inl ?_⟩
  cases consulted with
  | unread =>
    unfold PublicSession.needs PublicSession.cleared at nothing
    split at nothing <;> cases nothing
  | read mode readable4 readable6 =>
    exact (congrArg Terms.cacheMode (Consulted.terms (.read mode readable4 readable6))).trans mode

/-- What a lookup goes on with is what the rule needs. -/
def Goes : Onward → Prop
  | .asks session _ recordType => Asking session recordType
  | .ends session => Finished session

theorem Completes.goes {onward : Onward} (completes : Completes scene session onward) (filled : scene.Filled)
    (known : Known session) : Goes onward := by
  induction completes with
  | answered answer => exact ⟨_, known, .inl ⟨answer, rfl⟩⟩
  | exhausted noAnswer last => exact ⟨_, known, .inr ⟨noAnswer, last, rfl⟩⟩
  | asks noAnswer more _ consulted needs => exact (known.next noAnswer more).asks filled consulted needs
  | goesOn noAnswer more _ consulted nothing _ ih =>
    exact ih ((known.next noAnswer more).known filled consulted nothing)

theorem Begins.goes {onward : Onward} (begins : Begins scene session onward) (filled : scene.Filled)
    (arrived : Arrived session) : Goes onward := by
  cases begins with
  | asks _ consulted needs => exact arrived.asks filled consulted needs
  | known _ consulted nothing completes => exact completes.goes filled (arrived.known filled consulted nothing)

theorem arrived_new {spec : PublicResolveSpec} {first : Bytes} {later : List Bytes} {retry : RetryPolicy}
    (positive : 0 < spec.maxResults) : Arrived (.new spec (first :: later) first retry) := by
  refine ⟨⟨positive, rfl, nofun, nofun, rfl, rfl⟩, fun _ => rfl, ?_⟩
  simp [Sourced, PublicSession.new]

end

/-! ## The outcome -/

section

variable {session last : PublicSession} {spec : PublicResolveSpec}

theorem Known.fromCache (known : Known session) : session.fromCache = decide (session.issued = 0) := by
  have sourced : session.fromCache = true ↔ session.issued = 0 :=
    known.sourced.trans ⟨And.right, fun none => ⟨known.learned.resolve_right (absurd none), none⟩⟩
  cases isFromCache : session.fromCache with
  | true => exact (decide_eq_true (sourced.mp isFromCache)).symm
  | false =>
    refine (decide_eq_false fun none => ?_).symm
    rw [sourced.mpr none] at isFromCache
    cases isFromCache

theorem Known.inside (known : Known session) : session.candidateIndex < session.candidates.length :=
  (List.getElem?_eq_some_iff.mp known.searched.candidate).1

/-- The rule for the request that a session is for. -/
theorem Finished.rule {candidates : List Bytes} {first : Bytes} {retry : RetryPolicy} (finished : Finished last)
    (isTerms : last.terms = (PublicSession.new spec candidates first retry).terms) :
    SearchRule spec last.candidates (sayings last.heard) (decide (last.issued = 0)) (completePublicSession last) := by
  have isHost : last.identity = spec.host := congrArg Terms.identity isTerms
  have isFamily : last.family = spec.family := congrArg Terms.family isTerms
  have isOrder : last.order = spec.order := congrArg Terms.order isTerms
  have isMost : last.maxResults = spec.maxResults := congrArg Terms.maxResults isTerms
  unfold SearchRule
  rw [← isHost, ← isFamily, ← isOrder, ← isMost]
  obtain ⟨session, known, ⟨answer, rfl⟩ | ⟨noAnswer, isLast, rfl⟩⟩ := finished
  · have judged := known.judged
    have earlier : ∀ index < last.candidateIndex, Settled last.family (sayings last.heard index) ∧
        verdict last.family (sayings last.heard index) ≠ .answer :=
      fun index lt => known.searched.unanswered _ (List.mem_map_of_mem (List.mem_range.mpr lt))
    have isFirst : firstAnswer last.family last.candidates (sayings last.heard) = some last.candidateIndex := by
      refine List.find?_range_eq_some.mpr ⟨?_, List.mem_range.mpr known.inside, ?_⟩
      · exact beq_iff_eq.mpr (judged.status.symm.trans answer)
      · intro index lt
        simpa using (earlier index lt).2
    rw [isFirst]
    refine ⟨?_, last.response.2.2, ?_⟩
    · intro index le
      rcases Nat.lt_or_eq_of_le le with lt | rfl
      · exact (earlier index lt).1
      · exact judged.settled
    · unfold completePublicSession
      dsimp only
      rw [if_pos answer, judged.addresses answer, answer, known.fromCache, known.searched.candidate]
      rfl
  · obtain ⟨nodata, validity⟩ := known.negative noAnswer
    have count : session.candidates.length = session.candidateIndex + 1 :=
      le_antisymm (List.getElem?_eq_none_iff.mp isLast) known.inside
    have all : (List.range session.candidates.length).map (sayings session.heard) =
        session.past ++ [session.said] := by
      rw [count, List.range_succ, List.map_append]
      rfl
    have unanswered : ∀ index < session.candidates.length, Settled session.family (sayings session.heard index) ∧
        verdict session.family (sayings session.heard index) ≠ .answer := by
      intro index lt
      refine known.unanswered noAnswer _ ?_
      rw [← all]
      exact List.mem_map_of_mem (List.mem_range.mpr lt)
    have none : firstAnswer session.family session.candidates (sayings session.heard) = none := by
      refine List.find?_eq_none.mpr fun index mem => ?_
      simpa using (unanswered index (List.mem_range.mp mem)).2
    have response : session.negative.response = session.response := rfl
    have noAddresses : session.response.2.1 = [] := congrArg Prod.fst (known.judged.negative noAnswer)
    rw [show firstAnswer session.negative.family session.negative.candidates (sayings session.negative.heard) = _
      from none]
    refine ⟨fun index lt => (unanswered index lt).1, ?_⟩
    unfold completePublicSession
    dsimp only
    rw [response, if_neg noAnswer, noAddresses, nodata, validity, ← all, List.any_map, List.map_map, List.take_nil,
      show session.negative.fromCache = _ from known.fromCache]
    rfl

end

/-! ## Where it was told -/

/-- The event is one of the lookup: it asks for it, or brings the answer to one of its queries. -/
def Event.Concerns (event : Event) (thread : Thread) (key : ResolveKey) : Prop :=
  (∃ spec, event = .command (.publicResolve key spec)) ∨
    ∃ query result, event.Answers thread query result ∧ query.key = key

/-- A step of the lookup told it about a family of the name: the cache held a valid entry for them, or the step brought
the answer to a query that the lookup had made for them. -/
inductive Tells (env : Env) (past : List (Thread × Event)) (key : ResolveKey) (family : AddressFamily) (name : Name)
    (recordType : RecordType) : FamilyOutcome → Prop where
  | read {thread : Thread} {event : Event} {entry : Cached CachedFamily} (isStep : (thread, event) ∈ past)
      (concerns : event.Concerns thread key)
      (readable : (thread.scene env event).Readable family (name, recordType) entry) :
      Tells env past key family name recordType (cachedFamilyOutcome entry)
  | answered {thread : Thread} {event : Event} {query : PendingQuery} {session : PublicSession} {parsed : ParsedAnswer}
      {outcome : FamilyOutcome} (isStep : (thread, event) ∈ past) (answers : event.Answers thread query (.ok parsed))
      (isKey : query.key = key) (isName : query.subject = name) (isType : query.recordType = recordType)
      (isPublic : query.policy = .publicLookup session)
      (isOutcome : (thread.moment env).outcome query session parsed = some outcome) :
      Tells env past key family name recordType outcome

/-- What a lookup was told about one of its candidates, it was told about the name of that candidate. -/
def Grounded (env : Env) (past : List (Thread × Event)) (key : ResolveKey) (family : AddressFamily)
    (candidates : List Bytes) (told : Heard) : Prop :=
  ∃ candidate name, candidates[told.candidateIndex]? = some candidate ∧ parseDnsName candidate = .ok name ∧
    Tells env past key family name told.recordType told.outcome

section

variable {env : Env} {past past' : List (Thread × Event)} {key : ResolveKey} {thread : Thread} {event : Event}
  {session later : PublicSession}

theorem Tells.grows {family : AddressFamily} {name : Name} {recordType : RecordType} {outcome : FamilyOutcome}
    (tells : Tells env past key family name recordType outcome) (grows : past ⊆ past') :
    Tells env past' key family name recordType outcome := by
  cases tells with
  | read isStep concerns readable => exact .read (grows isStep) concerns readable
  | answered isStep answers isKey isName isType isPublic isOutcome =>
    exact .answered (grows isStep) answers isKey isName isType isPublic isOutcome

theorem Grounded.grows {family : AddressFamily} {candidates : List Bytes} {told : Heard}
    (grounded : Grounded env past key family candidates told) (grows : past ⊆ past') :
    Grounded env past' key family candidates told := by
  obtain ⟨candidate, name, isCandidate, isName, tells⟩ := grounded
  exact ⟨candidate, name, isCandidate, isName, tells.grows grows⟩

/-- What the session says about its candidates, it was told about them. -/
abbrev Grounds (env : Env) (past : List (Thread × Event)) (key : ResolveKey) (session : PublicSession) : Prop :=
  Informed (Grounded env past key session.family session.candidates) session

theorem Grounds.of_terms (informed : Informed (Grounded env past key session.family session.candidates) later)
    (terms : later.terms = session.terms) : Grounds env past key later := by
  rw [Grounds, show later.family = session.family from congrArg Terms.family terms,
    show later.candidates = session.candidates from congrArg Terms.candidates terms]
  exact informed

theorem grounded_reads (isStep : (thread, event) ∈ past) (concerns : event.Concerns thread key) (first : Nat) :
    session.Reads (thread.scene env event) (Grounded env past key session.family session.candidates) first :=
  fun _ _ candidate name _ _ _ isCandidate isName readable =>
    ⟨candidate, name, isCandidate, isName, .read isStep concerns readable⟩

end

/-! ## Runs -/

/-- What a lookup goes on with is for one of the requests, it was told what it says about its candidates, and it is what
the rule needs. -/
structure Pursues (env : Env) (past : List (Thread × Event))
    (requests : List (ResolveKey × PublicResolveSpec × List Bytes)) (key : ResolveKey) (onward : Onward) : Prop where
  request : ∃ retry start, Requested requests retry key start ∧ onward.session.terms = start.terms
  placed : onward.Placed
  grounds : Grounds env past key onward.session
  goes : 0 < onward.session.maxResults → Goes onward

/-- A query of a public lookup is one that the lookup has to make. -/
def Underway (env : Env) (past : List (Thread × Event))
    (requests : List (ResolveKey × PublicResolveSpec × List Bytes)) (query : PendingQuery) : Prop :=
  ∀ session, query.policy = .publicLookup session →
    session.issued ≠ 0 ∧ Pursues env past requests query.key (.asks session query.subject query.recordType)

/-- A result says nothing about what a public lookup found, or it is what the lookup found. -/
def Established (env : Env) (past : List (Thread × Event))
    (requests : List (ResolveKey × PublicResolveSpec × List Bytes)) (result : ResolveResult) : Prop :=
  (result.session = none ∧ ∀ outcome ∈ result.publicOutcome, ∃ error, outcome = .failed error) ∨
    ∃ key session, result = .completed key session ∧ Pursues env past requests key (.ends session)

section

variable {env : Env} {past past' : List (Thread × Event)}
  {requests requests' : List (ResolveKey × PublicResolveSpec × List Bytes)} {retry : RetryPolicy}
  {key : ResolveKey} {thread : Thread} {event : Event} {session told : PublicSession} {onward : Onward}
  {query new : PendingQuery} {result : Except ResolveFailure ParsedAnswer} {sent : ResolveResult}

theorem Requested.grows (requested : Requested requests retry key session) (grows : requests ⊆ requests') :
    Requested requests' retry key session := by
  obtain ⟨spec, suffixes, first, later, mem, rest⟩ := requested
  exact ⟨spec, suffixes, first, later, grows mem, rest⟩

theorem Pursues.grows (pursues : Pursues env past requests key onward) (grows : past ⊆ past')
    (asks : requests ⊆ requests') : Pursues env past' requests' key onward := by
  obtain ⟨⟨retry, start, requested, terms⟩, placed, grounds, goes⟩ := pursues
  exact ⟨⟨retry, start, requested.grows asks, terms⟩, placed, grounds.mono fun _ grounded => grounded.grows grows, goes⟩

theorem Prepared.underway {name subject : Name} {recordType : RecordType} {cnameHops issued : Nat}
    (prepared : Prepared key name recordType cnameHops (.publicLookup session) ⟨subject, issued + 1⟩ new)
    (pursues : Pursues env past requests key (.asks session subject recordType)) : Underway env past requests new := by
  intro found isPublic
  rw [prepared.isPolicy] at isPublic
  cases isPublic
  obtain ⟨request, ⟨candidate, named⟩, ⟨heard, known⟩, goes⟩ := pursues
  rw [prepared.isKey, prepared.isType, show new.subject = subject from congrArg Trace.subject prepared.isTrace]
  refine ⟨Nat.succ_ne_zero _, request, ⟨candidate, ?_⟩, ⟨heard, known⟩, fun positive => ?_⟩
  · rintro _ _ _ ⟨⟩
    exact named session subject recordType rfl
  · obtain ⟨searched, undenied, agrees, needs, uncached⟩ := goes positive
    exact ⟨searched.update _ _ session.fromCache _, undenied, agrees, needs, uncached⟩

theorem AsksNext.underway {goesOn : Onward → Prop} (next : AsksNext key goesOn new)
    (pursues : ∀ onward, goesOn onward → Pursues env past requests key onward) : Underway env past requests new := by
  obtain ⟨session, name, recordType, isNext, prepared⟩ := next
  exact prepared.underway (pursues _ isNext)

theorem EndsNow.established {goesOn : Onward → Prop} (ends : EndsNow key goesOn sent)
    (pursues : ∀ onward, goesOn onward → Pursues env past requests key onward) : Established env past requests sent := by
  obtain ⟨session, isLast, isResult⟩ := ends
  exact .inr ⟨key, session, isResult, pursues _ isLast⟩

variable (isStep : (thread, event) ∈ past) (filled : (thread.scene env event).Filled)

include isStep filled

theorem Requested.pursues (concerns : event.Concerns thread key) (requested : Requested requests retry key session)
    (begins : Begins (thread.scene env event) session onward) : Pursues env past requests key onward := by
  have terms := begins.terms
  refine ⟨⟨retry, session, requested, terms⟩, ?_, ?_, fun positive => begins.goes filled ?_⟩
  all_goals obtain ⟨spec, suffixes, first, later, -, -, rfl⟩ := requested
  · exact begins.placed rfl
  · exact .of_terms (begins.informed rfl nofun (grounded_reads isStep concerns _)) terms
  · rw [show onward.session.maxResults = spec.maxResults from congrArg Terms.maxResults terms] at positive
    exact arrived_new positive

omit filled in
theorem Pursues.informed (pursues : Pursues env past requests query.key (.asks session query.subject query.recordType))
    (answers : event.Answers thread query result) (isPublic : query.policy = .publicLookup session)
    (isTold : Told (thread.moment env) query session result told) : Grounds env past query.key told := by
  obtain ⟨-, ⟨candidate, named⟩, grounds, -⟩ := pursues
  obtain ⟨parsed, rfl⟩ : ∃ parsed, result = .ok parsed := by cases isTold <;> exact ⟨_, rfl⟩
  refine .of_terms (isTold.informed grounds fun outcome isOutcome => ?_) isTold.terms
  exact ⟨session.candidate, query.subject, candidate, named session query.subject query.recordType rfl,
    .answered isStep answers rfl rfl rfl isPublic isOutcome⟩

/-- An answer leaves the lookup with a family to ask for, or with a candidate that it knows. -/
theorem Pursues.answered (pursues : Pursues env past requests query.key (.asks session query.subject query.recordType))
    (issued : session.issued ≠ 0) (answers : event.Answers thread query result)
    (isPublic : query.policy = .publicLookup session) (isTold : Told (thread.moment env) query session result told) :
    (∀ again, told.needs = some again → Pursues env past requests query.key (.asks told query.subject again)) ∧
      (told.needs = none → ∀ onward, Completes (thread.scene env event) told onward →
        Pursues env past requests query.key onward) := by
  have grounds := pursues.informed isStep answers isPublic isTold
  obtain ⟨⟨retry, start, requested, terms⟩, ⟨candidate, named⟩, -, goes⟩ := pursues
  have nonempty : ∀ answer, result = .ok (.answer answer) → answer.addresses ≠ [] := by
    intro answer isAnswer
    obtain ⟨message, -, conveys⟩ := answers.message _ isAnswer
    exact (conveys.answer answer rfl).1
  have sameTerms : told.terms = start.terms := isTold.terms.trans terms
  obtain ⟨ipv4, ipv6, heard, isSession⟩ := isTold.fields
  have stillIssued : told.issued ≠ 0 := by
    rw [isSession]
    exact issued
  have sameMost : told.maxResults = session.maxResults := by rw [isSession]
  have uncached : 0 < told.maxResults → told.fromCache = false := by
    rw [sameMost, isSession]
    exact fun positive => (goes positive).uncached
  have stillThere : told.candidates[told.candidateIndex]? = some told.candidate := by
    rw [isSession]
    exact candidate
  refine ⟨fun again needs => ⟨⟨retry, start, requested, sameTerms⟩, ⟨stillThere, ?_⟩, grounds, fun positive => ?_⟩,
    fun nothing onward completes => ⟨⟨retry, start, requested, completes.terms.trans sameTerms⟩,
      completes.placed stillThere, .of_terms (completes.informed grounds
        (grounded_reads isStep (.inr ⟨query, _, answers, rfl⟩) _)) completes.terms, fun positive => ?_⟩⟩
  · rintro _ _ _ ⟨⟩
    rw [isSession]
    exact named session query.subject query.recordType rfl
  · obtain ⟨searched, current⟩ := isTold.current nonempty (goes (sameMost ▸ positive))
    obtain ⟨undenied, agrees⟩ := current.asks needs
    exact ⟨searched, undenied, agrees, needs, uncached positive⟩
  · rw [show onward.session.maxResults = told.maxResults from congrArg Terms.maxResults completes.terms] at positive
    obtain ⟨searched, current⟩ := isTold.current nonempty (goes (sameMost ▸ positive))
    refine completes.goes filled ⟨searched, current, nothing, ?_, .inr stillIssued⟩
    unfold Sourced
    rw [uncached positive]
    exact ⟨nofun, fun unissued => absurd unissued.2 stillIssued⟩

theorem Continues.underway (continues : Continues (thread.scene env event) query result new)
    (answers : event.Answers thread query result) (underway : Underway env past requests query) :
    Underway env past requests new := by
  cases continues with
  | followed prepared =>
    cases isPolicy : query.policy with
    | http retry =>
      intro found isPublic
      rw [prepared.isPolicy, isPolicy] at isPublic
      cases isPublic
    | publicLookup session =>
      rw [isPolicy] at prepared
      exact prepared.underway (underway session isPolicy).2
  | httpFamily isHttp _ prepared =>
    intro found isPublic
    rw [prepared.isPolicy, isHttp] at isPublic
    cases isPublic
  | family isPublic isTold needs prepared =>
    obtain ⟨issued, pursues⟩ := underway _ isPublic
    exact prepared.underway ((pursues.answered isStep filled issued answers isPublic isTold).1 _ needs)
  | candidate isPublic isTold nothing next =>
    obtain ⟨issued, pursues⟩ := underway _ isPublic
    exact next.underway ((pursues.answered isStep filled issued answers isPublic isTold).2 nothing)

theorem Ends.established (ends : Ends (thread.scene env event) query result sent)
    (answers : event.Answers thread query result) (underway : Underway env past requests query) :
    Established env past requests sent := by
  cases ends with
  | completed isPublic isTold nothing ends =>
    obtain ⟨issued, pursues⟩ := underway _ isPublic
    exact ends.established ((pursues.answered isStep filled issued answers isPublic isTold).2 nothing)
  | http _ _ isResult =>
    rw [isResult]
    exact .inl ⟨rfl, fun _ no => (by cases no)⟩

end

/-- The queries and results of a thread follow the rule. -/
structure Searching (env : Env) (past : List (Thread × Event)) (thread : Thread) : Prop where
  pending : ∀ id query, thread.resolver.pending.lookup id = some query →
    Underway env past thread.resolver.requests query
  results : ∀ result ∈ thread.resolver.results, Established env past thread.resolver.requests result
  filled : ∀ key entry, thread.resolver.cache.familyEntries.lookup key = some entry → entry.value ≠ .answer []

section

variable {env : Env} {past : List (Thread × Event)} {event : Event} {thread thread' : Thread}

theorem Searching.scene (searching : Searching env past thread) : (thread.scene env event).Filled := by
  rintro key entry (⟨found, same⟩ | ⟨answers, -, stores, -⟩) isEmpty
  · exact searching.filled key _ found (same.1.symm.trans isEmpty)
  rw [isEmpty] at stores
  obtain ⟨-, answer, isAnswer, empty⟩ := stores.addresses
  obtain ⟨message, -, conveys⟩ := answers.message _ isAnswer
  exact (conveys.answer answer rfl).1 empty

theorem Searching.step (searching : Searching env past thread) (step : Stepped env thread event thread') :
    Searching env ((thread, event) :: past) thread' := by
  have origin := step.origin
  have isStep : (thread, event) ∈ (thread, event) :: past := List.mem_cons_self
  have filled : (thread.scene env event).Filled := searching.scene
  have later : past ⊆ (thread, event) :: past := List.subset_cons_self _ _
  have grows : thread.resolver.requests ⊆ thread'.resolver.requests := by
    rw [origin.requests]
    exact List.subset_append_left _ _
  have isAdded : event.requests thread ⊆ thread'.resolver.requests := by
    rw [origin.requests]
    exact List.subset_append_right _ _
  have stays : ∀ query, Underway env past thread.resolver.requests query →
      Underway env ((thread, event) :: past) thread'.resolver.requests query := by
    intro query underway session isPublic
    obtain ⟨issued, pursues⟩ := underway session isPublic
    exact ⟨issued, pursues.grows later grows⟩
  -- the query that is answered was under way
  have asked : ∀ old parsed, event.Answers thread old parsed →
      Underway env ((thread, event) :: past) thread'.resolver.requests old := by
    intro old parsed answers
    obtain ⟨id, found⟩ := answers.found
    exact stays old (searching.pending id old found)
  have starts : ∀ key onward, event.Starts env thread key onward →
      Pursues env ((thread, event) :: past) thread'.resolver.requests key onward := by
    rintro key onward ⟨session, requested, begins⟩
    have asked := requested
    obtain ⟨spec, searchSuffixes, _, _, mem, -⟩ := asked
    exact (requested.grows isAdded).pursues isStep filled (.inl ⟨spec, (Event.mem_requests mem).1⟩) begins
  refine ⟨?_, ?_, fun key entry found => filled key entry (origin.stocks.family key entry found)⟩
  · intro id new found
    rcases origin.pending id new found with ⟨old, isOld, kept⟩ | launches
    · have policy : new.policy = old.policy := congrArg (fun query => query.policy) kept.core
      have recordType : new.recordType = old.recordType := congrArg (fun query => query.recordType) kept.core
      have key : new.key = old.key := congrArg (fun query => query.key) kept.core
      have subject : new.subject = old.subject := congrArg (fun query => query.subject) kept.core
      have underway := stays old (searching.pending id old isOld)
      unfold Underway at underway ⊢
      rw [policy, recordType, key, subject]
      exact underway
    · cases launches with
      | continues answers continues => exact continues.underway isStep filled answers (asked _ _ answers)
      | http _ asks =>
        obtain ⟨name, -, prepared⟩ := asks
        intro session isPublic
        rw [prepared.isPolicy] at isPublic
        cases isPublic
      | ofPublic asks => exact asks.underway (starts _)
  · intro result mem
    rcases origin.results result mem with old | sends
    · refine (searching.results result old).imp_right ?_
      rintro ⟨key, session, isResult, pursues⟩
      exact ⟨key, session, isResult, pursues.grows later grows⟩
    cases sends with
    | failed failed => exact .inl ⟨failed.session, failed.outcome⟩
    | ends answers ends => exact ends.established isStep filled answers (asked _ _ answers)
    | http _ ends =>
      obtain ⟨name, answer, -, isResult, -⟩ := ends
      rw [isResult]
      exact .inl ⟨rfl, fun _ no => (by cases no)⟩
    | ofPublic ends => exact ends.established (starts _)

theorem Came.searching (came : Came env past thread) : Searching env past thread := by
  induction came with
  | start => exact ⟨fun _ _ => nofun, fun _ => nofun, fun _ _ => nofun⟩
  | step _ step ih => exact ih.step (Thread.stepped step)

end

end NbReq.Dns
