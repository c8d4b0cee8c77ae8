import NbReq.Dns.Finish

/-!
# The search rule

What a public lookup of several search candidates is for, said without the session that carries it from query to query.
The rule looks at what each address family of each candidate said (`Sayings`), however the lookup came to know it. A
candidate that does not exist in one family does not exist; one with addresses in some family answers; any other has no
data. The first candidate that answers gives the addresses, and if none does, all of them together say for how long.

`judged` connects the rule to `complete_public_session`: if a session knows what the families of its candidate said, its
response is what the rule makes of them.
-/

namespace NbReq.Dns

/-! ## What was said -/

abbrev Sayings := RecordType → Option FamilyOutcome

/-- What the lookup was told first about each family of a candidate. -/
def sayings (heard : List Heard) (index : Nat) : Sayings := fun recordType =>
  (heard.find? fun told => told.candidateIndex == index && told.recordType == recordType).map (·.outcome)

def AddressFamily.types : AddressFamily → List RecordType
  | .both => [.a, .aaaa]
  | .ipv4 => [.a]
  | .ipv6 => [.aaaa]

/-- The families in the order in which the caller wants their addresses. -/
def AddressOrder.types : AddressOrder → List RecordType
  | .ipv4ThenIpv6 => [.a, .aaaa]
  | .ipv6ThenIpv4 => [.aaaa, .a]

/-- What says that the candidate does not exist. -/
def denial (family : AddressFamily) (said : Sayings) : Option FamilyOutcome :=
  family.types.findSome? fun recordType => (said recordType).filter (·.status == .nameNotFound)

def addressesSaid (said : Sayings) (recordType : RecordType) : List IpAddr :=
  ((said recordType).map (·.addresses)).getD []

/-! ## The rule -/

/-- What a candidate counts as. -/
def verdict (family : AddressFamily) (said : Sayings) : ResolveStatus :=
  if (denial family said).isSome then .nameNotFound
  else if family.types.any fun recordType => !(addressesSaid said recordType).isEmpty then .answer
  else .noData

/-- The earliest of some instants, unless one is missing. -/
def earliest : List (Option Instant) → Option Instant
  | [] => none
  | [only] => only
  | first :: rest => Option.map₂ min first (earliest rest)

/-- How long a candidate is known not to answer. -/
def negativeUntil (family : AddressFamily) (said : Sayings) : Option Instant :=
  match denial family said with
  | some outcome => outcome.validUntil
  | none => earliest (family.types.map fun recordType => (said recordType).bind (·.validUntil))

def addressesInOrder (family : AddressFamily) (order : AddressOrder) (said : Sayings) : List IpAddr :=
  (order.types.filter (family.wants ·)).flatMap (addressesSaid said)

/-- Enough was said about a candidate: every family that is asked for has said something, or one of them has said that
the candidate does not exist. -/
def Settled (family : AddressFamily) (said : Sayings) : Prop :=
  (denial family said).isSome ∨ ∀ recordType ∈ family.types, (said recordType).isSome

def firstAnswer (family : AddressFamily) (candidates : List Bytes) (said : Nat → Sayings) : Option Nat :=
  (List.range candidates.length).find? fun index => verdict family (said index) == .answer

/-- The outcome of the lookup is the one that the rule gives. -/
def SearchRule (spec : PublicResolveSpec) (candidates : List Bytes) (said : Nat → Sayings) (fromCache : Bool)
    (outcome : PublicLookupOutcome) : Prop :=
  match firstAnswer spec.family candidates said with
  | some index =>
    (∀ earlier ≤ index, Settled spec.family (said earlier)) ∧
      ∃ validUntil, outcome =
        .completed spec.host .answer ((addressesInOrder spec.family spec.order (said index)).take spec.maxResults)
          validUntil fromCache candidates[index]?
  | none =>
    (∀ index < candidates.length, Settled spec.family (said index)) ∧
      outcome = .completed spec.host
        (if (List.range candidates.length).any fun index => verdict spec.family (said index) == .noData then .noData
          else .nameNotFound) []
        (earliest ((List.range candidates.length).map fun index => negativeUntil spec.family (said index))) fromCache
        none

/-! ## Hearing more -/

section

variable {heard : List Heard} {told : Heard} {index : Nat} {recordType : RecordType}

theorem sayings_concat : sayings (heard ++ [told]) index recordType =
    (sayings heard index recordType).or
      (if told.candidateIndex = index ∧ told.recordType = recordType then some told.outcome else none) := by
  unfold sayings
  rw [List.find?_append, Option.map_or]
  congr 1
  by_cases same : told.candidateIndex = index ∧ told.recordType = recordType
  · rw [if_pos same, List.find?_cons_of_pos (by simp [same])]
    rfl
  · rw [if_neg same, List.find?_cons_of_neg (by simpa using same)]
    rfl

/-- What was said about other candidates stays. -/
theorem sayings_other (other : told.candidateIndex ≠ index) :
    sayings (heard ++ [told]) index = sayings heard index := by
  funext recordType
  rw [sayings_concat, if_neg fun same => other same.1, Option.or_none]

/-- What is said about a family that had not said anything. -/
theorem sayings_told (unsaid : sayings heard told.candidateIndex told.recordType = none) :
    sayings (heard ++ [told]) told.candidateIndex told.recordType = some told.outcome := by
  rw [sayings_concat, unsaid, if_pos ⟨rfl, rfl⟩, Option.none_or]

theorem sayings_otherType (other : told.recordType ≠ recordType) :
    sayings (heard ++ [told]) index recordType = sayings heard index recordType := by
  rw [sayings_concat, if_neg fun same => other same.2, Option.or_none]

theorem mem_of_sayings {outcome : FamilyOutcome} (said : sayings heard index recordType = some outcome) :
    ⟨index, recordType, outcome⟩ ∈ heard := by
  obtain ⟨told, found, rfl⟩ := Option.map_eq_some_iff.mp said
  have same := List.find?_some found
  simp only [Bool.and_eq_true, beq_iff_eq] at same
  obtain ⟨rfl, rfl⟩ := same
  exact List.mem_of_find?_eq_some found

end

theorem earliest_concat {validities : List (Option Instant)} (some : validities ≠ []) (validity : Option Instant) :
    earliest (validities ++ [validity]) = Option.map₂ min (earliest validities) validity := by
  induction validities with
  | nil => exact absurd rfl some
  | cons first rest ih =>
    cases rest with
    | nil => rfl
    | cons second rest =>
      have step : ∀ more, earliest (first :: second :: more) = Option.map₂ min first (earliest (second :: more)) :=
        fun _ => rfl
      rw [List.cons_append, List.cons_append, step, step, ← List.cons_append, ih (List.cons_ne_nil _ _)]
      exact (Option.map₂_assoc min_assoc).symm

/-! ## The response of a session -/

/-- An outcome has addresses if and only if it is an answer. -/
def FamilyOutcome.Sane (outcome : FamilyOutcome) : Prop := outcome.status = .answer ↔ outcome.addresses ≠ []

/-- What a session knows about its candidate: what the families said, or that the candidate does not exist. -/
inductive Current (session : PublicSession) (said : Sayings) : Prop where
  | undenied (none : denial session.family said = none) (agrees : ∀ recordType, session.outcome recordType =
      said recordType)
  | denied {outcome : FamilyOutcome} (isDenial : denial session.family said = some outcome)
      (known : ∀ recordType ∈ session.family.types, session.outcome recordType = some outcome)

section

variable {session : PublicSession} {said : Sayings} {outcome : FamilyOutcome} {recordType : RecordType}
  {family : AddressFamily}

theorem status_ne_of_undenied (none : denial family said = none) (mem : recordType ∈ family.types)
    (isSaid : said recordType = some outcome) : outcome.status ≠ .nameNotFound := by
  intro missing
  have unsaid := List.findSome?_eq_none_iff.mp none recordType mem
  rw [isSaid, Option.filter_some, if_pos (by simp [missing])] at unsaid
  cases unsaid

theorem denial_eq_none
    (present : ∀ recordType ∈ family.types, ∀ outcome, said recordType = some outcome →
      outcome.status ≠ .nameNotFound) :
    denial family said = none := by
  refine List.findSome?_eq_none_iff.mpr fun recordType mem => ?_
  cases isSaid : said recordType with
  | none => rfl
  | some outcome => rw [Option.filter_some, if_neg (by simpa using present recordType mem outcome isSaid)]

/-- The only family that denies the name is the denial. -/
theorem denial_eq_some (mem : recordType ∈ family.types) (isSaid : said recordType = some outcome)
    (missing : outcome.status = .nameNotFound)
    (present : ∀ other ∈ family.types, other ≠ recordType → ∀ outcome, said other = some outcome →
      outcome.status ≠ .nameNotFound) : denial family said = some outcome := by
  have some : (denial family said).isSome := by
    refine List.findSome?_isSome_iff.mpr ⟨recordType, mem, ?_⟩
    rw [isSaid, Option.filter_some, if_pos (by simp [missing])]
    rfl
  obtain ⟨denying, isDenial⟩ := Option.isSome_iff_exists.mp some
  obtain ⟨other, isAsked, isOther⟩ := List.exists_of_findSome?_eq_some isDenial
  obtain ⟨saysOther, missingOther⟩ := Option.filter_eq_some_iff.mp isOther
  by_cases same : other = recordType
  · rw [same, isSaid] at saysOther
    rw [isDenial, saysOther]
  · exact absurd (by simpa using missingOther) (present other isAsked same denying saysOther)

theorem denial_said (isDenial : denial family said = some outcome) :
    outcome.status = .nameNotFound ∧ ∃ recordType ∈ family.types, said recordType = some outcome := by
  obtain ⟨recordType, mem, isSaid⟩ := List.exists_of_findSome?_eq_some isDenial
  obtain ⟨isSaid, missing⟩ := Option.filter_eq_some_iff.mp isSaid
  exact ⟨by simpa using missing, recordType, mem, isSaid⟩

theorem verdict_of_denial (isDenial : denial family said = some outcome) : verdict family said = .nameNotFound := by
  rw [verdict, isDenial]
  rfl

theorem negativeUntil_of_denial (isDenial : denial family said = some outcome) :
    negativeUntil family said = outcome.validUntil := by
  rw [negativeUntil, isDenial]

/-- A session that needs nothing knows all the families. -/
theorem known_of_needs_none (recordType : RecordType) (nothing : session.needs = none)
    (mem : recordType ∈ session.family.types) : ∃ outcome, session.outcome recordType = some outcome := by
  refine Option.ne_none_iff_exists'.mp fun unknown => ?_
  unfold PublicSession.needs at nothing
  cases recordType with
  | a =>
    have ipv4 : session.ipv4 = none := unknown
    cases isFamily : session.family <;> rw [isFamily] at nothing mem <;> simp [ipv4, AddressFamily.types] at nothing mem
  | aaaa =>
    have ipv6 : session.ipv6 = none := unknown
    cases isFamily : session.family <;> rw [isFamily] at nothing mem <;> simp [ipv6, AddressFamily.types] at nothing mem
    split at nothing <;> cases nothing

theorem Sane.addresses_eq (sane : outcome.Sane) (notAnswer : outcome.status ≠ .answer) : outcome.addresses = [] := by
  by_contra some
  exact notAnswer (sane.mpr some)

theorem addressesSaid_eq (isSaid : said recordType = some outcome) :
    addressesSaid said recordType = outcome.addresses := by
  rw [addressesSaid, isSaid]
  rfl

/-- The addresses of a family that answered are all its addresses. -/
theorem answeredAddresses_eq (sane : outcome.Sane) : answeredAddresses (some outcome) = outcome.addresses := by
  unfold answeredAddresses
  by_cases answer : outcome.status = .answer
  · rw [Option.filter_some, if_pos (by simp [answer])]
    rfl
  · rw [Option.filter_some, if_neg (by simp [answer]), Sane.addresses_eq sane answer]
    rfl

theorem take_take_append (most : Nat) (first second : List IpAddr) :
    first.take most ++ second.take (most - (first.take most).length) = (first ++ second).take most := by
  rw [List.take_append, List.length_take]
  congr 2
  omega

/-- Cutting the two families one after the other is cutting what they are together. -/
theorem orderBoth_truncateBoth (order : AddressOrder) (maxResults : Nat) (ipv4 ipv6 : List IpAddr) :
    orderBoth order (truncateBoth order maxResults ipv4 ipv6).1 (truncateBoth order maxResults ipv4 ipv6).2 =
      (orderBoth order ipv4 ipv6).take maxResults := by
  unfold truncateBoth
  split
  · cases order with
    | ipv4ThenIpv6 => exact take_take_append maxResults ipv4 ipv6
    | ipv6ThenIpv4 => exact take_take_append maxResults ipv6 ipv4
  · rename_i fits
    have short : (orderBoth order ipv4 ipv6).length ≤ maxResults := by
      cases order <;> simp only [orderBoth, List.length_append] <;> omega
    exact (List.take_of_length_le short).symm

theorem isEmpty_orderBoth (order : AddressOrder) (ipv4 ipv6 : List IpAddr) :
    (orderBoth order ipv4 ipv6).isEmpty = (ipv4.isEmpty && ipv6.isEmpty) := by
  cases order <;> cases ipv4 <;> cases ipv6 <;> rfl

theorem minValidUntil_eq (ipv4 ipv6 : FamilyOutcome) :
    minValidUntil (some ipv4) (some ipv6) = earliest [ipv4.validUntil, ipv6.validUntil] := by
  obtain ⟨_, _, until4, _⟩ := ipv4
  obtain ⟨_, _, until6, _⟩ := ipv6
  cases until4 <;> cases until6 <;> rfl

/-- What the rule makes of a candidate is what its session says. -/
structure Judged (session : PublicSession) (said : Sayings) : Prop where
  status : session.response.1 = verdict session.family said
  addresses : session.response.1 = .answer → session.response.2.1.take session.maxResults =
    (addressesInOrder session.family session.order said).take session.maxResults
  negative : session.response.1 ≠ .answer → session.response.2 = ([], negativeUntil session.family said)
  settled : Settled session.family said

theorem judged_denied (isDenial : denial session.family said = some outcome) (sane : outcome.Sane)
    (known : ∀ recordType ∈ session.family.types, session.outcome recordType = some outcome) : Judged session said := by
  have missing := (denial_said isDenial).1
  have noAddresses : outcome.addresses = [] := Sane.addresses_eq sane (by rw [missing]; exact nofun)
  have response : session.response = (.nameNotFound, [], outcome.validUntil) := by
    unfold PublicSession.response
    cases isFamily : session.family with
    | ipv4 =>
      rw [isFamily] at known
      have ipv4 : session.ipv4 = some outcome := known .a List.mem_cons_self
      rw [ipv4, familyResponse, missing, noAddresses]
    | ipv6 =>
      rw [isFamily] at known
      have ipv6 : session.ipv6 = some outcome := known .aaaa List.mem_cons_self
      rw [ipv6, familyResponse, missing, noAddresses]
    | both =>
      rw [isFamily] at known
      have ipv4 : session.ipv4 = some outcome := known .a List.mem_cons_self
      have ipv6 : session.ipv6 = some outcome := known .aaaa (List.mem_cons_of_mem _ List.mem_cons_self)
      have denied : isNameNotFound (some outcome) = true := by simp [isNameNotFound, missing]
      have validity : minValidUntil (some outcome) (some outcome) = outcome.validUntil := by
        rw [minValidUntil_eq]
        cases outcome.validUntil with
        | none => rfl
        | some expires => exact congrArg some (min_self expires)
      dsimp only
      rw [combineBoth, ipv4, ipv6, denied, Bool.true_or, if_pos rfl, validity]
  refine ⟨?_, ?_, ?_, .inl (by rw [isDenial]; rfl)⟩
  · rw [response, verdict_of_denial isDenial]
  · rw [response]
    exact nofun
  · intro _
    rw [response, negativeUntil_of_denial isDenial]

/-- One family is asked for, and has said something. -/
theorem judged_single (none : denial session.family said = none) (types : session.family.types = [recordType])
    (isSaid : said recordType = some outcome) (sane : outcome.Sane)
    (wanted : ∀ order : AddressOrder, order.types.filter (session.family.wants ·) = [recordType])
    (response : session.response = (outcome.status, outcome.addresses, outcome.validUntil)) : Judged session said := by
  have notMissing := status_ne_of_undenied none (by rw [types]; exact List.mem_singleton_self _) isSaid
  have said_ := addressesSaid_eq isSaid
  have isVerdict : outcome.status = verdict session.family said := by
    rw [verdict, none, types, List.any_cons, List.any_nil, said_]
    cases status : outcome.status with
    | nameNotFound => exact absurd status notMissing
    | answer =>
      have some := sane.mp status
      simp [some]
    | noData =>
      have empty := Sane.addresses_eq sane (by rw [status]; exact nofun)
      simp [empty]
  refine ⟨by rw [response]; exact isVerdict, ?_, ?_, .inr ?_⟩
  · intro _
    rw [response, addressesInOrder, wanted, List.flatMap_singleton, said_]
  · intro notAnswer
    rw [response] at notAnswer ⊢
    rw [negativeUntil, none, types, List.map_singleton, isSaid, Sane.addresses_eq sane notAnswer]
    rfl
  · rw [types]
    intro other mem
    rw [List.mem_singleton.mp mem, isSaid]
    rfl

/-- Two families of which none denies the name, put together. -/
theorem combineBoth_eq {ipv4 ipv6 : FamilyOutcome} (is4 : session.ipv4 = some ipv4) (is6 : session.ipv6 = some ipv6)
    (present4 : ipv4.status ≠ .nameNotFound) (present6 : ipv6.status ≠ .nameNotFound) (sane4 : ipv4.Sane)
    (sane6 : ipv6.Sane) (positive : 0 < session.maxResults) (together : List IpAddr)
    (isTogether : together = orderBoth session.order ipv4.addresses ipv6.addresses) :
    combineBoth session =
      if together.isEmpty then (.noData, [], earliest [ipv4.validUntil, ipv6.validUntil])
      else (.answer, together.take session.maxResults, earliest [ipv4.validUntil, ipv6.validUntil]) := by
  have present : ∀ outcome : FamilyOutcome, outcome.status ≠ .nameNotFound → isNameNotFound (some outcome) = false := by
    intro outcome notMissing
    simp [isNameNotFound, notMissing]
  have cut := orderBoth_truncateBoth session.order session.maxResults ipv4.addresses ipv6.addresses
  have empty := isEmpty_orderBoth session.order
    (truncateBoth session.order session.maxResults ipv4.addresses ipv6.addresses).1
    (truncateBoth session.order session.maxResults ipv4.addresses ipv6.addresses).2
  rw [cut, ← isTogether] at empty
  have stays : (together.take session.maxResults).isEmpty = together.isEmpty := by
    cases together with
    | nil => rw [List.take_nil]
    | cons first rest =>
      rw [List.take_cons positive]
      rfl
  rw [combineBoth, is4, is6, present _ present4, present _ present6, answeredAddresses_eq sane4,
    answeredAddresses_eq sane6, minValidUntil_eq, Bool.or_self, if_neg Bool.false_ne_true]
  dsimp only
  rw [← empty, cut, ← isTogether, stays]

/-- Both families are asked for, and have said something. -/
theorem judged_both {ipv4 ipv6 : FamilyOutcome} (isBoth : session.family = .both)
    (none : denial session.family said = none) (isSaid4 : said .a = some ipv4) (isSaid6 : said .aaaa = some ipv6)
    (sane4 : ipv4.Sane) (sane6 : ipv6.Sane) (is4 : session.ipv4 = some ipv4) (is6 : session.ipv6 = some ipv6)
    (positive : 0 < session.maxResults) : Judged session said := by
  have types : session.family.types = [.a, .aaaa] := by rw [isBoth]; rfl
  have present4 := status_ne_of_undenied none (by rw [types]; decide) isSaid4
  have present6 := status_ne_of_undenied none (by rw [types]; decide) isSaid6
  have said4 := addressesSaid_eq isSaid4
  have said6 := addressesSaid_eq isSaid6
  obtain ⟨together, isTogether⟩ : ∃ together, together = orderBoth session.order ipv4.addresses ipv6.addresses :=
    ⟨_, rfl⟩
  have inOrder : addressesInOrder session.family session.order said = together := by
    rw [addressesInOrder, isBoth, isTogether]
    cases session.order <;> simp [AddressOrder.types, AddressFamily.wants, said4, said6, orderBoth]
  have isVerdict : verdict session.family said = if together.isEmpty then .noData else .answer := by
    rw [verdict, none, types, isTogether, isEmpty_orderBoth]
    simp only [List.any_cons, List.any_nil, said4, said6, Option.isSome_none]
    cases ipv4.addresses <;> cases ipv6.addresses <;> rfl
  have response : session.response = combineBoth session := by rw [PublicSession.response, isBoth]
  rw [combineBoth_eq is4 is6 present4 present6 sane4 sane6 positive together isTogether] at response
  refine ⟨?_, ?_, ?_, .inr ?_⟩
  · rw [response, isVerdict]
    split <;> rfl
  · rw [response, inOrder]
    split
    · intro answered
      cases answered
    · intro _
      exact (List.take_take ..).trans (by rw [min_self])
  · rw [response]
    split
    · intro _
      rw [negativeUntil, none, types]
      simp only [List.map_cons, List.map_nil, isSaid4, isSaid6, Option.bind_some]
    · exact fun notAnswer => absurd rfl notAnswer
  · rw [types]
    intro recordType _
    cases recordType with
    | a => rw [isSaid4]; rfl
    | aaaa => rw [isSaid6]; rfl

theorem Current.judged (current : Current session said) (known : session.needs = none)
    (sane : ∀ recordType outcome, said recordType = some outcome → outcome.Sane) (positive : 0 < session.maxResults) :
    Judged session said := by
  cases current with
  | denied isDenial isKnown =>
    obtain ⟨-, recordType, -, isSaid⟩ := denial_said isDenial
    exact judged_denied isDenial (sane recordType _ isSaid) isKnown
  | undenied none agrees =>
    cases isFamily : session.family with
    | ipv4 =>
      obtain ⟨outcome, isOutcome⟩ := known_of_needs_none .a known (by rw [isFamily]; decide)
      have isSaid : said .a = some outcome := (agrees .a).symm.trans isOutcome
      refine judged_single none (by rw [isFamily]; rfl) isSaid (sane _ _ isSaid) ?_ ?_
      · rw [isFamily]
        intro order
        cases order <;> rfl
      · have ipv4 : session.ipv4 = some outcome := isOutcome
        rw [PublicSession.response, isFamily, ipv4]
        rfl
    | ipv6 =>
      obtain ⟨outcome, isOutcome⟩ := known_of_needs_none .aaaa known (by rw [isFamily]; decide)
      have isSaid : said .aaaa = some outcome := (agrees .aaaa).symm.trans isOutcome
      refine judged_single none (by rw [isFamily]; rfl) isSaid (sane _ _ isSaid) ?_ ?_
      · rw [isFamily]
        intro order
        cases order <;> rfl
      · have ipv6 : session.ipv6 = some outcome := isOutcome
        rw [PublicSession.response, isFamily, ipv6]
        rfl
    | both =>
      obtain ⟨ipv4, is4⟩ := known_of_needs_none .a known (by rw [isFamily]; decide)
      obtain ⟨ipv6, is6⟩ := known_of_needs_none .aaaa known (by rw [isFamily]; decide)
      have isSaid4 : said .a = some ipv4 := (agrees .a).symm.trans is4
      have isSaid6 : said .aaaa = some ipv6 := (agrees .aaaa).symm.trans is6
      exact judged_both isFamily none isSaid4 isSaid6 (sane _ _ isSaid4) (sane _ _ isSaid6) is4 is6 positive

end

end NbReq.Dns
