import NbReq.Dns.Names

/-!
# Reading a response

`MessageAt` is what a response looks like in a packet: a header, and the questions, answers, authorities and additional
records one after the other up to the end of the packet, as many of each as the header says, where the value of a record
stands inside the span that the record declares. What `parse_response` returns is one (`parseResponse_message`), and it
always returns (`parseResponse_returns`).

The minimum-shape check only rejects packets that could not be one, so it changes no result
(`parseResponse_ok_iff`).
-/

namespace NbReq.Dns

def numberAt (bytes : Bytes) (start stop : Nat) : Nat := beNat (span bytes start stop)

/-- The value of a record of a type, in the span from `start` to `stop`. The part in place of a name stands in the
span; what its pointers lead to may stand before it. -/
inductive RDataAt (bytes : Bytes) (ttl start stop : Nat) : UInt16 → RData → Prop where
  | a (size : stop = start + 4) : RDataAt bytes ttl start stop 1 (.a (BitVec.ofNat 32 (numberAt bytes start stop)))
  | aaaa (size : stop = start + 16) :
      RDataAt bytes ttl start stop 28 (.aaaa (BitVec.ofNat 128 (numberAt bytes start stop)))
  | cname {labels : List Bytes} (target : Spells bytes start labels stop) (fits : wireLength labels ≤ maxWireNameLen) :
      RDataAt bytes ttl start stop typeCname (.cname ⟨labels.map foldLabel⟩)
  | soa {primary mailbox : List Bytes} {afterPrimary afterMailbox : Nat}
      (first : Spells bytes start primary afterPrimary) (second : Spells bytes afterPrimary mailbox afterMailbox)
      (size : stop = afterMailbox + 20) :
      RDataAt bytes ttl start stop typeSoa (.soa (numberAt bytes (afterMailbox + 16) stop))
  | opt : RDataAt bytes ttl start stop typeOpt (.opt (UInt8.ofNat (ttl / 2 ^ 24)))
  | other {recordType : UInt16} (unread : recordType ∉ [1, 28, typeCname, typeSoa, typeOpt]) :
      RDataAt bytes ttl start stop recordType .other

structure RecordAt (bytes : Bytes) (start : Nat) (record : Record) (stop : Nat) : Prop where
  parts : ∃ labels fixed, Spells bytes start labels fixed ∧ wireLength labels ≤ maxWireNameLen ∧
    record.name = ⟨labels.map foldLabel⟩ ∧ record.recordType.toNat = numberAt bytes fixed (fixed + 2) ∧
    record.recordClass.toNat = numberAt bytes (fixed + 2) (fixed + 4) ∧
    record.ttl = numberAt bytes (fixed + 4) (fixed + 8) ∧
    stop = fixed + 10 + numberAt bytes (fixed + 8) (fixed + 10) ∧
    RDataAt bytes record.ttl (fixed + 10) stop record.recordType record.data
  inside : stop ≤ bytes.length

structure QuestionAt (bytes : Bytes) (start : Nat) (question : Question) (stop : Nat) : Prop where
  parts : ∃ labels fixed, Spells bytes start labels fixed ∧ wireLength labels ≤ maxWireNameLen ∧
    question.name = ⟨labels.map foldLabel⟩ ∧ question.recordType.toNat = numberAt bytes fixed (fixed + 2) ∧
    question.recordClass.toNat = numberAt bytes (fixed + 2) (fixed + 4) ∧ stop = fixed + 4
  inside : stop ≤ bytes.length

/-- Things that stand one after the other. -/
inductive Row {α : Type} (stands : Nat → α → Nat → Prop) : Nat → List α → Nat → Prop where
  | nil {start : Nat} : Row stands start [] start
  | cons {start middle stop : Nat} {item : α} {items : List α} (first : stands start item middle)
      (rest : Row stands middle items stop) : Row stands start (item :: items) stop

structure MessageAt (bytes : Bytes) (message : Response) : Prop where
  sections : ∃ answersAt authoritiesAt additionalsAt additionals,
    Row (QuestionAt bytes) dnsHeaderLen message.questions answersAt ∧
    Row (RecordAt bytes) answersAt message.answers authoritiesAt ∧
    Row (RecordAt bytes) authoritiesAt message.authorities additionalsAt ∧
    Row (RecordAt bytes) additionalsAt additionals bytes.length ∧ additionals.length = numberAt bytes 10 12
  questions : message.questions.length = numberAt bytes 4 6
  answers : message.answers.length = numberAt bytes 6 8
  authorities : message.authorities.length = numberAt bytes 8 10

variable {count : Nat} {start stop : Nat}

/-! ## Numbers -/

section

variable {bytes : Bytes} {cursor next : Nat}

theorem beNat_pair_lt (first second : UInt8) : beNat [first, second] < 2 ^ 16 := by
  have low := first.toNat_lt
  have high := second.toNat_lt
  simp only [beNat, List.foldl_cons, List.foldl_nil]
  omega

theorem takeU16_ok_iff {value : UInt16} :
    takeU16 bytes cursor = .ok (value, next) ↔
      value.toNat = numberAt bytes cursor (cursor + 2) ∧ next = cursor + 2 ∧ next ≤ bytes.length := by
  unfold takeU16
  by_cases inside : cursor + 1 < bytes.length
  · have octets : span bytes cursor (cursor + 2) = [bytes[cursor], bytes[cursor + 1]] := by
      rw [span, List.drop_eq_getElem_cons (by omega), List.drop_eq_getElem_cons inside, Nat.add_sub_cancel_left]
      rfl
    rw [List.getElem?_eq_getElem (by omega), List.getElem?_eq_getElem inside, numberAt, octets]
    have small := beNat_pair_lt bytes[cursor] bytes[cursor + 1]
    constructor
    · rintro ⟨⟩
      exact ⟨UInt16.toNat_ofNat_of_lt' small, rfl, inside⟩
    rintro ⟨isValue, rfl, -⟩
    have same : UInt16.ofNat (beNat [bytes[cursor], bytes[cursor + 1]]) = value := by
      rw [← UInt16.toNat_inj, UInt16.toNat_ofNat_of_lt' small, isValue]
    simp only [same]
  · constructor
    · intro ok
      rw [List.getElem?_eq_none (Nat.le_of_not_lt inside)] at ok
      cases first : bytes[cursor]? <;> rw [first] at ok <;> cases ok
    · rintro ⟨-, rfl, within⟩
      omega

theorem takeU32_ok_iff {value : Nat} :
    takeU32 bytes cursor = .ok (value, next) ↔
      value = numberAt bytes cursor (cursor + 4) ∧ next = cursor + 4 ∧ next ≤ bytes.length := by
  unfold takeU32
  split
  · rename_i inside
    rw [octetsAt_inside (Nat.le_add_right _ _) inside]
    constructor
    · rintro ⟨⟩
      exact ⟨rfl, rfl, inside⟩
    · rintro ⟨rfl, rfl, -⟩
      rfl
  · rename_i outside
    constructor
    · exact nofun
    · rintro ⟨-, rfl, within⟩
      exact absurd within outside

theorem takeU32Bounded_ok {value bound : Nat} (ok : takeU32Bounded bytes cursor bound = .ok (value, next)) :
    value = numberAt bytes cursor (cursor + 4) ∧ next = cursor + 4 ∧ next ≤ bound := by
  unfold takeU32Bounded at ok
  split at ok
  · cases ok
  · rename_i within
    obtain ⟨isValue, rfl, -⟩ := takeU32_ok_iff.mp ok
    exact ⟨isValue, rfl, Nat.le_of_not_lt within⟩

/-! ## Records -/

/-- The four octets of an address, read one by one. -/
theorem octetAt_four (inside : cursor + 4 ≤ bytes.length) :
    (do let first ← octetAt bytes cursor
        let second ← octetAt bytes (cursor + 1)
        let third ← octetAt bytes (cursor + 2)
        let fourth ← octetAt bytes (cursor + 3)
        return RData.a (BitVec.ofNat 32 (beNat [first, second, third, fourth]))) =
      (.ok (.a (BitVec.ofNat 32 (numberAt bytes cursor (cursor + 4)))) : Except Fault RData) := by
  have octets : span bytes cursor (cursor + 4) =
      [bytes[cursor], bytes[cursor + 1], bytes[cursor + 2], bytes[cursor + 3]] := by
    rw [span, List.drop_eq_getElem_cons (by omega), List.drop_eq_getElem_cons (by omega),
      List.drop_eq_getElem_cons (by omega), List.drop_eq_getElem_cons (by omega), Nat.add_sub_cancel_left]
    rfl
  have found : ∀ (index : Nat) (inside : index < bytes.length), octetAt bytes index = .ok bytes[index] := by
    intro index inside
    rw [octetAt, List.getElem?_eq_getElem inside]
  rw [numberAt, octets, found cursor (by omega), found (cursor + 1) (by omega), found (cursor + 2) (by omega),
    found (cursor + 3) (by omega)]
  rfl

/-- The sixteen octets of an address, copied as a whole. -/
theorem octetsAt_sixteen (inside : cursor + 16 ≤ bytes.length) :
    (do let octets ← octetsAt bytes cursor (cursor + 16)
        if octets.length ≠ 16 then .error .panicked else return RData.aaaa (BitVec.ofNat 128 (beNat octets))) =
      (.ok (.aaaa (BitVec.ofNat 128 (numberAt bytes cursor (cursor + 16)))) : Except Fault RData) := by
  have length : ¬(span bytes cursor (cursor + 16)).length ≠ 16 := by
    rw [length_span inside]
    omega
  rw [octetsAt_inside (Nat.le_add_right _ _) inside]
  exact if_neg length

theorem readRData_ok {recordType : UInt16} {ttl start stop : Nat} {data : RData} (le : start ≤ stop)
    (inside : stop ≤ bytes.length) (ok : readRData bytes recordType ttl start stop = .ok data) : RDataAt bytes ttl start stop recordType data := by
  unfold readRData at ok
  split at ok
  · rename_i isA
    subst isA
    split at ok
    · cases ok
    rename_i size
    have isStop : stop = start + 4 := by omega
    subst isStop
    rw [octetAt_four inside] at ok
    cases ok
    exact .a rfl
  split at ok
  · rename_i isAaaa
    subst isAaaa
    split at ok
    · cases ok
    rename_i size
    have isStop : stop = start + 16 := by omega
    subst isStop
    rw [octetsAt_sixteen inside] at ok
    cases ok
    exact .aaaa rfl
  split at ok
  · rename_i isCname
    subst isCname
    obtain ⟨⟨target, after⟩, read, ok⟩ := bind_eq_ok.mp ok
    obtain ⟨labels, spells, isTarget, fits⟩ := readName_spells read
    dsimp only at ok
    split at ok
    · cases ok
    rename_i whole
    cases Decidable.not_not.mp whole
    cases pure_eq_ok.mp ok
    cases target
    cases isTarget
    exact .cname spells fits
  split at ok
  · rename_i isSoa
    subst isSoa
    obtain ⟨⟨primary, afterPrimary⟩, first, ok⟩ := bind_eq_ok.mp ok
    obtain ⟨⟨mailbox, afterMailbox⟩, second, ok⟩ := bind_eq_ok.mp ok
    obtain ⟨primaryLabels, spellsPrimary, -⟩ := readName_spells first
    obtain ⟨mailboxLabels, spellsMailbox, -⟩ := readName_spells second
    -- serial, refresh, retry and expire, and then the minimum
    obtain ⟨⟨serial, afterSerial⟩, read, ok⟩ := bind_eq_ok.mp ok
    obtain ⟨-, rfl, -⟩ := takeU32Bounded_ok read
    obtain ⟨⟨refresh, afterRefresh⟩, read, ok⟩ := bind_eq_ok.mp ok
    obtain ⟨-, rfl, -⟩ := takeU32Bounded_ok read
    obtain ⟨⟨retry, afterRetry⟩, read, ok⟩ := bind_eq_ok.mp ok
    obtain ⟨-, rfl, -⟩ := takeU32Bounded_ok read
    obtain ⟨⟨expire, afterExpire⟩, read, ok⟩ := bind_eq_ok.mp ok
    obtain ⟨-, rfl, -⟩ := takeU32Bounded_ok read
    obtain ⟨⟨minimum, afterMinimum⟩, read, ok⟩ := bind_eq_ok.mp ok
    obtain ⟨rfl, rfl, -⟩ := takeU32Bounded_ok read
    dsimp only at ok
    split at ok
    · cases ok
    rename_i whole
    cases pure_eq_ok.mp ok
    have size : stop = afterMailbox + 20 := (Decidable.not_not.mp whole).symm
    subst size
    exact .soa spellsPrimary spellsMailbox rfl
  split at ok
  · rename_i isOpt
    subst isOpt
    cases ok
    exact .opt
  · rename_i notA notAaaa notCname notSoa notOpt
    cases ok
    exact .other (by simp [notA, notAaaa, notCname, notSoa, notOpt])

theorem readRecord_ok {record : Record} (ok : readRecord bytes cursor = .ok (record, next)) :
    RecordAt bytes cursor record next := by
  unfold readRecord at ok
  obtain ⟨⟨name, fixed⟩, readName, ok⟩ := bind_eq_ok.mp ok
  obtain ⟨labels, spells, isName, fits⟩ := readName_spells readName
  obtain ⟨⟨recordType, afterType⟩, read, ok⟩ := bind_eq_ok.mp ok
  obtain ⟨isType, rfl, -⟩ := takeU16_ok_iff.mp read
  obtain ⟨⟨recordClass, afterClass⟩, read, ok⟩ := bind_eq_ok.mp ok
  obtain ⟨isClass, rfl, -⟩ := takeU16_ok_iff.mp read
  obtain ⟨⟨ttl, afterTtl⟩, read, ok⟩ := bind_eq_ok.mp ok
  obtain ⟨isTtl, rfl, -⟩ := takeU32_ok_iff.mp read
  obtain ⟨⟨dataLen, start⟩, read, ok⟩ := bind_eq_ok.mp ok
  obtain ⟨isLength, rfl, -⟩ := takeU16_ok_iff.mp read
  dsimp only at ok
  split at ok
  · cases ok
  rename_i inside
  obtain ⟨data, readData, ok⟩ := bind_eq_ok.mp ok
  cases pure_eq_ok.mp ok
  have value := readRData_ok (Nat.le_add_right _ _) (Nat.le_of_not_lt inside) readData
  cases name
  cases isName
  refine ⟨⟨labels, fixed, spells, fits, rfl, isType, isClass, isTtl, ?_, value⟩, Nat.le_of_not_lt inside⟩
  rw [isLength]

theorem readRecords_ok {records : List Record} (ok : readRecords bytes count cursor = .ok (records, next)) :
    Row (RecordAt bytes) cursor records next ∧ records.length = count := by
  induction count generalizing cursor records with
  | zero =>
    cases ok
    exact ⟨.nil, rfl⟩
  | succ count ih =>
    rw [readRecords] at ok
    obtain ⟨⟨record, middle⟩, read, ok⟩ := bind_eq_ok.mp ok
    obtain ⟨⟨rest, stop⟩, readRest, ok⟩ := bind_eq_ok.mp ok
    cases pure_eq_ok.mp ok
    obtain ⟨row, length⟩ := ih readRest
    exact ⟨.cons (readRecord_ok read) row, congrArg _ length⟩

theorem readQuestions_ok {questions : List Question}
    (ok : readQuestions bytes count cursor = .ok (questions, next)) :
    Row (QuestionAt bytes) cursor questions next ∧ questions.length = count := by
  induction count generalizing cursor questions with
  | zero =>
    cases ok
    exact ⟨.nil, rfl⟩
  | succ count ih =>
    rw [readQuestions] at ok
    obtain ⟨⟨name, fixed⟩, readName, ok⟩ := bind_eq_ok.mp ok
    obtain ⟨labels, spells, isName, fits⟩ := readName_spells readName
    obtain ⟨⟨recordType, afterType⟩, read, ok⟩ := bind_eq_ok.mp ok
    obtain ⟨isType, rfl, -⟩ := takeU16_ok_iff.mp read
    obtain ⟨⟨recordClass, afterClass⟩, read, ok⟩ := bind_eq_ok.mp ok
    obtain ⟨isClass, rfl, inside⟩ := takeU16_ok_iff.mp read
    obtain ⟨⟨rest, stop⟩, readRest, ok⟩ := bind_eq_ok.mp ok
    cases pure_eq_ok.mp ok
    obtain ⟨row, length⟩ := ih readRest
    cases name
    cases isName
    exact ⟨.cons ⟨⟨labels, fixed, spells, fits, rfl, isType, isClass, rfl⟩, inside⟩ row, congrArg _ length⟩

theorem readAdditionals_ok {extended result : Option UInt8}
    (ok : readAdditionals bytes count cursor extended = .ok (result, next)) :
    ∃ records, Row (RecordAt bytes) cursor records next ∧ records.length = count := by
  induction count generalizing cursor extended with
  | zero =>
    cases ok
    exact ⟨[], .nil, rfl⟩
  | succ count ih =>
    rw [readAdditionals] at ok
    obtain ⟨⟨record, middle⟩, read, ok⟩ := bind_eq_ok.mp ok
    dsimp only at ok
    have rest : ∃ extended, readAdditionals bytes count middle extended = .ok (result, next) := by
      split at ok
      · cases ok
      · exact ⟨_, ok⟩
      · exact ⟨_, ok⟩
    obtain ⟨extended', ok⟩ := rest
    obtain ⟨records, row, length⟩ := ih ok
    exact ⟨record :: records, .cons (readRecord_ok read) row, congrArg _ length⟩

/-! ## The message -/

/-- Things of at least some size in a row. -/
theorem Row.size_le {α : Type} {stands : Nat → α → Nat → Prop} {size start stop : Nat} {items : List α}
    (least : ∀ start item stop, stands start item stop → start + size ≤ stop) (row : Row stands start items stop) :
    start + items.length * size ≤ stop := by
  induction row with
  | nil => simp
  | cons first rest ih =>
    have size := least _ _ _ first
    rw [List.length_cons, Nat.succ_mul]
    omega

/-- A question is a name of one octet at least, a type and a class. -/
theorem QuestionAt.size_le {question : Question} (stands : QuestionAt bytes start question stop) :
    start + 5 ≤ stop := by
  obtain ⟨labels, fixed, spells, -, -, -, -, rfl⟩ := stands.parts
  have bounds := spells.bounds
  omega

/-- A record is a name of one octet at least and the ten octets of its header. -/
theorem RecordAt.size_le {record : Record} (stands : RecordAt bytes start record stop) :
    start + 11 ≤ stop := by
  obtain ⟨labels, fixed, spells, -, -, -, -, -, rfl, -⟩ := stands.parts
  have bounds := spells.bounds
  omega

/-- `parse_response` without the call of `validate_minimum_shape`. -/
def parseResponseWithoutShape (bytes : Bytes) : Except Fault Response :=
  if bytes.length < dnsHeaderLen ∨ bytes.length > maxPacketLen then
    reject "DNS response length is outside the packet bound"
  else do
    let (id, cursor) ← takeU16 bytes 0
    let (flags, cursor) ← takeU16 bytes cursor
    let (questionCount, cursor) ← takeU16 bytes cursor
    let (answerCount, cursor) ← takeU16 bytes cursor
    let (authorityCount, cursor) ← takeU16 bytes cursor
    let (additionalCount, cursor) ← takeU16 bytes cursor
    let (questions, cursor) ← readQuestions bytes questionCount.toNat cursor
    let (answers, cursor) ← readRecords bytes answerCount.toNat cursor
    let (authorities, cursor) ← readRecords bytes authorityCount.toNat cursor
    let (extended, cursor) ← readAdditionals bytes additionalCount.toNat cursor none
    if cursor ≠ bytes.length then reject "DNS response has trailing bytes"
    else return ⟨id, flags &&& 0x8000 ≠ 0, flags &&& 0x0200 ≠ 0,
      ((extended.getD 0).toUInt16 <<< 4) ||| (flags &&& 0x000F), questions, answers, authorities⟩

variable {message : Response}

/-- What is read without the check is a response that fills the packet. -/
theorem parseResponseWithoutShape_message
    (ok : parseResponseWithoutShape bytes = .ok message) : MessageAt bytes message := by
  unfold parseResponseWithoutShape at ok
  split at ok
  · cases ok
  obtain ⟨⟨id, afterId⟩, read, ok⟩ := bind_eq_ok.mp ok
  obtain ⟨-, rfl, -⟩ := takeU16_ok_iff.mp read
  obtain ⟨⟨flags, afterFlags⟩, read, ok⟩ := bind_eq_ok.mp ok
  obtain ⟨-, rfl, -⟩ := takeU16_ok_iff.mp read
  obtain ⟨⟨questionCount, _⟩, read, ok⟩ := bind_eq_ok.mp ok
  obtain ⟨questionCountAt, rfl, -⟩ := takeU16_ok_iff.mp read
  obtain ⟨⟨answerCount, _⟩, read, ok⟩ := bind_eq_ok.mp ok
  obtain ⟨answerCountAt, rfl, -⟩ := takeU16_ok_iff.mp read
  obtain ⟨⟨authorityCount, _⟩, read, ok⟩ := bind_eq_ok.mp ok
  obtain ⟨authorityCountAt, rfl, -⟩ := takeU16_ok_iff.mp read
  obtain ⟨⟨additionalCount, _⟩, read, ok⟩ := bind_eq_ok.mp ok
  obtain ⟨additionalCountAt, rfl, -⟩ := takeU16_ok_iff.mp read
  obtain ⟨⟨questions, answersAt⟩, read, ok⟩ := bind_eq_ok.mp ok
  obtain ⟨questionRow, questionLength⟩ := readQuestions_ok read
  obtain ⟨⟨answers, authoritiesAt⟩, read, ok⟩ := bind_eq_ok.mp ok
  obtain ⟨answerRow, answerLength⟩ := readRecords_ok read
  obtain ⟨⟨authorities, additionalsAt⟩, read, ok⟩ := bind_eq_ok.mp ok
  obtain ⟨authorityRow, authorityLength⟩ := readRecords_ok read
  obtain ⟨⟨extended, afterAll⟩, read, ok⟩ := bind_eq_ok.mp ok
  obtain ⟨additionals, additionalRow, additionalLength⟩ := readAdditionals_ok read
  dsimp only at ok
  split at ok
  · cases ok
  rename_i whole
  cases Decidable.not_not.mp whole
  cases pure_eq_ok.mp ok
  exact {
    sections := ⟨answersAt, authoritiesAt, additionalsAt, additionals, questionRow, answerRow, authorityRow,
      additionalRow, additionalLength.trans additionalCountAt⟩
    questions := questionLength.trans questionCountAt
    answers := answerLength.trans answerCountAt
    authorities := authorityLength.trans authorityCountAt }

/-- The sizes that `validate_minimum_shape` asks for are there. -/
theorem MessageAt.shape (stands : MessageAt bytes message) :
    validateMinimumShape (bytes.length - dnsHeaderLen) (numberAt bytes 4 6) (numberAt bytes 6 8)
      (numberAt bytes 8 10) (numberAt bytes 10 12) = .ok () := by
  obtain ⟨answersAt, authoritiesAt, additionalsAt, additionals, questionRow, answerRow, authorityRow, additionalRow,
    additionalLength⟩ := stands.sections
  have questions := questionRow.size_le fun _ _ _ => QuestionAt.size_le
  have answers := answerRow.size_le fun _ _ _ => RecordAt.size_le
  have authorities := authorityRow.size_le fun _ _ _ => RecordAt.size_le
  have additionals := additionalRow.size_le fun _ _ _ => RecordAt.size_le
  rw [stands.questions] at questions
  rw [stands.answers] at answers
  rw [stands.authorities] at authorities
  rw [additionalLength] at additionals
  unfold validateMinimumShape
  rw [if_neg (by omega)]

/-- `parse_response` succeeds with a result if and only if it does so without the minimum-shape check. -/
theorem parseResponse_ok_iff (bytes : Bytes) (message : Response) :
    parseResponse bytes = .ok message ↔ parseResponseWithoutShape bytes = .ok message := by
  constructor
  · intro ok
    unfold parseResponse at ok
    unfold parseResponseWithoutShape
    split
    · rename_i outside
      rw [if_pos outside] at ok
      cases ok
    rename_i inside
    rw [if_neg inside] at ok
    simp only [bind_eq_ok] at ok ⊢
    obtain ⟨id, readId, flags, readFlags, questions, readQuestions, answers, readAnswers, authorities,
      readAuthorities, additionals, readAdditionals, _, -, rest⟩ := ok
    exact ⟨id, readId, flags, readFlags, questions, readQuestions, answers, readAnswers, authorities,
      readAuthorities, additionals, readAdditionals, rest⟩
  intro ok
  have shape := (parseResponseWithoutShape_message ok).shape
  unfold parseResponseWithoutShape at ok
  unfold parseResponse
  split
  · rename_i outside
    rw [if_pos outside] at ok
    cases ok
  rename_i inside
  rw [if_neg inside] at ok
  simp only [bind_eq_ok] at ok ⊢
  obtain ⟨id, readId, flags, readFlags, questions, readQuestions, answers, readAnswers, authorities,
    readAuthorities, additionals, readAdditionals, rest⟩ := ok
  refine ⟨id, readId, flags, readFlags, questions, readQuestions, answers, readAnswers, authorities,
    readAuthorities, additionals, readAdditionals, (), ?_, rest⟩
  -- the counts are the numbers of the header
  obtain ⟨-, idAt, -⟩ := takeU16_ok_iff.mp readId
  rw [idAt] at readFlags
  obtain ⟨-, flagsAt, -⟩ := takeU16_ok_iff.mp readFlags
  rw [flagsAt] at readQuestions
  obtain ⟨isQuestions, questionsAt, -⟩ := takeU16_ok_iff.mp readQuestions
  rw [questionsAt] at readAnswers
  obtain ⟨isAnswers, answersAt, -⟩ := takeU16_ok_iff.mp readAnswers
  rw [answersAt] at readAuthorities
  obtain ⟨isAuthorities, authoritiesAt, -⟩ := takeU16_ok_iff.mp readAuthorities
  rw [authoritiesAt] at readAdditionals
  obtain ⟨isAdditionals, -, -⟩ := takeU16_ok_iff.mp readAdditionals
  rw [isQuestions, isAnswers, isAuthorities, isAdditionals]
  exact shape

theorem parseResponse_message (ok : parseResponse bytes = .ok message) :
    MessageAt bytes message :=
  parseResponseWithoutShape_message ((parseResponse_ok_iff bytes message).mp ok)

end

/-- The minimum-shape check never changes what `parse_response` accepts and returns. -/
theorem minimumShape_redundant (bytes : Bytes) :
    (parseResponse bytes).toOption = (parseResponseWithoutShape bytes).toOption := by
  have same := parseResponse_ok_iff bytes
  cases parsed : parseResponse bytes with
  | ok message =>
    rw [(same message).mp parsed]
  | error error =>
    cases unchecked : parseResponseWithoutShape bytes with
    | ok message =>
      rw [(same message).mpr unchecked] at parsed
      cases parsed
    | error error => rfl

/-! ## Accesses to the packet -/

section

variable {bytes : Bytes} {cursor : Nat}

theorem takeU16_returns : Returns (takeU16 bytes cursor) := by
  unfold takeU16
  split
  · exact .ok
  · exact .reject

theorem takeU32_returns : Returns (takeU32 bytes cursor) := by
  refine .ite (fun inside => ?_) fun _ => .reject
  rw [octetsAt_inside (Nat.le_add_right _ _) inside]
  exact .ok

theorem takeU32Bounded_returns {bound : Nat} : Returns (takeU32Bounded bytes cursor bound) :=
  .ite (fun _ => .reject) fun _ => takeU32_returns

theorem readRData_returns {recordType : UInt16} {ttl start stop : Nat} (inside : stop ≤ bytes.length) :
    Returns (readRData bytes recordType ttl start stop) := by
  refine .ite (fun _ => .ite (fun _ => .reject) fun size => ?_) fun _ =>
    .ite (fun _ => .ite (fun _ => .reject) fun size => ?_) fun _ => .ite (fun _ => ?_) fun _ =>
    .ite (fun _ => ?_) fun _ => .ite (fun _ => .ok) fun _ => .ok
  · rw [octetAt_four (by omega)]
    exact .ok
  · have isStop : stop = start + 16 := by omega
    subst isStop
    rw [octetsAt_sixteen inside]
    exact .ok
  · exact (readName_returns bytes start).bind fun _ _ => .ite (fun _ => .reject) fun _ => .ok
  · refine (readName_returns bytes start).bind fun _ _ => (readName_returns bytes _).bind fun _ _ => ?_
    -- serial, refresh, retry, expire and the minimum
    exact takeU32Bounded_returns.bind fun _ _ => takeU32Bounded_returns.bind fun _ _ =>
      takeU32Bounded_returns.bind fun _ _ => takeU32Bounded_returns.bind fun _ _ =>
      takeU32Bounded_returns.bind fun _ _ => .ite (fun _ => .reject) fun _ => .ok

theorem readRecord_returns : Returns (readRecord bytes cursor) :=
  (readName_returns bytes cursor).bind fun _ _ => takeU16_returns.bind fun _ _ => takeU16_returns.bind fun _ _ =>
    takeU32_returns.bind fun _ _ => takeU16_returns.bind fun _ _ => .ite (fun _ => .reject) fun inside =>
    (readRData_returns (Nat.le_of_not_lt inside)).bind fun _ _ => .ok

theorem readRecords_returns : Returns (readRecords bytes count cursor) := by
  induction count generalizing cursor with
  | zero => exact .ok
  | succ count ih => exact readRecord_returns.bind fun _ _ => ih.bind fun _ _ => .ok

theorem readQuestions_returns : Returns (readQuestions bytes count cursor) := by
  induction count generalizing cursor with
  | zero => exact .ok
  | succ count ih =>
    exact (readName_returns bytes cursor).bind fun _ _ => takeU16_returns.bind fun _ _ =>
      takeU16_returns.bind fun _ _ => ih.bind fun _ _ => .ok

theorem readAdditionals_returns {extended : Option UInt8} :
    Returns (readAdditionals bytes count cursor extended) := by
  induction count generalizing cursor extended with
  | zero => exact .ok
  | succ count ih =>
    refine readRecord_returns.bind fun result _ => ?_
    dsimp only
    split
    · exact .reject
    · exact ih
    · exact ih

/-- No access of the reader is out of range and no loop of it goes on for ever. -/
theorem parseResponse_returns (bytes : Bytes) : Returns (parseResponse bytes) := by
  have shape : ∀ remaining questions answers authorities additionals,
      Returns (validateMinimumShape remaining questions answers authorities additionals) :=
    fun _ _ _ _ _ => .ite (fun _ => .reject) fun _ => .ok
  refine .ite (fun _ => .reject) fun _ => takeU16_returns.bind fun _ _ => takeU16_returns.bind fun _ _ =>
    takeU16_returns.bind fun _ _ => takeU16_returns.bind fun _ _ => takeU16_returns.bind fun _ _ =>
    takeU16_returns.bind fun _ _ => (shape _ _ _ _ _).bind fun _ _ => ?_
  exact readQuestions_returns.bind fun _ _ => readRecords_returns.bind fun _ _ =>
    readRecords_returns.bind fun _ _ => readAdditionals_returns.bind fun _ _ => .ite (fun _ => .reject) fun _ => .ok

end

/-- The reader of any packet returns: no index is out of range, and the loop of `read_name` ends within the rounds that
it is given, from every cursor. A name that it reads is the one that the packet spells there, with at most 255 octets in
its wire form, and the cursor stands after the part in place; a response that it returns fills the packet as the header
says. -/
theorem reader_safe (bytes : Bytes) :
    (∀ fault, parseResponse bytes = .error fault → ∃ error, fault = .returned error) ∧
    (∀ cursor fault, readName bytes cursor = .error fault → ∃ error, fault = .returned error) ∧
    (∀ cursor name stop, readName bytes cursor = .ok (name, stop) →
      ∃ labels, Spells bytes cursor labels stop ∧
        (∀ labels' stop', Spells bytes cursor labels' stop' → labels' = labels ∧ stop' = stop) ∧
        name.labels = labels.map foldLabel ∧ (∀ label ∈ labels, 1 ≤ label.length ∧ label.length ≤ maxLabelLen) ∧
        wireLength labels ≤ maxWireNameLen) ∧
    ∀ message, parseResponse bytes = .ok message → MessageAt bytes message := by
  refine ⟨parseResponse_returns bytes, readName_returns bytes, ?_, fun message => parseResponse_message⟩
  intro cursor name stop read
  obtain ⟨labels, spells, isName, fits⟩ := readName_spells read
  exact ⟨labels, spells, fun _ _ other => other.unique spells, isName, spells.label_lengths, fits⟩

end NbReq.Dns
