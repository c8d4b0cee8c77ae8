import NbReq.Dns.Reading

/-!
# Names from text to the packet and back

`normalize_dns_name` accepts a text by what is left of it without a final dot and with its letters folded
(`normalizeDnsName_ok_iff`), and `Name::from_ascii` makes the same name of every such text (`fromAscii_accepted`): 253
octets of text are 255 octets on the wire. A query for a name reads back as its question (`encodeQuery_reads_back`).
-/

namespace NbReq.Dns

/-! ## ASCII -/

/-- A statement about octets can be checked for each of them. -/
theorem forall_octet {p : UInt8 → Prop} (all : ∀ n : Fin 256, p (UInt8.ofNat n.val)) (octet : UInt8) : p octet := by
  have same : UInt8.ofNat octet.toNat = octet := UInt8.ofNat_toNat
  rw [← same]
  exact all ⟨octet.toNat, octet.toNat_lt⟩

theorem asciiLower_idem : ∀ octet : UInt8, asciiLower (asciiLower octet) = asciiLower octet :=
  forall_octet (by decide +kernel)

theorem asciiLower_eq_dot : ∀ octet : UInt8, asciiLower octet = 0x2E ↔ octet = 0x2E :=
  forall_octet (by decide +kernel)

theorem asciiLower_eq_hyphen : ∀ octet : UInt8, asciiLower octet = 0x2D ↔ octet = 0x2D :=
  forall_octet (by decide +kernel)

theorem asciiLower_isAscii : ∀ octet : UInt8, asciiLower octet < 0x80 ↔ octet < 0x80 :=
  forall_octet (by decide +kernel)

theorem isAscii_of_label : ∀ octet : UInt8, (isAsciiAlphanumeric octet || octet == 0x2D) = true → octet < 0x80 :=
  forall_octet (by decide +kernel)

/-! ## Labels -/

variable {label : Bytes}

@[simp]
theorem length_foldLabel : (foldLabel label).length = label.length := List.length_map ..

theorem foldLabel_idem : foldLabel (foldLabel label) = foldLabel label := by
  simp [foldLabel, asciiLower_idem]

variable {text : Bytes}

theorem splitOn_foldLabel : (foldLabel text).splitOn 0x2E = (text.splitOn 0x2E).map foldLabel := by
  induction text with
  | nil => rfl
  | cons octet rest ih =>
    have folded : foldLabel (octet :: rest) = asciiLower octet :: foldLabel rest := rfl
    rw [folded, List.splitOn_cons_eq_if_modifyHead, List.splitOn_cons_eq_if_modifyHead, ih]
    simp only [beq_iff_eq, asciiLower_eq_dot]
    split
    · rfl
    · cases rest.splitOn 0x2E <;> rfl

/-- The octets of a text are its dots and the octets of its labels. -/
theorem mem_splitOn {octet : UInt8} (mem : octet ∈ text) :
    octet = 0x2E ∨ ∃ label ∈ text.splitOn 0x2E, octet ∈ label := by
  induction text with
  | nil => cases mem
  | cons first rest ih =>
    rw [List.splitOn_cons_eq_if_modifyHead]
    simp only [beq_iff_eq]
    split
    · rename_i isDot
      rcases List.mem_cons.mp mem with rfl | mem
      · exact .inl isDot
      · refine (ih mem).imp_right ?_
        rintro ⟨label, isLabel, inside⟩
        exact ⟨label, List.mem_cons_of_mem _ isLabel, inside⟩
    cases split : rest.splitOn 0x2E with
    | nil => exact absurd split (List.splitOn_ne_nil _ _)
    | cons head tail =>
      rw [List.modifyHead_cons]
      rcases List.mem_cons.mp mem with rfl | mem
      · exact .inr ⟨_, List.mem_cons_self, List.mem_cons_self⟩
      refine (ih mem).imp_right ?_
      rintro ⟨label, isLabel, inside⟩
      rw [split] at isLabel
      rcases List.mem_cons.mp isLabel with rfl | isLabel
      · exact ⟨_, List.mem_cons_self, List.mem_cons_of_mem _ inside⟩
      · exact ⟨label, List.mem_cons_of_mem _ isLabel, inside⟩

/-- On the wire a text takes two octets more. -/
theorem wireLength_splitOn : wireLength (text.splitOn 0x2E) = text.length + 2 := by
  induction text with
  | nil => rfl
  | cons octet rest ih =>
    rw [List.splitOn_cons_eq_if_modifyHead]
    split
    · rw [wireLength_cons, ih, List.length_cons, List.length_nil]
      omega
    cases split : rest.splitOn 0x2E with
    | nil => exact absurd split (List.splitOn_ne_nil _ _)
    | cons head tail =>
      rw [split, wireLength_cons] at ih
      rw [List.modifyHead_cons, wireLength_cons, List.length_cons, List.length_cons]
      omega

theorem validateDnsLabel_foldLabel :
    validateDnsLabel (foldLabel label) = validateDnsLabel label := by
  have hyphen : ∀ octet : Option UInt8, octet.map asciiLower = some 0x2D ↔ octet = some 0x2D := by
    intro octet
    cases octet with
    | none => simp
    | some octet => simp [asciiLower_eq_hyphen]
  have letters : ((foldLabel label).all fun octet => isAsciiAlphanumeric octet || octet == 0x2D) =
      label.all fun octet => isAsciiAlphanumeric octet || octet == 0x2D := by
    have same : ∀ octet : UInt8, (isAsciiAlphanumeric (asciiLower octet) || asciiLower octet == 0x2D) =
        (isAsciiAlphanumeric octet || octet == 0x2D) := forall_octet (by decide +kernel)
    simp only [foldLabel, List.all_map, Function.comp_def, same]
  unfold validateDnsLabel
  rw [letters]
  simp only [foldLabel, List.isEmpty_map, List.length_map, List.head?_map, List.getLast?_map, hyphen]

theorem validateDnsLabel_ok (ok : validateDnsLabel label = .ok ()) :
    label ≠ [] ∧ label.length ≤ maxLabelLen ∧ ∀ octet ∈ label, octet < 0x80 := by
  unfold validateDnsLabel at ok
  split at ok
  · cases ok
  rename_i notEmpty
  split at ok
  · cases ok
  rename_i short
  split at ok
  · cases ok
  split at ok
  · cases ok
  rename_i letters
  rw [Bool.not_eq_true, Bool.not_eq_false'] at letters
  refine ⟨by simpa using notEmpty, Nat.le_of_not_lt short, fun octet mem => isAscii_of_label octet ?_⟩
  exact List.all_eq_true.mp letters octet mem

/-! ## Texts -/

/-- A folded text without a final dot that `normalize_dns_name` accepts. -/
structure Accepted (text : Bytes) : Prop where
  notEmpty : text ≠ []
  short : text.length ≤ maxDnsNameLen
  valid : ∀ label ∈ text.splitOn 0x2E, validateDnsLabel label = .ok ()

theorem withoutFinalDot_cases (text : Bytes) :
    text = withoutFinalDot text ∨ text = withoutFinalDot text ++ [0x2E] := by
  unfold withoutFinalDot
  split
  · rename_i dot
    obtain ⟨init, rfl⟩ := List.getLast?_eq_some_iff.mp dot
    exact .inr (by simp)
  · exact .inl rfl

theorem forM_ok_iff {ε α : Type} {f : α → Except ε Unit} {items : List α} :
    items.forM f = .ok () ↔ ∀ item ∈ items, f item = .ok () := by
  induction items with
  | nil => exact ⟨fun _ _ => nofun, fun _ => rfl⟩
  | cons item rest ih =>
    show (f item >>= fun _ => rest.forM f) = .ok () ↔ _
    rw [bind_eq_ok]
    constructor
    · rintro ⟨_, first, others⟩ other mem
      rcases List.mem_cons.mp mem with rfl | mem
      · exact first
      · exact ih.mp others other mem
    · intro all
      exact ⟨(), all item List.mem_cons_self, ih.mpr fun other mem => all other (List.mem_cons_of_mem _ mem)⟩

/-- The octets of an accepted text, folded or not, are ASCII. -/
theorem Accepted.isAscii (accepted : Accepted (foldLabel text)) : ∀ octet ∈ text, octet < 0x80 := by
  intro octet mem
  rw [← asciiLower_isAscii]
  rcases mem_splitOn (List.mem_map_of_mem mem : asciiLower octet ∈ foldLabel text) with dot | ⟨label, isLabel, inside⟩
  · rw [dot]
    decide
  · exact (validateDnsLabel_ok (accepted.valid label isLabel)).2.2 _ inside

variable {raw : Bytes}

theorem all_isAscii (accepted : Accepted (foldLabel (withoutFinalDot raw))) :
    raw.all (· < 0x80) = true := by
  have inside := accepted.isAscii
  rw [List.all_eq_true]
  intro octet mem
  rw [decide_eq_true_iff]
  rcases withoutFinalDot_cases raw with same | dotted
  · rw [same] at mem
    exact inside octet mem
  rw [dotted] at mem
  rcases List.mem_append.mp mem with mem | mem
  · exact inside octet mem
  · rw [List.mem_singleton.mp mem]
    decide

/-- The identity is the text without a final dot, folded; a text is accepted by its identity. -/
theorem normalizeDnsName_ok_iff {normalized : NormalizedDnsName} :
    normalizeDnsName raw = .ok normalized ↔
      Accepted (foldLabel (withoutFinalDot raw)) ∧
        normalized = ⟨foldLabel (withoutFinalDot raw), raw.getLast? = some 0x2E⟩ := by
  have identity : [0x2E].intercalate (((withoutFinalDot raw).splitOn 0x2E).map foldLabel) =
      foldLabel (withoutFinalDot raw) := by
    rw [← splitOn_foldLabel]
    exact List.intercalate_splitOn 0x2E
  have labels : (∀ label ∈ (foldLabel (withoutFinalDot raw)).splitOn 0x2E, validateDnsLabel label = .ok ()) ↔
      ∀ label ∈ (withoutFinalDot raw).splitOn 0x2E, validateDnsLabel label = .ok () := by
    rw [splitOn_foldLabel, List.forall_mem_map]
    simp only [validateDnsLabel_foldLabel]
  unfold normalizeDnsName
  constructor
  · intro ok
    split at ok
    · cases ok
    split at ok
    · cases ok
    split at ok
    · cases ok
    rename_i notRoot
    split at ok
    · cases ok
    rename_i short
    obtain ⟨_, valid, ok⟩ := bind_eq_ok.mp ok
    refine ⟨⟨?_, ?_, labels.mpr (forM_ok_iff.mp valid)⟩, ?_⟩
    · simpa [foldLabel] using notRoot
    · rw [length_foldLabel]
      exact Nat.le_of_not_lt short
    · rw [pure_eq_ok.mp ok, identity]
  · rintro ⟨accepted, rfl⟩
    have some : withoutFinalDot raw ≠ [] := by
      intro isEmpty
      exact accepted.notEmpty (by rw [isEmpty]; rfl)
    have notEmpty : raw ≠ [] := by
      rintro rfl
      exact some rfl
    have short : ¬(withoutFinalDot raw).length > maxDnsNameLen := by
      have short := accepted.short
      rw [length_foldLabel] at short
      exact Nat.not_lt.mpr short
    rw [if_neg (by simpa using notEmpty), if_neg (by rw [all_isAscii accepted]; decide), if_neg (by simpa using some),
      if_neg short, bind_eq_ok]
    exact ⟨(), forM_ok_iff.mpr (labels.mp accepted.valid), by rw [identity]; rfl⟩

variable {labels : List Bytes}

theorem foldLabels_ok {wireLen : Nat} (notEmpty : ∀ label ∈ labels, label ≠ [])
    (short : ∀ label ∈ labels, label.length ≤ maxLabelLen) (fits : wireLen + wireLength labels ≤ maxWireNameLen + 1) :
    Name.foldLabels wireLen labels = .ok (labels.map foldLabel) := by
  induction labels generalizing wireLen with
  | nil => rfl
  | cons label rest ih =>
    have someOctet := notEmpty label List.mem_cons_self
    have shortLabel := short label List.mem_cons_self
    rw [wireLength_cons] at fits
    have positive : 1 ≤ wireLength rest := Nat.le_add_right _ _
    rw [Name.foldLabels, if_neg (by simp [someOctet, Nat.not_lt.mpr shortLabel]), if_neg (by omega), bind_eq_ok]
    refine ⟨_, ih ?_ ?_ ?_, rfl⟩
    · exact fun other mem => notEmpty other (List.mem_cons_of_mem _ mem)
    · exact fun other mem => short other (List.mem_cons_of_mem _ mem)
    · omega

/-- Every text that is the accepted one up to case and a final dot gives the same name. -/
theorem fromAscii_accepted (accepted : Accepted (foldLabel (withoutFinalDot raw))) :
    Name.fromAscii raw = .ok ⟨(foldLabel (withoutFinalDot raw)).splitOn 0x2E⟩ := by
  have some : withoutFinalDot raw ≠ [] := by
    intro isEmpty
    exact accepted.notEmpty (by rw [isEmpty]; rfl)
  have notRoot : raw ≠ [0x2E] := by
    rintro rfl
    exact some rfl
  have valid : ∀ label ∈ (withoutFinalDot raw).splitOn 0x2E, label ≠ [] ∧ label.length ≤ maxLabelLen := by
    intro label mem
    have folded : foldLabel label ∈ (foldLabel (withoutFinalDot raw)).splitOn 0x2E := by
      rw [splitOn_foldLabel]
      exact List.mem_map_of_mem mem
    have ok := accepted.valid _ folded
    rw [validateDnsLabel_foldLabel] at ok
    exact ⟨(validateDnsLabel_ok ok).1, (validateDnsLabel_ok ok).2.1⟩
  have fits : 1 + wireLength ((withoutFinalDot raw).splitOn 0x2E) ≤ maxWireNameLen + 1 := by
    have short := accepted.short
    rw [length_foldLabel, maxDnsNameLen] at short
    rw [wireLength_splitOn, maxWireNameLen]
    omega
  unfold Name.fromAscii
  rw [if_neg (by rw [all_isAscii accepted]; decide), if_neg notRoot, if_neg (by simpa using some),
    foldLabels_ok (fun label mem => (valid label mem).1) (fun label mem => (valid label mem).2) fits, splitOn_foldLabel]
  rfl

/-- An accepted text has no final dot of its own. -/
theorem Accepted.withoutFinalDot (accepted : Accepted text) : withoutFinalDot text = text := by
  rcases withoutFinalDot_cases text with same | dotted
  · exact same.symm
  have empty : [] ∈ text.splitOn 0x2E := by
    rw [dotted, List.splitOn_append_cons_self]
    exact List.mem_append_right _ List.mem_cons_self
  cases accepted.valid [] empty

/-! ## Packets -/

section

variable {bytes rest : Bytes} {cursor : Nat}

theorem beNat_putU16 (value : UInt16) : beNat (putU16 value) = value.toNat := by
  have small := value.toNat_lt
  simp only [putU16, beNat, List.foldl_cons, List.foldl_nil, UInt16.toNat_toUInt8, UInt16.toNat_shiftRight]
  have shift : (UInt16.toNat 8) % 16 = 8 := by decide
  rw [shift, Nat.shiftRight_eq_div_pow]
  omega

/-- A number that was put there is taken. -/
theorem takeU16_put {value : UInt16} (here : bytes.drop cursor = putU16 value ++ rest) :
    takeU16 bytes cursor = .ok (value, cursor + 2) ∧ bytes.drop (cursor + 2) = rest := by
  have after : bytes.drop (cursor + 2) = rest := by
    rw [← List.drop_drop, here]
    rfl
  have inside : cursor + 2 ≤ bytes.length := by
    have length := congrArg List.length here
    simp only [List.length_drop, List.length_append, putU16, List.length_cons, List.length_nil] at length
    omega
  have number : numberAt bytes cursor (cursor + 2) = value.toNat := by
    rw [numberAt, span, Nat.add_sub_cancel_left, here]
    exact beNat_putU16 value
  exact ⟨takeU16_ok_iff.mpr ⟨number.symm, rfl, inside⟩, after⟩

theorem Name.encode_cons :
    Name.encode ⟨label :: labels⟩ = UInt8.ofNat label.length :: label ++ Name.encode ⟨labels⟩ := by
  simp [Name.encode]

theorem round_label {reader : NameReader}
    (here : bytes.drop reader.position = UInt8.ofNat label.length :: label ++ rest) (notEmpty : label ≠ [])
    (short : label.length ≤ maxLabelLen) (fits : reader.wireLen + (label.length + 1) ≤ maxWireNameLen) :
    reader.round bytes = .ok (.inr
      { reader with
        labels := reader.labels ++ [foldLabel label], wireLen := reader.wireLen + (label.length + 1)
        position := reader.position + 1 + label.length }) ∧
      bytes.drop (reader.position + 1 + label.length) = rest := by
  have positive : 0 < label.length := List.length_pos_iff.mpr notEmpty
  rw [maxLabelLen] at short
  have length : (UInt8.ofNat label.length).toNat = label.length := UInt8.toNat_ofNat_of_lt' (show label.length < 256 by omega)
  have octet : bytes[reader.position]? = some (UInt8.ofNat label.length) := by
    rw [← List.head?_drop, here]
    rfl
  have tail : bytes.drop (reader.position + 1) = label ++ rest := by
    rw [← List.drop_drop, here]
    rfl
  have read : span bytes (reader.position + 1) (reader.position + 1 + label.length) = label := by
    rw [span, Nat.add_sub_cancel_left, tail, List.take_left]
  have after : bytes.drop (reader.position + 1 + label.length) = rest := by
    rw [← List.drop_drop, tail, List.drop_left]
  have inside : reader.position + 1 + label.length ≤ bytes.length := by
    have total := congrArg List.length here
    simp only [List.length_drop, List.length_append, List.length_cons] at total
    omega
  have notPointer : ¬UInt8.ofNat label.length &&& 0xC0 = 0xC0 := by
    rw [isPointer_iff, length]
    omega
  have isLength : UInt8.ofNat label.length &&& 0xC0 = 0 := by
    rw [isLength_iff, length]
    omega
  have nonzero : UInt8.ofNat label.length ≠ 0 := by
    rw [Ne, ← UInt8.toNat_inj, length]
    exact Nat.pos_iff_ne_zero.mp positive
  refine ⟨?_, after⟩
  unfold NameReader.round
  rw [octet]
  dsimp only
  rw [if_neg notPointer, if_neg (Decidable.not_not.mpr isLength), if_neg nonzero, length, if_neg (by rw [maxLabelLen]; omega),
    if_neg (by omega), if_neg (by omega), octetsAt_inside (Nat.le_add_right _ _) inside, read]
  rfl

/-- The loop reads the labels of an encoded name and its zero octet. -/
theorem run_encoded (labels : List Bytes) (rounds : Nat) (reader : NameReader)
    (here : bytes.drop reader.position = Name.encode ⟨labels⟩ ++ rest) (direct : reader.resume = none)
    (valid : ∀ label ∈ labels, label ≠ [] ∧ label.length ≤ maxLabelLen)
    (fits : reader.wireLen + wireLength labels ≤ maxWireNameLen + 1) (enough : labels.length < rounds) :
    reader.run bytes rounds =
        .ok (⟨reader.labels ++ labels.map foldLabel⟩, reader.position + wireLength labels) ∧
      bytes.drop (reader.position + wireLength labels) = rest := by
  induction labels generalizing rounds reader with
  | nil =>
    cases rounds with
    | zero => cases enough
    | succ rounds =>
      have octet : bytes[reader.position]? = some 0 := by
        rw [← List.head?_drop, here]
        rfl
      have after : bytes.drop (reader.position + 1) = rest := by
        rw [← List.drop_drop, here]
        rfl
      refine ⟨?_, after⟩
      rw [NameReader.run, NameReader.round, octet]
      simp [direct]
  | cons label labels ih =>
    cases rounds with
    | zero => cases enough
    | succ rounds =>
      obtain ⟨notEmpty, short⟩ := valid label List.mem_cons_self
      rw [Name.encode_cons, List.append_assoc] at here
      rw [wireLength_cons] at fits
      have positive : 1 ≤ wireLength labels := Nat.le_add_right _ _
      obtain ⟨round, after⟩ := round_label here notEmpty short (by omega)
      rw [NameReader.run, round]
      dsimp only
      have place : reader.position + wireLength (label :: labels) =
          reader.position + 1 + label.length + wireLength labels := by
        rw [wireLength_cons]
        omega
      obtain ⟨ran, stop⟩ := ih rounds
        { reader with
          labels := reader.labels ++ [foldLabel label], wireLen := reader.wireLen + (label.length + 1)
          position := reader.position + 1 + label.length }
        after direct (fun other mem => valid other (List.mem_cons_of_mem _ mem)) (by dsimp only; omega)
        (Nat.lt_of_succ_lt_succ enough)
      rw [place]
      refine ⟨?_, stop⟩
      rw [ran]
      simp

theorem readName_encoded (here : bytes.drop cursor = Name.encode ⟨labels⟩ ++ rest)
    (valid : ∀ label ∈ labels, label ≠ [] ∧ label.length ≤ maxLabelLen) (fits : wireLength labels ≤ maxWireNameLen) :
    readName bytes cursor = .ok (⟨labels.map foldLabel⟩, cursor + wireLength labels) ∧
      bytes.drop (cursor + wireLength labels) = rest := by
  have few : labels.length ≤ wireLength labels := by
    clear here valid fits
    induction labels with
    | nil => exact Nat.zero_le _
    | cons label labels ih =>
      rw [wireLength_cons, List.length_cons]
      omega
  exact run_encoded labels (maxPointerHops + maxWireNameLen + 1) ⟨[], cursor, none, 0, [], 1⟩ here rfl valid
    (by dsimp only; omega) (by omega)

theorem length_encode : (Name.encode ⟨labels⟩).length = wireLength labels := by
  induction labels with
  | nil => rfl
  | cons label labels ih =>
    rw [Name.encode_cons, List.length_append, ih, wireLength_cons, List.length_cons]

/-- A query for a name of folded labels reads back as its question. -/
theorem encodeQuery_reads_back (id : UInt16) (recordType : RecordType) (notRoot : labels ≠ [])
    (valid : ∀ label ∈ labels, label ≠ [] ∧ label.length ≤ maxLabelLen) (folded : labels.map foldLabel = labels)
    (fits : wireLength labels ≤ maxWireNameLen) :
    ∃ packet, encodeQuery id ⟨labels⟩ recordType = .ok packet ∧
      parseResponse packet =
        .ok ⟨id, false, false, 0, [⟨⟨labels⟩, recordType.code, classIn⟩], [], []⟩ := by
  generalize isPacket : putU16 id ++ putU16 0x0100 ++ putU16 1 ++ putU16 0 ++ putU16 0 ++ putU16 0 ++
    Name.encode ⟨labels⟩ ++ putU16 recordType.code ++ putU16 classIn = packet
  have length : packet.length = 12 + wireLength labels + 4 := by
    rw [← isPacket]
    simp only [List.length_append, length_encode, putU16, List.length_cons, List.length_nil]
  have small : ¬packet.length > maxPacketLen := by
    rw [length, maxPacketLen]
    rw [maxWireNameLen] at fits
    omega
  refine ⟨packet, ?_, ?_⟩
  · have isRoot : ¬Name.isRoot ⟨labels⟩ = true := by simpa [Name.isRoot] using notRoot
    unfold encodeQuery
    rw [if_neg isRoot]
    dsimp only
    rw [isPacket, if_neg small]
  rw [parseResponse_ok_iff]
  -- what stands at each place of the packet
  have start : packet.drop 0 = putU16 id ++ (putU16 0x0100 ++ (putU16 1 ++ (putU16 0 ++ (putU16 0 ++ (putU16 0 ++
      (Name.encode ⟨labels⟩ ++ (putU16 recordType.code ++ (putU16 classIn ++ [])))))))) := by
    rw [← isPacket]
    simp only [List.append_assoc, List.drop_zero, List.append_nil]
  obtain ⟨readId, here⟩ := takeU16_put start
  obtain ⟨readFlags, here⟩ := takeU16_put here
  obtain ⟨readQuestionCount, here⟩ := takeU16_put here
  obtain ⟨readAnswerCount, here⟩ := takeU16_put here
  obtain ⟨readAuthorityCount, here⟩ := takeU16_put here
  obtain ⟨readAdditionalCount, here⟩ := takeU16_put here
  obtain ⟨readQuestion, here⟩ := readName_encoded here valid fits
  obtain ⟨readType, here⟩ := takeU16_put here
  obtain ⟨readClass, here⟩ := takeU16_put here
  rw [folded] at readQuestion
  have questions : readQuestions packet 1 12 =
      .ok ([⟨⟨labels⟩, recordType.code, classIn⟩], 12 + wireLength labels + 2 + 2) := by
    rw [readQuestions, bind_eq_ok]
    refine ⟨_, readQuestion, bind_eq_ok.mpr ⟨_, readType, bind_eq_ok.mpr ⟨_, readClass, ?_⟩⟩⟩
    rfl
  unfold parseResponseWithoutShape
  rw [if_neg (by rw [dnsHeaderLen]; omega)]
  refine bind_eq_ok.mpr ⟨_, readId, bind_eq_ok.mpr ⟨_, readFlags, bind_eq_ok.mpr ⟨_, readQuestionCount,
    bind_eq_ok.mpr ⟨_, readAnswerCount, bind_eq_ok.mpr ⟨_, readAuthorityCount, bind_eq_ok.mpr ⟨_, readAdditionalCount,
      bind_eq_ok.mpr ⟨_, questions, bind_eq_ok.mpr ⟨_, rfl, bind_eq_ok.mpr ⟨_, rfl, bind_eq_ok.mpr ⟨_, rfl, ?_⟩⟩⟩⟩⟩⟩⟩⟩⟩⟩
  have whole : ¬12 + wireLength labels + 2 + 2 ≠ packet.length := by
    rw [length]
    omega
  dsimp only
  rw [if_neg whole]
  rfl

end

/-- The identity of an accepted text is a name; a text that differs from it only in case or in a final dot is accepted
and gives the same name; and a query for the name reads back as one question for it, with the same id. -/
theorem normalized_reads_back (raw : Bytes) (normalized : NormalizedDnsName)
    (ok : normalizeDnsName raw = .ok normalized) :
    ∃ name, Name.fromAscii normalized.identity = .ok name ∧
      (∀ raw', eqIgnoreAsciiCase (withoutFinalDot raw') (withoutFinalDot raw) = true →
        Name.fromAscii raw' = .ok name ∧
          ∃ normalized', normalizeDnsName raw' = .ok normalized' ∧
            Name.fromAscii normalized'.identity = .ok name) ∧
      ∀ id recordType, ∃ packet message, encodeQuery id name recordType = .ok packet ∧
        parseResponse packet = .ok message ∧ message.id = id ∧
        message.questions = [⟨name, recordType.code, classIn⟩] := by
  obtain ⟨accepted, rfl⟩ := normalizeDnsName_ok_iff.mp ok
  generalize isText : foldLabel (withoutFinalDot raw) = text at accepted
  have folded : foldLabel (withoutFinalDot text) = text := by
    rw [accepted.withoutFinalDot, ← isText]
    exact foldLabel_idem
  have named : ∀ raw', foldLabel (withoutFinalDot raw') = text → Name.fromAscii raw' = .ok ⟨text.splitOn 0x2E⟩ := by
    intro raw' same
    rw [← same]
    exact fromAscii_accepted (by rw [same]; exact accepted)
  refine ⟨⟨text.splitOn 0x2E⟩, named text folded, ?_, ?_⟩
  · intro raw' alike
    have same : foldLabel (withoutFinalDot raw') = text := by
      rw [← isText]
      exact beq_iff_eq.mp alike
    refine ⟨named raw' same, ⟨text, raw'.getLast? = some 0x2E⟩, normalizeDnsName_ok_iff.mpr ?_, named text folded⟩
    rw [same]
    exact ⟨accepted, rfl⟩
  intro id recordType
  have valid : ∀ label ∈ text.splitOn 0x2E, label ≠ [] ∧ label.length ≤ maxLabelLen := by
    intro label mem
    have ok := validateDnsLabel_ok (accepted.valid label mem)
    exact ⟨ok.1, ok.2.1⟩
  have foldedLabels : (text.splitOn 0x2E).map foldLabel = text.splitOn 0x2E := by
    rw [← splitOn_foldLabel, ← isText, foldLabel_idem]
  have fits : wireLength (text.splitOn 0x2E) ≤ maxWireNameLen := by
    have short := accepted.short
    rw [maxDnsNameLen] at short
    rw [wireLength_splitOn, maxWireNameLen]
    omega
  obtain ⟨packet, encoded, parsed⟩ := encodeQuery_reads_back id recordType (List.splitOn_ne_nil _ _) valid
    foldedLabels fits
  exact ⟨packet, _, encoded, parsed, rfl, rfl⟩

theorem normalized_reads_back_example : ∃ normalized name,
    normalizeDnsName (ascii "WWW.Example.com.") = .ok normalized ∧ Name.fromAscii normalized.identity = .ok name ∧
    Name.fromAscii (ascii "www.example.COM") = .ok name := by
  have ok : normalizeDnsName (ascii "WWW.Example.com.") = .ok ⟨ascii "www.example.com", true⟩ :=
    ok_of_toOption (by decide +kernel)
  obtain ⟨name, isName, alike, -⟩ := normalized_reads_back _ _ ok
  exact ⟨_, name, ok, isName, (alike (ascii "www.example.COM") (by decide +kernel)).1⟩

end NbReq.Dns
