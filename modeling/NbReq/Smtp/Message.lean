import NbReq.Smtp.Client

/-!
# Messages as lines

`validate_message` of `smtp/src/request.rs` scans bytes; here its verdict is said of lines. The encoder of
`smtp/src/data.rs` then has to do with the same lines: what it sends is read back, line by line, by a receiver that
stops at the first line with a single dot and takes one leading dot off the others.

1. `validateMessage_iff`: the messages that are accepted.
2. `encodeChunks_received`: what a receiver makes of the chunks and the terminator.
-/

namespace NbReq.Smtp

/-! ## The grammar -/

def joinLines (lines : List Bytes) : Bytes := lines.flatMap (· ++ crlf)

def IsLineByte (byte : UInt8) : Prop := byte < 0x80 ∧ byte ≠ 0x7F ∧ (0x20 ≤ byte ∨ byte = 0x09)

structure IsMessageLine (line : Bytes) : Prop where
  bytes : ∀ byte ∈ line, IsLineByte byte
  short : line.length ≤ 998

def IsField (line : Bytes) : Prop :=
  ∃ name body, line = name ++ 0x3A :: body ∧ name ≠ [] ∧ ∀ byte ∈ name, 33 ≤ byte ∧ byte ≤ 126 ∧ byte ≠ 0x3A

def IsFolded (line : Bytes) : Prop := line.head? = some 0x20 ∨ line.head? = some 0x09

/-- Header fields, at least one, with the lines that continue them. -/
def IsHeader (lines : List Bytes) : Prop :=
  ∃ field rest, lines = field :: rest ∧ IsField field ∧ ∀ line ∈ rest, IsField line ∨ IsFolded line

/-- A header, an empty line and a body, whose last line need not end. -/
def IsMessage (message : Bytes) : Prop :=
  ∃ header body last, message = joinLines (header ++ [] :: body) ++ last ∧
    (∀ line ∈ header ++ body ++ [last], IsMessageLine line) ∧ IsHeader header

theorem joinLines_cons (line : Bytes) (lines : List Bytes) (rest : Bytes) :
    joinLines (line :: lines) ++ rest = line ++ 0x0D :: 0x0A :: (joinLines lines ++ rest) := by
  simp [joinLines, crlf]

theorem joinLines_append (left right : List Bytes) : joinLines (left ++ right) = joinLines left ++ joinLines right :=
  List.flatMap_append

theorem forall_mem_joinLines {P : UInt8 → Prop} (cr : P 0x0D) (lf : P 0x0A) {lines : List Bytes} {last : Bytes} :
    (∀ byte ∈ joinLines lines ++ last, P byte) ↔ ∀ line ∈ lines ++ [last], ∀ byte ∈ line, P byte := by
  induction lines with
  | nil => simp [joinLines]
  | cons line lines ih =>
    rw [joinLines_cons, List.cons_append, List.forall_mem_cons, ← ih, List.forall_mem_append, List.forall_mem_cons,
      List.forall_mem_cons]
    simp only [cr, lf, true_and]

variable {byte : UInt8}

theorem IsLineByte.ne (plain : IsLineByte byte) : byte ≠ 0x0D ∧ byte ≠ 0x0A := by
  constructor <;> rintro rfl <;> exact absurd plain (by unfold IsLineByte; decide)

theorem IsMessageLine.isLine {line : Bytes} (clean : IsMessageLine line) : IsLine line :=
  ⟨fun mem => (clean.bytes _ mem).ne.1 rfl, fun mem => (clean.bytes _ mem).ne.2 rfl⟩

/-- The first colon of a line whose name has none. -/
theorem idxOf?_colon {name : Bytes} (absent : 0x3A ∉ name) (body : Bytes) :
    (name ++ 0x3A :: body).idxOf? 0x3A = some name.length := by
  induction name with
  | nil => simp [List.idxOf?_cons]
  | cons byte rest ih =>
    rw [List.mem_cons, not_or] at absent
    rw [List.cons_append, List.idxOf?_cons, if_neg (by simpa using Ne.symm absent.1), ih absent.2]
    rfl

/-- The test of `validate_line` on a line with a colon. -/
theorem isField_iff {content : Bytes} :
    IsField content ↔ ∃ colon, content.idxOf? 0x3A = some colon ∧
      ¬(colon = 0 ∨ !(content.take colon).all fun byte => 33 ≤ byte && byte ≤ 126 && byte != 0x3A) := by
  constructor
  · rintro ⟨name, body, rfl, some_name, valid⟩
    have absent : (0x3A : UInt8) ∉ name := fun mem => (valid _ mem).2.2 rfl
    refine ⟨name.length, idxOf?_colon absent body, ?_⟩
    rw [List.take_left]
    simpa [some_name, and_assoc] using valid
  rintro ⟨colon, found, valid⟩
  obtain ⟨bound, colon_byte, -⟩ := List.idxOf?_eq_some_iff.mp found
  rw [not_or, Bool.not_eq_true', Bool.not_eq_false] at valid
  refine ⟨content.take colon, content.drop (colon + 1), ?_, ?_, ?_⟩
  · rw [← colon_byte, List.cons_getElem_drop_succ, List.take_append_drop]
  · intro empty
    have length := congrArg List.length empty
    rw [List.length_take_of_le (Nat.le_of_lt bound)] at length
    exact valid.1 length
  · simpa [and_assoc] using valid.2

/-- A field starts with its name, and not with white space. -/
theorem IsField.not_folded {content : Bytes} (field : IsField content) : content ≠ [] ∧ ¬IsFolded content := by
  obtain ⟨name, body, rfl, some_name, valid⟩ := field
  obtain ⟨first, rest, rfl⟩ := List.exists_cons_of_ne_nil some_name
  have printable := (valid first List.mem_cons_self).1
  refine ⟨by simp, ?_⟩
  rintro (space | space) <;> cases Option.some.inj space <;> exact absurd printable (by decide)

namespace MessageScan

variable {s s' : MessageScan} {line content text : Bytes} {lines : List Bytes}

/-! ## One line -/

/-- What the scan does at the end of a line. -/
def endLine (s : MessageScan) (content : Bytes) : Except SmtpError MessageScan :=
  (s.validateLine content).map fun s => { s with line := [], inHeaders := s.inHeaders && !content.isEmpty }

/-- What the scan does at the end of the message, in a line that has not ended. -/
def endMessage (s : MessageScan) (last : Bytes) : Except SmtpError MessageScan :=
  if last.isEmpty then .ok s else ({ s with line := last } : MessageScan).validateLine last

def endLines (s : MessageScan) : List Bytes → Except SmtpError MessageScan
  | [] => .ok s
  | line :: rest => (s.endLine line).bind fun s => s.endLines rest

theorem endLine_line (s : MessageScan) (line content : Bytes) :
    ({ s with line := line } : MessageScan).endLine content = s.endLine content := by
  unfold endLine validateLine
  dsimp only
  repeat' split
  all_goals rfl

theorem validateLine_field (inHeaders : s.inHeaders = true) (short : content.length ≤ 998) (field : IsField content) :
    s.validateLine content = .ok { s with headerCount := s.headerCount + 1, lastHadHeader := true } := by
  obtain ⟨some_content, not_folded⟩ := field.not_folded
  obtain ⟨colon, found, valid⟩ := isField_iff.mp field
  unfold IsFolded at not_folded
  unfold validateLine
  rw [if_neg (Nat.not_lt.mpr short), if_neg (by simp [inHeaders, some_content]), if_neg not_folded, found]
  exact if_neg valid

theorem validateLine_folded (continued : s.lastHadHeader = true) (short : content.length ≤ 998)
    (folded : IsFolded content) : s.validateLine content = .ok s := by
  unfold validateLine
  rw [if_neg (Nat.not_lt.mpr short)]
  rw [continued]
  split
  · rfl
  · exact if_pos folded

theorem validateLine_skip (skipped : s.inHeaders = false ∨ content = []) (short : content.length ≤ 998) :
    s.validateLine content = .ok s := by
  unfold validateLine
  rw [if_neg (Nat.not_lt.mpr short)]
  refine if_pos ?_
  rcases skipped with body | rfl
  · simp [body]
  · simp

/-- What a line can be that passes. -/
theorem validateLine_cases (passed : s.validateLine content = .ok s') :
    content.length ≤ 998 ∧
      ((s.inHeaders = false ∨ content = []) ∧ s' = s ∨
        s.inHeaders = true ∧ content ≠ [] ∧ IsFolded content ∧ s.lastHadHeader = true ∧ s' = s ∨
        s.inHeaders = true ∧ IsField content ∧
          s' = { s with headerCount := s.headerCount + 1, lastHadHeader := true }) := by
  unfold validateLine at passed
  split at passed
  · cases passed
  next short =>
  refine ⟨Nat.le_of_not_lt short, ?_⟩
  split at passed
  · next skipped =>
    cases passed
    exact .inl ⟨by simpa using skipped, rfl⟩
  next header =>
  simp only [Bool.or_eq_true, Bool.not_eq_true', List.isEmpty_iff, not_or, Bool.not_eq_false] at header
  split at passed
  · next folded =>
    split at passed
    · next continued =>
      cases passed
      exact .inr (.inl ⟨header.1, header.2, folded, continued, rfl⟩)
    · cases passed
  split at passed
  · cases passed
  next colon found =>
  split at passed
  · cases passed
  · next valid =>
    cases passed
    exact .inr (.inr ⟨header.1, isField_iff.mpr ⟨colon, found, valid⟩, rfl⟩)

/-! ## From bytes to lines -/

/-- A byte that the scan takes as part of a line. -/
def Plain (byte : UInt8) : Prop := byte ≠ 0x0D ∧ byte ≠ 0x0A ∧ ¬((byte < 0x20 ∧ byte ≠ 0x09) ∨ byte = 0x7F)

theorem scan_plain (plain : Plain byte) (previous : Option UInt8) (rest : Bytes) :
    s.scan previous (byte :: rest) = ({ s with line := s.line ++ [byte] } : MessageScan).scan (some byte) rest := by
  rw [scan, if_neg plain.2.1, if_neg (fun bare => plain.1 bare.1), if_neg (fun control => plain.2.2 control.2)]

/-- A line and its line end. -/
theorem scan_line (plain : ∀ byte ∈ line, Plain byte) (previous : Option UInt8) (rest : Bytes) :
    s.scan previous (line ++ 0x0D :: 0x0A :: rest) =
      (s.endLine (s.line ++ line)).bind fun s => s.scan (some 0x0A) rest := by
  induction line generalizing s previous with
  | nil =>
    rw [List.nil_append, List.append_nil, scan, if_neg (by decide), if_neg (by simp), if_neg (by simp), scan,
      if_pos rfl, if_neg (by simp), List.dropLast_concat, ← endLine_line s (s.line ++ [0x0D])]
    unfold endLine
    split
    · next failed => rw [failed]; rfl
    next passed =>
    rw [passed]
    obtain ⟨-, ⟨-, rfl⟩ | ⟨-, -, -, -, rfl⟩ | ⟨-, -, rfl⟩⟩ := validateLine_cases passed
    all_goals
      dsimp only [Except.map, Except.bind]
      rw [List.dropLast_concat]
  | cons byte line ih =>
    rw [List.cons_append, scan_plain (plain byte List.mem_cons_self),
      ih (fun byte mem => plain byte (List.mem_cons_of_mem _ mem)), endLine_line, List.append_assoc]
    rfl

/-- The bytes after the last line end. -/
theorem scan_last (plain : ∀ byte ∈ line, Plain byte) (previous : Option UInt8) :
    s.scan previous line = s.endMessage (s.line ++ line) := by
  induction line generalizing s previous with
  | nil =>
    rw [List.append_nil, scan]
    rfl
  | cons byte line ih =>
    rw [scan_plain (plain byte List.mem_cons_self), ih fun byte mem => plain byte (List.mem_cons_of_mem _ mem),
      List.append_assoc]
    unfold endMessage
    rw [if_neg (by simp), if_neg (by simp)]
    rfl

theorem endLine_cases (ended : s.endLine content = .ok s') :
    ∃ passed, s.validateLine content = .ok passed ∧
      s' = { passed with line := [], inHeaders := passed.inHeaders && !content.isEmpty } := by
  unfold endLine at ended
  cases checked : s.validateLine content with
  | error error => rw [checked] at ended; cases ended
  | ok passed =>
    rw [checked] at ended
    exact ⟨passed, rfl, (Except.ok.inj ended).symm⟩

/-- A whole message. -/
theorem scan_join (plain : ∀ line ∈ lines, ∀ byte ∈ line, Plain byte) (lastPlain : ∀ byte ∈ line, Plain byte)
    (fresh : s.line = []) (previous : Option UInt8) :
    s.scan previous (joinLines lines ++ line) = (s.endLines lines).bind fun s => s.endMessage line := by
  induction lines generalizing s previous with
  | nil =>
    rw [joinLines, List.flatMap_nil, List.nil_append, scan_last lastPlain, fresh]
    rfl
  | cons first rest ih =>
    rw [List.forall_mem_cons] at plain
    rw [joinLines_cons, scan_line plain.1, fresh, List.nil_append, endLines]
    cases ended : s.endLine first with
    | error error => rfl
    | ok next =>
      obtain ⟨passed, -, rfl⟩ := endLine_cases ended
      exact ih plain.2 rfl _

/-- A text that passes has no CR and no LF but in its line ends. -/
theorem first_line {previous : Option UInt8} (start : previous ≠ some 0x0D) (passed : s.scan previous text = .ok s') :
    (∀ byte ∈ text, Plain byte) ∨
      ∃ line rest, text = line ++ 0x0D :: 0x0A :: rest ∧ ∀ byte ∈ line, Plain byte := by
  induction text generalizing s previous with
  | nil => exact .inl (by simp)
  | cons byte rest ih =>
    rw [scan] at passed
    split at passed
    · cases passed
    next no_lf =>
    split at passed
    · cases passed
    next no_bare =>
    split at passed
    · cases passed
    next no_control =>
    by_cases cr : byte = 0x0D
    · subst cr
      obtain ⟨rest, rfl⟩ : ∃ after, rest = 0x0A :: after := by
        cases rest with
        | nil => simp at no_bare
        | cons next after => exact ⟨after, by simpa using no_bare⟩
      exact .inr ⟨[], rest, rfl, by simp⟩
    have plain : Plain byte := ⟨cr, no_lf, fun control => no_control ⟨cr, control⟩⟩
    rcases ih (by simpa using cr) passed with all | ⟨line, after, rfl, line_plain⟩
    · exact .inl (List.forall_mem_cons.mpr ⟨plain, all⟩)
    · exact .inr ⟨byte :: line, after, rfl, List.forall_mem_cons.mpr ⟨plain, line_plain⟩⟩

/-- A text that passes splits into lines. -/
theorem lines_of_scan {previous : Option UInt8} (start : previous ≠ some 0x0D)
    (passed : s.scan previous text = .ok s') :
    ∃ lines last, text = joinLines lines ++ last ∧ (∀ line ∈ lines, ∀ byte ∈ line, Plain byte) ∧
      ∀ byte ∈ last, Plain byte := by
  induction length : text.length using Nat.strong_induction_on generalizing s previous text with
  | _ n ih =>
    rcases first_line start passed with all | ⟨line, rest, rfl, plain⟩
    · exact ⟨[], text, rfl, by simp, all⟩
    rw [scan_line plain] at passed
    cases ended : s.endLine (s.line ++ line) with
    | error error => rw [ended] at passed; cases passed
    | ok next =>
      rw [ended] at passed
      have shorter : rest.length < n := by
        rw [← length, List.length_append, List.length_cons, List.length_cons]
        omega
      obtain ⟨lines, last, rfl, lines_plain, last_plain⟩ := ih _ shorter (by decide) passed rfl
      exact ⟨line :: lines, last, (joinLines_cons ..).symm, List.forall_mem_cons.mpr ⟨plain, lines_plain⟩, last_plain⟩

/-! ## From lines to the message -/

/-- After the header, lines only have to be short. -/
theorem endLines_body (body : s.inHeaders = false) (fresh : s.line = []) :
    s.endLines lines = .ok s' ↔ s' = s ∧ ∀ line ∈ lines, line.length ≤ 998 := by
  induction lines with
  | nil => simp [endLines, eq_comm]
  | cons line rest ih =>
    rw [endLines]
    by_cases short : line.length ≤ 998
    · have same : s.endLine line = .ok s := by
        rw [endLine, validateLine_skip (.inl body) short]
        obtain ⟨line, inHeaders, count, had⟩ := s
        cases body
        cases fresh
        rfl
      rw [same, List.forall_mem_cons]
      simpa [Except.bind, short] using ih
    · have refused : ∃ error, s.endLine line = .error error := by
        unfold endLine validateLine
        exact ⟨_, by rw [if_pos (Nat.lt_of_not_le short)]; rfl⟩
      obtain ⟨error, refused⟩ := refused
      rw [refused]
      simp [Except.bind, short]

theorem endLine_header (passed : s.validateLine content = .ok s') (inHeaders : s'.inHeaders = true)
    (some_content : content ≠ []) : s.endLine content = .ok { s' with line := [] } := by
  rw [endLine, passed]
  simp [Except.map, inHeaders, some_content]

/-- The lines up to the empty one are a header. -/
theorem header_of_endLines (inHeaders : s.inHeaders = true) (counted : s.headerCount ≠ 0 → s.lastHadHeader = true)
    (ended : s.endLines lines = .ok s') (left : s'.inHeaders = false) (some_field : s'.headerCount ≠ 0) :
    ∃ header body, lines = header ++ [] :: body ∧ (∀ line ∈ lines, line.length ≤ 998) ∧
      (∀ line ∈ header, IsField line ∨ IsFolded line) ∧ (s.lastHadHeader = false → IsHeader header) := by
  induction lines generalizing s with
  | nil =>
    cases ended
    rw [inHeaders] at left
    cases left
  | cons line rest ih =>
    rw [endLines] at ended
    cases first : s.endLine line with
    | error error => rw [first] at ended; cases ended
    | ok next =>
      rw [first] at ended
      obtain ⟨passed, checked, rfl⟩ := endLine_cases first
      obtain ⟨short, ⟨body | rfl, rfl⟩ | ⟨-, some_line, folded, continued, rfl⟩ | ⟨-, field, rfl⟩⟩ :=
        validateLine_cases checked
      · rw [inHeaders] at body
        cases body
      · -- The empty line: nothing after it belongs to the header.
        obtain ⟨rfl, shorts⟩ := (endLines_body (by simp) rfl).mp ended
        refine ⟨[], rest, rfl, List.forall_mem_cons.mpr ⟨short, shorts⟩, by simp, fun none => ?_⟩
        rw [counted some_field] at none
        cases none
      · obtain ⟨header, body, rfl, shorts, valid, -⟩ :=
          ih (s := { passed with line := [], inHeaders := passed.inHeaders && !line.isEmpty })
            (by simp [inHeaders, some_line]) counted ended
        refine ⟨line :: header, body, rfl, List.forall_mem_cons.mpr ⟨short, shorts⟩,
          List.forall_mem_cons.mpr ⟨.inr folded, valid⟩, fun none => ?_⟩
        rw [continued] at none
        cases none
      · obtain ⟨header, body, rfl, shorts, valid, -⟩ :=
          ih (by simp [inHeaders, field.not_folded.1]) (fun _ => rfl) ended
        exact ⟨line :: header, body, rfl, List.forall_mem_cons.mpr ⟨short, shorts⟩,
          List.forall_mem_cons.mpr ⟨.inl field, valid⟩, fun _ => ⟨line, header, rfl, field, valid⟩⟩

/-- The header and what follows it, after its first field. -/
theorem endLines_of_continued {header body : List Bytes} (inHeaders : s.inHeaders = true) (fresh : s.line = [])
    (continued : s.lastHadHeader = true) (valid : ∀ line ∈ header, IsField line ∨ IsFolded line)
    (short : ∀ line ∈ header ++ body, line.length ≤ 998) :
    ∃ count, s.endLines (header ++ [] :: body) =
      .ok { s with inHeaders := false, headerCount := s.headerCount + count } := by
  induction header generalizing s with
  | nil =>
    refine ⟨0, ?_⟩
    have empty : s.endLine [] = .ok { s with inHeaders := false } := by
      rw [endLine, validateLine_skip (.inr rfl) (by simp)]
      simp [Except.map, fresh]
    rw [List.nil_append, endLines, empty]
    exact (endLines_body (s := { s with inHeaders := false }) rfl fresh).mpr ⟨rfl, short⟩
  | cons line header ih =>
    rw [List.forall_mem_cons] at valid
    rw [List.cons_append, List.forall_mem_cons] at short
    rw [List.cons_append, endLines]
    rcases valid.1 with field | folded
    · rw [endLine_header (validateLine_field inHeaders short.1 field) inHeaders field.not_folded.1]
      obtain ⟨count, ended⟩ := ih (s := { s with line := [], headerCount := s.headerCount + 1, lastHadHeader := true })
        inHeaders rfl rfl valid.2 short.2
      refine ⟨count + 1, ended.trans ?_⟩
      rw [← fresh, ← continued, Nat.add_assoc, Nat.add_comm 1]
    · have some_line : line ≠ [] := by
        rintro rfl
        simp [IsFolded] at folded
      rw [endLine_header (validateLine_folded continued short.1 folded) inHeaders some_line]
      obtain ⟨count, ended⟩ := ih (s := { s with line := [] }) inHeaders rfl continued valid.2 short.2
      exact ⟨count, ended.trans (by rw [← fresh])⟩

theorem endLines_of_header {header body : List Bytes} (inHeaders : s.inHeaders = true) (fresh : s.line = [])
    (valid : IsHeader header) (short : ∀ line ∈ header ++ body, line.length ≤ 998) :
    ∃ count, s.endLines (header ++ [] :: body) =
      .ok { s with inHeaders := false, headerCount := s.headerCount + (count + 1), lastHadHeader := true } := by
  obtain ⟨field, rest, rfl, isField, valid⟩ := valid
  rw [List.cons_append, List.forall_mem_cons] at short
  rw [List.cons_append, endLines,
    endLine_header (validateLine_field inHeaders short.1 isField) inHeaders isField.not_folded.1]
  obtain ⟨count, ended⟩ := endLines_of_continued
    (s := { s with line := [], headerCount := s.headerCount + 1, lastHadHeader := true })
    inHeaders rfl rfl valid short.2
  refine ⟨count, ended.trans ?_⟩
  rw [← fresh, Nat.add_assoc, Nat.add_comm 1]

/-- A last line that has not ended leaves the header as it is. -/
theorem endMessage_body (left : s.inHeaders = false) (short : line.length ≤ 998) :
    ∃ last, s.endMessage line = .ok { s with line := last } := by
  unfold endMessage
  split
  · exact ⟨s.line, rfl⟩
  · exact ⟨line, validateLine_skip (.inl left) short⟩

theorem endMessage_cases (ended : s.endMessage line = .ok s') (left : s'.inHeaders = false) :
    s.inHeaders = false ∧ line.length ≤ 998 ∧ s'.headerCount = s.headerCount := by
  unfold endMessage at ended
  split at ended
  · next empty =>
    cases ended
    rw [List.isEmpty_iff.mp empty]
    exact ⟨left, Nat.zero_le _, rfl⟩
  · obtain ⟨short, ⟨-, rfl⟩ | ⟨inHeaders, -, -, -, rfl⟩ | ⟨inHeaders, -, rfl⟩⟩ := validateLine_cases ended
    · exact ⟨left, short, rfl⟩
    · exact absurd (inHeaders.symm.trans left) (by decide)
    · exact absurd (inHeaders.symm.trans left) (by decide)

end MessageScan

open MessageScan

/-! ## The messages that are accepted -/

theorem isLineByte_iff : IsLineByte byte ↔ byte < 0x80 ∧ Plain byte := by
  simp only [IsLineByte, Plain, ne_eq, ← UInt8.toNat_inj, UInt8.lt_iff_toNat_lt, UInt8.le_iff_toNat_le,
    UInt8.reduceToNat]
  omega

theorem isMessageLine_iff {line : Bytes} :
    IsMessageLine line ↔ (∀ byte ∈ line, byte < 0x80) ∧ (∀ byte ∈ line, Plain byte) ∧ line.length ≤ 998 := by
  constructor
  · rintro ⟨bytes, short⟩
    exact ⟨fun byte mem => (isLineByte_iff.mp (bytes byte mem)).1,
      fun byte mem => (isLineByte_iff.mp (bytes byte mem)).2, short⟩
  · rintro ⟨seven_bit, plain, short⟩
    exact ⟨fun byte mem => isLineByte_iff.mpr ⟨seven_bit byte mem, plain byte mem⟩, short⟩

variable {message : Bytes}

/-- What a message is that `validate_message` accepts. -/
theorem isMessage_of_validate {capacity : Nat} (valid : validateMessage message capacity = .ok ()) :
    IsMessage message := by
  unfold validateMessage at valid
  split at valid
  · cases valid
  split at valid
  · cases valid
  next checked =>
  split at valid
  · cases valid
  next s scanned =>
  split at valid
  · cases valid
  next final =>
  simp only [Bool.or_eq_true, Bool.not_eq_true', List.isEmpty_iff, not_or, Bool.not_eq_false, isAscii, List.all_eq_true,
    decide_eq_true_eq] at checked
  simp only [Bool.or_eq_true, beq_iff_eq, not_or, Bool.not_eq_true] at final
  obtain ⟨lines, last, rfl, plain, lastPlain⟩ := lines_of_scan (by decide) scanned
  rw [scan_join plain lastPlain rfl] at scanned
  cases ended : (⟨[], true, 0, false⟩ : MessageScan).endLines lines with
  | error error => rw [ended] at scanned; cases scanned
  | ok before =>
    rw [ended] at scanned
    obtain ⟨left, lastShort, count⟩ := endMessage_cases scanned final.1
    rw [count] at final
    obtain ⟨header, body, rfl, short, -, isHeader⟩ := header_of_endLines rfl (by simp) ended left final.2
    have seven_bit := (forall_mem_joinLines (by decide) (by decide)).mp checked.1.2
    have clean : ∀ line ∈ (header ++ [] :: body) ++ [last], IsMessageLine line := by
      intro line mem
      refine isMessageLine_iff.mpr ⟨seven_bit line mem, ?_⟩
      rcases List.mem_append.mp mem with inside | inside
      · exact ⟨plain line inside, short line inside⟩
      · cases List.mem_singleton.mp inside
        exact ⟨lastPlain, lastShort⟩
    refine ⟨header, body, last, rfl, fun line mem => clean line ?_, isHeader rfl⟩
    simp only [List.mem_append, List.mem_cons] at mem ⊢
    tauto

/-- The messages that `validate_message` accepts. -/
theorem validateMessage_iff (message : Bytes) (capacity : Nat) (allocated : capacity ≤ maxMessageBytes)
    (sized : message.length + (messageSuffix message).length ≤ maxMessageBytes) :
    validateMessage message capacity = .ok () ↔ IsMessage message := by
  refine ⟨isMessage_of_validate, ?_⟩
  rintro ⟨header, body, last, rfl, clean, isHeader⟩
  have clean' : ∀ line ∈ (header ++ [] :: body) ++ [last], IsMessageLine line := by
    intro line mem
    by_cases empty : line = []
    · exact empty ▸ ⟨by simp, by simp⟩
    · refine clean line ?_
      simp only [List.mem_append, List.mem_cons, empty, false_or] at mem ⊢
      exact mem
  have seven_bit := (forall_mem_joinLines (by decide) (by decide)).mpr fun line mem byte in_line =>
    (isLineByte_iff.mp ((clean' line mem).bytes byte in_line)).1
  have no_null : ∀ byte ∈ joinLines (header ++ [] :: body) ++ last, byte ≠ 0 :=
    (forall_mem_joinLines (by decide) (by decide)).mpr fun line mem byte in_line => by
      rintro rfl
      exact absurd ((clean' line mem).bytes 0 in_line) (by unfold IsLineByte; decide)
  have some_message : joinLines (header ++ [] :: body) ++ last ≠ [] := by
    simp [joinLines, crlf]
  have plain : ∀ line ∈ (header ++ [] :: body) ++ [last], ∀ byte ∈ line, Plain byte :=
    fun line mem => (isMessageLine_iff.mp (clean' line mem)).2.1
  rw [List.forall_mem_append, List.forall_mem_singleton] at plain clean
  have short : ∀ line ∈ header ++ body, line.length ≤ 998 := fun line mem => (clean.1 line mem).short
  obtain ⟨count, ended⟩ := endLines_of_header (s := ⟨[], true, 0, false⟩) rfl rfl isHeader short
  obtain ⟨final, finished⟩ := endMessage_body (s := ⟨[], false, 0 + (count + 1), true⟩) rfl clean.2.short
  have scanned := scan_join (s := ⟨[], true, 0, false⟩) plain.1 plain.2 rfl none
  rw [ended] at scanned
  unfold validateMessage
  rw [if_neg (by omega), if_neg, scanned.trans finished]
  · simp
  · generalize joinLines (header ++ [] :: body) ++ last = message at seven_bit no_null some_message
    have null : 0 ∉ message := fun mem => no_null 0 mem rfl
    simpa [isAscii, some_message, null] using seven_bit

/-- A subject and a body of one line with a dot, without a line end. -/
theorem validateMessage_iff_sample :
    IsMessage (ascii "Subject: a\r\n b\r\n\r\n.") ∧
      (validateMessage (ascii "Subject: a\r\n b\r\n\r\n.") 64 = .ok () ↔
        IsMessage (ascii "Subject: a\r\n b\r\n\r\n.")) := by
  have accepted := validateMessage_iff (ascii "Subject: a\r\n b\r\n\r\n.") 64 (by decide) (by decide)
  exact ⟨accepted.mp (by decide), accepted⟩

/-! ## What a receiver reads -/

def unstuff (line : Bytes) : Bytes := if line.head? = some 0x2E then line.tail else line

def stuff (line : Bytes) : Bytes := if line.head? = some 0x2E then 0x2E :: line else line

theorem unstuff_stuff (line : Bytes) : unstuff (stuff line) = line := by
  unfold stuff
  split
  · rfl
  · next plain => exact if_neg plain

theorem stuff_ne (line : Bytes) : stuff line ≠ [0x2E] := by
  unfold stuff
  split
  · next dot =>
    intro single
    rw [(List.cons.inj single).2] at dot
    cases dot
  · next plain =>
    rintro rfl
    exact plain rfl

theorem IsLine.stuff {line : Bytes} (isLine : IsLine line) : IsLine (stuff line) := by
  unfold Smtp.stuff
  split
  · simpa [IsLine] using isLine
  · exact isLine

/-- Inside a line nothing is added. -/
theorem stuffDots_inside {line : Bytes} (isLine : IsLine line) (rest : Bytes) :
    stuffDots false (line ++ 0x0D :: 0x0A :: rest) = line ++ 0x0D :: 0x0A :: stuffDots true rest := by
  induction line with
  | nil => simp [stuffDots]
  | cons byte line ih =>
    have tail : IsLine line :=
      ⟨fun mem => isLine.1 (List.mem_cons_of_mem _ mem), fun mem => isLine.2 (List.mem_cons_of_mem _ mem)⟩
    have no_lf : byte ≠ 0x0A := fun lf => isLine.2 (lf ▸ List.mem_cons_self)
    rw [List.cons_append, stuffDots, if_neg (by simp), decide_eq_false no_lf, ih tail]
    rfl

theorem stuffDots_line {line : Bytes} (isLine : IsLine line) (rest : Bytes) :
    stuffDots true (line ++ 0x0D :: 0x0A :: rest) = stuff line ++ 0x0D :: 0x0A :: stuffDots true rest := by
  cases line with
  | nil => simp [stuffDots, stuff]
  | cons byte line =>
    have inside := stuffDots_inside
      ⟨fun mem => isLine.1 (List.mem_cons_of_mem _ mem), fun mem => isLine.2 (List.mem_cons_of_mem _ mem)⟩
      rest
    have no_lf : byte ≠ 0x0A := fun lf => isLine.2 (lf ▸ List.mem_cons_self)
    rw [List.cons_append, stuffDots, decide_eq_false no_lf, inside]
    by_cases dot : byte = 0x2E
    · simp [dot, stuff]
    · simp [dot, stuff]

theorem stuffDots_joinLines {lines : List Bytes} (isLines : ∀ line ∈ lines, IsLine line) :
    stuffDots true (joinLines lines) = joinLines (lines.map stuff) := by
  induction lines with
  | nil => rfl
  | cons line lines ih =>
    rw [List.forall_mem_cons] at isLines
    have first := joinLines_cons line lines []
    have second := joinLines_cons (stuff line) (lines.map stuff) []
    rw [List.append_nil, List.append_nil] at first second
    rw [first, stuffDots_line isLines.1, ih isLines.2, List.map_cons, second]

/-- With the line end it gets, an accepted message is a list of lines. -/
theorem IsMessage.lines (isMessage : IsMessage message) :
    ∃ lines, message ++ messageSuffix message = joinLines lines ∧ ∀ line ∈ lines, IsLine line := by
  obtain ⟨header, body, last, rfl, clean, -⟩ := isMessage
  have isLines : ∀ line ∈ header ++ [] :: body, IsLine line := by
    intro line mem
    by_cases empty : line = []
    · simp [empty, IsLine]
    · refine (clean line ?_).isLine
      simp only [List.mem_append, List.mem_cons, empty, false_or] at mem ⊢
      exact .inl mem
  unfold messageSuffix
  by_cases ended : last = []
  · obtain ⟨init, final, split⟩ := (List.eq_nil_or_concat (header ++ [] :: body)).resolve_left (by simp)
    rw [List.concat_eq_append] at split
    have line_end : [0x0D, 0x0A] <:+ joinLines (header ++ [] :: body) := by
      rw [split, joinLines_append]
      exact ⟨joinLines init ++ final, by simp [joinLines, crlf]⟩
    refine ⟨header ++ [] :: body, ?_, isLines⟩
    rw [ended, List.append_nil, if_pos line_end, List.append_nil]
  · -- The last byte is one of the line that has not ended.
    have lastLine := (clean last (by simp)).isLine
    have open_line : ¬[0x0D, 0x0A] <:+ joinLines (header ++ [] :: body) ++ last := by
      rintro ⟨before, same⟩
      have final := congrArg List.getLast? same
      rw [List.getLast?_append_of_ne_nil _ ended, List.getLast?_append_of_ne_nil _ (by simp)] at final
      exact lastLine.2 (List.mem_of_getLast? final.symm)
    refine ⟨header ++ [] :: body ++ [last], ?_, ?_⟩
    · rw [if_neg open_line, joinLines_append]
      simp [joinLines, crlf]
    · rw [List.forall_mem_append, List.forall_mem_singleton]
      exact ⟨isLines, lastLine⟩

/-- The chunks that the client asks for with the given limits. -/
def encodeChunks (message : Bytes) : DataEncoder → List Nat → DataEncoder × List Bytes
  | e, [] => (e, [])
  | e, limit :: limits =>
    let (e, chunk) := e.nextChunk message limit
    let (e, chunks) := encodeChunks message e limits
    (e, chunk :: chunks)

theorem length_encodeChunks (message : Bytes) (e : DataEncoder) (limits : List Nat) :
    List.Forall₂ (fun chunk limit => chunk.length ≤ limit) (encodeChunks message e limits).2 limits := by
  induction limits generalizing e with
  | nil => exact .nil
  | cons limit limits ih => exact .cons (DataEncoder.length_nextChunk message e limit) (ih _)

theorem encodeChunks_remaining {e : DataEncoder} (ok : e.Ok message) (limits : List Nat) :
    (encodeChunks message e limits).2.flatten ++ (encodeChunks message e limits).1.remaining message =
        e.remaining message ∧ (encodeChunks message e limits).1.Ok message := by
  induction limits generalizing e with
  | nil => exact ⟨rfl, ok⟩
  | cons limit limits ih =>
    obtain ⟨chunk, next⟩ := DataEncoder.nextChunk_remaining ok limit
    obtain ⟨chunks, final⟩ := ih next
    refine ⟨?_, final⟩
    rw [← chunk, ← chunks, ← List.append_assoc]
    rfl

/-- Every chunk takes a byte, until there is none left. -/
theorem length_remaining_encodeChunks {e : DataEncoder} (ok : e.Ok message) {limits : List Nat}
    (positive : ∀ limit ∈ limits, 0 < limit) :
    ((encodeChunks message e limits).1.remaining message).length ≤ (e.remaining message).length - limits.length := by
  induction limits generalizing e with
  | nil => exact Nat.le_refl _
  | cons limit limits ih =>
    rw [List.forall_mem_cons] at positive
    obtain ⟨chunk, next⟩ := DataEncoder.nextChunk_remaining ok limit
    have later := ih next positive.2
    have split := congrArg List.length chunk
    rw [List.length_append] at split
    refine Nat.le_trans later ?_
    rw [List.length_cons]
    by_cases finished : e.finished message = true
    · rw [ok.finished_iff.mp finished] at split ⊢
      simp only [List.length_nil] at split ⊢
      omega
    · have some_chunk := List.length_pos_of_ne_nil (DataEncoder.nextChunk_ne_nil finished positive.1.ne')
      omega

/-- The first line of the payload that is a single dot is its last, and those before it are the message, with a leading
dot taken off. -/
def Received (payload message : Bytes) : Prop :=
  ∃ lines, payload = joinLines (lines ++ [[0x2E]]) ∧ (∀ line ∈ lines, IsLine line ∧ line ≠ [0x2E]) ∧
    joinLines (lines.map unstuff) = message

/-- What the client sends of an accepted message, whatever the limits of its chunks, and what a receiver makes of it. -/
theorem encodeChunks_received (message : Bytes) (capacity : Nat) (valid : validateMessage message capacity = .ok ())
    (limits : List Nat) (positive : ∀ limit ∈ limits, 0 < limit) :
    List.Forall₂ (fun chunk limit => chunk.length ≤ limit) (encodeChunks message (.new message) limits).2 limits ∧
      ((encodeData message).length ≤ limits.length →
        (encodeChunks message (.new message) limits).1.finished message = true) ∧
      ((encodeChunks message (.new message) limits).1.finished message = true →
        Received ((encodeChunks message (.new message) limits).2.flatten ++ terminator)
          (if crlf <:+ message then message else message ++ crlf)) := by
  have ok := DataEncoder.Ok.new message
  obtain ⟨chunks, final⟩ := encodeChunks_remaining ok limits
  refine ⟨length_encodeChunks message _ limits, ?_, ?_⟩
  · intro enough
    have left := length_remaining_encodeChunks ok positive
    rw [DataEncoder.remaining_new, Nat.sub_eq_zero_of_le enough] at left
    exact final.finished_iff.mpr (List.length_eq_zero_iff.mp (Nat.le_zero.mp left))
  intro finished
  rw [final.finished_iff.mp finished, List.append_nil, DataEncoder.remaining_new] at chunks
  obtain ⟨lines, joined, isLines⟩ := (isMessage_of_validate valid).lines
  have whole : joinLines lines = if crlf <:+ message then message else message ++ crlf := by
    rw [← joined, messageSuffix, crlf]
    split
    · exact List.append_nil _
    · rfl
  refine ⟨lines.map stuff, ?_, ?_, ?_⟩
  · rw [chunks, encodeData, joined, stuffDots_joinLines isLines, joinLines_append]
    rfl
  · intro line mem
    obtain ⟨plain, found, rfl⟩ := List.mem_map.mp mem
    exact ⟨(isLines plain found).stuff, stuff_ne plain⟩
  · have undone : unstuff ∘ stuff = id := funext unstuff_stuff
    rw [← whole, List.map_map, undone, List.map_id]

/-- A dot at the start of the last line, whose line end is missing, in chunks of two bytes. -/
theorem encodeChunks_received_sample :
    (encodeChunks (ascii "A:\r\n\r\n.") (.new (ascii "A:\r\n\r\n.")) (List.replicate 10 2)).2.flatten =
        ascii "A:\r\n\r\n..\r\n" ∧
      Received ((encodeChunks (ascii "A:\r\n\r\n.") (.new (ascii "A:\r\n\r\n.")) (List.replicate 10 2)).2.flatten ++
          terminator)
        (if crlf <:+ ascii "A:\r\n\r\n." then ascii "A:\r\n\r\n." else ascii "A:\r\n\r\n." ++ crlf) :=
  ⟨by decide +kernel, (encodeChunks_received _ 64 (by decide +kernel) _ (by decide)).2.2 (by decide +kernel)⟩

end NbReq.Smtp
