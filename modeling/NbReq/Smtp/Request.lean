import NbReq.Request
import Mathlib.Data.List.Basic

/-!
# SMTP submission requests

`smtp/src/request.rs`: the checks on the EHLO name, the mailboxes and the message of a submission. An `Envelope` or a
`SendRequest` that exists has passed them. Strings are their bytes.

1. `validateMailbox_line`, `validateEhlo_line`: what passes has no CR and no LF.
-/

namespace NbReq.Smtp

/-- `client::TransportDiagnostic`. -/
structure TransportDiagnostic where
  kind : ErrorKind
  transportStage : Option TransportStage
  tlsFailure : Option TlsFailure
  dnsFailure : Option DnsFailure
  timeoutKind : Option TimeoutKind
  limitKind : Option LimitKind
deriving DecidableEq, Repr

/-- `TransportDiagnostic::from`. -/
def TransportDiagnostic.of (error : Error) : TransportDiagnostic :=
  ⟨error.kind, error.transportStage, error.tlsFailure, error.dnsFailure, error.timeoutKind, error.limitKind⟩

/-- `request::SmtpErrorKind`. -/
inductive SmtpErrorKind where
  | invalidRequest | wrongMode | transport
deriving DecidableEq, Repr

/-- `request::SmtpError`. -/
structure SmtpError where
  kind : SmtpErrorKind
  detail : String
  transportDiagnostic : Option TransportDiagnostic
deriving DecidableEq, Repr

def SmtpError.invalid (detail : String) : SmtpError := ⟨.invalidRequest, detail, none⟩

def SmtpError.transport (error : Error) (detail : String) : SmtpError := ⟨.transport, detail, some (.of error)⟩

/-- `request::TlsPolicy`. -/
inductive TlsPolicy where
  | implicit | requiredStartTls
deriving DecidableEq, Repr

/-- `request::RecipientPolicy`. -/
inductive RecipientPolicy where
  | requireAllRecipients | acceptedRecipients
deriving DecidableEq, Repr

/-! ## Address literals

The parsers of `std::net` for IPv4 and IPv6 addresses, without the value they read: each takes an address off the front
of a text. -/

/-- `char::to_digit`. -/
def toDigit (radix : Nat) (byte : UInt8) : Option Nat :=
  let digit :=
    if 0x30 ≤ byte ∧ byte ≤ 0x39 then some (byte.toNat - 0x30)
    else if 0x41 ≤ byte ∧ byte ≤ 0x5A then some (byte.toNat - 0x41 + 10)
    else if 0x61 ≤ byte ∧ byte ≤ 0x7A then some (byte.toNat - 0x61 + 10)
    else none
  digit.filter (· < radix)

/-- `Parser::read_number` with a bound on the digits. -/
def readNumber (radix maxDigits max : Nat) (allowZeroPrefix : Bool) (text : Bytes) : Option Bytes :=
  let digits := text.takeWhile fun byte => (toDigit radix byte).isSome
  let value := digits.foldl (fun value byte => value * radix + (toDigit radix byte).getD 0) 0
  if digits.length > maxDigits ∨ value > max ∨ digits = [] ∨
      (!allowZeroPrefix ∧ text.head? = some 0x30 ∧ digits.length > 1) then none
  else some (text.dropWhile fun byte => (toDigit radix byte).isSome)

/-- `Parser::read_given_char`. -/
def readGivenChar (target : UInt8) : Bytes → Option Bytes
  | [] => none
  | byte :: rest => if byte = target then some rest else none

/-- `Parser::read_separator`. -/
def readSeparator (separator : UInt8) (index : Nat) (inner : Bytes → Option Bytes) (text : Bytes) : Option Bytes :=
  if index > 0 then (readGivenChar separator text).bind inner else inner text

/-- The octets of `Parser::read_ipv4_addr` from the given one on. -/
def readOctets : Nat → Nat → Bytes → Option Bytes
  | _, 0, text => some text
  | index, count + 1, text => (readSeparator 0x2E index (readNumber 10 3 255 false) text).bind (readOctets (index + 1) count)

/-- `Parser::read_ipv4_addr`. -/
def readIpv4Addr (text : Bytes) : Option Bytes := readOctets 0 4 text

/-- `read_groups` of `Parser::read_ipv6_addr`, from the given group on: the number of groups read, whether an IPv4
address ended them, and the rest of the text. -/
def readGroups (limit : Nat) : Nat → Nat → Bytes → Nat × Bool × Bytes
  | _, 0, text => (limit, false, text)
  | index, count + 1, text =>
    match if index < limit - 1 then readSeparator 0x3A index readIpv4Addr text else none with
    | some rest => (index + 2, true, rest)
    | none =>
      match readSeparator 0x3A index (readNumber 16 4 65535 true) text with
      | some rest => readGroups limit (index + 1) count rest
      | none => (index, false, text)

/-- `Parser::read_ipv6_addr`. -/
def readIpv6Addr (text : Bytes) : Option Bytes :=
  let (headSize, headIpv4, rest) := readGroups 8 0 8 text
  if headSize = 8 then some rest
  else if headIpv4 then none
  else do
    let rest ← readGivenChar 0x3A rest
    let rest ← readGivenChar 0x3A rest
    let limit := 8 - (headSize + 1)
    return (readGroups limit 0 limit rest).2.2

/-- `str::parse::<Ipv4Addr>` succeeds. -/
def isIpv4Addr (text : Bytes) : Bool := decide (text.length ≤ 15) && readIpv4Addr text == some []

/-- `str::parse::<Ipv6Addr>` succeeds. -/
def isIpv6Addr (text : Bytes) : Bool := readIpv6Addr text == some []

/-! ## Names and mailboxes -/

/-- `str::is_ascii`. -/
def isAscii (text : Bytes) : Bool := text.all (· < 0x80)

/-- The check of `validate_domain` on a label. -/
def isDomainLabel (label : Bytes) : Bool :=
  !label.isEmpty && decide (label.length ≤ 63) && label.head?.all isAsciiAlphanumeric &&
    label.getLast?.all isAsciiAlphanumeric && label.all fun byte => isAsciiAlphanumeric byte || byte == 0x2D

def validateDomain (domain : Bytes) : Except SmtpError Unit :=
  if domain.isEmpty || decide (domain.length > 253) || !isAscii domain then .error (.invalid "invalid SMTP domain")
  else if (domain.splitOn 0x2E).all isDomainLabel then .ok ()
  else .error (.invalid "invalid SMTP domain label")

/-- The punctuation `validate_mailbox` admits in a local part, in the source's order. -/
def localPunctuation : Bytes := ascii "!#$%&'*+/=?^_`\x7b|\x7d~-"

/-- The loop of `validate_mailbox` over the local part. -/
def isLocalPart : Bool → Bytes → Bool
  | _, [] => true
  | previousDot, byte :: rest =>
    if byte = 0x2E then !previousDot && isLocalPart true rest
    else (isAsciiAlphanumeric byte || localPunctuation.contains byte) && isLocalPart false rest

def validateMailbox (address : Bytes) : Except SmtpError Unit :=
  if address.isEmpty || decide (address.length > 254) || !isAscii address then
    .error (.invalid "invalid SMTP mailbox length or encoding")
  else match rsplitOnce 0x40 address with
    | none => .error (.invalid "SMTP mailbox must contain one @")
    | some (localPart, domain) =>
      if localPart.isEmpty || decide (localPart.length > 64) || localPart.head? == some 0x2E ||
          localPart.getLast? == some 0x2E then
        .error (.invalid "unsupported SMTP local part")
      else if isLocalPart false localPart then validateDomain domain
      else .error (.invalid "unsupported SMTP local part")

def addressLiteral (name : Bytes) : Option Bytes :=
  if name.head? = some 0x5B ∧ name.tail.getLast? = some 0x5D then some name.tail.dropLast else none

def validateEhlo (name : Bytes) : Except SmtpError Unit :=
  if name.length > 255 then .error (.invalid "SMTP EHLO identity is too long")
  else match addressLiteral name with
    | some literal =>
      if isIpv4Addr literal then .ok ()
      else if eqIgnoreAsciiCase (literal.take 5) (ascii "IPv6:") && isIpv6Addr (literal.drop 5) then .ok ()
      else validateDomain name
    | none => validateDomain name

/-! ## Messages -/

def maxMessageBytes : Nat := 8 * 1024 * 1024

def maxRecipients : Nat := 100

/-- The line the scan of `validate_message` is in, and what it keeps of the header. -/
structure MessageScan where
  line : Bytes
  inHeaders : Bool
  headerCount : Nat
  lastHadHeader : Bool
deriving DecidableEq, Repr

def MessageScan.validateLine (scan : MessageScan) (content : Bytes) : Except SmtpError MessageScan :=
  if content.length > 998 then .error (.invalid "prepared SMTP line exceeds 998 octets")
  else if !scan.inHeaders || content.isEmpty then .ok scan
  else if content.head? = some 0x20 ∨ content.head? = some 0x09 then
    if scan.lastHadHeader then .ok scan
    else .error (.invalid "SMTP header continuation has no preceding field")
  else match content.idxOf? 0x3A with
    | none => .error (.invalid "SMTP header field lacks a colon")
    | some colon =>
      if colon = 0 ∨ !(content.take colon).all fun byte => 33 ≤ byte && byte ≤ 126 && byte != 0x3A then
        .error (.invalid "SMTP header field name is invalid")
      else .ok { scan with headerCount := scan.headerCount + 1, lastHadHeader := true }

/-- The loop of `validate_message` over the bytes after `previous`. -/
def MessageScan.scan : MessageScan → Option UInt8 → Bytes → Except SmtpError MessageScan
  | s, _, [] => if s.line.isEmpty then .ok s else s.validateLine s.line
  | s, previous, byte :: rest =>
    if byte = 0x0A then
      if previous ≠ some 0x0D then .error (.invalid "prepared SMTP message requires CRLF lines")
      else match s.validateLine s.line.dropLast with
        | .error error => .error error
        | .ok s =>
          let inHeaders := s.inHeaders && !s.line.dropLast.isEmpty
          MessageScan.scan { s with line := [], inHeaders := inHeaders } (some byte) rest
    else if byte = 0x0D ∧ rest.head? ≠ some 0x0A then
      .error (.invalid "prepared SMTP message contains a bare CR")
    else if byte ≠ 0x0D ∧ ((byte < 0x20 ∧ byte ≠ 0x09) ∨ byte = 0x7F) then
      .error (.invalid "prepared SMTP message contains a control byte")
    else MessageScan.scan { s with line := s.line ++ [byte] } (some byte) rest

/-- The line end that a message without one gets. -/
def messageSuffix (message : Bytes) : Bytes := if [0x0D, 0x0A] <:+ message then [] else [0x0D, 0x0A]

/-- `validate_message` of a vector with the given capacity. -/
def validateMessage (message : Bytes) (capacity : Nat) : Except SmtpError Unit :=
  if capacity > maxMessageBytes ∨ message.length + (messageSuffix message).length > maxMessageBytes then
    .error (.invalid "prepared SMTP message exceeds 8 MiB allocation or length")
  else if message.isEmpty || !isAscii message || message.contains 0 then
    .error (.invalid "prepared SMTP message must be seven-bit and nonempty")
  else match (⟨[], true, 0, false⟩ : MessageScan).scan none message with
    | .error error => .error error
    | .ok scan =>
      if scan.inHeaders || scan.headerCount == 0 then
        .error (.invalid "prepared SMTP message requires headers and a blank separator")
      else .ok ()

/-! ## Requests -/

/-- `request::Envelope`. -/
structure Envelope where
  sender : Bytes
  recipients : List Bytes
  senderValid : sender ≠ [] → validateMailbox sender = .ok ()
  someRecipients : recipients ≠ [] ∧ recipients.length ≤ maxRecipients
  recipientsValid : ∀ address ∈ recipients, validateMailbox address = .ok ()
deriving DecidableEq

def firstMailboxError : List Bytes → Option SmtpError
  | [] => none
  | address :: rest =>
    match validateMailbox address with
    | .error error => some error
    | .ok () => firstMailboxError rest

theorem firstMailboxError_none {addresses : List Bytes} (none : firstMailboxError addresses = none) :
    ∀ address ∈ addresses, validateMailbox address = .ok () := by
  induction addresses with
  | nil => nofun
  | cons address rest ih =>
    rw [firstMailboxError] at none
    split at none
    · cases none
    · next valid => exact List.forall_mem_cons.mpr ⟨valid, ih none⟩

def Envelope.new (sender : Bytes) (recipients : List Bytes) : Except SmtpError Envelope :=
  match senderChecked : if sender = [] then .ok () else validateMailbox sender with
  | .error error => .error error
  | .ok () =>
    if count : recipients = [] ∨ recipients.length > maxRecipients then
      .error (.invalid "SMTP requires 1 to 100 recipients")
    else match checked : firstMailboxError recipients with
      | some error => .error error
      | none => .ok {
          sender := sender
          recipients := recipients
          senderValid := fun nonempty => by rwa [if_neg nonempty] at senderChecked
          someRecipients := by rwa [not_or, Nat.not_lt] at count
          recipientsValid := firstMailboxError_none checked }

/-- `request::SmtpServer`. -/
structure SmtpServer where
  connect : TcpConnectRequest
  tls : TlsOptions
  policy : TlsPolicy
deriving DecidableEq

/-- `request::SendRequest`; durations are in nanoseconds. -/
structure SendRequest where
  server : SmtpServer
  ehloName : Bytes
  envelope : Envelope
  message : Bytes
  recipientPolicy : RecipientPolicy
  commandTimeout : Nat
  overallTimeout : Nat
  ehloValid : validateEhlo ehloName = .ok ()
  messageValid : ∃ capacity, validateMessage message capacity = .ok ()

/-- `SendRequest::new` of a message in a vector with the given capacity. -/
def SendRequest.new (server : SmtpServer) (ehloName : Bytes) (envelope : Envelope) (message : Bytes) (capacity : Nat) :
    Except SmtpError SendRequest :=
  match ehloChecked : validateEhlo ehloName with
  | .error error => .error error
  | .ok () =>
    match messageChecked : validateMessage message capacity with
    | .error error => .error error
    | .ok () => .ok {
        server := server
        ehloName := ehloName
        envelope := envelope
        message := message
        recipientPolicy := .requireAllRecipients
        commandTimeout := 30 * 1000000000
        overallTimeout := 120 * 1000000000
        ehloValid := ehloChecked
        messageValid := ⟨capacity, messageChecked⟩ }

/-- `SendRequest::validate_deadlines`, where `clockRoom` is the longest duration that `Instant::now()` can still be
advanced by. -/
def SendRequest.validateDeadlines (request : SendRequest) (clockRoom : Nat) : Except SmtpError Unit :=
  if request.commandTimeout = 0 ∨ request.overallTimeout = 0 ∨ request.server.tls.handshakeTimeout = 0 ∨
      clockRoom < request.commandTimeout ∨ clockRoom < request.overallTimeout ∨
      clockRoom < request.server.tls.handshakeTimeout then
    .error (.invalid "SMTP and TLS timeouts must be finite, positive, and representable")
  else .ok ()

/-! ## What passes is a line -/

def IsLine (text : Bytes) : Prop := 0x0D ∉ text ∧ 0x0A ∉ text

theorem IsLine.nil : IsLine [] := ⟨nofun, nofun⟩

theorem IsLine.append {left right : Bytes} (first : IsLine left) (second : IsLine right) : IsLine (left ++ right) :=
  ⟨fun mem => (List.mem_append.mp mem).elim first.1 second.1,
    fun mem => (List.mem_append.mp mem).elim first.2 second.2⟩

variable {text : Bytes}

theorem IsLine.of_all {admits : UInt8 → Bool} (all : ∀ byte ∈ text, admits byte = true)
    (cr : admits 0x0D = false) (lf : admits 0x0A = false) : IsLine text := by
  refine ⟨fun mem => ?_, fun mem => ?_⟩
  · exact Bool.false_ne_true (cr.symm.trans (all _ mem))
  · exact Bool.false_ne_true (lf.symm.trans (all _ mem))

theorem mem_of_mem_intersperse {α : Type} {separator part : α} {parts : List α}
    (mem : part ∈ parts.intersperse separator) : part = separator ∨ part ∈ parts := by
  induction parts with
  | nil => cases mem
  | cons first rest ih =>
    cases rest with
    | nil => exact .inr mem
    | cons second rest =>
      rw [List.intersperse_cons_cons, List.mem_cons, List.mem_cons] at mem
      rcases mem with rfl | rfl | mem
      · exact .inr List.mem_cons_self
      · exact .inl rfl
      · exact (ih mem).imp_right (List.mem_cons_of_mem _)

variable {byte : UInt8}

/-- Every byte of a text is the separator or in one of its parts. -/
theorem mem_splitOn (separator : UInt8) (mem : byte ∈ text) :
    byte = separator ∨ ∃ part ∈ text.splitOn separator, byte ∈ part := by
  have joined : [separator].intercalate (text.splitOn separator) = text := List.intercalate_splitOn separator
  rw [← joined, List.intercalate, List.mem_flatten] at mem
  obtain ⟨part, source, mem⟩ := mem
  rcases mem_of_mem_intersperse source with rfl | source
  · exact .inl (List.mem_singleton.mp mem)
  · exact .inr ⟨part, source, mem⟩

theorem validateDomain_line {domain : Bytes} (valid : validateDomain domain = .ok ()) : IsLine domain := by
  unfold validateDomain at valid
  split at valid
  · cases valid
  split at valid
  · next labels =>
    have admitted : ∀ byte ∈ domain, (byte == 0x2E || (isAsciiAlphanumeric byte || byte == 0x2D)) = true := by
      intro byte mem
      rcases mem_splitOn 0x2E mem with rfl | ⟨label, source, mem⟩
      · rfl
      · have label := List.all_eq_true.mp labels label source
        simp only [isDomainLabel, Bool.and_eq_true, List.all_eq_true] at label
        rw [label.2 byte mem, Bool.or_true]
    exact .of_all admitted rfl rfl
  · cases valid

variable {separator : UInt8}

theorem splitOnce_eq {text before after : Bytes}
    (found : splitOnce [separator] text = some (before, after)) : text = before ++ separator :: after := by
  induction text generalizing before with
  | nil => cases found
  | cons byte rest ih =>
    rw [splitOnce] at found
    split at found
    · next starts =>
      cases found
      have same : separator = byte := by simpa using starts
      rw [same]
      rfl
    · rw [Option.map_eq_some_iff] at found
      obtain ⟨⟨before', after'⟩, found, equal⟩ := found
      cases equal
      rw [ih found, List.cons_append]

theorem rsplitOnce_eq {text before after : Bytes}
    (found : rsplitOnce separator text = some (before, after)) : text = before ++ separator :: after := by
  rw [rsplitOnce, Option.map_eq_some_iff] at found
  obtain ⟨⟨after', before'⟩, found, equal⟩ := found
  cases equal
  have reversed := congrArg List.reverse (splitOnce_eq found)
  rw [List.reverse_reverse] at reversed
  simpa using reversed

theorem isLocalPart_line {previousDot : Bool} (valid : isLocalPart previousDot text = true) :
    IsLine text := by
  have admitted : ∀ byte ∈ text,
      (byte == 0x2E || (isAsciiAlphanumeric byte || localPunctuation.contains byte)) = true := by
    induction text generalizing previousDot with
    | nil => nofun
    | cons byte rest ih =>
      rw [isLocalPart] at valid
      split at valid
      · next dot =>
        rw [Bool.and_eq_true] at valid
        exact List.forall_mem_cons.mpr ⟨by simp [dot], ih valid.2⟩
      · rw [Bool.and_eq_true] at valid
        exact List.forall_mem_cons.mpr ⟨by rw [valid.1, Bool.or_true], ih valid.2⟩
  exact .of_all admitted rfl (by decide)

theorem validateMailbox_line {address : Bytes} (valid : validateMailbox address = .ok ()) : IsLine address := by
  unfold validateMailbox at valid
  split at valid
  · cases valid
  split at valid
  · cases valid
  next localPart domain found =>
  split at valid
  · cases valid
  split at valid
  · next accepted =>
    rw [rsplitOnce_eq found]
    have domain := validateDomain_line valid
    have at_sign : IsLine [0x40] := ⟨by decide, by decide⟩
    exact (isLocalPart_line accepted).append (at_sign.append domain)
  · cases valid

/-! ### Address literals -/

def isAddressByte (byte : UInt8) : Bool := (toDigit 16 byte).isSome || byte == 0x2E || byte == 0x3A

/-- A reader takes nothing but bytes of an address literal. -/
def ReadsAddress (reader : Bytes → Option Bytes) : Prop :=
  ∀ text rest, reader text = some rest → ∃ taken, text = taken ++ rest ∧ ∀ byte ∈ taken, isAddressByte byte = true

theorem toDigit_hex {radix : Nat} (le : radix ≤ 16) (digit : (toDigit radix byte).isSome = true) :
    isAddressByte byte = true := by
  simp only [isAddressByte, toDigit, Option.isSome_filter, Option.any_eq_true, decide_eq_true_eq] at digit ⊢
  obtain ⟨value, found, small⟩ := digit
  simp only [Bool.or_eq_true, Option.any_eq_true, decide_eq_true_eq]
  exact .inl (.inl ⟨value, found, by omega⟩)

theorem readNumber_address {radix maxDigits max : Nat} {allowZeroPrefix : Bool} (le : radix ≤ 16) :
    ReadsAddress (readNumber radix maxDigits max allowZeroPrefix) := by
  intro text rest read
  unfold readNumber at read
  dsimp only at read
  split at read
  · cases read
  cases read
  refine ⟨text.takeWhile fun byte => (toDigit radix byte).isSome, List.takeWhile_append_dropWhile.symm, ?_⟩
  exact fun byte mem => toDigit_hex le (List.all_eq_true.mp List.all_takeWhile byte mem)

theorem readGivenChar_address {target : UInt8} (admitted : isAddressByte target = true) :
    ReadsAddress (readGivenChar target) := by
  rintro (_ | ⟨byte, text⟩) rest read
  · cases read
  rw [readGivenChar] at read
  split at read
  · next same =>
    cases read
    exact ⟨[byte], rfl, by simpa [same] using admitted⟩
  · cases read

theorem ReadsAddress.bind {first second : Bytes → Option Bytes} (one : ReadsAddress first) (two : ReadsAddress second) :
    ReadsAddress fun text => (first text).bind second := by
  intro text rest read
  obtain ⟨middle, start, next⟩ := Option.bind_eq_some_iff.mp read
  obtain ⟨taken, rfl, all⟩ := one text middle start
  obtain ⟨more, rfl, all'⟩ := two middle rest next
  exact ⟨taken ++ more, (List.append_assoc _ _ _).symm, List.forall_mem_append.mpr ⟨all, all'⟩⟩

theorem readSeparator_address {index : Nat} {inner : Bytes → Option Bytes}
    (admitted : isAddressByte separator = true) (reads : ReadsAddress inner) :
    ReadsAddress (readSeparator separator index inner) := by
  unfold readSeparator
  split
  · exact (readGivenChar_address admitted).bind reads
  · exact reads

theorem readOctets_address (index count : Nat) : ReadsAddress (readOctets index count) := by
  induction count generalizing index with
  | zero =>
    rintro text rest ⟨⟩
    exact ⟨[], rfl, nofun⟩
  | succ count ih =>
    exact (readSeparator_address (by decide) (readNumber_address (by decide))).bind (ih (index + 1))

theorem readGroups_address (limit index count : Nat) :
    ReadsAddress fun text => some (readGroups limit index count text).2.2 := by
  induction count generalizing index with
  | zero =>
    rintro text rest ⟨⟩
    exact ⟨[], rfl, nofun⟩
  | succ count ih =>
    rintro text rest ⟨⟩
    rw [readGroups]
    split
    · next rest read =>
      split at read
      · exact readSeparator_address (by decide) (readOctets_address 0 4) text rest read
      · cases read
    · split
      · next rest read =>
        have group : ReadsAddress (readSeparator 0x3A index (readNumber 16 4 65535 true)) :=
          readSeparator_address (by decide) (readNumber_address (by decide))
        exact group.bind (ih (index + 1)) text _ (Option.bind_eq_some_iff.mpr ⟨rest, read, rfl⟩)
      · exact ⟨[], rfl, nofun⟩

theorem readIpv6Addr_address : ReadsAddress readIpv6Addr := by
  intro text rest read
  have head := readGroups_address 8 0 8 text _ rfl
  rw [readIpv6Addr] at read
  generalize readGroups 8 0 8 text = groups at read head
  obtain ⟨headSize, headIpv4, middle⟩ := groups
  dsimp only at read head
  split at read
  · cases read
    exact head
  split at read
  · cases read
  have colon : ReadsAddress (readGivenChar 0x3A) := readGivenChar_address (by decide)
  have back := readGroups_address (8 - (headSize + 1)) 0 (8 - (headSize + 1))
  obtain ⟨taken, rfl, all⟩ := head
  obtain ⟨more, rfl, all'⟩ := colon.bind (colon.bind back) middle rest read
  exact ⟨taken ++ more, (List.append_assoc _ _ _).symm, List.forall_mem_append.mpr ⟨all, all'⟩⟩

theorem ReadsAddress.line {reader : Bytes → Option Bytes} (reads : ReadsAddress reader)
    (whole : reader text = some []) : IsLine text := by
  obtain ⟨taken, rfl, all⟩ := reads text [] whole
  rw [List.append_nil]
  exact .of_all all (by decide) (by decide)

theorem asciiLower_lineEnd (lineEnd : byte = 0x0D ∨ byte = 0x0A) : asciiLower byte = byte := by
  rcases lineEnd with rfl | rfl <;> decide

/-- A text that is a line up to case is a line. -/
theorem IsLine.of_eqIgnoreAsciiCase {text line : Bytes} (same : eqIgnoreAsciiCase text line = true)
    (lower : IsLine (line.map asciiLower)) : IsLine text := by
  rw [eqIgnoreAsciiCase, beq_iff_eq] at same
  rw [← same] at lower
  refine ⟨fun mem => lower.1 ?_, fun mem => lower.2 ?_⟩
  · exact List.mem_map.mpr ⟨_, mem, asciiLower_lineEnd (.inl rfl)⟩
  · exact List.mem_map.mpr ⟨_, mem, asciiLower_lineEnd (.inr rfl)⟩

theorem addressLiteral_eq {name literal : Bytes} (found : addressLiteral name = some literal) :
    name = [0x5B] ++ (literal ++ [0x5D]) := by
  unfold addressLiteral at found
  split at found
  · next brackets =>
    cases found
    rw [List.dropLast_append_getLast? _ brackets.2]
    cases name with
    | nil => cases brackets.1
    | cons byte rest => rw [← Option.some.inj brackets.1]; rfl
  · cases found

theorem validateEhlo_line {name : Bytes} (valid : validateEhlo name = .ok ()) : IsLine name := by
  unfold validateEhlo at valid
  split at valid
  · cases valid
  split at valid
  · next literal found =>
    have bracketed : IsLine literal → IsLine name := by
      intro line
      rw [addressLiteral_eq found]
      have opening : IsLine [0x5B] := ⟨by decide, by decide⟩
      have closing : IsLine [0x5D] := ⟨by decide, by decide⟩
      exact opening.append (line.append closing)
    split at valid
    · next ipv4 =>
      simp only [isIpv4Addr, Bool.and_eq_true, beq_iff_eq] at ipv4
      exact bracketed ((readOctets_address 0 4).line ipv4.2)
    split at valid
    · next ipv6 =>
      simp only [isIpv6Addr, Bool.and_eq_true, beq_iff_eq] at ipv6
      refine bracketed ?_
      rw [← List.take_append_drop 5 literal]
      have tag : IsLine (literal.take 5) := .of_eqIgnoreAsciiCase ipv6.1 ⟨by decide, by decide⟩
      exact tag.append (readIpv6Addr_address.line ipv6.2)
    · exact validateDomain_line valid
  · exact validateDomain_line valid

end NbReq.Smtp
