import NbReq.Request

/-!
# The DNS wire codec

`native_dns_wire.rs` and the name rules of `dns.rs`: names in case-folded wire form, the question that is sent and the
bounded reader of a response. A cursor into the packet is passed on and returned, where the source keeps it in a
mutable variable. What the source reads with `get` is an option here, and what it reads with an index or a range is a
panic outside the packet.
-/

namespace NbReq.Dns

/-- `native_dns_wire::WireError`. -/
structure WireError where
  message : String
deriving DecidableEq, Repr

/-- `MAX_PACKET_LEN`, which is also `native_dns::DNS_PACKET_LIMIT`. -/
def maxPacketLen : Nat := 4096

def dnsHeaderLen : Nat := 12

def maxWireNameLen : Nat := 255

/-- `MAX_LABEL_LEN`, which is also `dns::MAX_DNS_LABEL_LEN`. -/
def maxLabelLen : Nat := 63

def maxPointerHops : Nat := 32

def classIn : UInt16 := 1

def typeCname : UInt16 := 5

def typeSoa : UInt16 := 6

def typeOpt : UInt16 := 41

/-! ## Names -/

/-- `native_dns_wire::Name`: the labels in case-folded wire form. -/
structure Name where
  labels : List Bytes
deriving DecidableEq, Repr

def foldLabel (label : Bytes) : Bytes := label.map asciiLower

/-- `str::strip_suffix` of a final dot, or the text itself. -/
def withoutFinalDot (text : Bytes) : Bytes := if text.getLast? = some 0x2E then text.dropLast else text

namespace Name

def root : Name := ⟨[]⟩

def isRoot (name : Name) : Bool := name.labels.isEmpty

/-- The loop of `Name::from_ascii` over the labels, with the wire length so far. -/
def foldLabels : Nat → List Bytes → Except WireError (List Bytes)
  | _, [] => .ok []
  | wireLen, label :: rest =>
    if label.isEmpty || decide (label.length > maxLabelLen) then
      .error ⟨"DNS presentation label length is invalid"⟩
    else if wireLen + (label.length + 1) > maxWireNameLen then .error ⟨"DNS presentation name is too long"⟩
    else do
      let folded ← foldLabels (wireLen + (label.length + 1)) rest
      return foldLabel label :: folded

def fromAscii (value : Bytes) : Except WireError Name :=
  if !value.all (· < 0x80) then .error ⟨"DNS presentation name is not ASCII"⟩
  else if value = [0x2E] then .ok root
  else if (withoutFinalDot value).isEmpty then .error ⟨"DNS presentation name is empty"⟩
  else (foldLabels 1 ((withoutFinalDot value).splitOn 0x2E)).map Name.mk

def encode (name : Name) : Bytes := (name.labels.flatMap fun label => UInt8.ofNat label.length :: label) ++ [0]

end Name

/-- `dns::MAX_DNS_NAME_LEN`. -/
def maxDnsNameLen : Nat := 253

/-- `dns::NormalizedDnsName`. -/
structure NormalizedDnsName where
  identity : Bytes
  absolute : Bool
deriving DecidableEq, Repr

def invalidDnsName (message : String) : Error := .new .invalidRequest message

def validateDnsLabel (label : Bytes) : Except Error Unit :=
  if label.isEmpty then .error (invalidDnsName "DNS name contains an empty label")
  else if label.length > maxLabelLen then .error (invalidDnsName "DNS label exceeds the 63-octet limit")
  else if label.head? = some 0x2D ∨ label.getLast? = some 0x2D then
    .error (invalidDnsName "DNS label cannot begin or end with a hyphen")
  else if !label.all fun byte => isAsciiAlphanumeric byte || byte == 0x2D then
    .error (invalidDnsName "DNS names must be exact ASCII letters, digits, hyphens, and dots")
  else .ok ()

def normalizeDnsName (raw : Bytes) : Except Error NormalizedDnsName :=
  if raw.isEmpty then .error (invalidDnsName "DNS name is empty")
  else if !raw.all (· < 0x80) then
    .error (invalidDnsName "DNS names must be exact ASCII or punycode; Unicode is not converted")
  else if (withoutFinalDot raw).isEmpty then .error (invalidDnsName "the DNS root name is not allowed")
  else if (withoutFinalDot raw).length > maxDnsNameLen then
    .error (invalidDnsName "DNS name exceeds the 253-octet presentation limit")
  else do
    let labels := (withoutFinalDot raw).splitOn 0x2E
    labels.forM validateDnsLabel
    return ⟨[0x2E].intercalate (labels.map foldLabel), raw.getLast? = some 0x2E⟩

/-! ## Messages -/

/-- `native_dns_wire::RecordType`. -/
inductive RecordType where
  | a
  | aaaa
deriving DecidableEq, Repr

def RecordType.code : RecordType → UInt16
  | .a => 1
  | .aaaa => 28

/-- `std::net::IpAddr`. -/
inductive IpAddr where
  | v4 (address : BitVec 32)
  | v6 (address : BitVec 128)
deriving DecidableEq, Repr

/-- `native_dns_wire::Question`. -/
structure Question where
  name : Name
  recordType : UInt16
  recordClass : UInt16
deriving DecidableEq, Repr

/-- `native_dns_wire::RData`. -/
inductive RData where
  | a (address : BitVec 32)
  | aaaa (address : BitVec 128)
  | cname (target : Name)
  | soa (minimum : Nat)
  | opt (extendedRcode : UInt8)
  | other
deriving DecidableEq, Repr

/-- `native_dns_wire::Record`; the TTL is a `u32`. -/
structure Record where
  name : Name
  recordType : UInt16
  recordClass : UInt16
  ttl : Nat
  data : RData
deriving DecidableEq, Repr

/-- `native_dns_wire::Response`. -/
structure Response where
  id : UInt16
  isResponse : Bool
  truncated : Bool
  rcode : UInt16
  questions : List Question
  answers : List Record
  authorities : List Record
deriving DecidableEq, Repr

/-! ## The question -/

/-- `put_u16`: the two octets in network order. -/
def putU16 (value : UInt16) : Bytes := [(value >>> 8).toUInt8, value.toUInt8]

def encodeQuery (id : UInt16) (name : Name) (recordType : RecordType) : Except WireError Bytes :=
  if name.isRoot then .error ⟨"DNS query name is the root"⟩
  else
    -- recursion desired, one question
    let output := putU16 id ++ putU16 0x0100 ++ putU16 1 ++ putU16 0 ++ putU16 0 ++ putU16 0 ++ name.encode ++
      putU16 recordType.code ++ putU16 classIn
    if output.length > maxPacketLen then .error ⟨"encoded DNS query exceeds the packet bound"⟩ else .ok output

/-! ## The response -/

/-- How a function of the reader can end without a result: with the error it returns, with the panic of an index that is
not in the packet, or not at all, where the loop of `read_name` goes on after the rounds that it is given here. -/
inductive Fault where
  | returned (error : WireError)
  | panicked
  | unended
deriving DecidableEq, Repr

/-- `Err(WireError::new(message))`. -/
abbrev reject {α : Type} (message : String) : Except Fault α := .error (.returned ⟨message⟩)

def span (bytes : Bytes) (start stop : Nat) : Bytes := (bytes.drop start).take (stop - start)

/-- `bytes[index]`. -/
def octetAt (bytes : Bytes) (index : Nat) : Except Fault UInt8 :=
  match bytes[index]? with
  | some octet => .ok octet
  | none => .error .panicked

/-- `bytes[start..stop]`. -/
def octetsAt (bytes : Bytes) (start stop : Nat) : Except Fault Bytes :=
  if start ≤ stop ∧ stop ≤ bytes.length then .ok (span bytes start stop) else .error .panicked

/-- The number that octets in network order spell (`from_be_bytes`). -/
def beNat (octets : Bytes) : Nat := octets.foldl (fun value octet => value * 256 + octet.toNat) 0

def takeU16 (bytes : Bytes) (cursor : Nat) : Except Fault (UInt16 × Nat) :=
  match bytes[cursor]?, bytes[cursor + 1]? with
  | some first, some second => .ok (UInt16.ofNat (beNat [first, second]), cursor + 2)
  | _, _ => reject "DNS field extends beyond the packet"

def takeU32 (bytes : Bytes) (cursor : Nat) : Except Fault (Nat × Nat) :=
  if cursor + 4 ≤ bytes.length then do
    let octets ← octetsAt bytes cursor (cursor + 4)
    return (beNat octets, cursor + 4)
  else reject "DNS field extends beyond the packet"

def takeU32Bounded (bytes : Bytes) (cursor bound : Nat) : Except Fault (Nat × Nat) :=
  if cursor + 4 > bound then reject "DNS RDATA field extends beyond its declared span" else takeU32 bytes cursor

/-- The variables of the loop of `read_name`. `resume` is where the caller's cursor was put when the first pointer was
followed, which is what `jumped` records. -/
structure NameReader where
  labels : List Bytes
  position : Nat
  resume : Option Nat
  pointerHops : Nat
  visited : List Nat
  wireLen : Nat
deriving DecidableEq, Repr

/-- One round of the loop of `read_name`: the name with the cursor after it, or the variables of the next round. -/
def NameReader.round (bytes : Bytes) (reader : NameReader) : Except Fault (Name × Nat ⊕ NameReader) :=
  match bytes[reader.position]? with
  | none => reject "DNS name extends beyond the packet"
  | some length =>
    if length &&& 0xC0 = 0xC0 then
      match bytes[reader.position + 1]? with
      | none => reject "DNS compression pointer is incomplete"
      | some low =>
        let target := (length &&& 0x3F).toNat * 256 + low.toNat
        if target ≥ bytes.length then reject "DNS compression pointer is outside the packet"
        else if target ≥ reader.position then reject "DNS compression pointer does not point backward"
        else if reader.pointerHops + 1 > maxPointerHops ∨ target ∈ reader.visited then
          reject "DNS compression pointer loop or depth exceeded"
        else .ok <| .inr
          { reader with
            resume := some (reader.resume.getD (reader.position + 2)), pointerHops := reader.pointerHops + 1
            visited := reader.visited ++ [target], position := target }
    else if length &&& 0xC0 ≠ 0 then reject "DNS name uses an unsupported label encoding"
    else if length = 0 then .ok (.inl (⟨reader.labels⟩, reader.resume.getD (reader.position + 1)))
    else if length.toNat > maxLabelLen then reject "DNS label exceeds 63 octets"
    else if reader.position + 1 + length.toNat > bytes.length then reject "DNS label extends beyond the packet"
    else if reader.wireLen + (length.toNat + 1) > maxWireNameLen then
      reject "decoded DNS name exceeds 255 wire octets"
    else do
      let label ← octetsAt bytes (reader.position + 1) (reader.position + 1 + length.toNat)
      return .inr
        { reader with
          labels := reader.labels ++ [foldLabel label], wireLen := reader.wireLen + (length.toNat + 1)
          position := reader.position + 1 + length.toNat }

/-- The loop of `read_name`. Each round that goes on follows one more pointer or adds at least two octets to the wire
length, and both are bounded, so that `readName` starts it with more rounds than it can take and `Fault.unended` is
never what comes of it. -/
def NameReader.run (bytes : Bytes) : Nat → NameReader → Except Fault (Name × Nat)
  | 0, _ => .error .unended
  | rounds + 1, reader =>
    match reader.round bytes with
    | .error error => .error error
    | .ok (.inl result) => .ok result
    | .ok (.inr next) => NameReader.run bytes rounds next

def readName (bytes : Bytes) (cursor : Nat) : Except Fault (Name × Nat) :=
  NameReader.run bytes (maxPointerHops + maxWireNameLen + 1) ⟨[], cursor, none, 0, [], 1⟩

/-- The data of a record whose octets run from `start` to `stop`. -/
def readRData (bytes : Bytes) (recordType : UInt16) (ttl start stop : Nat) : Except Fault RData :=
  if recordType = 1 then
    if stop - start ≠ 4 then reject "DNS A RDATA has the wrong length"
    else do
      let first ← octetAt bytes start
      let second ← octetAt bytes (start + 1)
      let third ← octetAt bytes (start + 2)
      let fourth ← octetAt bytes (start + 3)
      return .a (BitVec.ofNat 32 (beNat [first, second, third, fourth]))
  else if recordType = 28 then
    if stop - start ≠ 16 then reject "DNS AAAA RDATA has the wrong length"
    else do
      let octets ← octetsAt bytes start stop
      -- `copy_from_slice` panics if the lengths differ
      if octets.length ≠ 16 then .error .panicked else return .aaaa (BitVec.ofNat 128 (beNat octets))
  else if recordType = typeCname then do
    let (target, cursor) ← readName bytes start
    if cursor ≠ stop then reject "DNS CNAME RDATA has trailing bytes" else return .cname target
  else if recordType = typeSoa then do
    let (_, cursor) ← readName bytes start
    let (_, cursor) ← readName bytes cursor
    let (_, cursor) ← takeU32Bounded bytes cursor stop
    let (_, cursor) ← takeU32Bounded bytes cursor stop
    let (_, cursor) ← takeU32Bounded bytes cursor stop
    let (_, cursor) ← takeU32Bounded bytes cursor stop
    let (minimum, cursor) ← takeU32Bounded bytes cursor stop
    if cursor ≠ stop then reject "DNS SOA RDATA has trailing bytes" else return .soa minimum
  else if recordType = typeOpt then .ok (.opt (UInt8.ofNat (ttl / 2 ^ 24)))
  else .ok .other

def readRecord (bytes : Bytes) (cursor : Nat) : Except Fault (Record × Nat) := do
  let (name, cursor) ← readName bytes cursor
  let (recordType, cursor) ← takeU16 bytes cursor
  let (recordClass, cursor) ← takeU16 bytes cursor
  let (ttl, cursor) ← takeU32 bytes cursor
  let (dataLen, start) ← takeU16 bytes cursor
  let stop := start + dataLen.toNat
  if stop > bytes.length then reject "DNS RDATA extends beyond the packet"
  else do
    let data ← readRData bytes recordType ttl start stop
    return (⟨name, recordType, recordClass, ttl, data⟩, stop)

/-- `count` records in a row. -/
def readRecords (bytes : Bytes) : Nat → Nat → Except Fault (List Record × Nat)
  | 0, cursor => .ok ([], cursor)
  | count + 1, cursor => do
    let (record, cursor) ← readRecord bytes cursor
    let (records, cursor) ← readRecords bytes count cursor
    return (record :: records, cursor)

def readQuestions (bytes : Bytes) : Nat → Nat → Except Fault (List Question × Nat)
  | 0, cursor => .ok ([], cursor)
  | count + 1, cursor => do
    let (name, cursor) ← readName bytes cursor
    let (recordType, cursor) ← takeU16 bytes cursor
    let (recordClass, cursor) ← takeU16 bytes cursor
    let (questions, cursor) ← readQuestions bytes count cursor
    return (⟨name, recordType, recordClass⟩ :: questions, cursor)

/-- The additional records: only an OPT record is kept, and only one is allowed. -/
def readAdditionals (bytes : Bytes) : Nat → Nat → Option UInt8 → Except Fault (Option UInt8 × Nat)
  | 0, cursor, extended => .ok (extended, cursor)
  | count + 1, cursor, extended => do
    let (record, cursor) ← readRecord bytes cursor
    match record.data, extended with
    | .opt _, some _ => reject "DNS response contains multiple OPT records"
    | .opt value, none => readAdditionals bytes count cursor (some value)
    | _, _ => readAdditionals bytes count cursor extended

/-- `validate_minimum_shape`: the counts are `u16` values, so that the checked arithmetic of the source cannot fail. -/
def validateMinimumShape (remaining questions answers authorities additionals : Nat) : Except Fault Unit :=
  if questions * 5 + (answers + authorities + additionals) * 11 > remaining then
    reject "DNS section counts cannot fit in the packet"
  else .ok ()

def parseResponse (bytes : Bytes) : Except Fault Response :=
  if bytes.length < dnsHeaderLen ∨ bytes.length > maxPacketLen then
    reject "DNS response length is outside the packet bound"
  else do
    let (id, cursor) ← takeU16 bytes 0
    let (flags, cursor) ← takeU16 bytes cursor
    let (questionCount, cursor) ← takeU16 bytes cursor
    let (answerCount, cursor) ← takeU16 bytes cursor
    let (authorityCount, cursor) ← takeU16 bytes cursor
    let (additionalCount, cursor) ← takeU16 bytes cursor
    validateMinimumShape (bytes.length - dnsHeaderLen) questionCount.toNat answerCount.toNat authorityCount.toNat
      additionalCount.toNat
    let (questions, cursor) ← readQuestions bytes questionCount.toNat cursor
    let (answers, cursor) ← readRecords bytes answerCount.toNat cursor
    let (authorities, cursor) ← readRecords bytes authorityCount.toNat cursor
    let (extended, cursor) ← readAdditionals bytes additionalCount.toNat cursor none
    if cursor ≠ bytes.length then reject "DNS response has trailing bytes"
    else return ⟨id, flags &&& 0x8000 ≠ 0, flags &&& 0x0200 ≠ 0,
      ((extended.getD 0).toUInt16 <<< 4) ||| (flags &&& 0x000F), questions, answers, authorities⟩

end NbReq.Dns
