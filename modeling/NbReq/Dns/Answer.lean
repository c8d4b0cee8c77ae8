import NbReq.Dns.Wire

/-!
# What an answer says

`parse_answer` of `native_dns.rs`: from a message and the query it may belong to, either nothing (the message is not
for this query), a failure, or what the message says about the name. Instants and durations are nanoseconds.
-/

namespace NbReq

/-- `std::time::Instant`. -/
abbrev Instant := Nat

/-- `std::time::Duration`. -/
abbrev Duration := Nat

def Duration.fromSecs (seconds : Nat) : Duration := seconds * 10 ^ 9

def Error.dns (failure : DnsFailure) (message : String) : Error :=
  { Error.transport .dns message with dnsFailure := some failure }

namespace Dns

/-- `native_dns::ResolveAnswer`. -/
structure ResolveAnswer where
  addresses : List IpAddr
  ttl : Duration
deriving DecidableEq, Repr

/-- `native_dns::ResolveFailure`. -/
structure ResolveFailure where
  message : String
  failureClass : DnsFailure
deriving DecidableEq, Repr

def ResolveFailure.new (message : String) : ResolveFailure := ⟨message, .unknown⟩

def ResolveFailure.classified (failureClass : DnsFailure) (message : String) : ResolveFailure :=
  ⟨message, failureClass⟩

def publicError (failure : ResolveFailure) : Error := .dns failure.failureClass failure.message

/-- `native_dns::ParsedAnswer`. -/
inductive ParsedAnswer where
  | answer (answer : ResolveAnswer)
  | canonical (target : Name) (hops : Nat)
  | noRecords (negativeTtl : Option Duration)
  | negative (failure : ResolveFailure) (negativeTtl : Option Duration)
  | truncated
deriving DecidableEq, Repr

def maxCnameHops : Nat := 8

def dnsResponseCodeDebug (code : Nat) : String :=
  match code with
  | 0 => "NoError"
  | 1 => "FormErr"
  | 2 => "ServFail"
  | 3 => "NXDomain"
  | 4 => "NotImp"
  | 5 => "Refused"
  | 6 => "YXDomain"
  | 7 => "YXRRSet"
  | 8 => "NXRRSet"
  | 9 => "NotAuth"
  | 10 => "NotZone"
  | 16 => "BADVERS"
  | 17 => "BADKEY"
  | 18 => "BADTIME"
  | 19 => "BADMODE"
  | 20 => "BADNAME"
  | 21 => "BADALG"
  | 22 => "BADTRUNC"
  | 23 => "BADCOOKIE"
  | other => "Unknown(" ++ toString other ++ ")"

def rcodeFailure (code : Nat) : DnsFailure :=
  match code with
  | 2 => .serverFailure
  | 5 => .refused
  | 1 => .malformed
  | _ => .unknown

/-- The TTL of a negative answer: the first SOA record of the authority section bounds it. -/
def negativeTtl (authorities : List Record) : Option Duration :=
  authorities.findSome? fun record =>
    match record.data with
    | .soa minimum => some (.fromSecs (min record.ttl minimum))
    | _ => none

/-- The first alias from an accepted name to one that is not accepted yet, with its TTL. -/
def nextTarget (accepted : List Name) : List Record → Except ResolveFailure (Option (Name × Nat))
  | [] => .ok none
  | answer :: rest =>
    if answer.name ∈ accepted then
      match answer.data with
      | .cname canonical =>
        if canonical.isRoot then .error (.classified .protocol "the DNS CNAME target is the root name")
        else if canonical ∈ accepted then nextTarget accepted rest
        else .ok (some (canonical, answer.ttl))
      | _ => nextTarget accepted rest
    else nextTarget accepted rest

/-- The variables of the alias loop of `parse_answer`. -/
structure Aliases where
  acceptedNames : List Name
  canonicalTarget : Option Name
  ttl : Nat
  hops : Nat
deriving DecidableEq, Repr

/-- The alias loop of `parse_answer`, with the hops that remain. -/
def followAliases (answers : List Record) : Nat → Aliases → Except ResolveFailure Aliases
  | remaining, aliases =>
    match nextTarget aliases.acceptedNames answers with
    | .error failure => .error failure
    | .ok none => .ok aliases
    | .ok (some (target, ttl)) =>
      match remaining with
      | 0 => .error (.classified .protocol "the DNS CNAME chain exceeds the private hop limit")
      | remaining + 1 =>
        followAliases answers remaining
          ⟨aliases.acceptedNames ++ [target], some target, min aliases.ttl ttl, aliases.hops + 1⟩

def addressOf : RecordType → RData → Option IpAddr
  | .a, .a address => some (.v4 address)
  | .aaaa, .aaaa address => some (.v6 address)
  | _, _ => none

/-- The records that the accepted names own with an address of the expected type. -/
def usedRecords (expectedType : RecordType) (acceptedNames : List Name) (answers : List Record) :
    List (IpAddr × Nat) :=
  answers.filterMap fun answer =>
    if answer.name ∈ acceptedNames then (addressOf expectedType answer.data).map (·, answer.ttl) else none

/-- What a response without an error says: the addresses of the names its aliases lead to, the alias to follow, or
that there are none. -/
def collectAddresses (message : Response) (expectedName : Name) (expectedType : RecordType)
    (remainingCnameHops : Nat) : Except ResolveFailure ParsedAnswer := do
  let aliases ← followAliases message.answers remainingCnameHops ⟨[expectedName], none, 2 ^ 32 - 1, 0⟩
  let used := usedRecords expectedType aliases.acceptedNames message.answers
  if used.isEmpty then
    match aliases.canonicalTarget with
    | some canonical => return .canonical canonical aliases.hops
    | none => return .noRecords (negativeTtl message.authorities)
  else
    return .answer ⟨used.map (·.1), .fromSecs ((used.map (·.2)).foldl min aliases.ttl)⟩

def parseAnswer (bytes : Bytes) (expectedId : UInt16) (expectedName : Name) (expectedType : RecordType)
    (remainingCnameHops : Nat) : Option (Except ResolveFailure ParsedAnswer) :=
  match parseResponse bytes with
  | .error _ => some (.error (.classified .malformed "the DNS server returned a malformed message"))
  | .ok message =>
    if message.id ≠ expectedId ∨ ¬message.isResponse then none
    else
      match message.questions with
      | [question] =>
        if question.name ≠ expectedName ∨ question.recordType ≠ expectedType.code then none
        else if message.truncated then some (.ok .truncated)
        else if message.rcode = 3 then
          some (.ok (.negative (.new "the DNS server returned NXDomain") (negativeTtl message.authorities)))
        else if message.rcode ≠ 0 then
          some (.error (.classified (rcodeFailure message.rcode.toNat)
            ("the DNS server returned " ++ dnsResponseCodeDebug message.rcode.toNat)))
        else some (collectAddresses message expectedName expectedType remainingCnameHops)
      | _ => none

end Dns

end NbReq
