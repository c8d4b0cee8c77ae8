import NbReq.Types

/-!
# What a caller submits

The submission types of the engine and the checks they carry: a buffered request, a streaming request
with its optional upload body, a resolution, and a standalone TCP or TLS connect. No admission check
reads a deadline other than the TLS handshake timeout.
-/

namespace NbReq

/-! ## ASCII text -/

def ascii (text : String) : Bytes := text.toList.map fun c => UInt8.ofNat c.toNat

/-- `u8::to_ascii_lowercase`. -/
def asciiLower (byte : UInt8) : UInt8 :=
  if 0x41 ≤ byte ∧ byte ≤ 0x5A then byte + 0x20 else byte

/-- `str::eq_ignore_ascii_case`. -/
def eqIgnoreAsciiCase (a b : Bytes) : Bool := a.map asciiLower == b.map asciiLower

/-- `u8::is_ascii_alphanumeric`. -/
def isAsciiAlphanumeric (byte : UInt8) : Bool :=
  (0x30 ≤ byte && byte ≤ 0x39) || (0x41 ≤ byte && byte ≤ 0x5A) || (0x61 ≤ byte && byte ≤ 0x7A)

/-- `u8::is_ascii_whitespace`. -/
def isAsciiWhitespace (byte : UInt8) : Bool :=
  byte == 0x20 || byte == 0x09 || byte == 0x0A || byte == 0x0C || byte == 0x0D

/-- A slice without the leading and trailing bytes that satisfy `drop`. -/
def trimBytes (drop : UInt8 → Bool) (text : Bytes) : Bytes := ((text.dropWhile drop).reverse.dropWhile drop).reverse

/-- `trim_ascii_start` followed by `trim_ascii_end`, and `http1::trim_ascii_whitespace`. -/
def trimAscii (text : Bytes) : Bytes := trimBytes isAsciiWhitespace text

/-- Whether a header has the given name (`eq_ignore_ascii_case`). -/
def Header.named (header : Header) (name : String) : Bool := eqIgnoreAsciiCase header.name (ascii name)

/-- The punctuation `is_http_token` admits, in the source's order. -/
def tokenPunctuation : Bytes := [0x21, 0x23, 0x24, 0x25, 0x26, 0x27, 0x2A, 0x2B, 0x2D, 0x2E, 0x5E,
  0x5F, 0x60, 0x7C, 0x7E]

/-- `types::is_http_token`. -/
def isHttpToken (value : Bytes) : Bool :=
  !value.isEmpty && value.all fun byte => isAsciiAlphanumeric byte || tokenPunctuation.contains byte

/-- `types::is_valid_http_header_value`. -/
def isValidHttpHeaderValue (value : Bytes) : Bool :=
  !value.any fun byte => byte == 0x7F || (byte < 0x20 && byte != 0x09)

/-! ## Origins -/

/-- `str::split_once` with a byte-string separator: the parts around its first occurrence. -/
def splitOnce (separator : Bytes) : Bytes → Option (Bytes × Bytes)
  | [] => if separator.isEmpty then some ([], []) else none
  | byte :: rest =>
    if separator.isPrefixOf (byte :: rest) then
      some ([], (byte :: rest).drop separator.length)
    else
      (splitOnce separator rest).map fun (before, after) => (byte :: before, after)

/-- `str::rsplit_once` with a one-byte separator: the parts around its last occurrence. -/
def rsplitOnce (separator : UInt8) (text : Bytes) : Option (Bytes × Bytes) :=
  (splitOnce [separator] text.reverse).map fun (after, before) => (before.reverse, after.reverse)

/-- The value of a run of decimal digits, `none` at any other byte. -/
def parseDigits : Nat → Bytes → Option Nat
  | value, [] => some value
  | value, byte :: rest =>
    if 0x30 ≤ byte ∧ byte ≤ 0x39 then parseDigits (value * 10 + (byte.toNat - 0x30)) rest else none

/-- `str::parse` at an unsigned type with the given maximum: an optional `+`, then digits. -/
def parseUnsigned (max : Nat) (text : Bytes) : Option Nat :=
  let digits := if text.head? = some 0x2B then text.tail else text
  if digits.isEmpty then none else (parseDigits 0 digits).filter (· ≤ max)

/-- `types::HttpOrigin`. -/
structure HttpOrigin where
  scheme : Bytes
  host : Bytes
  port : Nat
deriving DecidableEq, Repr

/-- `types::parse_port`. -/
def parsePort (port : Bytes) (kind : ErrorKind) : Except Error Nat :=
  match (parseUnsigned 65535 port).filter (· ≠ 0) with
  | some port => .ok port
  | none => .error (Error.new kind "HTTP URL port is invalid")

/-- The host and port of an authority (the middle part of `types::http_origin`). -/
def splitAuthority (authority : Bytes) (defaultPort : Nat) (kind : ErrorKind) :
    Except Error (Bytes × Nat) :=
  match authority with
  | 0x5B :: bracketed =>
    match splitOnce [0x5D] bracketed with
    | none => .error (Error.new kind "HTTP URL has an invalid IPv6 host")
    | some (host, []) => .ok (host, defaultPort)
    | some (host, 0x3A :: port) => (parsePort port kind).map fun port => (host, port)
    | some _ => .error (Error.new kind "HTTP URL has an invalid authority")
  | _ =>
    match rsplitOnce 0x3A authority with
    | some (host, port) =>
      if host.contains 0x3A then
        .error (Error.new kind "an IPv6 URL host must be enclosed in brackets")
      else
        (parsePort port kind).map fun port => (host, port)
    | none => .ok (authority, defaultPort)

/-- `types::http_origin`. -/
def httpOrigin (url : Bytes) (kind : ErrorKind) : Except Error HttpOrigin :=
  match splitOnce (ascii "://") url with
  | none => .error (Error.new kind "HTTP URL has no scheme separator")
  | some (scheme, remainder) => do
    let scheme := scheme.map asciiLower
    let defaultPort ←
      if scheme = ascii "http" then pure 80
      else if scheme = ascii "https" then pure 443
      else .error (Error.new kind "NBReq permits only HTTP and HTTPS URLs")
    let authority := remainder.takeWhile fun byte => byte != 0x2F && byte != 0x3F && byte != 0x23
    if authority.isEmpty || authority.contains 0x40 then
      .error (Error.new kind "HTTP URL authority is empty or contains embedded credentials")
    else do
      let (host, port) ← splitAuthority authority defaultPort kind
      if host.isEmpty then
        .error (Error.new kind "HTTP URL host is empty")
      else if host.any fun byte => byte ≤ 0x20 || byte == 0x7F || byte == 0x5C then
        .error (Error.new kind "HTTP URL host is invalid")
      else
        .ok ⟨scheme, host.map asciiLower, port⟩

/-! ## Buffered requests -/

/-- `types::Method`. -/
inductive Method where
  | get | head | post | put | patch | delete
  | other (name : Bytes)
deriving DecidableEq, Repr

/-- `types::TlsVerification`. -/
inductive TlsVerification where
  | verify | dangerouslyDisableCertificateVerification
deriving DecidableEq, Repr

/-- `types::RequestOptions`; durations are in nanoseconds, the redirect limit is a `u8`. -/
structure RequestOptions where
  maxRequestBodyBytes : Option Nat
  maxResponseBodyBytes : Option Nat
  connectTimeout : Option Nat
  inactivityTimeout : Option Nat
  totalTimeout : Option Nat
  redirectLimit : UInt8
  tlsVerification : TlsVerification
deriving DecidableEq, Repr

/-- `RequestOptions::default`. -/
instance : Inhabited RequestOptions where
  default :=
    { maxRequestBodyBytes := none
      maxResponseBodyBytes := none
      connectTimeout := some (10 * 1000000000)
      inactivityTimeout := some (30 * 1000000000)
      totalTimeout := some (120 * 1000000000)
      redirectLimit := 5
      tlsVerification := .verify }

def RequestOptions.requestBodyLimit (options : RequestOptions) (engineLimit : Nat) : Nat :=
  min (options.maxRequestBodyBytes.getD engineLimit) engineLimit

def RequestOptions.responseBodyLimit (options : RequestOptions) (engineLimit : Nat) : Nat :=
  min (options.maxResponseBodyBytes.getD engineLimit) engineLimit

/-- `types::Request`. The body is its bytes and the capacity of the `Vec` that holds them, which is
what the body budget is charged for. -/
structure Request where
  method : Method
  url : Bytes
  headers : List Header
  body : Bytes
  bodyCapacity : Nat
  options : RequestOptions
deriving DecidableEq, Repr

def Request.validate (request : Request) : Except Error Unit := do
  let _ ← httpOrigin request.url .invalidRequest
  match request.method with
  | .other name =>
    if !isHttpToken name then
      throw (Error.new .invalidRequest "extension HTTP method is not a valid token")
  | _ => pure ()
  if request.headers.any fun header =>
      !isHttpToken header.name || !isValidHttpHeaderValue header.value then
    throw (Error.new .invalidRequest "request contains an invalid HTTP header")

/-! ## Streaming requests -/

/-- `stream::UploadFraming`. -/
inductive UploadFraming where
  | fixed (length : Nat)
  | chunked
deriving DecidableEq, Repr

/-- `stream::ProducerState`. -/
inductive ProducerState where
  | isOpen | finished | abandoned | lengthMismatch
deriving DecidableEq, Repr

/-- `stream::UploadBody` with the part of `UploadState` its admission reads. -/
structure UploadBody where
  framing : UploadFraming
  queueCapacity : Nat
  acceptedBytes : Nat
  producer : ProducerState
  receiverAlive : Bool
  totalLimit : Option Nat
deriving DecidableEq, Repr

def UploadBody.validateForBuild (body : UploadBody) : Except Error Unit :=
  match body.producer with
  | .isOpen | .finished => .ok ()
  | .abandoned => .error
      (Error.new .invalidRequest "the streamed upload sender was dropped before finish")
  | .lengthMismatch => .error
      (Error.new .invalidRequest "the fixed-length streamed upload was finished at the wrong length")

/-- `UploadBody::bind`: the checks, and the total limit it stores. -/
def UploadBody.bind (body : UploadBody) (maxQueueCapacity totalLimit : Nat) :
    Except Error UploadBody := do
  if body.queueCapacity > maxQueueCapacity then
    throw (Error.limit .streamingQueueBytes
      s!"streamed upload queue exceeds the configured {maxQueueCapacity} byte per-transfer limit")
  let totalLimit := min totalLimit u64Max
  if body.totalLimit.isSome then
    throw (Error.new .internal "a streamed upload body was bound to an Engine more than once")
  if !body.receiverAlive then
    throw (Error.transport .send "the streamed upload body closed before submission")
  match body.producer with
  | .isOpen | .finished => pure ()
  | .abandoned =>
    throw (Error.transport .send "the streamed upload sender was dropped before submission")
  | .lengthMismatch =>
    throw (Error.transport .send "the fixed-length streamed upload finished at the wrong length")
  let declaredTooLong := match body.framing with
    | .fixed length => decide (length > totalLimit)
    | .chunked => false
  if body.acceptedBytes > totalLimit || declaredTooLong then
    throw (Error.limit .requestBodyBytes
      s!"streamed request body exceeds the configured {totalLimit} byte limit")
  return { body with totalLimit := some totalLimit }

/-- `stream::StreamRequest`. -/
structure StreamRequest where
  request : Request
  streamBody : Option UploadBody
deriving DecidableEq, Repr

/-- `stream::validate_stream_body_request`. -/
def validateStreamBodyRequest (request : Request) (body : UploadBody) : Except Error Unit := do
  if request.method = .get ∨ request.method = .head then
    throw (Error.new .invalidRequest "GET and HEAD cannot carry a streamed upload body")
  if request.headers.any fun header => eqIgnoreAsciiCase header.name (ascii "content-length") ||
      eqIgnoreAsciiCase header.name (ascii "transfer-encoding") then
    throw (Error.new .invalidRequest "NBReq generates framing headers for a streamed upload body")
  if request.headers.any fun header => eqIgnoreAsciiCase header.name (ascii "expect") then
    throw (Error.new .invalidRequest "Expect is not supported for a streamed upload body")
  body.validateForBuild

def StreamRequest.validate (request : StreamRequest) : Except Error Unit := do
  request.request.validate
  match request.streamBody with
  | some body => validateStreamBodyRequest request.request body
  | none => pure ()

def StreamRequest.uploadQueueCapacity (request : StreamRequest) : Nat :=
  (request.streamBody.map UploadBody.queueCapacity).getD 0

def StreamRequest.bindUpload (request : StreamRequest) (maxQueueCapacity totalLimit : Nat) :
    Except Error StreamRequest :=
  match request.streamBody with
  | some body =>
    (body.bind maxQueueCapacity totalLimit).map fun body => { request with streamBody := some body }
  | none => .ok request

/-! ## Resolutions and connects -/

/-- `dns::ResolveRequest`, the part its admission reads. -/
structure ResolveRequest where
  hostname : Bytes
  maxResults : Option Nat
deriving DecidableEq, Repr

/-- `tcp::TcpConnectTarget`. -/
inductive TcpConnectTarget where
  | hostname (name : Bytes) (port : Nat)
  | address (octets : Bytes) (port : Nat)
deriving DecidableEq, Repr

/-- `matches!(request.target(), TcpConnectTarget::Hostname { .. })`. -/
def TcpConnectTarget.isHostname : TcpConnectTarget → Bool
  | .hostname _ _ => true
  | .address _ _ => false

/-- `tcp::TcpConnectRequest`: the target and the two optional queue windows. -/
structure TcpConnectRequest where
  target : TcpConnectTarget
  sendQueueBytes : Option Nat
  receiveQueueBytes : Option Nat
deriving DecidableEq, Repr

/-- `tcp::tls::TlsOptions`; the timeout is in nanoseconds. -/
structure TlsOptions where
  serverName : Bytes
  handshakeTimeout : Nat
deriving DecidableEq, Repr

/-- `TlsOptions::validate`, where `clockRoom` is the longest duration that `Instant::now()` can still
be advanced by at the time of the call. -/
def TlsOptions.validate (options : TlsOptions) (clockRoom : Nat) : Except Error Unit :=
  if options.handshakeTimeout = 0 then
    .error (Error.new .invalidRequest "TLS handshake timeout must be greater than zero")
  else if clockRoom < options.handshakeTimeout then
    .error (Error.new .invalidRequest
      "TLS handshake timeout cannot be represented by the Engine clock")
  else
    .ok ()

end NbReq
