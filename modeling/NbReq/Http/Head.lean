import NbReq.Request

/-!
# Response heads

What `http1.rs` reads off a response head and off the trailers of a chunked body: the status, the headers, how
the body is framed and whether the connection may be used again. The grammars of heads, trailers and chunk-size
lines are those of `httparse`, a parameter.
-/

namespace NbReq

/-- `native_http::HttpLimits`. -/
structure HttpLimits where
  bodyBytes : Nat
  headerBytes : Nat
  headerCount : Nat
deriving DecidableEq, Repr

/-! ## The parser crate -/

/-- What `httparse::Response::parse` returns. -/
inductive HeadParse where
  | complete (consumed : Nat) (version code : Option Nat) (headers : List Header)
  | incomplete
  | tooManyHeaders
  | invalid (error : String)
deriving DecidableEq, Repr

/-- What `httparse::parse_headers` returns. -/
inductive TrailerParse where
  | complete (consumed : Nat) (headers : List Header)
  | incomplete
  | tooManyHeaders
  | invalid (error : String)
deriving DecidableEq, Repr

/-- `httparse`: heads and headers into a number of slots, and chunk-size lines (the bytes used and the size,
`none` for a line that is not complete or not valid). -/
structure HttParse where
  response : Nat → Bytes → HeadParse
  headers : Nat → Bytes → TrailerParse
  chunkSize : Bytes → Option (Nat × Nat)

/-! ## Errors -/

/-- `http1::http_error`. -/
def httpError (message : String) : Error := Error.transport .http message

/-- `http1::response_header_count_limit`. -/
def responseHeaderCountLimit (limit : Nat) : Error :=
  Error.limit .responseHeaderCount s!"response headers exceed the configured {limit} field limit"

/-- `http1::response_body_limit`. -/
def responseBodyLimit (limit : Nat) : Error :=
  Error.limit .responseBodyBytes s!"response body exceeds the configured {limit} byte limit"

/-! ## Header fields -/

/-- `http1::trim_ows`. -/
def trimOws (value : Bytes) : Bytes := trimBytes (fun byte => byte == 0x20 || byte == 0x09) value

/-- The comma-separated items of every header with the given name, in order. -/
def listItems (name : String) (headers : List Header) : List Bytes :=
  (headers.filter (·.named name)).flatMap fun header => header.value.splitOn 0x2C

/-- `http1::BodyFraming`. -/
inductive BodyFraming where
  | none
  | fixed (length : Nat)
  | chunked
  | closeDelimited
deriving DecidableEq, Repr

/-- The flags `response_permits_reuse` gathers from the `Connection` tokens. -/
structure ConnectionTokens where
  close : Bool
  keepAlive : Bool
  other : Bool
deriving DecidableEq, Repr

/-- The loop over the `Connection` tokens. -/
def connectionTokens : ConnectionTokens → List Bytes → Except Error ConnectionTokens
  | seen, [] => .ok seen
  | seen, raw :: rest =>
    let token := trimAscii raw
    if !isHttpToken token then
      .error (httpError "HTTP response Connection header contains an invalid token")
    else
      let close := eqIgnoreAsciiCase token (ascii "close")
      let keepAlive := eqIgnoreAsciiCase token (ascii "keep-alive")
      connectionTokens ⟨seen.close || close, seen.keepAlive || keepAlive, seen.other || (!close && !keepAlive)⟩
        rest

/-- `http1::response_permits_reuse`. -/
def responsePermitsReuse (version : Nat) (headers : List Header) (framing : BodyFraming) : Except Error Bool :=
  if framing = .closeDelimited then .ok false
  else do
    let seen ← connectionTokens ⟨false, false, false⟩ (listItems "connection" headers)
    return !seen.close && !seen.other && (version == 1 || seen.keepAlive)

/-- The loop over the items of one `Content-Length` value. -/
def contentLengthItems (width : PointerWidth) : Option Nat → List Bytes → Except Error (Option Nat)
  | parsed, [] => .ok parsed
  | parsed, item :: rest =>
    let item := trimOws item
    if item.isEmpty || !item.all fun byte => 0x30 ≤ byte && byte ≤ 0x39 then
      .error (httpError "HTTP Content-Length is invalid")
    else match (parseDigits 0 item).filter (· ≤ width.usizeMax) with
      | none => .error (httpError "HTTP Content-Length is too large")
      | some value =>
        if parsed.any (· ≠ value) then
          .error (httpError "HTTP message contains conflicting Content-Length values")
        else
          contentLengthItems width (some value) rest

/-- `http1::parse_content_length_value`. -/
def parseContentLengthValue (width : PointerWidth) (value : Bytes) : Except Error Nat := do
  match ← contentLengthItems width none (value.splitOn 0x2C) with
  | some length => return length
  | none => throw (httpError "HTTP Content-Length is empty")

/-- The loop of `http1::response_content_length` over the `Content-Length` fields. -/
def contentLengthFields (width : PointerWidth) : Option Nat → List Header → Except Error (Option Nat)
  | length, [] => .ok length
  | length, header :: rest => do
    let parsed ← parseContentLengthValue width header.value
    if length.any (· ≠ parsed) then
      throw (httpError "HTTP response contains conflicting Content-Length values")
    contentLengthFields width (some parsed) rest

/-- `http1::response_content_length`. -/
def responseContentLength (width : PointerWidth) (headers : List Header) : Except Error (Option Nat) :=
  contentLengthFields width none (headers.filter (·.named "content-length"))

/-- `http1::response_transfer_encoding`. -/
def responseTransferEncoding (headers : List Header) : Except Error Bool :=
  let codings := (listItems "transfer-encoding" headers).map trimOws
  if codings.any (·.isEmpty) then
    .error (httpError "HTTP Transfer-Encoding is invalid")
  else match codings with
    | [] => .ok false
    | [coding] =>
      if eqIgnoreAsciiCase coding (ascii "chunked") then .ok true
      else .error (httpError "native HTTP supports only a single chunked transfer coding")
    | _ => .error (httpError "native HTTP supports only a single chunked transfer coding")

/-! ## The head -/

/-- `http1::ParsedResponseParts`. -/
structure ResponseParts where
  version : Nat
  status : Nat
  headers : List Header
deriving DecidableEq, Repr

/-- `http1::ResponseHeadParseError`. -/
inductive HeadParseError where
  | tooManyHeaders
  | invalid (error : Error)
deriving DecidableEq, Repr

/-- `http1::parse_response_parts` with the given number of header slots. -/
def parseResponseParts (http : HttParse) (slots : Nat) (bytes : Bytes) : Except HeadParseError ResponseParts :=
  match http.response slots bytes with
  | .incomplete => .error (.invalid (httpError "HTTP response head ended prematurely"))
  | .tooManyHeaders => .error .tooManyHeaders
  | .invalid error => .error (.invalid (httpError s!"HTTP response head is malformed: {error}"))
  | .complete consumed version code headers =>
    if consumed ≠ bytes.length then
      .error (.invalid (httpError "HTTP response head has trailing bytes"))
    else match version with
      | none => .error (.invalid (httpError "HTTP response has no version"))
      | some version =>
        if version ≠ 0 ∧ version ≠ 1 then
          .error (.invalid (httpError "HTTP response version is unsupported"))
        else match code.filter fun status => 100 ≤ status ∧ status ≤ 599 with
          | none => .error (.invalid (httpError "HTTP response status is invalid"))
          | some status => .ok ⟨version, status, if 100 ≤ status ∧ status < 200 then [] else headers⟩

def stackResponseHeaderSlots : Nat := 32

/-- The head through the slots on the stack, and through as many as the limit allows if those do not do. -/
def parseWithSlots (http : HttParse) (limits : HttpLimits) (bytes : Bytes) : Except Error ResponseParts :=
  let stackCount := min limits.headerCount stackResponseHeaderSlots
  match parseResponseParts http stackCount bytes with
  | .ok parts => .ok parts
  | .error (.invalid error) => .error error
  | .error .tooManyHeaders =>
    if stackCount < limits.headerCount then
      match parseResponseParts http limits.headerCount bytes with
      | .ok parts => .ok parts
      | .error .tooManyHeaders => .error (responseHeaderCountLimit limits.headerCount)
      | .error (.invalid error) => .error error
    else
      .error (responseHeaderCountLimit limits.headerCount)

/-- `ParsedHead::Final`. -/
structure FinalHead where
  status : Nat
  headers : List Header
  framing : BodyFraming
  permitsReuse : Bool
deriving DecidableEq, Repr

/-- `http1::ParsedHead`. -/
inductive ParsedHead where
  | informational
  | final (head : FinalHead)
deriving DecidableEq, Repr

def bodyFraming (limits : HttpLimits) (responseToHead : Bool) (status : Nat) (contentLength : Option Nat)
    (transferEncoding : Bool) : Except Error BodyFraming :=
  if responseToHead || status == 204 || status == 304 then .ok .none
  else if transferEncoding then .ok .chunked
  else match contentLength with
    | some length => if length > limits.bodyBytes then .error (responseBodyLimit limits.bodyBytes)
      else .ok (.fixed length)
    | none => .ok .closeDelimited

/-- `http1::parse_response_head`. -/
def parseResponseHead (width : PointerWidth) (http : HttParse) (bytes : Bytes) (responseToHead : Bool)
    (limits : HttpLimits) : Except Error ParsedHead := do
  let parts ← parseWithSlots http limits bytes
  if 100 ≤ parts.status ∧ parts.status < 200 then
    if parts.status = 101 then
      throw (Error.new .unsupported "HTTP protocol switching is not supported")
    return .informational
  let contentLength ← responseContentLength width parts.headers
  let transferEncoding ← responseTransferEncoding parts.headers
  if transferEncoding && contentLength.isSome then
    throw (httpError "HTTP response contains both Transfer-Encoding and Content-Length")
  let framing ← bodyFraming limits responseToHead parts.status contentLength transferEncoding
  let permitsReuse ← responsePermitsReuse parts.version parts.headers framing
  return .final ⟨parts.status, parts.headers, framing, permitsReuse⟩

/-- `http1::validate_trailers`. -/
def validateTrailers (http : HttParse) (bytes : Bytes) (limits : HttpLimits) : Except Error Unit :=
  match http.headers limits.headerCount bytes with
  | .incomplete => .error (httpError "HTTP response trailers ended prematurely")
  | .tooManyHeaders => .error (responseHeaderCountLimit limits.headerCount)
  | .invalid error => .error (httpError s!"HTTP response trailers are malformed: {error}")
  | .complete consumed headers =>
    if consumed ≠ bytes.length then
      .error (httpError "HTTP response trailers have trailing bytes")
    else if headers.any fun header => header.named "content-length" || header.named "transfer-encoding" ||
        header.named "host" then
      .error (httpError "HTTP response trailers contain a forbidden framing field")
    else
      .ok ()

end NbReq
