import NbReq.Http.Head

/-!
# Request heads

`http1::serialize_request_with_upload`: the checks of a request, the headers it adds and the bytes of the head. The
body is not part of it. Lengths do not overflow `usize` here: every length summed is that of something in memory,
and a sum past the limit is refused either way.
-/

namespace NbReq

/-- `http1::SerializedRequest`. -/
structure SerializedRequest where
  bytes : Bytes
  responseToHead : Bool
  permitsReuse : Bool
deriving DecidableEq, Repr

/-! ## The request target -/

/-- `http1::RequestTarget`. -/
structure RequestTarget where
  scheme : Bytes
  authority : Bytes
  pathAndQuery : Bytes
deriving DecidableEq, Repr

def RequestTarget.parse (url : Bytes) : Except Error RequestTarget :=
  match splitOnce (ascii "://") url with
  | none => .error (Error.new .invalidRequest "HTTP URL has no scheme separator")
  | some (scheme, remainder) =>
    let inAuthority := fun byte : UInt8 => byte != 0x2F && byte != 0x3F && byte != 0x23
    let authority := remainder.takeWhile inAuthority
    let withoutFragment := (remainder.dropWhile inAuthority).takeWhile (· != 0x23)
    let pathAndQuery :=
      if withoutFragment.isEmpty then [0x2F]
      else if withoutFragment.head? = some 0x3F then 0x2F :: withoutFragment
      else withoutFragment
    if pathAndQuery.any fun byte => byte < 0x21 || byte > 0x7E then
      .error (Error.new .unsupported
        "native HTTP currently requires an ASCII request target without raw spaces")
    else
      .ok ⟨scheme, authority, pathAndQuery⟩

/-! ## The caller's headers -/

/-- `http1::ConnectionPolicy`. -/
inductive ConnectionPolicy where
  | keepAlive
  | close
deriving DecidableEq, Repr

/-- `http1::parse_connection_policy`; splitting always yields a token, so that the header is never empty. -/
def parseConnectionPolicy (value : Bytes) : Except Error ConnectionPolicy :=
  let tokens := (value.splitOn 0x2C).map trimAscii
  if tokens.any fun token => !isHttpToken token then
    .error (Error.new .invalidRequest "request Connection header contains an invalid token")
  else if tokens.all fun token => eqIgnoreAsciiCase token (ascii "keep-alive") then
    .ok .keepAlive
  else
    .ok .close

structure HeaderScan where
  hostCount : Nat
  contentLength : Option Nat
  connectionPolicy : Option ConnectionPolicy
deriving DecidableEq, Repr

def HeaderScan.step (width : PointerWidth) (upload : Option UploadFraming) (scan : HeaderScan) (header : Header) :
    Except Error HeaderScan :=
  if header.named "host" then
    .ok { scan with hostCount := scan.hostCount + 1 }
  else if header.named "content-length" then
    if upload.isSome then
      .error (Error.new .invalidRequest "NBReq generates Content-Length for a streamed upload body")
    else match parseContentLengthValue width header.value with
      | .error _ => .error (Error.new .invalidRequest "request Content-Length is invalid")
      | .ok parsed =>
        if scan.contentLength.any (· ≠ parsed) then
          .error (Error.new .invalidRequest "request contains conflicting Content-Length values")
        else
          .ok { scan with contentLength := some parsed }
  else if header.named "transfer-encoding" then
    if upload.isSome then
      .error (Error.new .invalidRequest "NBReq generates Transfer-Encoding for a streamed upload body")
    else
      .error (Error.new .unsupported "buffered native requests do not support Transfer-Encoding")
  else if header.named "connection" then
    (parseConnectionPolicy header.value).map fun parsed =>
      let policy := if scan.connectionPolicy ≠ some .close ∧ parsed = .keepAlive then .keepAlive else .close
      { scan with connectionPolicy := some policy }
  else
    .ok scan

/-! ## The head -/

/-- `http1::method_name`. -/
def methodName : Method → Bytes
  | .get => ascii "GET"
  | .head => ascii "HEAD"
  | .post => ascii "POST"
  | .put => ascii "PUT"
  | .patch => ascii "PATCH"
  | .delete => ascii "DELETE"
  | .other name => name

/-- `http1::append_header`. -/
def headerLine (header : Header) : Bytes := header.name ++ ascii ": " ++ header.value ++ [0x0D, 0x0A]

/-- `http1::request_header_bytes_limit`. -/
def requestHeaderBytesLimit (limit : Nat) : Error :=
  Error.limit .requestHeaderBytes s!"request headers exceed the configured {limit} byte limit"

/-- `http1::request_header_count_limit`. -/
def requestHeaderCountLimit (limit : Nat) : Error :=
  Error.limit .requestHeaderCount s!"request headers exceed the configured {limit} field limit"

/-- The headers the serializer adds: `Host`, `Content-Length` and `Transfer-Encoding`, where the caller's do not
say it. -/
def generatedHeaders (request : Request) (target : RequestTarget) (scan : HeaderScan)
    (upload : Option UploadFraming) : List Header :=
  let host := if scan.hostCount = 0 then [⟨ascii "Host", target.authority⟩] else []
  let body := match upload with
    | some (.fixed length) => [⟨ascii "Content-Length", ascii (toString length)⟩]
    | some .chunked => [⟨ascii "Transfer-Encoding", ascii "chunked"⟩]
    | none =>
      if scan.contentLength.isNone ∧ request.body ≠ [] then
        [⟨ascii "Content-Length", ascii (toString request.body.length)⟩]
      else []
  host ++ body

/-- `http1::serialize_request_with_upload`. -/
def serializeRequestWithUpload (width : PointerWidth) (request : Request) (limits : HttpLimits)
    (upload : Option UploadFraming) : Except Error SerializedRequest := do
  request.validate
  let target ← RequestTarget.parse request.url
  let scheme := target.scheme.map asciiLower
  if scheme ≠ ascii "http" ∧ scheme ≠ ascii "https" then
    throw (Error.new .unsupported "the native HTTP backend permits only HTTP and HTTPS URLs")
  let scan ← request.headers.foldlM (HeaderScan.step width upload) ⟨0, none, none⟩
  if scan.hostCount > 1 then
    throw (Error.new .invalidRequest "request contains more than one Host header")
  if upload.isNone ∧ scan.contentLength.any (· ≠ request.body.length) then
    throw (Error.new .invalidRequest "request Content-Length does not match the buffered body")
  let headers := request.headers ++ generatedHeaders request target scan upload
  if headers.length > limits.headerCount then
    throw (requestHeaderCountLimit limits.headerCount)
  let fields := headers.flatMap headerLine
  if fields.length > limits.headerBytes then
    throw (requestHeaderBytesLimit limits.headerBytes)
  return {
    bytes := methodName request.method ++ [0x20] ++ target.pathAndQuery ++ ascii " HTTP/1.1" ++ [0x0D, 0x0A] ++
      fields ++ [0x0D, 0x0A]
    responseToHead := request.method = .head
    permitsReuse := scan.connectionPolicy ≠ some .close }

end NbReq
