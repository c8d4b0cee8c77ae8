import NbReq.Http.Head
import NbReq.Stream

/-!
# The response decoder

`ResponseDecoder`, which buffers a response. The framing state, the scratch buffer and its limits are `Framing`; the
parts of `consume` that only touch it are written for it.

The body of a buffered response is not charged to a budget here.
-/

namespace NbReq

/-! ## Framing -/

/-- `http1::DecodeState`. -/
inductive DecodeState where
  | head
  | fixed (remaining : Nat)
  | closeDelimited
  | chunkSize
  | chunkData (remaining : Nat)
  | chunkEnd (matched : Nat)
  | trailers
  | complete
deriving DecidableEq, Repr

/-- The fields that frame the response. -/
structure Framing where
  limits : HttpLimits
  responseToHead : Bool
  state : DecodeState
  scratch : Bytes
  informationalResponses : Nat
  framingBytes : Nat
  permitsReuse : Bool
deriving DecidableEq, Repr

def maxInformationalResponses : Nat := 8

def crlfCrlf : Bytes := [0x0D, 0x0A, 0x0D, 0x0A]

namespace Framing

def new (responseToHead : Bool) (limits : HttpLimits) : Framing :=
  ⟨limits, responseToHead, .head, [], 0, 0, false⟩

def countFramingByte (f : Framing) (context : String) : Except Error Framing :=
  let limit := f.limits.headerBytes
  if f.framingBytes ≥ limit then
    .error (Error.limit .responseHeaderBytes
      s!"{context} exceeds the configured {limit} byte framing-metadata limit")
  else
    .ok { f with framingBytes := f.framingBytes + 1 }

def pushScratch (f : Framing) (byte : UInt8) (context : String) (framing : Bool) : Except Error Framing := do
  let limit := f.limits.headerBytes
  if f.scratch.length ≥ limit then
    throw (Error.limit .responseHeaderBytes s!"{context} exceeds the configured {limit} byte limit")
  let f ← if framing then f.countFramingByte context else pure f
  return { f with scratch := f.scratch ++ [byte] }

/-- A byte in the state `Head`: the final head, if the byte ends it. -/
def headByte (width : PointerWidth) (http : HttParse) (f : Framing) (byte : UInt8) :
    Except Error (Framing × Option FinalHead) := do
  let f ← f.pushScratch byte "response head" false
  if crlfCrlf.isSuffixOf f.scratch then
    let parsed ← parseResponseHead width http f.scratch f.responseToHead f.limits
    let f := { f with scratch := [] }
    match parsed with
    | .informational =>
      -- The count is a u8 that never gets past nine.
      if f.informationalResponses + 1 > maxInformationalResponses then
        throw (httpError "too many informational responses")
      return ({ f with informationalResponses := f.informationalResponses + 1 }, none)
    | .final head => return ({ f with permitsReuse := head.permitsReuse }, some head)
  else
    return (f, none)

/-- A byte in the state `ChunkSize`, with the number of body bytes so far. -/
def chunkSizeByte (width : PointerWidth) (http : HttParse) (f : Framing) (bodyLength : Nat) (byte : UInt8) :
    Except Error Framing := do
  let f ← f.pushScratch byte "chunk-size line" true
  if [0x0D, 0x0A].isSuffixOf f.scratch then
    match http.chunkSize f.scratch with
    | none => throw (httpError "response contains an invalid chunk size")
    | some (used, size) =>
      if used ≠ f.scratch.length then
        throw (httpError "response chunk size has trailing bytes")
      if size > width.usizeMax ∨ size > f.limits.bodyBytes - bodyLength then
        throw (responseBodyLimit f.limits.bodyBytes)
      return { f with scratch := [], state := if size = 0 then .trailers else .chunkData size }
  else
    return f

/-- A byte in the state `ChunkEnd`. -/
def chunkEndByte (f : Framing) (matched : Nat) (byte : UInt8) : Except Error Framing := do
  if matched = 0 ∧ byte = 0x0D then
    return { ← f.countFramingByte "chunk terminator" with state := .chunkEnd 1 }
  else if matched = 1 ∧ byte = 0x0A then
    return { ← f.countFramingByte "chunk terminator" with state := .chunkSize }
  else
    throw (httpError "response chunk data is not followed by CRLF")

/-- A byte in the state `Trailers`, and whether it ends them. -/
def trailerByte (http : HttParse) (f : Framing) (byte : UInt8) : Except Error (Framing × Bool) := do
  let f ← f.pushScratch byte "response trailers" true
  if f.scratch = [0x0D, 0x0A] ∨ crlfCrlf.isSuffixOf f.scratch then
    validateTrailers http f.scratch f.limits
    return ({ f with scratch := [] }, true)
  else
    return (f, false)

/-- The error `eof` reports for a response that is not complete. -/
def eofError : DecodeState → Error
  | .head => Error.transport .receive "the peer closed before a complete HTTP response head arrived"
  | .fixed _ => Error.transport .receive "the peer closed before the Content-Length body completed"
  | _ => httpError "the peer closed before the chunked response completed"

/-- After the byte of a body part with `remaining` bytes to go. -/
def chunkDataState (remaining : Nat) : DecodeState := if remaining = 0 then .chunkEnd 0 else .chunkData remaining

/-! ### What a byte can do -/

variable {width : PointerWidth} {http : HttParse} {f f' : Framing} {byte : UInt8}

/-- The framing state after a byte has been added to the scratch buffer. -/
def pushed (f : Framing) (byte : UInt8) (framing : Bool) : Framing :=
  { f with
    scratch := f.scratch ++ [byte]
    framingBytes := if framing then f.framingBytes + 1 else f.framingBytes }

theorem countFramingByte_ok {context : String} :
    f.countFramingByte context = .ok f' ↔
      f.framingBytes < f.limits.headerBytes ∧ f' = { f with framingBytes := f.framingBytes + 1 } := by
  simp only [countFramingByte]
  split
  · next full => simp; omega
  · next room => simp [eq_comm, Nat.lt_of_not_ge room]

theorem pushScratch_ok {context : String} {framing : Bool} :
    f.pushScratch byte context framing = .ok f' ↔
      f.scratch.length < f.limits.headerBytes ∧ (framing → f.framingBytes < f.limits.headerBytes) ∧
        f' = f.pushed byte framing := by
  simp only [pushScratch, pushed]
  split
  · next full => simp [bind_eq_ok, throw_ne_ok]; omega
  next room =>
  have room := Nat.lt_of_not_ge room
  cases framing <;>
    simp [-bind_pure_comp, bind_eq_ok, pure_eq_ok, countFramingByte_ok, room, and_assoc]

/-- Everything a byte of a head can do. -/
inductive HeadStep (width : PointerWidth) (http : HttParse) (f : Framing) (byte : UInt8) :
    Framing → Option FinalHead → Prop
  | more (unfinished : ¬ crlfCrlf <:+ f.scratch ++ [byte]) : HeadStep width http f byte (f.pushed byte false) none
  | informational (ends : crlfCrlf <:+ f.scratch ++ [byte])
      (parsed : parseResponseHead width http (f.scratch ++ [byte]) f.responseToHead f.limits = .ok .informational)
      (few : f.informationalResponses < maxInformationalResponses) :
      HeadStep width http f byte
        { f with scratch := [], informationalResponses := f.informationalResponses + 1 } none
  | final {head : FinalHead} (ends : crlfCrlf <:+ f.scratch ++ [byte])
      (parsed : parseResponseHead width http (f.scratch ++ [byte]) f.responseToHead f.limits = .ok (.final head)) :
      HeadStep width http f byte { f with scratch := [], permitsReuse := head.permitsReuse } (some head)

theorem headByte_ok {final : Option FinalHead} :
    f.headByte width http byte = .ok (f', final) ↔
      f.scratch.length < f.limits.headerBytes ∧ HeadStep width http f byte f' final := by
  simp only [headByte, bind_eq_ok, pushScratch_ok]
  constructor
  · rintro ⟨_, ⟨room, -, rfl⟩, rest⟩
    refine ⟨room, ?_⟩
    split at rest
    · next ends =>
      have ends : crlfCrlf <:+ f.scratch ++ [byte] := by simpa [pushed] using ends
      obtain ⟨parsed, isParsed, rest⟩ := bind_eq_ok.mp rest
      cases parsed with
      | informational =>
        simp only at rest
        split at rest
        · cases rest
        · next few =>
          cases rest
          exact .informational ends isParsed (by simp [pushed] at few; omega)
      | final head =>
        cases rest
        exact .final ends isParsed
    · next more =>
      cases rest
      exact .more (by simpa [pushed] using more)
  · rintro ⟨room, step⟩
    refine ⟨_, ⟨room, by simp, rfl⟩, ?_⟩
    cases step with
    | more unfinished => simp [pushed, unfinished, pure_eq_ok]
    | informational ends parsed few =>
      have few : ¬ f.informationalResponses + 1 > maxInformationalResponses := by omega
      simp [pushed, ends, parsed, bind_eq_ok, few, pure, Except.pure]
    | final ends parsed => simp [pushed, ends, parsed, bind_eq_ok, pure_eq_ok]

/-- Everything a byte of a chunk-size line can do. -/
inductive ChunkSizeStep (width : PointerWidth) (http : HttParse) (f : Framing) (bodyLength : Nat) (byte : UInt8) :
    Framing → Prop
  | more (unfinished : ¬ [0x0D, 0x0A] <:+ f.scratch ++ [byte]) :
      ChunkSizeStep width http f bodyLength byte (f.pushed byte true)
  | size {size : Nat} (ends : [0x0D, 0x0A] <:+ f.scratch ++ [byte])
      (parsed : http.chunkSize (f.scratch ++ [byte]) = some ((f.scratch ++ [byte]).length, size))
      (fits : size ≤ width.usizeMax ∧ size ≤ f.limits.bodyBytes - bodyLength) :
      ChunkSizeStep width http f bodyLength byte
        { f.pushed byte true with scratch := [], state := if size = 0 then .trailers else .chunkData size }

theorem chunkSizeByte_ok {bodyLength : Nat} :
    f.chunkSizeByte width http bodyLength byte = .ok f' ↔
      f.scratch.length < f.limits.headerBytes ∧ f.framingBytes < f.limits.headerBytes ∧
        ChunkSizeStep width http f bodyLength byte f' := by
  simp only [chunkSizeByte, bind_eq_ok, pushScratch_ok]
  constructor
  · rintro ⟨_, ⟨room, counted, rfl⟩, rest⟩
    refine ⟨room, counted trivial, ?_⟩
    split at rest
    · next ends =>
      have ends : [0x0D, 0x0A] <:+ f.scratch ++ [byte] := by simpa [pushed] using ends
      cases parsed : http.chunkSize (f.pushed byte true).scratch with
      | none => simp [parsed, throw_ne_ok] at rest
      | some result =>
        obtain ⟨used, size⟩ := result
        simp only [parsed] at rest
        split at rest
        · cases rest
        next whole =>
        split at rest
        · cases rest
        next fits =>
        cases rest
        rw [not_not] at whole
        subst whole
        exact .size ends parsed (by simp [pushed] at fits; omega)
    · next more =>
      cases rest
      exact .more (by simpa [pushed] using more)
  · rintro ⟨room, counted, step⟩
    refine ⟨_, ⟨room, fun _ => counted, rfl⟩, ?_⟩
    cases step with
    | more unfinished => simp [pushed, unfinished, pure_eq_ok]
    | @size size ends parsed fits =>
      have notOver : ¬ (size > width.usizeMax ∨ size > f.limits.bodyBytes - bodyLength) := by omega
      simp only [pushed] at parsed ⊢
      simp [ends, parsed, notOver, pure, Except.pure]

theorem chunkEndByte_ok {matched : Nat} :
    f.chunkEndByte matched byte = .ok f' ↔ f.framingBytes < f.limits.headerBytes ∧
      (matched = 0 ∧ byte = 0x0D ∧ f' = { f with framingBytes := f.framingBytes + 1, state := .chunkEnd 1 } ∨
        matched = 1 ∧ byte = 0x0A ∧ f' = { f with framingBytes := f.framingBytes + 1, state := .chunkSize }) := by
  simp only [chunkEndByte]
  split
  · next first => simp [-bind_pure_comp, bind_eq_ok, pure_eq_ok, countFramingByte_ok, first, and_assoc]
  split
  · next second => simp [-bind_pure_comp, bind_eq_ok, pure_eq_ok, countFramingByte_ok, second, and_assoc]
  next first second =>
  simp only [throw_ne_ok, false_iff]
  rintro ⟨-, ⟨zero, cr, -⟩ | ⟨one, lf, -⟩⟩
  · exact first ⟨zero, cr⟩
  · exact second ⟨one, lf⟩

def endsTrailers (scratch : Bytes) : Prop := scratch = [0x0D, 0x0A] ∨ crlfCrlf <:+ scratch

theorem trailerByte_ok {ended : Bool} :
    f.trailerByte http byte = .ok (f', ended) ↔
      f.scratch.length < f.limits.headerBytes ∧ f.framingBytes < f.limits.headerBytes ∧
        (¬ endsTrailers (f.scratch ++ [byte]) ∧ f' = f.pushed byte true ∧ ended = false ∨
          endsTrailers (f.scratch ++ [byte]) ∧ validateTrailers http (f.scratch ++ [byte]) f.limits = .ok () ∧
            f' = { f.pushed byte true with scratch := [] } ∧ ended = true) := by
  simp only [trailerByte, bind_eq_ok, pushScratch_ok]
  constructor
  · rintro ⟨_, ⟨room, counted, rfl⟩, rest⟩
    refine ⟨room, counted trivial, ?_⟩
    split at rest
    · next ends =>
      obtain ⟨⟨⟩, valid, rest⟩ := bind_eq_ok.mp rest
      cases rest
      exact .inr ⟨by simpa [pushed, endsTrailers] using ends, valid, rfl, rfl⟩
    · next more =>
      cases rest
      exact .inl ⟨by simpa [pushed, endsTrailers] using more, rfl, rfl⟩
  · rintro ⟨room, counted, step⟩
    refine ⟨_, ⟨room, fun _ => counted, rfl⟩, ?_⟩
    rcases step with ⟨more, rfl, rfl⟩ | ⟨ends, valid, rfl, rfl⟩
    · rw [if_neg (by simpa [pushed, endsTrailers] using more)]
      rfl
    · rw [if_pos (by simpa [pushed, endsTrailers] using ends)]
      exact bind_eq_ok.mpr ⟨(), valid, rfl⟩

end Framing

/-! ## The buffering decoder -/

/-- `http1::ResponseDecoder`. -/
structure ResponseDecoder where
  framing : Framing
  status : Option Nat
  headers : List Header
  body : Bytes
deriving DecidableEq, Repr

/-- `http1::DecodeProgress`. -/
structure DecodeProgress where
  response : Option Response
  consumed : Nat
  permitsReuse : Bool
deriving DecidableEq, Repr

/-- The error `BodyBuffer::plan_capacity` reports through `check_capacity`. -/
def capacityError : Error :=
  Error.limit .bufferedBodyBytes "buffered HTTP capacity exceeds the addressable allocation size"

namespace ResponseDecoder

def new (responseToHead : Bool) (limits : HttpLimits) : ResponseDecoder :=
  ⟨Framing.new responseToHead limits, none, [], []⟩

def setState (d : ResponseDecoder) (state : DecodeState) : ResponseDecoder :=
  { d with framing := { d.framing with state := state } }

def complete (d : ResponseDecoder) : Except Error (ResponseDecoder × Response) :=
  match d.status with
  | none => .error (Error.new .internal "native HTTP decoder completed without a final status")
  | some status =>
    .ok ({ d.setState .complete with status := none, headers := [], body := [] }, ⟨status, d.headers, d.body⟩)

/-- `complete().map(Some)`. -/
def completeSome (d : ResponseDecoder) : Except Error (ResponseDecoder × Option Response) :=
  d.complete.map fun (d, response) => (d, some response)

def pushBody (d : ResponseDecoder) (byte : UInt8) : Except Error ResponseDecoder :=
  if d.body.length ≥ d.framing.limits.bodyBytes then
    .error (responseBodyLimit d.framing.limits.bodyBytes)
  else
    .ok { d with body := d.body ++ [byte] }

def beginBody (width : PointerWidth) (d : ResponseDecoder) (head : FinalHead) :
    Except Error (ResponseDecoder × Option Response) :=
  let d := { d with status := some head.status, headers := head.headers }
  match head.framing with
  | .none | .fixed 0 => d.completeSome
  | .fixed remaining =>
    if remaining > width.isizeMax then .error capacityError
    else .ok (d.setState (.fixed remaining), none)
  | .chunked => .ok (d.setState .chunkSize, none)
  | .closeDelimited => .ok (d.setState .closeDelimited, none)

def consume (width : PointerWidth) (http : HttParse) (d : ResponseDecoder) (byte : UInt8) :
    Except Error (ResponseDecoder × Option Response) :=
  match d.framing.state with
  | .head => do
    let (framing, final) ← d.framing.headByte width http byte
    match final with
    | none => return ({ d with framing := framing }, none)
    | some head => beginBody width { d with framing := framing } head
  | .fixed remaining => do
    let d ← d.pushBody byte
    if remaining = 1 then d.completeSome
    else return (d.setState (.fixed (remaining - 1)), none)
  | .closeDelimited => return (← d.pushBody byte, none)
  | .chunkSize => return ({ d with framing := ← d.framing.chunkSizeByte width http d.body.length byte }, none)
  | .chunkData remaining => do
    let d ← d.pushBody byte
    return (d.setState (Framing.chunkDataState (remaining - 1)), none)
  | .chunkEnd matched => return ({ d with framing := ← d.framing.chunkEndByte matched byte }, none)
  | .trailers => do
    let (framing, ended) ← d.framing.trailerByte http byte
    let d := { d with framing := framing }
    if ended then d.completeSome else return (d, none)
  | .complete => throw (Error.new .internal "native HTTP decoder advanced after completion")

/-- How many of the available bytes the fast path of `ingest` takes as payload. -/
def payloadCount (d : ResponseDecoder) (available : Nat) : Nat :=
  match d.framing.state with
  | .fixed remaining | .chunkData remaining => min available remaining
  | .closeDelimited => available
  | _ => 0

/-- The fast path of `ingest`: a span of payload bytes at once. -/
def payload (d : ResponseDecoder) (bytes : Bytes) : Except Error (ResponseDecoder × Option Response) :=
  if bytes.length > d.framing.limits.bodyBytes - d.body.length then
    .error (responseBodyLimit d.framing.limits.bodyBytes)
  else
    let d := { d with body := d.body ++ bytes }
    match d.framing.state with
    | .fixed remaining =>
      if bytes.length = remaining then d.completeSome
      else .ok (d.setState (.fixed (remaining - bytes.length)), none)
    | .chunkData remaining => .ok (d.setState (Framing.chunkDataState (remaining - bytes.length)), none)
    | _ => .ok (d, none)

/-- One round of the loop of `ingest`: what it consumes of the bytes that are left, and the decoder after it. -/
def advance (width : PointerWidth) (http : HttParse) (d : ResponseDecoder) (byte : UInt8) (rest : Bytes) :
    Nat × Except Error (ResponseDecoder × Option Response) :=
  let count := d.payloadCount (rest.length + 1)
  if count ≠ 0 then (count, d.payload ((byte :: rest).take count)) else (1, d.consume width http byte)

/-- The loop of `ResponseDecoder::ingest`, over the bytes not yet consumed. Every round consumes at least one, so
that `fuel` is not what ends it. -/
def ingestLoop (width : PointerWidth) (http : HttParse) :
    Nat → ResponseDecoder → Bytes → Nat → Except Error (ResponseDecoder × DecodeProgress)
  | 0, d, _, consumed | _, d, [], consumed => .ok (d, ⟨none, consumed, false⟩)
  | fuel + 1, d, byte :: rest, consumed => do
    let (count, result) := d.advance width http byte rest
    let (d, response) ← result
    match response with
    | some response => return (d, ⟨some response, consumed + count, d.framing.permitsReuse⟩)
    | none => ingestLoop width http fuel d ((byte :: rest).drop count) (consumed + count)

def ingest (width : PointerWidth) (http : HttParse) (d : ResponseDecoder) (bytes : Bytes) :
    Except Error (ResponseDecoder × DecodeProgress) :=
  if d.framing.state = .complete then
    .error (Error.new .internal "native HTTP decoder received bytes after completion")
  else
    ingestLoop width http bytes.length d bytes 0

def eof (d : ResponseDecoder) : Except Error (ResponseDecoder × Option Response) :=
  match d.framing.state with
  | .closeDelimited => d.completeSome
  | .complete => .ok (d, none)
  | state => .error (Framing.eofError state)

end ResponseDecoder

end NbReq
