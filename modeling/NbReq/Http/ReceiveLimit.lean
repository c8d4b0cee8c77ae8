import NbReq.Http.Segments

/-!
# Receive limits

The reactor closes a connection on which more bytes arrive for an exchange than its owner allows
(`NativeReactor::read_ready`). Here the allowance is compared with what the decoder accepts.

1. `receive_limit_suffices`: no cleartext response that the decoder accepts is over the limit.
2. `encrypted_limit_exact`: over TLS a response gets through if and only if its plaintext, what the records add to it
   and the handshake of the connection are within the limit together. They are, while the records and the handshake add
   no more than a flight.
3. `small_records_are_refused`: in general they are not.
-/

namespace NbReq

variable {width : PointerWidth} {http : HttParse} {limits : HttpLimits}

/-! ## The limits -/

/-- `usize::saturating_add`. -/
def PointerWidth.saturatingAdd (width : PointerWidth) (a b : Nat) : Nat := min (a + b) width.usizeMax

/-- `HttpLimits::for_request`, of a request with the given limit on its response. -/
def HttpLimits.forRequest (limits : HttpLimits) (maxResponseBodyBytes : Option Nat) : HttpLimits :=
  { limits with bodyBytes := min (maxResponseBodyBytes.getD limits.bodyBytes) limits.bodyBytes }

def HttpLimits.reactorReceiveLimit (width : PointerWidth) (limits : HttpLimits) : Nat :=
  width.saturatingAdd
    (width.saturatingAdd (min (limits.headerBytes * (maxInformationalResponses + 2)) width.usizeMax) limits.bodyBytes)
    (16 * 1024)

def tlsFlightLimit : Nat := 512 * 1024

def encryptedReceiveLimit (width : PointerWidth) (plaintextBytes : Nat) : Nat :=
  width.saturatingAdd plaintextBytes tlsFlightLimit

/-- The count that `read_ready` keeps of the reads of an exchange; `none` when it is over the limit. -/
def countReads (width : PointerWidth) (limit : Nat) : Nat → List Nat → Option Nat
  | received, [] => some received
  | received, read :: rest =>
    if width.saturatingAdd received read > limit then none
    else countReads width limit (width.saturatingAdd received read) rest

/-- No read is refused if and only if together they are within the limit, as far as a `usize` counts. -/
theorem countReads_isSome_iff {limit received : Nat} {reads : List Nat} (far : received ≤ limit) :
    (countReads width limit received reads).isSome ↔ min (received + reads.sum) width.usizeMax ≤ limit := by
  induction reads generalizing received with
  | nil => exact iff_of_true rfl (Nat.le_trans (Nat.min_le_left _ _) far)
  | cons read rest ih =>
    rw [List.sum_cons]
    unfold countReads PointerWidth.saturatingAdd
    split
    · exact iff_of_false Bool.false_ne_true (by omega)
    · rename_i within
      rw [ih (Nat.le_of_not_lt within)]
      omega

/-! ## What the decoder counts -/

/-- The most bytes a response can have within the limits: the heads, what frames the body, and the body. -/
def HttpLimits.mostBytes (limits : HttpLimits) : Nat :=
  (maxInformationalResponses + 2) * limits.headerBytes + limits.bodyBytes

namespace ResponseDecoder

variable {d d' : ResponseDecoder} {n : Nat} {byte : UInt8} {response : Response}

/-- What the heads have taken, so far or at most. -/
def headBytes (d : ResponseDecoder) : Nat :=
  if d.framing.state = .head then
    d.framing.informationalResponses * d.framing.limits.headerBytes + d.framing.scratch.length
  else (maxInformationalResponses + 1) * d.framing.limits.headerBytes

/-- A decoder that has taken `n` bytes. -/
structure Metered (limits : HttpLimits) (d : ResponseDecoder) (n : Nat) : Prop where
  same : d.framing.limits = limits
  informational : d.framing.informationalResponses ≤ maxInformationalResponses
  scratch : d.framing.state = .head → d.framing.scratch.length ≤ limits.headerBytes
  framing : d.framing.framingBytes ≤ limits.headerBytes
  body : d.body.length ≤ limits.bodyBytes
  count : n ≤ d.headBytes + d.framing.framingBytes + d.body.length

theorem Metered.new (responseToHead : Bool) (limits : HttpLimits) : Metered limits (.new responseToHead limits) 0 :=
  ⟨rfl, Nat.zero_le _, fun _ => Nat.zero_le _, Nat.zero_le _, Nat.zero_le _, Nat.zero_le _⟩

theorem Metered.headBytes_le (metered : Metered limits d n) :
    d.headBytes ≤ (maxInformationalResponses + 1) * limits.headerBytes := by
  unfold headBytes
  rw [metered.same]
  split
  · next head =>
    have heads := Nat.mul_le_mul_right limits.headerBytes metered.informational
    have scratch := metered.scratch head
    rw [Nat.add_mul, Nat.one_mul]
    omega
  · exact Nat.le_refl _

theorem Metered.le_mostBytes (metered : Metered limits d n) : n ≤ limits.mostBytes := by
  calc n ≤ d.headBytes + d.framing.framingBytes + d.body.length := metered.count
    _ ≤ (maxInformationalResponses + 1) * limits.headerBytes + limits.headerBytes + limits.bodyBytes :=
      Nat.add_le_add (Nat.add_le_add metered.headBytes_le metered.framing) metered.body
    _ = limits.mostBytes := by rw [HttpLimits.mostBytes, Nat.add_mul _ 2, Nat.add_mul _ 1]; omega

theorem Metered.of_started (started : d.framing.state ≠ .head) (same : d.framing.limits = limits)
    (informational : d.framing.informationalResponses ≤ maxInformationalResponses)
    (framing : d.framing.framingBytes ≤ limits.headerBytes) (body : d.body.length ≤ limits.bodyBytes)
    (count : n ≤ (maxInformationalResponses + 1) * limits.headerBytes + d.framing.framingBytes + d.body.length) :
    Metered limits d n :=
  ⟨same, informational, fun head => absurd head started, framing, body, by rwa [headBytes, if_neg started, same]⟩

theorem Metered.bound (metered : Metered limits d n) :
    n ≤ (maxInformationalResponses + 1) * limits.headerBytes + d.framing.framingBytes + d.body.length := by
  have count := metered.count
  have heads := metered.headBytes_le
  omega

/-- A byte that frames the body. -/
theorem Metered.frame (metered : Metered limits d n) {framing : Framing}
    (started : framing.state ≠ .head) (same : framing.limits = d.framing.limits)
    (informational : framing.informationalResponses = d.framing.informationalResponses)
    (room : d.framing.framingBytes < d.framing.limits.headerBytes)
    (one : framing.framingBytes = d.framing.framingBytes + 1) :
    Metered limits { d with framing := framing } (n + 1) := by
  have bound := metered.bound
  rw [metered.same] at room
  refine .of_started started (same.trans metered.same) (informational ▸ metered.informational) (one ▸ room)
    metered.body ?_
  dsimp only
  omega

theorem Metered.pushBody (metered : Metered limits d n) (pushed : d.pushBody byte = .ok d') (state : DecodeState)
    (next : state ≠ .head) : Metered limits (d'.setState state) (n + 1) := by
  unfold ResponseDecoder.pushBody at pushed
  split at pushed
  · cases pushed
  next room =>
  cases pushed
  have bound := metered.bound
  rw [metered.same] at room
  refine .of_started next metered.same metered.informational metered.framing ?_ ?_
  · simp only [setState, List.length_append, List.length_singleton]
    omega
  · simp only [setState, List.length_append, List.length_singleton]
    omega

/-- The last byte of the final head, and the state after it. -/
theorem Metered.final (metered : Metered limits d n) (head : d.framing.state = .head)
    (room : d.framing.scratch.length < d.framing.limits.headerBytes) (state : DecodeState) (next : state ≠ .head)
    (status : Option Nat) (headers : List Header) (permitsReuse : Bool) :
    Metered limits
      (setState ⟨{ d.framing with scratch := [], permitsReuse := permitsReuse }, status, headers, d.body⟩ state)
      (n + 1) := by
  have count := metered.count
  have heads := Nat.mul_le_mul_right limits.headerBytes metered.informational
  rw [headBytes, if_pos head, metered.same] at count
  rw [metered.same] at room
  refine .of_started next metered.same metered.informational metered.framing metered.body ?_
  rw [Nat.add_mul, Nat.one_mul]
  dsimp only [setState]
  omega

variable {out : Option Response}

theorem completeSome_ne_none (done : d.completeSome = .ok (d', out)) : out ≠ none := by
  simp only [completeSome, complete] at done
  split at done
  · cases done
  · cases done
    exact Option.some_ne_none _

/-- What a byte that the decoder takes comes to: it is counted, and the response goes on or is complete. -/
def Counted (limits : HttpLimits) (d : ResponseDecoder) (out : Option Response) (n : Nat) : Prop :=
  n ≤ limits.mostBytes ∧ (out = none → Metered limits d n)

theorem Metered.counted (metered : Metered limits d n) : Counted limits d out n :=
  ⟨metered.le_mostBytes, fun _ => metered⟩

theorem Metered.completed (metered : Metered limits d n) {last : ResponseDecoder}
    (done : last.completeSome = .ok (d', out)) : Counted limits d' out n :=
  ⟨metered.le_mostBytes, fun unfinished => absurd unfinished (completeSome_ne_none done)⟩

theorem Metered.head (metered : Metered limits d n) (state : d.framing.state = .head)
    (step : d.consume width http byte = .ok (d', out)) : Counted limits d' out (n + 1) := by
  unfold ResponseDecoder.consume at step
  rw [state] at step
  obtain ⟨⟨framing, final⟩, headStep, rest⟩ := bind_eq_ok.mp step
  obtain ⟨room, headStep⟩ := Framing.headByte_ok.mp headStep
  have count := metered.count
  rw [headBytes, if_pos state, metered.same] at count
  have short := metered.same ▸ room
  cases headStep with
  | more =>
    cases rest
    refine Metered.counted ⟨metered.same, metered.informational, fun _ => by simpa [Framing.pushed] using short,
      metered.framing, metered.body, ?_⟩
    simp only [headBytes, Framing.pushed, state, metered.same, List.length_append, List.length_singleton,
      Bool.false_eq_true, if_true, if_false]
    omega
  | informational ends parsed few =>
    cases rest
    refine Metered.counted ⟨metered.same, few, fun _ => Nat.zero_le _, metered.framing, metered.body, ?_⟩
    simp only [headBytes, state, metered.same, Nat.add_mul, List.length_nil, if_true]
    omega
  | @final head =>
    have final := fun state next => metered.final ‹_› room state next (some head.status) head.headers head.permitsReuse
    simp only [beginBody] at rest
    split at rest
    · exact (final .complete (by simp)).completed rest
    · exact (final .complete (by simp)).completed rest
    · split at rest
      · cases rest
      · cases rest
        exact (final (.fixed _) (by simp)).counted
    · cases rest
      exact (final .chunkSize (by simp)).counted
    · cases rest
      exact (final .closeDelimited (by simp)).counted

theorem Metered.consume (metered : Metered limits d n)
    (step : d.consume width http byte = .ok (d', out)) : Counted limits d' out (n + 1) := by
  by_cases head : d.framing.state = .head
  · exact metered.head head step
  unfold ResponseDecoder.consume at step
  split at step
  · next state => exact absurd state head
  · obtain ⟨pushed, push, rest⟩ := bind_eq_ok.mp step
    split at rest
    · exact (metered.pushBody push .complete (by simp)).completed rest
    · cases rest
      exact (metered.pushBody push (.fixed _) (by simp)).counted
  · next state =>
    obtain ⟨pushed, push, rest⟩ := bind_eq_ok.mp step
    cases rest
    have counted := metered.pushBody push .closeDelimited (by simp)
    have same : d'.framing.state = .closeDelimited := by
      unfold ResponseDecoder.pushBody at push
      split at push
      · cases push
      · cases push
        exact state
    exact (Metered.of_started (d := d') (by simp [same]) counted.same counted.informational counted.framing counted.body
      counted.bound).counted
  · next state =>
    obtain ⟨framing, sizeStep, rest⟩ := bind_eq_ok.mp step
    cases rest
    obtain ⟨-, room, sizeStep⟩ := Framing.chunkSizeByte_ok.mp sizeStep
    cases sizeStep with
    | more => exact Metered.counted (metered.frame head rfl rfl room rfl)
    | @size size =>
      refine Metered.counted (metered.frame ?_ rfl rfl room rfl)
      by_cases zero : size = 0 <;> simp [zero]
  · next remaining _ =>
    obtain ⟨pushed, push, rest⟩ := bind_eq_ok.mp step
    cases rest
    refine (metered.pushBody push _ ?_).counted
    by_cases last : remaining - 1 = 0 <;> simp [Framing.chunkDataState, last]
  · obtain ⟨framing, endStep, rest⟩ := bind_eq_ok.mp step
    cases rest
    obtain ⟨room, ⟨-, -, rfl⟩ | ⟨-, -, rfl⟩⟩ := Framing.chunkEndByte_ok.mp endStep
    · exact Metered.counted (metered.frame (by simp) rfl rfl room rfl)
    · exact Metered.counted (metered.frame (by simp) rfl rfl room rfl)
  · obtain ⟨⟨framing, ended⟩, trailerStep, rest⟩ := bind_eq_ok.mp step
    obtain ⟨-, room, ⟨-, rfl, rfl⟩ | ⟨-, -, rfl, rfl⟩⟩ := Framing.trailerByte_ok.mp trailerStep
    · cases rest
      exact Metered.counted (metered.frame head rfl rfl room rfl)
    · have counted : Metered limits { d with framing := d.framing.pushed byte true } (n + 1) :=
        metered.frame head rfl rfl room rfl
      exact counted.completed rest
  · cases step

theorem Metered.feed {bytes : Bytes} {consumed : Nat} {progress : DecodeProgress}
    (metered : Metered limits d consumed) (fed : feed width http d bytes consumed = .ok (d', progress)) :
    Counted limits d' progress.response progress.consumed := by
  induction bytes generalizing d consumed with
  | nil =>
    cases fed
    exact metered.counted
  | cons byte rest ih =>
    rw [ResponseDecoder.feed] at fed
    split at fed
    · cases fed
    · next step =>
      cases fed
      exact ⟨(metered.consume step).1, by simp⟩
    · next step => exact ih ((metered.consume step).2 rfl) fed

end ResponseDecoder

/-- A response that is decoded is within the limits. -/
theorem consumed_le_mostBytes {responseToHead : Bool} {segments : List Bytes} {decoded : Decoded}
    (accepted : decodeSegments width http (.new responseToHead limits) 0 segments = .ok (some decoded)) :
    decoded.consumed ≤ limits.mostBytes := by
  rw [decodeSegments_eq (by simp [ResponseDecoder.new, Framing.new])] at accepted
  have start := ResponseDecoder.Metered.new responseToHead limits
  cases fed : (ResponseDecoder.new responseToHead limits).feed width http segments.flatten 0 with
  | error error => rw [fed] at accepted; cases accepted
  | ok result =>
    obtain ⟨d, ⟨response, consumed, reuse⟩⟩ := result
    have counted := (start.feed fed).1
    rw [fed] at accepted
    cases response with
    | some response =>
      cases accepted
      exact counted
    | none =>
      have accepted : decodeEof d consumed = .ok (some decoded) := accepted
      unfold decodeEof at accepted
      cases ended : d.eof with
      | error error => rw [ended] at accepted; cases accepted
      | ok result =>
        rw [ended] at accepted
        obtain ⟨response, -, rfl⟩ := Option.map_eq_some_iff.mp (Except.ok.inj accepted)
        exact counted

theorem mostBytes_forRequest (limits : HttpLimits) (maxResponseBodyBytes : Option Nat) :
    (limits.forRequest maxResponseBodyBytes).mostBytes ≤ limits.mostBytes :=
  Nat.add_le_add_left (Nat.min_le_right _ _) _

theorem min_le_reactorReceiveLimit {n : Nat} (bounded : n ≤ limits.mostBytes) :
    min n width.usizeMax ≤ limits.reactorReceiveLimit width := by
  unfold HttpLimits.reactorReceiveLimit PointerWidth.saturatingAdd
  rw [HttpLimits.mostBytes, Nat.mul_comm] at bounded
  omega

/-- A cleartext response that the decoder accepts within the request's limits is within the receive limit, and none of
the reads that bring it is refused. A `usize` counts the bytes, and stops at its largest value. -/
theorem receive_limit_suffices (width : PointerWidth) (http : HttParse) (limits : HttpLimits)
    (maxResponseBodyBytes : Option Nat) (responseToHead : Bool) (segments : List Bytes) (decoded : Decoded)
    (accepted : decodeSegments width http (.new responseToHead (limits.forRequest maxResponseBodyBytes)) 0 segments =
      .ok (some decoded)) :
    min decoded.consumed width.usizeMax ≤ limits.reactorReceiveLimit width ∧
      ∀ reads : List Nat, reads.sum ≤ decoded.consumed →
        (countReads width (limits.reactorReceiveLimit width) 0 reads).isSome := by
  have most := Nat.le_trans (consumed_le_mostBytes accepted) (mostBytes_forRequest limits maxResponseBodyBytes)
  refine ⟨min_le_reactorReceiveLimit most, fun reads within => (countReads_isSome_iff (Nat.zero_le _)).mpr ?_⟩
  rw [Nat.zero_add]
  exact min_le_reactorReceiveLimit (Nat.le_trans within most)

/-- `httparse` on the head of the sample. -/
def plainHttp : HttParse where
  response _ bytes :=
    if bytes = ascii "HTTP/1.1 200 OK\r\n\r\n" then .complete bytes.length (some 1) (some 200) [] else .incomplete
  headers _ _ := .incomplete
  chunkSize _ := none

def plainDecoder (limits : HttpLimits) : ResponseDecoder :=
  ⟨⟨limits, false, .closeDelimited, [], 0, 0, false⟩, some 200, [], []⟩

theorem decode_plain_body (width : PointerWidth) (http : HttParse) (limits : HttpLimits) (consumed : Nat) {body : Bytes}
    (some_body : body ≠ []) (fits : body.length ≤ limits.bodyBytes) :
    decodeSegments width http (plainDecoder limits) consumed [body] =
      .ok (some ⟨⟨200, [], body⟩, consumed + body.length, false⟩) := by
  obtain ⟨byte, rest, rfl⟩ := List.exists_cons_of_ne_nil some_body
  have fits : ¬(byte :: rest).length > limits.bodyBytes - 0 := Nat.not_lt.mpr fits
  have taken : (plainDecoder limits).ingest width http (byte :: rest) =
      .ok ({ plainDecoder limits with body := byte :: rest }, ⟨none, (byte :: rest).length, false⟩) := by
    rw [ResponseDecoder.ingest, if_neg (by simp [plainDecoder]), List.length_cons, ResponseDecoder.ingestLoop]
    have all : (byte :: rest).take (rest.length + 1) = byte :: rest := List.take_of_length_le (Nat.le_refl _)
    have none : (byte :: rest).drop (rest.length + 1) = [] := List.drop_of_length_le (Nat.le_refl _)
    simp only [ResponseDecoder.advance, ResponseDecoder.payloadCount, ResponseDecoder.payload, plainDecoder, all, none,
      ne_eq, Nat.add_eq_zero_iff, Nat.one_ne_zero, and_false, not_false_eq_true, if_true, List.length_nil, if_neg fits]
    cases rest.length <;> simp [ResponseDecoder.ingestLoop, bind, Except.bind]
  rw [decodeSegments, taken]
  rfl

/-- A response of a head and a byte. -/
theorem receive_limit_suffices_sample :
    decodeSegments .bits64 plainHttp (.new false ((⟨10, 19, 1⟩ : HttpLimits).forRequest (some 1))) 0
        [ascii "HTTP/1.1 200 OK\r\n\r\n", [0x61]] = .ok (some ⟨⟨200, [], [0x61]⟩, 20, false⟩) ∧
      min 20 PointerWidth.bits64.usizeMax ≤ (⟨10, 19, 1⟩ : HttpLimits).reactorReceiveLimit .bits64 := by
  have accepted : decodeSegments .bits64 plainHttp (.new false ((⟨10, 19, 1⟩ : HttpLimits).forRequest (some 1))) 0
      [ascii "HTTP/1.1 200 OK\r\n\r\n", [0x61]] = .ok (some ⟨⟨200, [], [0x61]⟩, 20, false⟩) := by decide +kernel
  exact ⟨accepted, (receive_limit_suffices _ _ _ _ _ _ _ accepted).1⟩

/-! ## Over TLS -/

/-- What `read_ready` counts of an exchange over TLS: the handshake, if the connection was opened for the exchange, and
the records, each given by the length of its plaintext and what it adds to it. -/
def exchangeBytes (handshake : Nat) (records : List (Nat × Nat)) : Nat :=
  handshake + (records.map fun record => record.1 + record.2).sum

theorem exchangeBytes_eq (handshake : Nat) (records : List (Nat × Nat)) :
    exchangeBytes handshake records = (records.map Prod.fst).sum + (records.map Prod.snd).sum + handshake := by
  rw [exchangeBytes, Nat.add_comm]
  congr 1
  induction records with
  | nil => rfl
  | cons record rest ih =>
    simp only [List.map_cons, List.sum_cons, ih]
    omega

/-- The reads that bring an accepted response over TLS are taken if and only if the plaintext, what the records add to
it and the handshake are within the limit for encrypted bytes together, as far as a `usize` counts. That is so if the
records and the handshake add no more than a flight. -/
theorem encrypted_limit_exact (width : PointerWidth) (http : HttParse) (limits : HttpLimits)
    (maxResponseBodyBytes : Option Nat) (responseToHead : Bool) (segments : List Bytes) (decoded : Decoded)
    (accepted : decodeSegments width http (.new responseToHead (limits.forRequest maxResponseBodyBytes)) 0 segments =
      .ok (some decoded))
    (handshake : Nat) (records : List (Nat × Nat)) (plaintext : (records.map Prod.fst).sum = decoded.consumed)
    (reads : List Nat) (whole : reads.sum = exchangeBytes handshake records) :
    ((countReads width (encryptedReceiveLimit width (limits.reactorReceiveLimit width)) 0 reads).isSome ↔
      min (decoded.consumed + (records.map Prod.snd).sum + handshake) width.usizeMax ≤
        encryptedReceiveLimit width (limits.reactorReceiveLimit width)) ∧
    ((records.map Prod.snd).sum + handshake ≤ tlsFlightLimit →
      (countReads width (encryptedReceiveLimit width (limits.reactorReceiveLimit width)) 0 reads).isSome) := by
  have exactly : (countReads width (encryptedReceiveLimit width (limits.reactorReceiveLimit width)) 0 reads).isSome ↔
      min (decoded.consumed + (records.map Prod.snd).sum + handshake) width.usizeMax ≤
        encryptedReceiveLimit width (limits.reactorReceiveLimit width) := by
    rw [countReads_isSome_iff (Nat.zero_le _), Nat.zero_add, whole, exchangeBytes_eq, plaintext]
  refine ⟨exactly, fun light => exactly.mpr ?_⟩
  have clear : min decoded.consumed width.usizeMax ≤ limits.reactorReceiveLimit width :=
    min_le_reactorReceiveLimit
      (Nat.le_trans (consumed_le_mostBytes accepted) (mostBytes_forRequest limits maxResponseBodyBytes))
  unfold encryptedReceiveLimit PointerWidth.saturatingAdd
  omega

/-- The response of a head and a byte in twenty records, after a handshake of 4000 bytes. -/
theorem encrypted_limit_exact_sample :
    exchangeBytes 4000 (List.replicate 20 (1, 22)) = 4460 ∧
      (countReads .bits64 (encryptedReceiveLimit .bits64 ((⟨10, 19, 1⟩ : HttpLimits).reactorReceiveLimit .bits64)) 0
        [1500, 1500, 1460]).isSome :=
  ⟨by decide, (encrypted_limit_exact .bits64 plainHttp ⟨10, 19, 1⟩ (some 1) false
    [ascii "HTTP/1.1 200 OK\r\n\r\n", [0x61]] ⟨⟨200, [], [0x61]⟩, 20, false⟩ (by decide +kernel) 4000
    (List.replicate 20 (1, 22)) (by decide) [1500, 1500, 1460] (by decide)).1.mpr (by decide)⟩

def exampleLimits : HttpLimits := ⟨1024 * 1024, 64 * 1024, 100⟩

/-- A response that the decoder accepts, in records of one byte with the 22 bytes that TLS 1.3 adds to each, on a
connection that is reused. -/
theorem small_records_are_refused :
    decodeSegments .bits64 plainHttp (.new false exampleLimits) 0
        [ascii "HTTP/1.1 200 OK\r\n\r\n", List.replicate (1024 * 1024) 0x61] =
      .ok (some ⟨⟨200, [], List.replicate (1024 * 1024) 0x61⟩, 19 + 1024 * 1024, false⟩) ∧
    ((List.replicate (19 + 1024 * 1024) (1, 22)).map Prod.fst).sum = 19 + 1024 * 1024 ∧
    ∀ reads : List Nat, reads.sum = exchangeBytes 0 (List.replicate (19 + 1024 * 1024) (1, 22)) →
      countReads .bits64 (encryptedReceiveLimit .bits64 (exampleLimits.reactorReceiveLimit .bits64)) 0 reads =
        none := by
  generalize fits : 1024 * 1024 = n
  refine ⟨?_, by simp [-List.reduceReplicate], ?_⟩
  · have head : (ResponseDecoder.new false exampleLimits).ingest .bits64 plainHttp (ascii "HTTP/1.1 200 OK\r\n\r\n") =
        .ok (plainDecoder exampleLimits, ⟨none, 19, false⟩) := by decide +kernel
    have some_body : List.replicate n (0x61 : UInt8) ≠ [] := fun empty => by
      have zero := congrArg List.length empty
      rw [List.length_replicate, ← fits] at zero
      cases zero
    have body := decode_plain_body .bits64 plainHttp exampleLimits 19 some_body
      (by rw [List.length_replicate, ← fits]; exact Nat.le_refl _)
    rw [List.length_replicate] at body
    rw [decodeSegments, head]
    exact body
  · intro reads whole
    have limit : encryptedReceiveLimit .bits64 (exampleLimits.reactorReceiveLimit .bits64) = 2244608 := by decide
    have max : PointerWidth.bits64.usizeMax = 2 ^ 64 - 1 := rfl
    have sum : reads.sum = (19 + n) * 23 := by
      rw [whole, exchangeBytes_eq, List.map_replicate, List.map_replicate, List.sum_replicate, List.sum_replicate]
      simp only [smul_eq_mul]
      omega
    rw [limit, ← Option.not_isSome_iff_eq_none, countReads_isSome_iff (Nat.zero_le _), max, sum]
    omega

end NbReq
