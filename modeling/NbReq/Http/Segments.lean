import NbReq.Http.Decoder

/-!
# Segments

`ResponseDecoder::ingest` takes spans of payload at once. Here it is compared with a decoder that takes every byte
through `consume`, and with it every way of cutting the input.

1. `ResponseDecoder.ingest_eq_feed`: the fast path changes nothing.
2. `ResponseDecoder.feed_append`: feeding one piece after the other is feeding both.
3. `decode_segments`: the outcome of a decoder does not depend on how its input is cut.
-/

namespace NbReq

namespace ResponseDecoder

variable {width : PointerWidth} {http : HttParse} {d d' : ResponseDecoder}

/-- `ingest` without the fast path: byte by byte. -/
def feed (width : PointerWidth) (http : HttParse) :
    ResponseDecoder → Bytes → Nat → Except Error (ResponseDecoder × DecodeProgress)
  | d, [], consumed => .ok (d, ⟨none, consumed, false⟩)
  | d, byte :: rest, consumed =>
    match d.consume width http byte with
    | .error error => .error error
    | .ok (d, some response) => .ok (d, ⟨some response, consumed + 1, d.framing.permitsReuse⟩)
    | .ok (d, none) => feed width http d rest (consumed + 1)

/-- A state in which the next `count` bytes are payload. -/
def takesPayload (d : ResponseDecoder) (count : Nat) : Prop :=
  match d.framing.state with
  | .fixed remaining | .chunkData remaining => count ≤ remaining
  | .closeDelimited => True
  | _ => False

theorem takesPayload_payloadCount {available : Nat} (some : d.payloadCount available ≠ 0) :
    d.takesPayload (d.payloadCount available) := by
  unfold payloadCount at some ⊢
  unfold takesPayload
  split at some <;> simp_all

theorem payloadCount_le (available : Nat) : d.payloadCount available ≤ available := by
  unfold payloadCount
  split <;> omega

/-- One payload byte through the slow path is a span of length one. -/
theorem consume_payload {byte : UInt8} (takes : d.takesPayload 1) : d.consume width http byte = d.payload [byte] := by
  have full : (d.body.length ≥ d.framing.limits.bodyBytes) ↔
      [byte].length > d.framing.limits.bodyBytes - d.body.length := by
    simp
    omega
  unfold consume payload pushBody
  unfold takesPayload at takes
  by_cases room : d.body.length ≥ d.framing.limits.bodyBytes
  · rw [if_pos room, if_pos (full.mp room)]
    split at takes <;> simp_all [bind, Except.bind]
  rw [if_neg room, if_neg fun more => room (full.mpr more)]
  split at takes
  · next remaining state =>
    simp only [state, bind, Except.bind, List.length_singleton, eq_comm (a := remaining) (b := 1)]
    rfl
  · next remaining state =>
    simp only [state, bind, Except.bind, pure, Except.pure, List.length_singleton]
  · next state => simp only [state, bind, Except.bind, pure, Except.pure]
  · cases takes

/-- A span is its first byte and then the rest of it. -/
theorem payload_cons {byte next : UInt8} {more : Bytes} (takes : d.takesPayload (more.length + 2)) :
    (∃ error, d.payload [byte] = .error error ∧ d.payload (byte :: next :: more) = .error error) ∨
      ∃ d', d.payload [byte] = .ok (d', none) ∧ d'.takesPayload (more.length + 1) ∧
        d'.payload (next :: more) = d.payload (byte :: next :: more) := by
  unfold takesPayload at takes
  by_cases room : [byte].length > d.framing.limits.bodyBytes - d.body.length
  · refine .inl ⟨responseBodyLimit d.framing.limits.bodyBytes, ?_, ?_⟩
    · rw [payload, if_pos room]
    · rw [payload, if_pos]
      simp at room ⊢
      omega
  have long : (next :: more).length > d.framing.limits.bodyBytes - (d.body ++ [byte]).length ↔
      (byte :: next :: more).length > d.framing.limits.bodyBytes - d.body.length := by
    simp at room ⊢
    omega
  refine .inr ?_
  split at takes
  · next remaining state =>
    have one : [byte].length ≠ remaining := by simp; omega
    refine ⟨({ d with body := d.body ++ [byte] }).setState (.fixed (remaining - 1)), ?_, ?_, ?_⟩
    · simp only [payload, if_neg room, state, if_neg one]
      rfl
    · simp only [takesPayload, setState]
      omega
    · have last : (next :: more).length = remaining - 1 ↔ (byte :: next :: more).length = remaining := by
        simp; omega
      have left : remaining - 1 - (next :: more).length = remaining - (byte :: next :: more).length := by
        simp; omega
      simp only [payload, setState, state, long, last, left, List.append_assoc, List.singleton_append]
      rfl
  · next remaining state =>
    have some : remaining - 1 ≠ 0 := by omega
    refine ⟨({ d with body := d.body ++ [byte] }).setState (.chunkData (remaining - 1)), ?_, ?_, ?_⟩
    · simp only [payload, if_neg room, state, Framing.chunkDataState]
      rw [List.length_singleton, if_neg some]
    · simp only [takesPayload, setState]
      omega
    · have left : remaining - 1 - (next :: more).length = remaining - (byte :: next :: more).length := by
        simp; omega
      simp only [payload, setState, state, long, left, List.append_assoc, List.singleton_append]
  · next state =>
    refine ⟨{ d with body := d.body ++ [byte] }, ?_, ?_, ?_⟩
    · simp only [payload, if_neg room, state]
    · simp only [takesPayload, state]
    · simp only [payload, state, long, List.append_assoc, List.singleton_append]
  · cases takes

/-- A span of payload at once does what its bytes do one by one. -/
theorem feed_payload {span : Bytes} (rest : Bytes) (consumed : Nat) (nonempty : span ≠ [])
    (takes : d.takesPayload span.length) :
    feed width http d (span ++ rest) consumed =
      match d.payload span with
      | .error error => .error error
      | .ok (d, some response) => .ok (d, ⟨some response, consumed + span.length, d.framing.permitsReuse⟩)
      | .ok (d, none) => feed width http d rest (consumed + span.length) := by
  induction span generalizing d consumed with
  | nil => exact absurd rfl nonempty
  | cons byte more ih =>
    have first : d.takesPayload 1 := by
      unfold takesPayload at takes ⊢
      split at takes <;> simp_all <;> omega
    rw [List.cons_append, feed, consume_payload first]
    cases more with
    | nil => rfl
    | cons next more =>
      rcases payload_cons takes with ⟨error, one, all⟩ | ⟨d', one, still, all⟩
      · rw [one, all]
      rw [one, ← all]
      simp only
      rw [ih (consumed + 1) (by simp) still,
        show consumed + 1 + (next :: more).length = consumed + (byte :: next :: more).length by simp; omega]

variable {bytes : Bytes}

/-- The fast path of `ingest` changes nothing. -/
theorem ingestLoop_eq_feed {fuel : Nat} {consumed : Nat} (enough : bytes.length ≤ fuel) :
    ingestLoop width http fuel d bytes consumed = feed width http d bytes consumed := by
  induction fuel generalizing d bytes consumed with
  | zero =>
    cases bytes with
    | nil => rfl
    | cons => simp at enough
  | succ fuel ih =>
    cases bytes with
    | nil => rfl
    | cons byte rest =>
      have short : rest.length ≤ fuel := by simpa using enough
      rw [ingestLoop, advance]
      by_cases noSpan : d.payloadCount (rest.length + 1) = 0
      · simp only [noSpan, ne_eq, not_true_eq_false, if_false, feed]
        cases d.consume width http byte with
        | error => rfl
        | ok result =>
          obtain ⟨d', response⟩ := result
          cases response with
          | some => rfl
          | none => exact ih (by simpa using short)
      have within := d.payloadCount_le (rest.length + 1)
      have length : ((byte :: rest).take (d.payloadCount (rest.length + 1))).length =
          d.payloadCount (rest.length + 1) := by
        simp
        omega
      have spanTakes := takesPayload_payloadCount noSpan
      rw [← length] at spanTakes
      have split := @feed_payload width http d _
        ((byte :: rest).drop (d.payloadCount (rest.length + 1))) consumed
        (List.ne_nil_of_length_pos (by omega)) spanTakes
      rw [List.take_append_drop, length] at split
      rw [split]
      simp only [ne_eq, noSpan, not_false_eq_true, if_true]
      cases d.payload ((byte :: rest).take (d.payloadCount (rest.length + 1))) with
      | error => rfl
      | ok result =>
        obtain ⟨d', response⟩ := result
        cases response with
        | some => rfl
        | none => exact ih (by simp; omega)

theorem ingest_eq_feed (going : d.framing.state ≠ .complete) :
    d.ingest width http bytes = feed width http d bytes 0 := by
  rw [ingest, if_neg going]
  exact ingestLoop_eq_feed (Nat.le_refl _)

/-- Feeding one piece after the other is feeding both. -/
theorem feed_append (first second : Bytes) (consumed : Nat) :
    feed width http d (first ++ second) consumed =
      match feed width http d first consumed with
      | .error error => .error error
      | .ok (d, ⟨some response, consumed, reuse⟩) => .ok (d, ⟨some response, consumed, reuse⟩)
      | .ok (d, ⟨none, consumed, _⟩) => feed width http d second consumed := by
  induction first generalizing d consumed with
  | nil => rfl
  | cons byte rest ih =>
    rw [List.cons_append, feed, feed]
    cases d.consume width http byte with
    | error => rfl
    | ok result =>
      obtain ⟨d', response⟩ := result
      cases response with
      | some => rfl
      | none => exact ih (consumed + 1)

/-- The count of consumed bytes is only carried along. -/
theorem feed_add (bytes : Bytes) (before consumed : Nat) :
    feed width http d bytes (before + consumed) =
      (feed width http d bytes consumed).map fun (d, progress) =>
        (d, { progress with consumed := before + progress.consumed }) := by
  induction bytes generalizing d consumed with
  | nil => rfl
  | cons byte rest ih =>
    rw [feed, feed]
    cases d.consume width http byte with
    | error => rfl
    | ok result =>
      obtain ⟨d', response⟩ := result
      cases response with
      | some => rfl
      | none => exact ih (consumed + 1)

/-- A byte that completes nothing leaves the decoder going. -/
theorem consume_going {byte : UInt8} (step : d.consume width http byte = .ok (d', none)) :
    d'.framing.state ≠ .complete := by
  unfold consume at step
  split at step
  · next state =>
    obtain ⟨⟨framing, final⟩, headStep, rest⟩ := bind_eq_ok.mp step
    have same : framing.state = .head := by
      cases (Framing.headByte_ok.mp headStep).2 <;> exact state
    cases final with
    | none =>
      cases rest
      simp [same]
    | some head =>
      simp only [beginBody] at rest
      split at rest
      · cases rest
      · cases rest
      · split at rest
        · cases rest
        · cases rest
          simp [setState]
      · cases rest
        simp [setState]
      · cases rest
        simp [setState]
  · obtain ⟨pushed, -, rest⟩ := bind_eq_ok.mp step
    split at rest
    · simp only [completeSome, complete] at rest
      split at rest <;> cases rest
    · cases rest
      simp [setState]
  · next state =>
    obtain ⟨pushed, push, rest⟩ := bind_eq_ok.mp step
    cases rest
    unfold pushBody at push
    split at push
    · cases push
    · cases push
      simp [state]
  · next state =>
    obtain ⟨framing, sizeStep, rest⟩ := bind_eq_ok.mp step
    cases rest
    cases (Framing.chunkSizeByte_ok.mp sizeStep).2.2 with
    | more => simp [Framing.pushed, state]
    | @size size => by_cases zero : size = 0 <;> simp [zero]
  · next remaining _ =>
    obtain ⟨pushed, -, rest⟩ := bind_eq_ok.mp step
    cases rest
    by_cases last : remaining - 1 = 0 <;> simp [setState, Framing.chunkDataState, last]
  · obtain ⟨framing, endStep, rest⟩ := bind_eq_ok.mp step
    cases rest
    rcases (Framing.chunkEndByte_ok.mp endStep).2 with ⟨-, -, rfl⟩ | ⟨-, -, rfl⟩ <;> simp
  · next state =>
    obtain ⟨⟨framing, ended⟩, trailerStep, rest⟩ := bind_eq_ok.mp step
    rcases (Framing.trailerByte_ok.mp trailerStep).2.2 with ⟨-, rfl, rfl⟩ | ⟨-, -, rfl, rfl⟩
    · cases rest
      simp [Framing.pushed, state]
    · simp only [if_true, completeSome, complete] at rest
      split at rest <;> cases rest
  · cases step

theorem feed_going {consumed : Nat} {progress : DecodeProgress}
    (going : d.framing.state ≠ .complete) (fed : feed width http d bytes consumed = .ok (d', progress))
    (unfinished : progress.response = none) : d'.framing.state ≠ .complete := by
  induction bytes generalizing d consumed with
  | nil =>
    cases fed
    exact going
  | cons byte rest ih =>
    rw [feed] at fed
    split at fed
    · cases fed
    · cases fed
      cases unfinished
    · next step => exact ih (consume_going step) fed

end ResponseDecoder

/-! ## Whole inputs -/

/-- A decoded response: how many bytes it took and whether the connection may be used again. -/
structure Decoded where
  response : Response
  consumed : Nat
  permitsReuse : Bool
deriving DecidableEq, Repr

/-- The end of the input after `consumed` bytes. -/
def decodeEof (d : ResponseDecoder) (consumed : Nat) : Except Error (Option Decoded) :=
  d.eof.map fun (d, response) => response.map (⟨·, consumed, d.framing.permitsReuse⟩)

/-- Feeds the segments in order until the decoder completes or fails, and tells it about the end of the input if it
does neither. -/
def decodeSegments (width : PointerWidth) (http : HttParse) :
    ResponseDecoder → Nat → List Bytes → Except Error (Option Decoded)
  | d, consumed, [] => decodeEof d consumed
  | d, consumed, segment :: rest =>
    match d.ingest width http segment with
    | .error error => .error error
    | .ok (_, ⟨some response, count, permitsReuse⟩) => .ok (some ⟨response, consumed + count, permitsReuse⟩)
    | .ok (d, ⟨none, count, _⟩) => decodeSegments width http d (consumed + count) rest

variable {width : PointerWidth} {http : HttParse}

/-- What decoding comes to, from what the bytes do one by one. -/
def decodeFed : Except Error (ResponseDecoder × DecodeProgress) → Except Error (Option Decoded)
  | .error error => .error error
  | .ok (_, ⟨some response, consumed, permitsReuse⟩) => .ok (some ⟨response, consumed, permitsReuse⟩)
  | .ok (d, ⟨none, consumed, _⟩) => decodeEof d consumed

theorem decodeSegments_eq {d : ResponseDecoder} (going : d.framing.state ≠ .complete) (consumed : Nat)
    (segments : List Bytes) :
    decodeSegments width http d consumed segments =
      decodeFed (d.feed width http segments.flatten consumed) := by
  induction segments generalizing d consumed with
  | nil => rfl
  | cons segment rest ih =>
    rw [decodeSegments, ResponseDecoder.ingest_eq_feed going, List.flatten_cons, ResponseDecoder.feed_append,
      ← Nat.add_zero consumed, ResponseDecoder.feed_add]
    cases fed : d.feed width http segment 0 with
    | error => rfl
    | ok result =>
      obtain ⟨d', ⟨response, count, reuse⟩⟩ := result
      cases response with
      | some => rfl
      | none => exact ih (ResponseDecoder.feed_going going fed rfl) (consumed + count)

/-- However an input is cut into segments, the decoder comes to the same outcome: the same error, or the same
response after the same number of bytes, with the same word on reuse. -/
theorem decode_segments (responseToHead : Bool) (limits : HttpLimits) (segments : List Bytes) :
    decodeSegments width http (.new responseToHead limits) 0 segments =
      decodeSegments width http (.new responseToHead limits) 0 [segments.flatten] := by
  have going : (ResponseDecoder.new responseToHead limits).framing.state ≠ .complete := nofun
  rw [decodeSegments_eq going, decodeSegments_eq going]
  simp

end NbReq
