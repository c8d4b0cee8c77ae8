import NbReq.Http.ReceiveLimit

/-!
# Where a response ends

A response that completes before the connection ends is told by its own bytes, not by what follows (`boundary_exact`).
-/

namespace NbReq

variable {width : PointerWidth} {http : HttParse} {d d' : ResponseDecoder} {bytes : Bytes} {progress : DecodeProgress}

/-- A decoder that completes does so whatever comes next. -/
theorem ResponseDecoder.feed_complete {consumed : Nat} (fed : feed width http d bytes consumed = .ok (d', progress))
    (complete : progress.response.isSome = true) :
    ∃ front back, bytes = front ++ back ∧ progress.consumed = consumed + front.length ∧
      ∀ more, feed width http d (front ++ more) consumed = .ok (d', progress) := by
  induction bytes generalizing d consumed with
  | nil =>
    cases fed
    cases complete
  | cons byte rest ih =>
    rw [feed] at fed
    split at fed
    · cases fed
    · rename_i step
      cases fed
      exact ⟨[byte], rest, rfl, rfl, fun more => by rw [List.singleton_append, feed, step]⟩
    · rename_i step
      obtain ⟨front, back, split, count, again⟩ := ih fed
      refine ⟨byte :: front, back, congrArg (byte :: ·) split, ?_, fun more => ?_⟩
      · rw [count, List.length_cons, Nat.add_assoc, Nat.add_comm 1]
      · rw [List.cons_append, feed, step]
        exact again more

/-- Once `ingest` returns a response, every input that starts with the bytes it consumed decodes to that response,
however it is cut, and fewer of them are only the start of one. -/
theorem boundary_exact {responseToHead : Bool} {limits : HttpLimits} {response : Response}
    (ingested : (ResponseDecoder.new responseToHead limits).ingest width http bytes = .ok (d', progress))
    (completes : progress.response = some response) :
    progress.consumed ≤ bytes.length ∧
    (∀ segments : List Bytes, bytes.take progress.consumed <+: segments.flatten →
      decodeSegments width http (.new responseToHead limits) 0 segments =
        .ok (some ⟨response, progress.consumed, progress.permitsReuse⟩)) ∧
    ∀ fewer < progress.consumed, ∃ result,
      (ResponseDecoder.new responseToHead limits).ingest width http (bytes.take fewer) = .ok result ∧
        result.2.response = none := by
  have fresh : (ResponseDecoder.new responseToHead limits).framing.state ≠ .complete := nofun
  rw [ResponseDecoder.ingest_eq_feed fresh] at ingested
  obtain ⟨front, back, rfl, count, again⟩ := ResponseDecoder.feed_complete ingested (by rw [completes]; rfl)
  rw [Nat.zero_add] at count
  rw [count, List.take_left]
  refine ⟨by simp, ?_, ?_⟩
  · rintro segments ⟨more, whole⟩
    rw [decodeSegments_eq fresh, ← whole, again more, ← count]
    obtain ⟨_, consumed, reuse⟩ := progress
    cases completes
    rfl
  intro fewer less
  rw [ResponseDecoder.ingest_eq_feed fresh, List.take_append_of_le_length less.le]
  -- Had the fewer bytes ended it, with an error or a response, so would they have here.
  have whole := again []
  rw [List.append_nil, ← List.take_append_drop fewer front, ResponseDecoder.feed_append] at whole
  cases early : ResponseDecoder.feed width http (.new responseToHead limits) (front.take fewer) 0 with
  | error =>
    rw [early] at whole
    cases whole
  | ok result =>
    obtain ⟨going, ⟨found, consumed, reuse⟩⟩ := result
    cases found with
    | none => exact ⟨_, rfl, rfl⟩
    | some =>
      obtain ⟨short, rest, split, isCount, -⟩ := ResponseDecoder.feed_complete early rfl
      rw [early] at whole
      cases whole
      have lengths := congrArg List.length split
      simp only [List.length_take, List.length_append] at lengths isCount count
      omega

/-- A response to HEAD, with the start of another one after it. -/
theorem boundary_exact_sample : decodeSegments .bits64 plainHttp (.new true ⟨10, 19, 1⟩) 0
    [ascii "HTTP/1.1 200", ascii " OK\r\n\r\nHTTP"] = .ok (some ⟨⟨200, [], []⟩, 19, true⟩) := by
  have ingested : (ResponseDecoder.new true ⟨10, 19, 1⟩).ingest .bits64 plainHttp (ascii "HTTP/1.1 200 OK\r\n\r\n") =
      .ok (⟨⟨⟨10, 19, 1⟩, true, .complete, [], 0, 0, true⟩, none, [], []⟩, ⟨some ⟨200, [], []⟩, 19, true⟩) := by
    decide +kernel
  exact (boundary_exact ingested rfl).2.1 _ (by decide +kernel)

end NbReq
