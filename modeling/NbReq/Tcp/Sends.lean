import NbReq.Tcp.Streams

/-!
# What goes through a session

1. `Session.Calls`: every accepted byte came from a send, and a send that fails returns what was not accepted.
2. `session_streams`: the queues, the windows, the reads and the sends in every state that the callers of a
   session reach, plain takes and TLS takes not being mixed inside a chunk.
3. `mixed_takes`: a plain take inside a chunk that a TLS take has begun hands its bytes out again.
-/

namespace NbReq

open TaskSystem

/-! ## What a send returns -/

/-- A call's input is what was accepted of it and what it has left, which is what it returns when it fails. -/
structure SendCall.Accounted (call : SendCall) (accepted : Bytes) : Prop where
  input : call.input = accepted ++ call.remaining
  ok : call.result = some (.ok ()) → call.remaining = []
  failed : ∀ kind bytes, call.result = some (.error (kind, bytes)) → bytes = call.remaining

/-- Every accepted chunk came from a call, and every call is accounted for. -/
structure Session.Calls (s : Session) : Prop where
  tagged : ∀ chunk ∈ s.sent, chunk.1 < s.calls.length
  accounted : ∀ (k : Nat) (call : SendCall), s.calls[k]? = some call → call.Accounted (s.acceptedFrom k)

section Calls

variable {s : Session} {k : Nat} {call : SendCall} {chunk rest : Bytes}
  {result : Option (Except (TcpSendErrorKind × Bytes) Unit)}

theorem Session.Calls.enter (calls : s.Calls) (bytes : Bytes) : (s.enter bytes).Calls where
  tagged chunk mem := by
    have bound := calls.tagged chunk mem
    simp only [Session.enter, List.length_append, List.length_singleton]
    omega
  accounted k call found := by
    simp only [Session.enter, List.getElem?_append] at found
    split at found
    · exact calls.accounted k call found
    next late =>
    -- No chunk came from the new call yet.
    have new : call = ⟨bytes, bytes, none⟩ := by simpa using List.mem_of_getElem? found
    have nothing : s.sent.filter (·.1 == k) = [] := by
      rw [List.filter_eq_nil_iff]
      intro chunk mem same
      have bound := calls.tagged chunk mem
      rw [beq_iff_eq] at same
      omega
    rw [new]
    refine ⟨?_, nofun, nofun⟩
    show bytes = List.flatMap Prod.snd (s.sent.filter (·.1 == k)) ++ bytes
    rw [nothing]
    rfl

theorem Session.note_lookup (found : s.calls[k]? = some call) (j : Nat) (call' : SendCall)
    (found' : (s.note k rest result).calls[j]? = some call') :
    (j = k ∧ call' = { call with remaining := rest, result := result }) ∨
      (j ≠ k ∧ s.calls[j]? = some call') := by
  simp only [Session.note, List.getElem?_modify] at found'
  by_cases same : k = j
  · subst same
    rw [found] at found'
    simp only [if_true, Option.map_eq_map, Option.map_some, Option.some.injEq] at found'
    exact .inl ⟨rfl, found'.symm⟩
  · simp only [if_neg same, Option.map_eq_map, Option.map_id_fun', id_eq] at found'
    exact .inr ⟨Ne.symm same, found'⟩

/-- A call that hands over a chunk goes on with the rest. -/
theorem Session.Calls.handOver (calls : s.Calls) (found : s.calls[k]? = some call) (io : TcpIo)
    (split : call.remaining = chunk ++ rest) (ok : result = some (.ok ()) → rest = [])
    (failed : ∀ kind bytes, result ≠ some (.error (kind, bytes))) :
    ({ s with io := io, sent := s.sent ++ [(k, chunk)] }.note k rest result : Session).Calls := by
  have bound := (List.getElem?_eq_some_iff.mp found).1
  have grown : ∀ j, ({ s with io := io, sent := s.sent ++ [(k, chunk)] }.note k rest result).acceptedFrom j =
      s.acceptedFrom j ++ if k = j then chunk else [] := by
    intro j
    simp only [acceptedFrom, note, List.filter_append, List.flatMap_append, List.append_cancel_left_eq]
    by_cases same : k = j
    · simp [same]
    · simp [same]
  refine ⟨fun chunk' mem => ?_, fun j call' found' => ?_⟩
  · simp only [note, List.length_modify]
    rcases List.mem_append.mp mem with mem | mem
    · exact calls.tagged chunk' mem
    · rw [List.mem_singleton.mp mem]
      exact bound
  · have before := calls.accounted k call found
    rw [grown]
    rcases note_lookup found j call' found' with ⟨rfl, rfl⟩ | ⟨other, found'⟩
    · refine ⟨?_, ok, fun kind bytes isError => absurd isError (failed kind bytes)⟩
      rw [if_pos rfl, List.append_assoc, ← split]
      exact before.input
    · rw [if_neg (Ne.symm other), List.append_nil]
      exact calls.accounted j call' found'

theorem Session.Calls.returns (calls : s.Calls) (found : s.calls[k]? = some call)
    (left : rest = call.remaining) (ok : result = some (.ok ()) → rest = [])
    (failed : ∀ kind bytes, result = some (.error (kind, bytes)) → bytes = rest) :
    (s.note k rest result).Calls := by
  refine ⟨fun chunk mem => ?_, fun j call' found' => ?_⟩
  · simp only [note, List.length_modify]
    exact calls.tagged chunk mem
  rcases note_lookup found j call' found' with ⟨rfl, rfl⟩ | ⟨-, found'⟩
  · subst left
    exact ⟨(calls.accounted j call found).input, ok, failed⟩
  · exact calls.accounted j call' found'

/-- What an attempt does to the record of the sends. -/
theorem Session.attempt_eq (s : Session) (k : Nat) (chunk : Bytes) :
    (∃ io, s.attempt k chunk = ({ s with io := io, sent := s.sent ++ [(k, chunk)] }, .ok ())) ∨
      ∃ io kind, s.attempt k chunk = ({ s with io := io }, .error kind) := by
  unfold attempt
  split
  · next io _ => exact .inl ⟨io, rfl⟩
  · next io kind _ => exact .inr ⟨io, kind, rfl⟩

theorem Session.Calls.of_eq {s' : Session} (calls : s.Calls) (sameCalls : s'.calls = s.calls)
    (sameSent : s'.sent = s.sent) : s'.Calls := by
  obtain ⟨tagged, accounted⟩ := calls
  refine ⟨?_, ?_⟩
  · rw [sameCalls, sameSent]
    exact tagged
  · unfold acceptedFrom
    rw [sameCalls, sameSent]
    exact accounted

theorem Session.Calls.trySend (calls : s.Calls) (bytes : Bytes) : (s.trySend bytes).Calls := by
  have entered := calls.enter bytes
  have found : (s.enter bytes).calls[s.calls.length]? = some ⟨bytes, bytes, none⟩ := by
    simp [Session.enter]
  simp only [Session.trySend]
  rcases (s.enter bytes).attempt_eq s.calls.length bytes with ⟨io, attempted⟩ | ⟨io, kind, attempted⟩
  · rw [attempted]
    refine entered.handOver found io (List.append_nil _).symm (fun _ => rfl) ?_
    rintro kind' bytes' ⟨⟩
  · rw [attempted]
    refine Session.Calls.returns (entered.of_eq rfl rfl) found rfl (fun isOk => by cases isOk) ?_
    rintro kind' bytes' isError
    cases isError
    rfl

theorem Session.Calls.send (calls : s.Calls) (bytes : Bytes) : (s.send bytes).1.Calls := by
  have entered := calls.enter bytes
  have found : (s.enter bytes).calls[s.calls.length]? = some ⟨bytes, bytes, none⟩ := by
    simp [Session.enter]
  simp only [Session.send]
  split
  · refine entered.returns found rfl nofun ?_
    rintro kind' bytes' isError
    cases isError
    rfl
  · split
    · next empty => exact entered.returns found rfl (fun _ => List.isEmpty_iff.mp empty) nofun
    · exact entered

theorem Session.Calls.sendChunk (calls : s.Calls) (k : Nat) : (s.sendChunk k).1.Calls := by
  simp only [Session.sendChunk]
  split
  · exact calls
  next call found =>
  have split := (List.take_append_drop s.io.sendWindow call.remaining).symm
  rcases s.attempt_eq k (call.remaining.take s.io.sendWindow) with ⟨io, attempted⟩ | ⟨io, kind, attempted⟩
  · rw [attempted]
    simp only
    split
    · next last =>
      exact calls.handOver found io split (fun _ => List.drop_eq_nil_of_le last) nofun
    · exact calls.handOver found io split nofun nofun
  · have same : ({ s with io := io } : Session).Calls := calls.of_eq rfl rfl
    rw [attempted]
    cases kind with
    | wouldBlock => exact same
    | _ =>
      refine Session.Calls.returns same found split.symm nofun ?_
      rintro kind' bytes' isError
      cases isError
      rfl

def SessionAct.sends : SessionAct → Bool
  | .trySend _ | .send _ | .sendChunk _ => true
  | _ => false

theorem Session.exec_calls (s : Session) (admission : Option Permit) {act : SessionAct}
    (other : act.sends = false) :
    (Session.exec admission act s).1.calls = s.calls ∧ (Session.exec admission act s).1.sent = s.sent := by
  cases act with
  | trySend | send | sendChunk => cases other
  | tryRead space | read space =>
    simp only [exec, tryRead]
    repeat' split
    all_goals exact ⟨rfl, rfl⟩
  | finish | registerFinish | beginUpgrade | attachTlsReserve | pushInbound =>
    simp only [exec]
    repeat' split
    all_goals exact ⟨rfl, rfl⟩
  | _ => exact ⟨rfl, rfl⟩

theorem Session.Calls.exec (calls : s.Calls) (admission : Option Permit) (act : SessionAct) :
    (Session.exec admission act s).1.Calls := by
  cases sends : act.sends with
  | false =>
    obtain ⟨sameCalls, sameSent⟩ := s.exec_calls admission sends
    exact calls.of_eq sameCalls sameSent
  | true =>
    cases act with
    | trySend bytes => exact calls.trySend bytes
    | send bytes => exact calls.send bytes
    | sendChunk k => exact calls.sendChunk k
    | _ => cases sends

end Calls

/-! ## Every run -/

section Runs

variable {c : Config Session SessionAct}

variable {allowed : Config Session SessionAct → Label SessionAct → Prop}

/-- What every action keeps holds in every reachable state: neither the start of a call nor a new thread changes
the session. -/
theorem Session.ReachableBy.invariant (Inv : Session → Prop)
    (begins : ∀ id runMode sendWindow receiveWindow onRelease,
      Inv (Session.new id runMode sendWindow receiveWindow onRelease))
    (keep : ∀ (c : Config Session SessionAct) (i : Nat) (act : SessionAct) (admission : Option Permit),
      allowed c (.run i act) → Inv c.shared → Inv (Session.exec admission act c.shared).1)
    (reached : Session.ReachableBy allowed c) : Inv c.shared := by
  obtain ⟨id, runMode, sendWindow, receiveWindow, onRelease, -, -, run⟩ := reached
  refine Run.invariant (fun c => Inv c.shared) (begins id runMode sendWindow receiveWindow onRelease) ?_ run
  intro c label c' _ inv allows step
  cases step with
  | run admission here ready => exact keep c _ _ admission allows inv
  | jump | spawn => exact inv
  | drift drifts => exact drifts.elim

theorem Session.ReachableBy.receiving (reached : Session.ReachableBy allowed c) : Receiving c.shared.inbound := by
  refine reached.invariant (fun s => Receiving s.inbound) ?_ ?_
  · intro id runMode sendWindow receiveWindow onRelease
    exact ⟨.nil, rfl, Nat.zero_le _, fun _ => rfl, List.prefix_refl _, nofun⟩
  · intro c i act admission _ inv
    exact inv.step (@Session.exec_sides true c.shared admission act nofun).1

theorem Session.ReachableBy.calls (reached : Session.ReachableBy allowed c) : c.shared.Calls := by
  refine reached.invariant Session.Calls ?_ ?_
  · intro id runMode sendWindow receiveWindow onRelease
    exact ⟨nofun, nofun⟩
  · intro c i act admission _ inv
    exact inv.exec admission act

/-- Plain takes are not made while a TLS take is inside a chunk. The native owner takes plainly before a TLS
upgrade and through TLS after it, and an upgrade starts on empty queues. -/
def Session.TakesApart (c : Config Session SessionAct) (label : Label SessionAct) : Prop :=
  ∀ i act, label = .run i act → act.takesPlain = true → c.shared.io.outboundTlsOffset = 0

theorem Session.ReachableBy.sending (reached : Session.ReachableBy Session.TakesApart c)
    (live : c.shared.io.aborted = none) : Sending c.shared.outbound := by
  refine reached.invariant (fun s => s.outbound.aborted = false → Sending s.outbound) ?_ ?_
    (by simp [Session.outbound, live])
  · intro id runMode sendWindow receiveWindow onRelease _
    exact ⟨.nil, rfl, .nil, rfl, rfl, rfl, Nat.zero_le _⟩
  · intro c i act admission apart inv live
    have step := (@Session.exec_sides false c.shared admission act fun _ => apart i act rfl).2
    exact (inv (step.aborted live)).step step live

/-- In every state that the callers of a session reach, plain takes and TLS takes not being mixed inside a chunk:
as long as the session is not aborted, the accepted bytes are those taken followed by those queued, the pump
counts the bytes taken and not reported as written, and both windows are kept. The bytes read are the first of
the bytes pushed, and all of them when EOF was reported. A send that failed returned what was not accepted of
its input. -/
theorem session_streams (reached : Session.ReachableBy Session.TakesApart c) :
    (c.shared.io.aborted = none →
      c.shared.accepted = c.shared.taken ++ c.shared.outbound.untaken ∧
      c.shared.taken = c.shared.written ++ c.shared.outbound.unwritten ∧
      c.shared.io.pumpBytes = c.shared.taken.length - c.shared.written.length ∧
      c.shared.accepted.length - c.shared.written.length ≤ c.shared.io.sendWindow ∧
      c.shared.pushed = c.shared.read ++ c.shared.inbound.unread ∧
      c.shared.pushed.length - c.shared.read.length ≤ c.shared.io.receiveWindow) ∧
    c.shared.read <+: c.shared.pushed ∧
    (c.shared.eofReported = true → c.shared.io.peerFin = true ∧ c.shared.read = c.shared.pushed) ∧
    ∀ (k : Nat) (call : SendCall), c.shared.calls[k]? = some call →
      (call.result = some (.ok ()) → call.input = c.shared.acceptedFrom k) ∧
      ∀ kind bytes, call.result = some (.error (kind, bytes)) →
        call.input = c.shared.acceptedFrom k ++ bytes := by
  have receiving := reached.receiving
  refine ⟨fun live => ?_, receiving.inOrder, receiving.eof, fun k call found => ?_⟩
  · have sending := reached.sending live
    have queued : c.shared.accepted = c.shared.taken ++ c.shared.outbound.untaken := sending.queued
    have pumped : c.shared.taken = c.shared.written ++ c.shared.outbound.unwritten := sending.pumped
    have pushed : c.shared.pushed = c.shared.read ++ c.shared.inbound.unread :=
      receiving.queued (by simp [Session.inbound, live])
    refine ⟨queued, pumped, ?_, ?_, pushed, ?_⟩
    · rw [pumped, List.length_append, Nat.add_sub_cancel_left]
      exact sending.pumpBytes
    · have fits := sending.fits
      rw [queued, pumped, List.append_assoc, List.length_append, Nat.add_sub_cancel_left, List.length_append,
        Nat.add_comm]
      exact fits
    · have fits := receiving.fits
      rw [receiving.bytes] at fits
      rw [pushed, List.length_append, Nat.add_sub_cancel_left]
      exact fits
  · obtain ⟨input, ok, failed⟩ := reached.calls.accounted k call found
    refine ⟨fun isOk => ?_, fun kind bytes isError => ?_⟩
    · rw [input, ok isOk, List.append_nil]
    · rw [input, failed kind bytes isError]

def Session.takesApart (c : Config Session SessionAct) : Label SessionAct → Bool
  | .run _ act => !act.takesPlain || c.shared.io.outboundTlsOffset == 0
  | _ => true

theorem Session.takesApart_sound (c : Config Session SessionAct) (label : Label SessionAct)
    (apart : takesApart c label = true) : TakesApart c label := by
  rintro i act rfl plain
  simpa [takesApart, plain] using apart

/-- A chunk sent, half taken through TLS, written, and a byte received and read. -/
def Session.tlsTrafficScript : List (Turn system) :=
  [call (.trySend [1, 2]), next, call (.takeTlsOutboundUpTo 1), next, call (.writeProgress 1), next,
    call (.pushInbound [7, 8]), next, call (.tryRead 1), next, call (.trySend [3, 4, 5]), next]

theorem session_streams_tls : ∃ c, Session.ReachableBy Session.TakesApart c ∧
    c.shared.io.aborted = none ∧ c.shared.accepted = [1, 2] ∧ c.shared.accepted = c.shared.taken ++ [2] ∧
    c.shared.read <+: c.shared.pushed := by
  obtain ⟨c, reached, live, accepted, untaken⟩ := Session.reached_of_script _ Session.takesApart
    Session.takesApart_sound 4 (by decide) Session.tlsTrafficScript
    (fun s => s.io.aborted.isNone ∧ s.accepted = [1, 2] ∧ s.outbound.untaken = [2]) (by decide +kernel)
  have live := Option.isNone_iff_eq_none.mp live
  have streams := session_streams reached
  refine ⟨c, reached, live, accepted, ?_, streams.2.1⟩
  rw [← untaken]
  exact (streams.1 live).1

/-- One byte taken through TLS, then the whole chunk taken plainly. -/
def Session.mixedTakesScript : List (Turn system) :=
  [call (.trySend [1, 2]), next, call (.takeTlsOutboundUpTo 1), next, call (.takeOutboundUpTo 2), next]

/-- The byte is handed out twice, and more is in the pump than the window allows. -/
theorem mixed_takes : ∃ c, Session.Reachable c ∧ c.shared.io.aborted.isNone = true ∧
    c.shared.accepted = [1, 2] ∧ c.shared.taken = [1, 1, 2] ∧ c.shared.io.sendWindow < c.shared.io.pumpBytes :=
  Session.reached_of_any_script 2 (by decide) Session.mixedTakesScript
    (fun s => s.io.aborted.isNone ∧ s.accepted = [1, 2] ∧ s.taken = [1, 1, 2] ∧
      s.io.sendWindow < s.io.pumpBytes) (by decide +kernel)

end Runs

end NbReq
