import NbReq.Tcp.Session

/-!
# The byte streams of a session

A session is two streams of bytes. Each is described on its own, by what a section can do to it: `Inbound.Step`
and `Outbound.Step`. The sections are read once (`exec_sides`), and what holds of the streams is proved of the steps.

1. `Receiving`, `Sending`: the queues hold what went in and did not come out yet, the counters are their
   lengths, and the windows are kept.
2. `exec_sides`: every section is a step of both streams.
-/

namespace NbReq

open TaskSystem

/-! ## The two streams -/

structure Inbound where
  window : Nat
  chunks : List Bytes
  offset : Nat
  bytes : Nat
  peerFin : Bool
  aborted : Bool
  pushed : Bytes
  read : Bytes
  eofReported : Bool

structure Outbound where
  window : Nat
  chunks : List Bytes
  tlsOffset : Nat
  bytes : Nat
  pump : List Bytes
  pumpOffset : Nat
  pumpBytes : Nat
  finishRequested : Bool
  requests : Nat
  finished : Bool
  aborted : Bool
  accepted : Bytes
  taken : Bytes
  written : Bytes

namespace Inbound

def unread (q : Inbound) : Bytes := Chunks.contents q.chunks q.offset

inductive Step : Inbound → Inbound → Prop
  | stay (q : Inbound) : Step q q
  | push (q : Inbound) (bytes : Bytes) (nonempty : bytes ≠ []) (live : q.aborted = false)
      (unclosed : q.peerFin = false) (fits : bytes.length ≤ q.window - q.bytes) :
      Step q { q with bytes := q.bytes + bytes.length, chunks := q.chunks ++ [bytes],
                      pushed := q.pushed ++ bytes }
  | read (q : Inbound) (space : Nat) (live : q.aborted = false) :
      Step q { q with chunks := (Chunks.drain space q.chunks q.offset).2.1
                      offset := (Chunks.drain space q.chunks q.offset).2.2
                      bytes := q.bytes - (Chunks.drain space q.chunks q.offset).1.length
                      read := q.read ++ (Chunks.drain space q.chunks q.offset).1 }
  | eof (q : Inbound) (live : q.aborted = false) (empty : q.bytes = 0) (fin : q.peerFin = true) :
      Step q { q with eofReported := true }
  | close (q : Inbound) (live : q.aborted = false) : Step q { q with peerFin := true }
  | abort (q : Inbound) (live : q.aborted = false) :
      Step q { q with aborted := true, chunks := [], offset := 0, bytes := 0 }

end Inbound

namespace Outbound

def untaken (q : Outbound) : Bytes := Chunks.contents q.chunks q.tlsOffset

def unwritten (q : Outbound) : Bytes := Chunks.contents q.pump q.pumpOffset

/-- The pump holds one more chunk. -/
def toPump (q : Outbound) (chunk : Bytes) : Outbound :=
  { q with pumpBytes := q.pumpBytes + chunk.length, pump := q.pump ++ [chunk], taken := q.taken ++ chunk }

/-- What a section does to the sending side; unless `mixed`, no plain take falls inside a chunk that a TLS take
has begun. -/
inductive Step (mixed : Bool) : Outbound → Outbound → Prop
  | stay (q : Outbound) : Step mixed q q
  | accept (q : Outbound) (chunk : Bytes) (nonempty : chunk ≠ []) (live : q.aborted = false)
      (unrequested : q.finishRequested = false) (unfinished : q.finished = false)
      (fits : chunk.length ≤ q.window - (q.bytes + q.pumpBytes)) :
      Step mixed q { q with bytes := q.bytes + chunk.length, chunks := q.chunks ++ [chunk],
                            accepted := q.accepted ++ chunk }
  | take (q : Outbound) (capacity : Nat) (positive : 0 < capacity) {front : Bytes} {rest : List Bytes}
      (here : q.chunks = front :: rest) (apart : mixed = false → q.tlsOffset = 0) :
      Step mixed q ({ q with
        chunks := if front.length ≤ capacity then rest else front.drop capacity :: rest
        bytes := q.bytes - (front.take capacity).length }.toPump (front.take capacity))
  | takeTls (q : Outbound) (capacity : Nat) (positive : 0 < capacity) {front : Bytes} {rest : List Bytes}
      (here : q.chunks = front :: rest)
      (part : q.tlsOffset + ((front.drop q.tlsOffset).take capacity).length ≠ front.length) :
      Step mixed q ({ q with
        tlsOffset := q.tlsOffset + ((front.drop q.tlsOffset).take capacity).length }.toPump
          ((front.drop q.tlsOffset).take capacity))
  | takeTlsLast (q : Outbound) (capacity : Nat) (positive : 0 < capacity) {front : Bytes}
      {rest : List Bytes} (here : q.chunks = front :: rest)
      (whole : q.tlsOffset + ((front.drop q.tlsOffset).take capacity).length = front.length) :
      Step mixed q ({ q with chunks := rest, bytes := q.bytes - front.length, tlsOffset := 0 }.toPump
        ((front.drop q.tlsOffset).take capacity))
  | written (q : Outbound) (nbytes : Nat) :
      Step mixed q { q with pump := (Chunks.drain nbytes q.pump q.pumpOffset).2.1
                            pumpOffset := (Chunks.drain nbytes q.pump q.pumpOffset).2.2
                            pumpBytes := q.pumpBytes - (Chunks.drain nbytes q.pump q.pumpOffset).1.length
                            written := q.written ++ (Chunks.drain nbytes q.pump q.pumpOffset).1 }
  | request (q : Outbound) (granted : Bool) :
      Step mixed q { q with finishRequested := q.finishRequested || granted, requests := q.requests + 1 }
  | finish (q : Outbound) (live : q.aborted = false) (requested : q.finishRequested = true)
      (empty : q.bytes = 0) (drained : q.pumpBytes = 0) : Step mixed q { q with finished := true }
  | abort (q : Outbound) (live : q.aborted = false) :
      Step mixed q { q with aborted := true, chunks := [], bytes := 0, pump := [], pumpOffset := 0,
                            pumpBytes := 0 }

end Outbound

def Session.inbound (s : Session) : Inbound where
  window := s.io.receiveWindow
  chunks := s.io.inbound
  offset := s.io.inboundOffset
  bytes := s.io.inboundBytes
  peerFin := s.io.peerFin
  aborted := s.io.aborted.isSome
  pushed := s.pushed
  read := s.read
  eofReported := s.eofReported

def Session.outbound (s : Session) : Outbound where
  window := s.io.sendWindow
  chunks := s.io.outbound
  tlsOffset := s.io.outboundTlsOffset
  bytes := s.io.outboundBytes
  pump := s.io.pump
  pumpOffset := s.io.pumpOffset
  pumpBytes := s.io.pumpBytes
  finishRequested := s.io.writeFinishRequested
  requests := s.finishRequests
  finished := s.io.writeFinished
  aborted := s.io.aborted.isSome
  accepted := s.accepted
  taken := s.taken
  written := s.written

/-! ## What the streams keep -/

/-- The receiving side: what was pushed is what was read and what is queued. -/
structure Receiving (q : Inbound) : Prop where
  queue : Chunks.Ok q.chunks q.offset
  bytes : q.bytes = q.unread.length
  fits : q.bytes ≤ q.window
  queued : q.aborted = false → q.pushed = q.read ++ q.unread
  inOrder : q.read <+: q.pushed
  eof : q.eofReported = true → q.peerFin = true ∧ q.read = q.pushed

theorem Receiving.step {q q' : Inbound} (inv : Receiving q) (step : Inbound.Step q q') : Receiving q' := by
  obtain ⟨queue, bytes, fits, queued, inOrder, eof⟩ := inv
  cases step with
  | stay => exact ⟨queue, bytes, fits, queued, inOrder, eof⟩
  | push chunk nonempty live unclosed room =>
    have pushed : Chunks.contents (q.chunks ++ [chunk]) q.offset = q.unread ++ chunk :=
      queue.contents_push chunk
    refine ⟨queue.push nonempty, ?_, ?_, fun _ => ?_, ?_, ?_⟩
    · show q.bytes + chunk.length = (Chunks.contents (q.chunks ++ [chunk]) q.offset).length
      rw [pushed, List.length_append, bytes]
    · show q.bytes + chunk.length ≤ q.window
      omega
    · show q.pushed ++ chunk = q.read ++ Chunks.contents (q.chunks ++ [chunk]) q.offset
      rw [pushed, queued live, List.append_assoc]
    · exact inOrder.trans (List.prefix_append _ _)
    · intro reported
      rw [(eof reported).1] at unclosed
      contradiction
  | read space live =>
    obtain ⟨taken, left, ok⟩ := queue.drain space
    have whole := queued live
    refine ⟨ok, ?_, ?_, fun _ => ?_, ?_, fun reported => ⟨(eof reported).1, ?_⟩⟩
    · show q.bytes - _ = (Chunks.contents _ _).length
      rw [left, taken, List.length_drop, List.length_take, bytes, Inbound.unread]
      omega
    · exact Nat.le_trans (Nat.sub_le _ _) fits
    · show q.pushed = (q.read ++ _) ++ Chunks.contents _ _
      rw [left, taken, List.append_assoc, List.take_append_drop, whole, Inbound.unread]
    · show q.read ++ _ <+: q.pushed
      rw [taken, whole]
      exact (List.prefix_append_right_inj _).mpr (List.take_prefix _ _)
    · have nothing : q.unread = [] := by
        have same := (eof reported).2
        rw [whole] at same
        exact List.self_eq_append_right.mp same
      show q.read ++ _ = q.pushed
      rw [taken, ← Inbound.unread, nothing, List.take_nil, List.append_nil]
      exact (eof reported).2
  | eof live empty fin =>
    refine ⟨queue, bytes, fits, queued, inOrder, fun _ => ⟨fin, ?_⟩⟩
    have nothing : q.unread = [] := List.length_eq_zero_iff.mp (bytes ▸ empty)
    show q.read = q.pushed
    rw [queued live, nothing, List.append_nil]
  | close live => exact ⟨queue, bytes, fits, queued, inOrder, fun reported => ⟨rfl, (eof reported).2⟩⟩
  | abort live => exact ⟨.nil, rfl, Nat.zero_le _, nofun, inOrder, eof⟩

/-- Nothing happens to the receiving side of an aborted session. -/
theorem Inbound.Step.aborted {q q' : Inbound} (step : Inbound.Step q q') (aborted : q.aborted = true) :
    q' = q := by
  cases step with
  | stay => rfl
  | push chunk nonempty live | read space live | eof live | close live | abort live =>
    exact absurd (live.symm.trans aborted) nofun

/-- The sending side of a session that is not aborted: what was accepted is what was taken and what is queued,
what was taken is what was reported as written and what the pump holds. The window is kept by the bytes
themselves; the counters charge a chunk that a TLS take has begun to the full. -/
structure Sending (q : Outbound) : Prop where
  queue : Chunks.Ok q.chunks q.tlsOffset
  bytes : q.bytes = q.chunks.flatten.length
  pump : Chunks.Ok q.pump q.pumpOffset
  pumpBytes : q.pumpBytes = q.unwritten.length
  queued : q.accepted = q.taken ++ q.untaken
  pumped : q.taken = q.written ++ q.unwritten
  fits : q.untaken.length + q.unwritten.length ≤ q.window

section Sending

variable {q q' : Outbound} {chunk : Bytes}

/-- A take moves bytes from the front of the queue to the pump. -/
theorem Sending.toPump (inv : Sending q) (nonempty : chunk ≠ []) (queue : Chunks.Ok q'.chunks q'.tlsOffset)
    (bytes : q'.bytes = q'.chunks.flatten.length) (untaken : q.untaken = chunk ++ q'.untaken)
    (same : q' = { q with chunks := q'.chunks, tlsOffset := q'.tlsOffset, bytes := q'.bytes }) :
    Sending (q'.toPump chunk) := by
  have unwritten : (q'.toPump chunk).unwritten = q.unwritten ++ chunk := by
    rw [same]
    exact inv.pump.contents_push chunk
  have length := congrArg List.length untaken
  rw [List.length_append] at length
  refine ⟨queue, bytes, ?_, ?_, ?_, ?_, ?_⟩
  · rw [same]
    exact inv.pump.push nonempty
  · rw [unwritten, List.length_append, ← inv.pumpBytes, same]
    rfl
  · have queued := inv.queued
    rw [untaken, ← List.append_assoc] at queued
    rw [same]
    rw [same] at queued
    exact queued
  · rw [unwritten, ← List.append_assoc, same]
    show q.taken ++ chunk = q.written ++ q.unwritten ++ chunk
    rw [inv.pumped]
  · have fits := inv.fits
    rw [unwritten, List.length_append]
    show q'.untaken.length + _ ≤ q'.window
    rw [show q'.window = q.window by rw [same]]
    omega

theorem Sending.step (inv : Sending q) (step : Outbound.Step false q q') (live : q'.aborted = false) :
    Sending q' := by
  cases step with
  | stay => exact inv
  | accept chunk nonempty _ unrequested unfinished room =>
    have untaken : Chunks.contents (q.chunks ++ [chunk]) q.tlsOffset = q.untaken ++ chunk :=
      inv.queue.contents_push chunk
    have length := inv.queue.length_contents
    have positive := List.length_pos_iff.mpr nonempty
    refine ⟨inv.queue.push nonempty, ?_, inv.pump, inv.pumpBytes, ?_, inv.pumped, ?_⟩
    · show q.bytes + chunk.length = (q.chunks ++ [chunk]).flatten.length
      rw [List.flatten_append, List.length_append, List.flatten_singleton, inv.bytes]
    · show q.accepted ++ chunk = q.taken ++ Chunks.contents (q.chunks ++ [chunk]) q.tlsOffset
      rw [untaken, inv.queued, List.append_assoc]
    · show (Chunks.contents (q.chunks ++ [chunk]) q.tlsOffset).length + q.unwritten.length ≤ q.window
      rw [untaken, List.length_append, ← inv.pumpBytes, Outbound.untaken]
      rw [← inv.bytes] at length
      omega
  | @take capacity positive front rest here apart =>
    have queue := inv.queue
    have bytes := inv.bytes
    have offset := apart rfl
    rw [here, offset] at queue
    obtain _ | ⟨within, nonempty⟩ := queue
    rw [here, List.flatten_cons, List.length_append] at bytes
    have untaken : q.untaken = front ++ rest.flatten := by
      rw [Outbound.untaken, here, offset, Chunks.contents_zero, List.flatten_cons]
    refine inv.toPump ?_ ?_ ?_ ?_ rfl
    · rw [Ne, List.take_eq_nil_iff, ← List.length_eq_zero_iff]
      omega
    · show Chunks.Ok (if _ then _ else _) q.tlsOffset
      rw [offset]
      split
      · exact .of_nonempty nonempty
      · exact .cons (by rw [List.length_drop]; omega) nonempty
    · show q.bytes - _ = (if _ then _ else _ : List Bytes).flatten.length
      rw [List.length_take]
      split
      · omega
      · rw [List.flatten_cons, List.length_append, List.length_drop]
        omega
    · rw [untaken]
      show _ = _ ++ Chunks.contents (if _ then _ else _) q.tlsOffset
      rw [offset, Chunks.contents_zero]
      split
      · next short => rw [List.take_of_length_le short]
      · rw [List.flatten_cons, ← List.append_assoc, List.take_append_drop]
  | @takeTls capacity positive front rest here part =>
    have queue := inv.queue
    rw [here] at queue
    obtain _ | ⟨within, nonempty⟩ := queue
    have room : (front.drop q.tlsOffset).length = front.length - q.tlsOffset := List.length_drop
    have taken : ((front.drop q.tlsOffset).take capacity).length = capacity := by
      rw [List.length_take] at part ⊢
      omega
    rw [taken] at part
    have short : capacity ≤ (front.drop q.tlsOffset).length := by
      rw [List.length_take] at taken
      omega
    refine inv.toPump ?_ ?_ inv.bytes ?_ rfl
    · rw [← List.length_pos_iff, taken]
      exact positive
    · show Chunks.Ok q.chunks (q.tlsOffset + _)
      rw [here, taken]
      exact .cons (by omega) nonempty
    · show Chunks.contents q.chunks q.tlsOffset = _ ++ Chunks.contents q.chunks (q.tlsOffset + _)
      rw [here, taken, Chunks.contents_cons (by omega), Chunks.contents_cons (by omega), ← List.append_assoc,
        ← List.drop_drop, List.take_append_drop]
  | @takeTlsLast capacity positive front rest here whole =>
    have queue := inv.queue
    have bytes := inv.bytes
    rw [here] at queue
    obtain _ | ⟨within, nonempty⟩ := queue
    rw [here, List.flatten_cons, List.length_append] at bytes
    have all : (front.drop q.tlsOffset).take capacity = front.drop q.tlsOffset := by
      rw [List.take_eq_self_iff]
      rw [List.length_take, List.length_drop] at whole
      rw [List.length_drop]
      omega
    refine inv.toPump ?_ (.of_nonempty nonempty) ?_ ?_ rfl
    · rw [all, ← List.length_pos_iff, List.length_drop]
      omega
    · show q.bytes - front.length = rest.flatten.length
      omega
    · show Chunks.contents q.chunks q.tlsOffset = _ ++ Chunks.contents rest 0
      rw [here, all, Chunks.contents_cons (by omega), Chunks.contents_zero]
  | written nbytes =>
    obtain ⟨done, left, ok⟩ := inv.pump.drain nbytes
    have length : (Chunks.contents q.pump q.pumpOffset).length = q.pumpBytes := inv.pumpBytes.symm
    refine ⟨inv.queue, inv.bytes, ok, ?_, inv.queued, ?_, ?_⟩
    · show q.pumpBytes - _ = (Chunks.contents _ _).length
      rw [left, done, List.length_drop, List.length_take]
      omega
    · show q.taken = (q.written ++ _) ++ Chunks.contents _ _
      rw [left, done, List.append_assoc, List.take_append_drop]
      exact inv.pumped
    · have fits := inv.fits
      show q.untaken.length + (Chunks.contents _ _).length ≤ q.window
      rw [left, List.length_drop]
      rw [Outbound.unwritten] at fits
      omega
  | request | finish => exact ⟨inv.queue, inv.bytes, inv.pump, inv.pumpBytes, inv.queued, inv.pumped, inv.fits⟩
  | abort => nomatch live

theorem Outbound.Step.aborted {mixed : Bool} (step : Outbound.Step mixed q q') (live : q'.aborted = false) :
    q.aborted = false := by
  cases step <;> first | exact live | assumption

end Sending

/-! ## The ending of a session -/

/-- What the end of a session depends on, with the number of release closures and finish jobs handed out and of
activations of a finish callback in flight. -/
structure Ending where
  aborted : Bool
  finished : Bool
  eof : Bool
  released : Bool
  closure : Bool
  registered : Bool
  callback : Bool
  permit : Bool
  active : Bool
  panicked : Bool
  releases : Nat
  jobs : Nat
  activations : Nat

def TcpIo.ending (io : TcpIo) (panicked : Bool) (releases jobs activations : Nat) : Ending where
  aborted := io.aborted.isSome
  finished := io.writeFinished
  eof := io.readEofObserved
  released := io.released
  closure := io.onRelease.isSome
  registered := io.finishCallbackRegistered
  callback := io.finishCallback.isSome
  permit := io.finishCallbackPermit.isSome
  active := io.finishCallbackActive
  panicked := panicked
  releases := releases
  jobs := jobs
  activations := activations

def Session.SameEnding (s s' : Session) : Prop :=
  s'.io.ending = s.io.ending ∧ s'.releasesRun = s.releasesRun ∧ s'.dispatched = s.dispatched ∧ s'.panicked = s.panicked

/-! ## Reading the sections -/

namespace TcpIo

/-- What only an abort, an upgrade and a TLS take change; a released session stays released. -/
structure SameMarks (io io' : TcpIo) : Prop where
  aborted : io'.aborted = io.aborted
  upgrading : io'.upgrading = io.upgrading
  released : io.released = true → io'.released = true
  tlsOffset : io'.outboundTlsOffset = io.outboundTlsOffset

/-- The sections on the release closure and on the finish callback touch neither the streams nor the marks. -/
def SameStreams (io io' : TcpIo) : Prop :=
  io' = { io with
    finishCallbackRegistered := io'.finishCallbackRegistered
    finishCallback := io'.finishCallback
    finishCallbackPermit := io'.finishCallbackPermit
    finishCallbackActive := io'.finishCallbackActive
    readEofObserved := io'.readEofObserved
    onRelease := io'.onRelease
    released := io'.released } ∧ (io.released = true → io'.released = true)

variable {io io' io'' : TcpIo}

theorem SameStreams.trans (first : io.SameStreams io') (second : io'.SameStreams io'') : io.SameStreams io'' := by
  refine ⟨?_, second.2 ∘ first.2⟩
  rw [second.1, first.1]

theorem takeRelease_streams (io : TcpIo) : io.SameStreams io.takeRelease.1 := by
  unfold takeRelease
  split
  · exact ⟨rfl, fun released => released⟩
  · exact ⟨rfl, fun _ => rfl⟩

theorem maybeTakeRelease_streams (io : TcpIo) : io.SameStreams io.maybeTakeRelease.1 := by
  unfold maybeTakeRelease
  split
  · exact takeRelease_streams io
  · exact ⟨rfl, fun released => released⟩

theorem takeFinishJob_streams (self : Nat) (io : TcpIo) : io.SameStreams (io.takeFinishJob self).1 := by
  unfold takeFinishJob
  cases io.finishCallback <;> cases io.finishCallbackPermit
  all_goals
    repeat' split
    all_goals exact ⟨rfl, fun released => released⟩

theorem activateFinish_streams (self : Nat) (io : TcpIo) : io.SameStreams (io.activateFinish self).1 :=
  SameStreams.trans (show io.SameStreams { io with finishCallbackActive := true } from ⟨rfl, fun released => released⟩)
    (takeFinishJob_streams self _)

end TcpIo

section Read

variable {mixed quiet : Bool}

/-- What a section may do to the two streams of a session. -/
def Session.Sides (mixed : Bool) (s s' : Session) : Prop :=
  Inbound.Step s.inbound s'.inbound ∧ Outbound.Step mixed s.outbound s'.outbound

/-- Only the streams matter. -/
theorem Session.Sides.of_eq {s s₁ s' : Session} (inbound : s₁.inbound = s'.inbound)
    (outbound : s₁.outbound = s'.outbound) (sides : s.Sides mixed s₁) : s.Sides mixed s' := by
  rw [Sides] at *
  rw [← inbound, ← outbound]
  exact sides

theorem Session.Sides.refl (s : Session) : s.Sides mixed s := ⟨.stay _, .stay _⟩

/-- A section that neither aborts nor upgrades the session, pushes nothing and is no TLS take. A quiet one does not touch
the ending. -/
def Session.Ordinary (mixed quiet : Bool) (s s' : Session) : Prop :=
  s.Sides mixed s' ∧ s.io.SameMarks s'.io ∧ s'.pushed = s.pushed ∧ (quiet = true → s.SameEnding s')

theorem Session.Ordinary.refl (s : Session) : s.Ordinary mixed quiet s :=
  ⟨.refl s, ⟨rfl, rfl, id, rfl⟩, rfl, fun _ => ⟨rfl, rfl, rfl, rfl⟩⟩

theorem TcpIo.SameStreams.marks {io io' : TcpIo} (same : io.SameStreams io') : io.SameMarks io' :=
  ⟨by rw [same.1], by rw [same.1], same.2, by rw [same.1]⟩

/-- A section that leaves the streams of the session alone. -/
theorem TcpIo.SameStreams.ordinary {s : Session} {io : TcpIo} (same : s.io.SameStreams io) :
    s.Ordinary mixed false { s with io := io } := by
  refine ⟨?_, same.marks, rfl, nofun⟩
  rw [same.1]
  exact .refl s

/-- Aborting a session empties its queues. -/
theorem Session.abort_sides (s : Session) (kind : TcpAbort) :
    s.Sides mixed { s with io := (s.io.abort 0 kind).1 } := by
  unfold TcpIo.abort
  split
  · exact .refl s
  next live =>
  have live : s.io.aborted.isSome = false := by simpa using live
  have same := (TcpIo.takeRelease_streams { s.io with
    aborted := some kind, outbound := [], outboundBytes := 0, pump := [], pumpOffset := 0, pumpBytes := 0,
    inbound := [], inboundOffset := 0, inboundBytes := 0 }).trans (TcpIo.takeFinishJob_streams 0 _)
  simp only
  rw [same.1]
  exact ⟨.abort s.inbound live, .abort s.outbound live⟩

/-- An attempt either hands the whole chunk over or changes nothing. -/
theorem Session.attempt_ordinary (s : Session) (call : Nat) (chunk : Bytes) :
    s.Ordinary mixed quiet (s.attempt call chunk).1 := by
  have grown : ∀ io, ({ s with io := io, sent := s.sent ++ [(call, chunk)] } : Session).accepted =
      s.accepted ++ chunk := fun io => by
    simp [accepted]
  unfold attempt TcpIo.trySend
  split
  · next io accept =>
    split at accept
    · next empty =>
      -- An empty chunk is accepted as it is.
      obtain ⟨rfl, -⟩ := Prod.mk.inj accept
      have nothing : chunk = [] := by simpa using empty
      refine ⟨@Sides.of_eq mixed s s _ rfl ?_ (.refl s), ⟨rfl, rfl, id, rfl⟩, rfl, fun _ => ⟨rfl, rfl, rfl, rfl⟩⟩
      simp [outbound, accepted, nothing]
    next nonempty =>
    split at accept
    · cases accept
    split at accept
    · cases accept
    next live =>
    split at accept
    · cases accept
    next unclosed =>
    split at accept
    · cases accept
    next room =>
    obtain ⟨rfl, -⟩ := Prod.mk.inj accept
    rw [Bool.not_eq_true, Bool.or_eq_false_iff] at unclosed
    refine ⟨⟨.stay _, ?_⟩, ⟨rfl, rfl, id, rfl⟩, rfl, fun _ => ⟨rfl, rfl, rfl, rfl⟩⟩
    have step : Outbound.Step mixed s.outbound _ := .accept s.outbound chunk
      (by simpa using nonempty) (by simp [outbound, live]) unclosed.1 unclosed.2
      (Nat.le_of_not_lt room)
    simpa [outbound, grown] using step
  · next io kind refuse =>
    have same : io = s.io := by
      split at refuse
      · cases refuse
      · repeat' split at refuse
        all_goals cases refuse
        all_goals rfl
    rw [same]
    exact .refl s

theorem Session.trySend_ordinary (s : Session) (bytes : Bytes) : s.Ordinary mixed quiet (s.trySend bytes) := by
  have ordinary := @attempt_ordinary mixed quiet (s.enter bytes) s.calls.length bytes
  simp only [trySend]
  split <;> rename_i attempted <;> rw [attempted] at ordinary <;> exact ordinary

theorem Session.send_ordinary (s : Session) (bytes : Bytes) : s.Ordinary mixed quiet (s.send bytes).1 := by
  unfold send
  simp only
  repeat' split
  all_goals exact .refl s

theorem Session.sendChunk_ordinary (s : Session) (call : Nat) : s.Ordinary mixed quiet (s.sendChunk call).1 := by
  unfold sendChunk
  split
  · exact .refl s
  next c _ =>
  have ordinary := @attempt_ordinary mixed quiet s call (c.remaining.take s.io.sendWindow)
  simp only
  split <;> rename_i attempted <;> rw [attempted] at ordinary
  · split <;> exact ordinary
  · exact ordinary
  · exact ordinary

theorem Session.tryRead_ordinary (s : Session) (space : Nat) : s.Ordinary mixed false (s.tryRead space).1 := by
  unfold tryRead
  rcases read : s.io.tryRead space with ⟨io, effect, result⟩
  unfold TcpIo.tryRead at read
  split at read
  · cases read
    exact .refl s
  next live =>
  have live : s.inbound.aborted = false := by simp [inbound, live]
  split at read
  · next empty =>
    split at read
    · next fin =>
      have same := TcpIo.maybeTakeRelease_streams { s.io with readEofObserved := true }
      simp only [TcpIo.observeEof] at read
      cases read
      simp only
      refine ⟨?_, ⟨same.marks.1, same.marks.2, same.marks.3, same.marks.4⟩, rfl, nofun⟩
      rw [same.1]
      exact ⟨.eof s.inbound live empty fin, .stay _⟩
    · cases read
      exact .refl s
  · split at read
    · cases read
      refine ⟨@Sides.of_eq mixed s s _ ?_ rfl (.refl s), ⟨rfl, rfl, id, rfl⟩, rfl, nofun⟩
      simp [inbound]
    · cases read
      exact ⟨⟨.read s.inbound space live, .stay _⟩, ⟨rfl, rfl, id, rfl⟩, rfl, nofun⟩

def SessionAct.takesPlain : SessionAct → Bool
  | .takeOutbound | .takeOutboundUpTo _ => true
  | _ => false

theorem Session.takeOutbound_ordinary (s : Session) (apart : mixed = false → s.io.outboundTlsOffset = 0) :
    s.Ordinary mixed quiet (s.took s.io.takeOutbound) := by
  unfold took TcpIo.takeOutbound
  cases here : s.io.outbound with
  | nil =>
    refine ⟨@Sides.of_eq mixed s s _ rfl ?_ (.refl s), ⟨rfl, rfl, id, rfl⟩, rfl, fun _ => ⟨rfl, rfl, rfl, rfl⟩⟩
    simp [outbound, accepted, here]
  | cons front rest =>
    have step : Outbound.Step mixed s.outbound _ :=
      .take s.outbound (front.length + 1) (Nat.succ_pos _) here apart
    rw [List.take_of_length_le (Nat.le_succ _), if_pos (Nat.le_succ _)] at step
    exact ⟨⟨.stay _, step⟩, ⟨rfl, rfl, id, rfl⟩, rfl, fun _ => ⟨rfl, rfl, rfl, rfl⟩⟩

theorem Session.takeOutboundUpTo_ordinary (s : Session) (capacity : Nat)
    (apart : mixed = false → s.io.outboundTlsOffset = 0) :
    s.Ordinary mixed quiet (s.took (s.io.takeOutboundUpTo capacity)) := by
  have idle : s.took (s.io, none) = s := by simp [took]
  unfold TcpIo.takeOutboundUpTo
  split
  · rw [idle]
    exact .refl s
  next possible =>
  rw [Bool.or_eq_true, not_or, decide_eq_true_eq] at possible
  cases here : s.io.outbound with
  | nil =>
    rw [idle]
    exact .refl s
  | cons front rest =>
    exact ⟨⟨.stay _, .take s.outbound capacity (Nat.pos_of_ne_zero possible.1) here apart⟩,
      ⟨rfl, rfl, id, rfl⟩, rfl, fun _ => ⟨rfl, rfl, rfl, rfl⟩⟩

theorem Session.takeTlsOutboundUpTo_sides (s : Session) (capacity : Nat) :
    s.Sides mixed (s.took (s.io.takeTlsOutboundUpTo capacity)) := by
  have idle : s.took (s.io, none) = s := by simp [took]
  unfold TcpIo.takeTlsOutboundUpTo
  split
  · rw [idle]
    exact .refl s
  next possible =>
  rw [Bool.or_eq_true, not_or, decide_eq_true_eq] at possible
  have positive := Nat.pos_of_ne_zero possible.1
  split
  · rw [idle]
    exact .refl s
  next front rest here =>
  simp only
  split
  · next whole => exact ⟨.stay _, .takeTlsLast s.outbound capacity positive here whole⟩
  · next part => exact ⟨.stay _, .takeTls s.outbound capacity positive here part⟩

theorem Session.completeWriteShutdown_ordinary (s : Session) :
    s.Ordinary mixed false { s with io := (s.io.completeWriteShutdown 0).1 } := by
  unfold TcpIo.completeWriteShutdown
  split
  · exact .refl s
  next live =>
  have live : s.outbound.aborted = false := by simp [outbound, live]
  split
  · exact .refl s
  next requested =>
  split
  · exact .refl s
  next drained =>
  have same := (TcpIo.maybeTakeRelease_streams { s.io with writeFinished := true }).trans
    (TcpIo.takeFinishJob_streams 0 _)
  simp only [Bool.or_eq_true, bne_iff_ne, not_or, not_not] at drained
  simp only [Bool.not_eq_true', Bool.not_eq_false] at requested
  simp only
  refine ⟨?_, ⟨same.marks.1, same.marks.2, same.marks.3, same.marks.4⟩, rfl, nofun⟩
  rw [same.1]
  exact ⟨.stay _, .finish s.outbound live requested drained.1 drained.2⟩

theorem Session.pushInbound_sides (s : Session) (admission : Option Permit) (bytes : Bytes) :
    s.Sides mixed (Session.exec admission (.pushInbound bytes) s).1 ∧
      s.io.SameMarks (Session.exec admission (.pushInbound bytes) s).1.io := by
  simp only [exec]
  split
  · next io push =>
    unfold TcpIo.pushInbound at push
    split at push
    · next empty =>
      obtain ⟨rfl, -⟩ := Prod.mk.inj push
      refine ⟨@Sides.of_eq mixed s s _ ?_ rfl (.refl s), rfl, rfl, id, rfl⟩
      simp [inbound, List.isEmpty_iff.mp empty]
    next nonempty =>
    split at push
    · cases push
    split at push
    · cases push
    next live =>
    split at push
    · cases push
    next unclosed =>
    split at push
    · cases push
    next room =>
    obtain ⟨rfl, -⟩ := Prod.mk.inj push
    exact ⟨⟨.push s.inbound bytes (by simpa using nonempty) (by simp [inbound, live])
      (by simpa [inbound] using unclosed) (Nat.le_of_not_lt room), .stay _⟩, rfl, rfl, id, rfl⟩
  · next io kind refuse =>
    have same : io = s.io := by
      unfold TcpIo.pushInbound at refuse
      split at refuse
      · cases refuse
      · repeat' split at refuse
        all_goals cases refuse
        all_goals rfl
    rw [same]
    exact ⟨.refl s, rfl, rfl, id, rfl⟩

theorem Session.tryFinish_ordinary (s : Session) : s.Ordinary mixed quiet s.tryFinish.1 := by
  have refused : Outbound.Step mixed s.outbound _ := .request s.outbound false
  have granted : Outbound.Step mixed s.outbound _ := .request s.outbound true
  rw [Bool.or_false] at refused
  rw [Bool.or_true] at granted
  unfold tryFinish
  rcases finish : s.io.tryFinish with ⟨io, result⟩
  unfold TcpIo.tryFinish at finish
  split at finish
  · cases finish
    exact ⟨⟨.stay _, refused⟩, ⟨rfl, rfl, id, rfl⟩, rfl, fun _ => ⟨rfl, rfl, rfl, rfl⟩⟩
  split at finish
  · cases finish
    exact ⟨⟨.stay _, refused⟩, ⟨rfl, rfl, id, rfl⟩, rfl, fun _ => ⟨rfl, rfl, rfl, rfl⟩⟩
  · cases finish
    exact ⟨⟨.stay _, granted⟩, ⟨rfl, rfl, id, rfl⟩, rfl, fun _ => ⟨rfl, rfl, rfl, rfl⟩⟩

theorem Session.registerFinish_ordinary (s : Session) (admission : Option Permit) (callback : Callback)
    (permit : Permit) : s.Ordinary mixed false (Session.exec admission (.registerFinish callback permit) s).1 := by
  simp only [exec]
  split
  · next io registered =>
    unfold TcpIo.registerFinish at registered
    split at registered
    · cases registered
    · cases registered
      exact ⟨⟨.stay _, .request s.outbound (s.io.aborted.isNone && !s.io.writeFinished)⟩, ⟨rfl, rfl, id, rfl⟩, rfl, nofun⟩
  · exact .refl s

/-- The sections that the ending of the session does not depend on. -/
def SessionAct.settled : SessionAct → Bool
  | .tryRead _ | .read _ | .registerFinish .. | .activateFinish | .completeWriteShutdown | .abort _ | .runRelease _
  | .dispatchJob _ => false
  | _ => true

def SessionAct.ordinary : SessionAct → Bool
  | .beginUpgrade | .completeUpgrade | .abort _ | .takeTlsOutboundUpTo _ | .pushInbound _ => false
  | _ => true

theorem Session.exec_ordinary (s : Session) (admission : Option Permit) {act : SessionAct} (is : act.ordinary = true)
    (apart : mixed = false → act.takesPlain = true → s.io.outboundTlsOffset = 0) :
    s.Ordinary mixed act.settled (Session.exec admission act s).1 := by
  cases act with
  | trySend bytes => exact s.trySend_ordinary bytes
  | send bytes => exact s.send_ordinary bytes
  | sendChunk call => exact s.sendChunk_ordinary call
  | tryRead space => exact s.tryRead_ordinary space
  | read space =>
    simp only [exec]
    split
    · exact .refl s
    · exact s.tryRead_ordinary space
  | tryFinish => exact s.tryFinish_ordinary
  | finish =>
    simp only [exec]
    split
    · exact .refl s
    · exact s.tryFinish_ordinary
  | registerFinish callback permit => exact s.registerFinish_ordinary admission callback permit
  | activateFinish =>
    obtain ⟨sides, marks, pushed, -⟩ := (TcpIo.activateFinish_streams 0 s.io).ordinary
    exact ⟨sides, marks, pushed, nofun⟩
  | attachTlsReserve reserve =>
    simp only [exec, TcpIo.attachTlsReserve]
    split
    · next attached =>
      split at attached
      · cases attached
      split at attached
      · cases attached
      next prior there =>
      cases attached
      refine ⟨.refl s, ⟨rfl, rfl, id, rfl⟩, rfl, fun _ => ⟨?_, rfl, rfl, rfl⟩⟩
      funext panicked releases jobs activations
      simp [TcpIo.ending, there]
    · exact .refl s
  | takeOutbound => exact s.takeOutbound_ordinary fun unmixed => apart unmixed rfl
  | takeOutboundUpTo capacity => exact s.takeOutboundUpTo_ordinary capacity fun unmixed => apart unmixed rfl
  | writeProgress nbytes => exact ⟨⟨.stay _, .written s.outbound nbytes⟩, ⟨rfl, rfl, id, rfl⟩, rfl, fun _ => ⟨rfl, rfl, rfl, rfl⟩⟩
  | completeWriteShutdown =>
    obtain ⟨sides, marks, pushed, -⟩ := s.completeWriteShutdown_ordinary
    exact ⟨sides, marks, pushed, nofun⟩
  | closeWriteAdmissionIfIdle =>
    have granted : Outbound.Step mixed s.outbound _ := .request s.outbound true
    rw [Bool.or_true] at granted
    exact ⟨⟨.stay _, granted⟩, ⟨rfl, rfl, id, rfl⟩, rfl, fun _ => ⟨rfl, rfl, rfl, rfl⟩⟩
  | peerClosed =>
    simp only [exec, TcpIo.peerClosed]
    split
    · exact .refl s
    · next live =>
      exact ⟨⟨.close s.inbound (by simpa [inbound] using live), .stay _⟩, ⟨rfl, rfl, id, rfl⟩, rfl, fun _ => ⟨rfl, rfl, rfl, rfl⟩⟩
  | beginUpgrade | completeUpgrade | abort | takeTlsOutboundUpTo | pushInbound => cases is
  | runRelease | dispatchJob => exact ⟨.refl s, ⟨rfl, rfl, id, rfl⟩, rfl, nofun⟩
  | _ => exact .refl s

/-- What an action does to the two streams. -/
theorem Session.exec_sides (s : Session) (admission : Option Permit) (act : SessionAct)
    (apart : mixed = false → act.takesPlain = true → s.io.outboundTlsOffset = 0) :
    s.Sides mixed (Session.exec admission act s).1 := by
  cases act with
  | beginUpgrade =>
    simp only [exec, TcpIo.beginUpgrade]
    split
    · next started =>
      split at started
      · cases started
      · cases started
        exact .refl s
    · exact .refl s
  | completeUpgrade => exact .refl s
  | abort kind => exact s.abort_sides kind
  | takeTlsOutboundUpTo capacity => exact s.takeTlsOutboundUpTo_sides capacity
  | pushInbound bytes => exact (s.pushInbound_sides admission bytes).1
  | _ => exact (s.exec_ordinary admission rfl apart).1

end Read

end NbReq
