import NbReq.Http.ReceiveLimit
import NbReq.Stream.Upload
import Mathlib

/-!
# Uploads on the wire

The queue of a streamed upload together with `NativeUpload`, which pops the chunks and puts them on the wire. The
sections of the queue's other callers interleave with the calls of `next_wire` in any way.

1. `WiredUpload.Good`: what holds between any two calls; `WiredUpload.Step.good` keeps it.
2. `WiredUpload.Reachable.wired`: what is on the wire, when it is complete, and that a unit which is held back fits.
-/

namespace NbReq

/-! ## Chunked coding -/

def hexDigit (byte : UInt8) : Option Nat :=
  if 0x30 ≤ byte ∧ byte ≤ 0x39 then some (byte.toNat - 0x30)
  else if 0x41 ≤ byte ∧ byte ≤ 0x46 then some (byte.toNat - 0x41 + 10)
  else if 0x61 ≤ byte ∧ byte ≤ 0x66 then some (byte.toNat - 0x61 + 10)
  else none

def hexSize (digits : Bytes) : Option Nat :=
  digits.foldl (fun size digit => size.bind fun size => (hexDigit digit).map (16 * size + ·)) (some 0)

/-- A chunked coding and what it codes: chunks that are not empty, and the last chunk. -/
inductive ChunkedCoding : Bytes → Bytes → Prop
  | last : ChunkedCoding [0x30, 0x0D, 0x0A, 0x0D, 0x0A] []
  | chunk {size data coded content : Bytes} (isSize : hexSize size = some data.length) (some_data : data ≠ [])
      (rest : ChunkedCoding coded content) :
      ChunkedCoding (size ++ [0x0D, 0x0A] ++ data ++ [0x0D, 0x0A] ++ coded) (data ++ content)

theorem hexSize_snoc (digits : Bytes) (digit : UInt8) :
    hexSize (digits ++ [digit]) = (hexSize digits).bind fun size => (hexDigit digit).map (16 * size + ·) := by
  simp [hexSize]

theorem hexDigit_digitChar {n : Nat} (digit : n < 16) :
    hexDigit (UInt8.ofNat n.digitChar.toUpper.toNat) = some n := by
  interval_cases n <;> decide

theorem hexSize_upperHex (n : Nat) : hexSize (upperHex n) = some n := by
  induction n using Nat.strong_induction_on with
  | _ n ih =>
    unfold upperHex
    rw [Nat.toDigits_eq_if (by decide)]
    split
    · next digit =>
      have single := hexSize_snoc [] (UInt8.ofNat n.digitChar.toUpper.toNat)
      rw [hexDigit_digitChar digit] at single
      simpa [hexSize] using single
    · next long =>
      have shorter := ih (n / 16) (Nat.div_lt_self (by omega) (by decide))
      rw [upperHex] at shorter
      rw [List.map_append, List.map_singleton, hexSize_snoc, shorter, Option.bind_some,
        hexDigit_digitChar (Nat.mod_lt n (by decide)), Option.map_some, Nat.div_add_mod]

theorem length_upperHex_le {n : Nat} (bounded : n ≤ u64Max) : (upperHex n).length ≤ 16 := by
  rw [upperHex, List.length_map]
  exact Nat.toDigits_length 16 n 16 (by decide) (Nat.lt_of_le_of_lt bounded (by decide))

/-- Frames and the terminator are a chunked coding. -/
theorem ChunkedCoding.frames {chunks : List Bytes} (some_data : ∀ chunk ∈ chunks, chunk ≠ []) {coded content : Bytes}
    (rest : ChunkedCoding coded content) :
    ChunkedCoding ((chunks.map UploadFraming.chunked.frame).flatten ++ coded) (chunks.flatten ++ content) := by
  induction chunks with
  | nil => exact rest
  | cons chunk chunks ih =>
    rw [List.forall_mem_cons] at some_data
    have first := ChunkedCoding.chunk (hexSize_upperHex chunk.length) some_data.1 (ih some_data.2)
    simpa [UploadFraming.frame] using first

/-- The frame of a chunk is not the terminator. -/
theorem frame_ne_terminator {chunk : Bytes} (some_data : chunk ≠ []) :
    UploadFraming.chunked.frame chunk ≠ UploadFraming.chunked.terminator := by
  intro same
  have lengths := congrArg List.length same
  have digits : 0 < (upperHex chunk.length).length := by
    rw [upperHex, List.length_map]
    exact Nat.length_toDigits_pos
  have bytes := List.length_pos_of_ne_nil some_data
  simp [UploadFraming.frame, UploadFraming.terminator] at lengths
  omega

/-! ## The queue -/

namespace Upload

variable {u u' : Upload}

def Filled (u : Upload) : Prop :=
  ∀ chunk ∈ u.popped ++ u.state.queue, chunk ≠ [] ∧ chunk.length ≤ u.state.queueCapacity

/-- What every section leaves: the framing, the chunks as they have to be, and the bytes of an upload
that is finished. -/
structure Keeps (u u' : Upload) : Prop where
  framing : u'.state.framing = u.state.framing
  filled : u.Filled → u'.Filled
  finished : u.state.producer = .finished → u'.state.producer = .finished ∧ u'.accepted = u.accepted

theorem Keeps.refl (u : Upload) : Keeps u u := ⟨rfl, id, fun finished => ⟨finished, rfl⟩⟩

/-- A chunk that an open upload accepts. -/
theorem Keeps.append {piece : Bytes} (some_piece : piece ≠ [])
    (room : piece.length ≤ u.state.queueCapacity - u.state.queuedBytes) (producing : u.state.producer = .isOpen)
    {state : UploadState} (framing : state.framing = u.state.framing)
    (capacity : state.queueCapacity = u.state.queueCapacity) (queue : state.queue = u.state.queue ++ [piece])
    (sender : UploadSender) (accepted : Bytes) (pushes : List PushCall) :
    Keeps u ⟨state, sender, accepted, u.popped, pushes⟩ where
  framing := framing
  filled := fun filled chunk mem => by
    dsimp only at mem ⊢
    rw [queue, ← List.append_assoc, List.mem_append, List.mem_singleton] at mem
    rw [capacity]
    rcases mem with old | rfl
    · exact filled chunk old
    · exact ⟨some_piece, Nat.le_trans room (Nat.sub_le _ _)⟩
  finished := fun finished => by
    rw [producing] at finished
    cases finished

theorem Keeps.tryPush (u : Upload) (chunk : Bytes) : Keeps u (u.tryPush chunk) := by
  rcases u.state.tryPush_cases chunk with ⟨kind, failed⟩ | ⟨-, producing, -, room, pushed⟩
  · rw [Upload.tryPush, failed]
    exact .refl u
  rw [Upload.tryPush, pushed]
  by_cases empty : chunk = []
  · subst empty
    refine ⟨rfl, fun filled => by simpa [Filled] using filled, fun finished => ?_⟩
    rw [producing] at finished
    cases finished
  · exact .append empty room producing (by rfl) (by rfl) (by simp [empty]) _ _ _

theorem Keeps.pushRound (sound : u.Sound) {chunk before : Bytes} {offset : Nat}
    (pushing : u.sender = .pushing chunk offset before) : Keeps u (u.pushRound chunk offset before) := by
  have within := (sound.pushing chunk offset before pushing).within
  have window := sound.window
  rcases u.state.pushRound_cases chunk offset with waiting | closed | ⟨-, producing, full, accepted⟩
  · rw [Upload.pushRound, waiting]
    exact .refl u
  · rw [Upload.pushRound, closed]
    exact ⟨rfl, id, fun finished => ⟨finished, rfl⟩⟩
  have count : ((chunk.drop offset).take (u.state.roundCount chunk offset)).length =
      u.state.roundCount chunk offset := by
    rw [List.length_take, List.length_drop]
    exact Nat.min_eq_left (Nat.min_le_right _ _)
  have some_piece : (chunk.drop offset).take (u.state.roundCount chunk offset) ≠ [] := by
    rw [← List.length_pos_iff, count]
    unfold UploadState.roundCount
    omega
  have room := count.le.trans (Nat.min_le_left _ _)
  rw [Upload.pushRound, accepted]
  dsimp only
  split
  · exact .append some_piece room producing (by rfl) (by rfl) (by rfl) _ _ _
  · exact .append some_piece room producing (by rfl) (by rfl) (by rfl) _ _ _

theorem tryPop_eq_self {poll : UploadPoll} (same : u.state.tryPop = (u.state, poll))
    (none : ∀ chunk, poll ≠ .chunk chunk) : u.tryPop = u := by
  rw [Upload.tryPop, same]
  cases poll with
  | chunk chunk => exact absurd rfl (none chunk)
  | pending => rfl
  | finished => rfl
  | failed error => rfl

theorem Keeps.tryPop (u : Upload) : Keeps u u.tryPop := by
  rcases u.state.tryPop_cases with ⟨-, chunk, queue, queued, popped⟩ | ⟨poll, same, none, -⟩
  · rw [Upload.tryPop, popped]
    exact ⟨rfl, fun filled => by simpa [Filled, queued] using filled, fun finished => ⟨finished, rfl⟩⟩
  · rw [tryPop_eq_self same none]
    exact .refl u

/-- The sender of a finished upload is gone. -/
theorem Sound.unfinished (sound : u.Sound) (idle : u.sender = .idle) : u.state.producer ≠ .finished := by
  intro finished
  rw [(sound.finished finished).1] at idle
  cases idle

theorem Step.keeps (step : Step u u') (sound : u.Sound) : Keeps u u' := by
  cases step with
  | bind bound =>
    obtain ⟨-, limit, -, rfl⟩ := UploadState.bind_ok bound
    exact ⟨rfl, id, fun finished => ⟨finished, rfl⟩⟩
  | tryPush chunk => exact .tryPush u chunk
  | push chunk =>
    unfold Upload.push
    split <;> exact ⟨rfl, id, fun finished => ⟨finished, rfl⟩⟩
  | pushRound pushing => exact .pushRound sound pushing
  | finish idle =>
    have unfinished := sound.unfinished idle
    rcases u.state.finish_cases with ⟨same, -⟩ | same | ⟨same, -⟩
    all_goals
      rw [same]
      exact ⟨rfl, id, fun finished => absurd finished unfinished⟩
  | abandon idle =>
    have unfinished := sound.unfinished idle
    unfold UploadState.abandon
    split
    all_goals exact ⟨rfl, id, fun finished => absurd finished unfinished⟩
  | tryPop => exact .tryPop u
  | close =>
    refine ⟨rfl, fun filled chunk mem => filled chunk ?_, fun finished => ⟨finished, rfl⟩⟩
    rw [UploadState.close, List.append_nil] at mem
    exact List.mem_append_left _ mem

end Upload

/-! ## The transport -/

namespace NativeUpload

variable {n n' : NativeUpload} {poll : UploadPoll} {capacity : Option Nat}

/-- The first part of `next_wire`: the queue is asked if there is nothing to send. -/
def asked (n : NativeUpload) (poll : UploadPoll) : Except Error NativeUpload :=
  if n.pendingWire.isNone && !n.producerFinished then n.prepareWire poll else .ok n

/-- The second part: what there is to send goes out, if it fits. -/
def sent (n : NativeUpload) (capacity : Option Nat) : NativeUpload × UploadWire :=
  match n.pendingWire with
  | some wire =>
    if capacity.any (wire.length > ·) then (n, .pending) else ({ n with pendingWire := none }, .bytes wire)
  | none => (n, if n.producerFinished then .complete else .pending)

theorem nextWire_eq (n : NativeUpload) (poll : UploadPoll) (capacity : Option Nat) :
    n.nextWire poll capacity = (n.asked poll).map fun ready => ready.sent capacity := by
  have returned : ∀ ready : NativeUpload, (match ready.pendingWire with
      | some wire =>
        if capacity.any (wire.length > ·) then (pure (ready, .pending) : Except Error (NativeUpload × UploadWire))
        else pure ({ ready with pendingWire := none }, .bytes wire)
      | none => pure (ready, if ready.producerFinished then .complete else .pending)) = .ok (ready.sent capacity) := by
    intro ready
    unfold sent
    split
    · split <;> rfl
    · rfl
  unfold nextWire asked
  dsimp only
  split
  · cases n.prepareWire poll with
    | error error => rfl
    | ok ready => exact returned ready
  · exact returned n

/-- What goes out was there to be sent. -/
theorem sent_cases (n : NativeUpload) (capacity : Option Nat) :
    (∃ wire, n.pendingWire = some wire ∧ n.sent capacity = ({ n with pendingWire := none }, .bytes wire)) ∨
      ∃ wire, n.sent capacity = (n, wire) ∧ ∀ unit, wire ≠ .bytes unit := by
  unfold sent
  split
  · next wire pending =>
    split
    · exact .inr ⟨_, rfl, by simp⟩
    · exact .inl ⟨wire, pending, rfl⟩
  · refine .inr ⟨_, rfl, fun unit => ?_⟩
    split <;> simp

end NativeUpload

/-- An upload and the transport that pops it, with the wire units so far. -/
structure WiredUpload where
  u : Upload
  native : NativeUpload
  emitted : List Bytes

namespace WiredUpload

variable {s s' : WiredUpload}

/-- `NativeUpload::next_wire`. -/
def nextWire (s : WiredUpload) (capacity : Option Nat) : WiredUpload :=
  let u := if s.native.pendingWire.isNone && !s.native.producerFinished then s.u.tryPop else s.u
  match s.native.nextWire s.u.state.tryPop.2 capacity with
  | .ok (native, .bytes wire) => ⟨u, native, s.emitted ++ [wire]⟩
  | .ok (native, _) => ⟨u, native, s.emitted⟩
  | .error _ => { s with u := u }

/-- A section of another caller, or a call of the transport, which is the only one that pops chunks. -/
inductive Step : WiredUpload → WiredUpload → Prop
  | other {s : WiredUpload} {u : Upload} (step : s.u.Step u) (kept : u.popped = s.u.popped) : Step s { s with u := u }
  | nextWire (s : WiredUpload) (capacity : Option Nat) : Step s (s.nextWire capacity)

def Reachable (s : WiredUpload) : Prop :=
  ∃ framing queueCapacity state, UploadState.pair framing queueCapacity = .ok state ∧
    Relation.ReflTransGen Step ⟨.start state, .new framing, []⟩ s

/-- What ends the upload on the wire, if it is chunked. -/
def ending (native : NativeUpload) : List Bytes :=
  if native.producerFinished && native.framing == .chunked then [UploadFraming.chunked.terminator] else []

structure Good (s : WiredUpload) : Prop where
  sound : s.u.Sound
  filled : s.u.Filled
  framing : s.native.framing = s.u.state.framing
  wire : s.emitted ++ s.native.pendingWire.toList = s.u.popped.map s.native.framing.frame ++ ending s.native
  finished : s.native.producerFinished = true → s.u.state.producer = .finished ∧ s.u.popped.flatten = s.u.accepted

theorem Good.other {u : Upload} (good : s.Good) (step : s.u.Step u) (kept : u.popped = s.u.popped) :
    Good { s with u := u } := by
  have keeps := step.keeps good.sound
  have framing := good.framing.trans keeps.framing.symm
  refine ⟨step.sound good.sound, keeps.filled good.filled, framing, ?_, fun finished => ?_⟩
  · dsimp only
    rw [kept]
    exact good.wire
  · obtain ⟨producer, all⟩ := good.finished finished
    obtain ⟨still, same⟩ := keeps.finished producer
    exact ⟨still, by rw [kept, same, all]⟩

theorem Good.prepare {native : NativeUpload} (good : s.Good) (empty : s.native.pendingWire = none)
    (unfinished : s.native.producerFinished = false)
    (prepared : s.native.prepareWire s.u.state.tryPop.2 = .ok native) : Good ⟨s.u.tryPop, native, s.emitted⟩ := by
  have sound := good.sound.tryPop
  have keeps := Upload.Keeps.tryPop s.u
  have wire := good.wire
  rcases s.u.state.tryPop_cases with ⟨-, chunk, queue, -, popped⟩ | ⟨poll, same, none, ended⟩
  · rw [popped] at prepared
    cases prepared
    have all : s.u.tryPop.popped = s.u.popped ++ [chunk] := by rw [Upload.tryPop, popped]
    refine ⟨sound, keeps.filled good.filled, good.framing.trans keeps.framing.symm, ?_, fun finished => ?_⟩
    · simp only [empty, ending, unfinished, Option.toList_none, List.append_nil, Bool.false_and, Bool.false_eq_true,
        if_false] at wire
      rw [all, wire]
      simp [ending, unfinished]
    · rw [unfinished] at finished
      cases finished
  rw [same] at prepared
  rw [Upload.tryPop_eq_self same none]
  cases poll with
  | chunk chunk => exact absurd rfl (none chunk)
  | failed error => cases prepared
  | pending =>
    cases prepared
    exact good
  | finished =>
    obtain ⟨alive, queue, producer⟩ := ended rfl
    have conveyed := good.sound.conveyed alive
    rw [queue, List.flatten_nil, List.append_nil] at conveyed
    simp only [empty, ending, unfinished, Option.toList_none, List.append_nil, Bool.false_and, Bool.false_eq_true,
      if_false] at wire
    cases framing : s.native.framing with
    | fixed length =>
      simp only [NativeUpload.prepareWire, framing] at prepared
      cases prepared
      exact ⟨good.sound, good.filled, framing ▸ good.framing, by simp [wire, ending, empty, framing],
        fun _ => ⟨producer, conveyed⟩⟩
    | chunked =>
      simp only [NativeUpload.prepareWire, framing] at prepared
      cases prepared
      exact ⟨good.sound, good.filled, framing ▸ good.framing, by simp [wire, ending, framing],
        fun _ => ⟨producer, conveyed⟩⟩

variable {wire : Bytes}

theorem Good.emit (good : s.Good) (pending : s.native.pendingWire = some wire) :
    Good ⟨s.u, { s.native with pendingWire := none }, s.emitted ++ [wire]⟩ := by
  refine ⟨good.sound, good.filled, good.framing, ?_, good.finished⟩
  have same := good.wire
  rw [pending] at same
  simpa [ending] using same

theorem Good.nextWire (good : s.Good) (capacity : Option Nat) : (s.nextWire capacity).Good := by
  unfold WiredUpload.nextWire
  dsimp only
  have asked : ∀ native, s.native.asked s.u.state.tryPop.2 = .ok native →
      Good ⟨if s.native.pendingWire.isNone && !s.native.producerFinished then s.u.tryPop else s.u, native,
        s.emitted⟩ := by
    intro native ready
    unfold NativeUpload.asked at ready
    split at ready
    · next asks =>
      rw [if_pos asks]
      simp only [Bool.and_eq_true, Option.isNone_iff_eq_none, Bool.not_eq_true'] at asks
      exact good.prepare asks.1 asks.2 ready
    · next asks =>
      cases ready
      rw [if_neg asks]
      exact good
  rw [NativeUpload.nextWire_eq]
  cases ready : s.native.asked s.u.state.tryPop.2 with
  | ok native =>
    rcases native.sent_cases capacity with ⟨wire, pending, same⟩ | ⟨wire, same, none⟩
    · simp only [Except.map, same]
      exact (asked native ready).emit pending
    simp only [Except.map, same]
    cases wire with
    | bytes unit => exact absurd rfl (none unit)
    | pending | complete => exact asked native ready
  | error error =>
    -- Only a queue that has failed gives an error, and it is as it was.
    have same : s.u.tryPop = s.u := by
      rcases s.u.state.tryPop_cases with ⟨-, chunk, queue, -, popped⟩ | ⟨poll, same, none, -⟩
      · rw [popped, NativeUpload.asked] at ready
        split at ready <;> cases ready
      · exact Upload.tryPop_eq_self same none
    simp only [Except.map, same, ite_self]
    exact good

theorem Good.start {framing : UploadFraming} {queueCapacity : Nat} {state : UploadState}
    (created : UploadState.pair framing queueCapacity = .ok state) : Good ⟨.start state, .new framing, []⟩ := by
  have sound := Upload.Sound.start created
  unfold UploadState.pair at created
  split at created
  · cases created
  · cases created
    exact ⟨sound, by simp [Upload.Filled, Upload.start], rfl, rfl, by simp [NativeUpload.new]⟩

theorem Reachable.good (reachable : s.Reachable) : s.Good := by
  obtain ⟨framing, queueCapacity, state, created, run⟩ := reachable
  induction run with
  | refl => exact .start created
  | tail _ step ih =>
    cases step with
    | other step kept => exact ih.other step kept
    | nextWire => exact ih.nextWire _

/-! ## The results -/

def httpBodySendWindow : Nat := 64 * 1024

/-- `cleartext_outbound_limit`; `upload` is the capacity of the queue of a streamed upload. -/
def cleartextOutboundLimit (width : PointerWidth) (serializedBytes bodyBytes : Nat) (upload : Option Nat) : Nat :=
  width.saturatingAdd serializedBytes <|
    match upload with
    | some queueCapacity => width.saturatingAdd queueCapacity 32
    | none => min bodyBytes httpBodySendWindow

/-- The limit for the queue of the connection that the upload is sent on. -/
def outboundLimit (s : WiredUpload) (width : PointerWidth) (serializedBytes bodyBytes : Nat) : Nat :=
  cleartextOutboundLimit width serializedBytes bodyBytes (some s.u.state.queueCapacity)

/-- The frame of a chunk adds at most the longest size line and two line ends. -/
theorem length_frame_le {chunk : Bytes} (bounded : chunk.length ≤ u64Max) (framing : UploadFraming) :
    (framing.frame chunk).length ≤ chunk.length + 20 := by
  have digits := length_upperHex_le bounded
  cases framing with
  | fixed length => exact Nat.le_add_right _ _
  | chunked =>
    simp only [UploadFraming.frame, List.length_append, List.length_cons, List.length_nil]
    omega

/-- What is emitted and what is pending. -/
theorem Good.unit_length (good : s.Good) (mem : wire ∈ s.emitted ++ s.native.pendingWire.toList) :
    wire.length ≤ s.u.state.queueCapacity + 32 := by
  rw [good.wire, List.mem_append, List.mem_map] at mem
  rcases mem with ⟨chunk, popped, rfl⟩ | ended
  · have fits := (good.filled chunk (List.mem_append_left _ popped)).2
    have counted : chunk.length ≤ u64Max := by
      have inside := (List.sublist_flatten_of_mem popped).length_le
      have accepted := good.sound.popped.length_le
      exact inside.trans (accepted.trans good.sound.fits.u64)
    have framed := length_frame_le counted s.native.framing
    omega
  · unfold ending at ended
    split at ended
    · rw [List.mem_singleton.mp ended]
      simp [UploadFraming.terminator]
    · cases ended

def lastChunk : Bytes := UploadFraming.chunked.terminator

theorem Good.emitted_front (good : s.Good) : s.emitted <+: s.u.popped.map s.native.framing.frame ++ ending s.native :=
  ⟨_, good.wire⟩

theorem Good.lastChunk_not_mem (good : s.Good) (chunked : s.native.framing = .chunked) :
    lastChunk ∉ s.u.popped.map s.native.framing.frame := by
  rw [chunked, List.mem_map]
  rintro ⟨chunk, popped, same⟩
  exact frame_ne_terminator (good.filled chunk (List.mem_append_left _ popped)).1 same

theorem flatten_front {left right : List Bytes} (front : left <+: right) : left.flatten <+: right.flatten := by
  obtain ⟨rest, rfl⟩ := front
  rw [List.flatten_append]
  exact List.prefix_append _ _

/-- An upload that is not at its end can still become any coding of what it accepts. -/
theorem Good.coding (good : s.Good) (chunked : s.native.framing = .chunked) :
    ∃ coded, ChunkedCoding coded s.u.accepted ∧ s.emitted.flatten <+: coded := by
  have some_data : ∀ chunk ∈ s.u.popped, chunk ≠ [] := fun chunk popped =>
    (good.filled chunk (List.mem_append_left _ popped)).1
  have front := flatten_front good.emitted_front
  rw [List.flatten_append, chunked] at front
  by_cases finished : s.native.producerFinished = true
  · have coding := ChunkedCoding.frames some_data .last
    rw [List.append_nil, (good.finished finished).2] at coding
    refine ⟨_, coding, ?_⟩
    simpa [ending, finished, chunked, UploadFraming.terminator] using front
  obtain ⟨rest, split⟩ := good.sound.popped
  simp only [ending, finished, Bool.false_and, Bool.false_eq_true, if_false, List.flatten_nil,
    List.append_nil] at front
  by_cases none : rest = []
  · rw [none, List.append_nil] at split
    have coding := ChunkedCoding.frames some_data .last
    rw [List.append_nil, split] at coding
    exact ⟨_, coding, front.trans (List.prefix_append _ _)⟩
  · have coding := ChunkedCoding.frames some_data (.chunk (hexSize_upperHex rest.length) none .last)
    rw [List.append_nil, split] at coding
    exact ⟨_, coding, front.trans (List.prefix_append _ _)⟩

/-- The terminator goes out last. -/
theorem Good.ended (good : s.Good) (chunked : s.native.framing = .chunked) (emitted : lastChunk ∈ s.emitted) :
    s.native.producerFinished = true ∧ s.emitted = s.u.popped.map UploadFraming.chunked.frame ++ [lastChunk] := by
  have absent := good.lastChunk_not_mem chunked
  have wire := good.wire
  have mem := good.emitted_front.subset emitted
  rw [List.mem_append] at mem
  have last := mem.resolve_left absent
  unfold ending at last wire
  split at last
  · next finished =>
    rw [if_pos finished] at wire
    simp only [Bool.and_eq_true] at finished
    refine ⟨finished.1, ?_⟩
    rw [chunked] at wire absent
    cases pending : s.native.pendingWire with
    | none => rwa [pending, Option.toList_none, List.append_nil] at wire
    | some unit =>
      rw [pending, Option.toList_some] at wire
      rw [(List.append_inj' wire rfl).1] at emitted
      exact absurd emitted absent
  · cases last

theorem map_frame_fixed (chunks : List Bytes) (length : Nat) : chunks.map (UploadFraming.fixed length).frame = chunks :=
  List.map_id chunks

/-- With the terminator everything is on the wire. -/
theorem Good.terminated (good : s.Good) (chunked : s.native.framing = .chunked) (emitted : lastChunk ∈ s.emitted) :
    s.u.state.producer = .finished ∧ s.emitted.count lastChunk = 1 ∧ ChunkedCoding s.emitted.flatten s.u.accepted := by
  obtain ⟨finished, units⟩ := good.ended chunked emitted
  obtain ⟨producer, all⟩ := good.finished finished
  have absent := good.lastChunk_not_mem chunked
  rw [chunked] at absent
  refine ⟨producer, ?_, ?_⟩
  · rw [units, List.count_append, List.count_eq_zero_of_not_mem absent]
    simp
  have coding := ChunkedCoding.frames
    (fun chunk popped => (good.filled chunk (List.mem_append_left _ popped)).1) .last
  rw [List.append_nil, all] at coding
  rw [units, List.flatten_append, List.flatten_singleton]
  exact coding

theorem Good.fixed (good : s.Good) {length : Nat} (fixed : s.native.framing = .fixed length) :
    s.emitted.flatten <+: s.u.accepted := by
  have front := flatten_front good.emitted_front
  rw [List.flatten_append, fixed, map_frame_fixed] at front
  simp only [ending, fixed, reduceCtorEq, beq_iff_eq, Bool.and_eq_true, and_false, if_false, List.flatten_nil,
    List.append_nil] at front
  exact front.trans good.sound.popped

theorem Good.complete (good : s.Good) (complete : s.native.isComplete = true) :
    s.u.state.producer = .finished ∧ (s.native.framing = .chunked → lastChunk ∈ s.emitted) ∧
      ∀ length, s.native.framing = .fixed length → s.emitted.flatten = s.u.accepted := by
  simp only [NativeUpload.isComplete, Bool.and_eq_true, Option.isNone_iff_eq_none] at complete
  obtain ⟨producer, all⟩ := good.finished complete.1
  have wire := good.wire
  rw [complete.2, Option.toList_none, List.append_nil] at wire
  refine ⟨producer, fun chunked => ?_, fun length fixed => ?_⟩
  · rw [wire]
    simp [ending, complete.1, chunked, lastChunk]
  · rw [wire, fixed, map_frame_fixed]
    simp [ending, fixed, all]

theorem Good.fits (good : s.Good) (width : PointerWidth) (serializedBytes bodyBytes : Nat)
    (mem : wire ∈ s.emitted ++ s.native.pendingWire.toList) :
    min wire.length width.usizeMax ≤ s.outboundLimit width serializedBytes bodyBytes := by
  have bound := good.unit_length mem
  simp only [outboundLimit, cleartextOutboundLimit, PointerWidth.saturatingAdd]
  omega

/-- A unit that fits is not held back. -/
theorem nextWire_pending (pending : s.native.pendingWire = some wire) {capacity : Nat}
    (room : wire.length ≤ capacity) : (s.nextWire (some capacity)).emitted = s.emitted ++ [wire] := by
  have nothing : ¬((some capacity).any (wire.length > ·)) = true := by simpa using room
  simp only [nextWire, NativeUpload.nextWire_eq, NativeUpload.asked, NativeUpload.sent, pending, Option.isNone_some,
    Bool.false_and, Bool.false_eq_true, if_false, Except.map, if_neg nothing]

/-- What is on the wire in any run of a streamed upload. -/
theorem Reachable.wired (reachable : s.Reachable) (width : PointerWidth) (serializedBytes bodyBytes : Nat) :
    (s.u.state.framing = .chunked →
      (∃ coded, ChunkedCoding coded s.u.accepted ∧ s.emitted.flatten <+: coded) ∧
      (lastChunk ∈ s.emitted → s.u.state.producer = .finished ∧ s.emitted.count lastChunk = 1 ∧
        ChunkedCoding s.emitted.flatten s.u.accepted)) ∧
    (∀ length, s.u.state.framing = .fixed length → s.emitted.flatten <+: s.u.accepted) ∧
    (s.native.isComplete = true → s.u.state.producer = .finished ∧
      (s.u.state.framing = .chunked → lastChunk ∈ s.emitted) ∧
      ∀ length, s.u.state.framing = .fixed length → s.emitted.flatten = s.u.accepted) ∧
    (∀ wire ∈ s.emitted ++ s.native.pendingWire.toList,
      min wire.length width.usizeMax ≤ s.outboundLimit width serializedBytes bodyBytes) ∧
    (∀ wire, s.native.pendingWire = some wire → wire.length ≤ width.usizeMax →
      (s.nextWire (some (s.outboundLimit width serializedBytes bodyBytes))).emitted = s.emitted ++ [wire]) := by
  have good := reachable.good
  rw [← good.framing]
  refine ⟨fun chunked => ⟨good.coding chunked, good.terminated chunked⟩, fun length fixed => good.fixed fixed,
    good.complete, fun wire mem => good.fits width _ _ mem, ?_⟩
  intro wire pending short
  have room := good.fits width serializedBytes bodyBytes (by rw [pending]; simp : wire ∈ _)
  rw [Nat.min_eq_left short] at room
  exact nextWire_pending pending room

def sampleUpload : UploadState := ⟨⟨.chunked, 4, 0, .isOpen, true, none⟩, [], 0, none⟩

theorem wired_sample : ∃ s : WiredUpload, s.Reachable ∧
    s.emitted = [[0x31, 0x0D, 0x0A, 0x61, 0x0D, 0x0A], [0x30, 0x0D, 0x0A, 0x0D, 0x0A]] ∧
    ChunkedCoding s.emitted.flatten [0x61] := by
  let fresh : WiredUpload := ⟨.start sampleUpload, .new .chunked, []⟩
  let pushed : WiredUpload := { fresh with u := fresh.u.tryPush [0x61] }
  let popped : WiredUpload := pushed.nextWire (some 6)
  let ended : WiredUpload := { popped with u := { popped.u with state := popped.u.state.finish.1, sender := .gone } }
  have run : Relation.ReflTransGen Step fresh (ended.nextWire (some 5)) :=
    ((((Relation.ReflTransGen.refl.tail (.other (.tryPush [0x61] rfl) rfl)).tail (.nextWire pushed (some 6))).tail
      (.other (.finish rfl) rfl)).tail (.nextWire ended (some 5)))
  have reachable : (ended.nextWire (some 5)).Reachable := ⟨.chunked, 4, sampleUpload, rfl, run⟩
  have wired := (Reachable.wired reachable .bits64 0 0).1 (by decide +kernel)
  exact ⟨_, reachable, by decide +kernel, (wired.2 (by decide +kernel)).2.2⟩

end WiredUpload

end NbReq
