import NbReq.Http.Upload
import Mathlib.Logic.Relation

/-!
# The upload queue

The request half of a streaming request (`stream.rs`): the sender pushes chunks, the transport pops them, and the two
meet under one lock. Every call is one section of that lock, except the blocking `push`, which is a section of checks
and then one section for each piece it gets in. `Step` interleaves the sections.

1. `Sound`: what holds between any two sections; `Step.sound` keeps it.
2. `Reachable.conveys`: the queue conveys the accepted bytes in order, within its window and its declared length.
3. `closing_discards`: closing the body drops what is still queued.
-/

namespace NbReq

/-- `stream::TryPushErrorKind`. -/
inductive TryPushErrorKind where
  | wouldBlock | chunkTooLarge | lengthExceeded | totalLimitExceeded | closed | notSubmitted | wrongMode
deriving DecidableEq, Repr

/-- `stream::TryPushError`. -/
structure TryPushError where
  kind : TryPushErrorKind
  chunk : Bytes
deriving DecidableEq, Repr

/-- `stream::UploadFinishErrorKind`. -/
inductive UploadFinishErrorKind where
  | lengthMismatch | closed
deriving DecidableEq, Repr

/-- `stream::UploadFinishError`. -/
structure UploadFinishError where
  kind : UploadFinishErrorKind
  expected : Option Nat
  accepted : Nat
deriving DecidableEq, Repr

/-- `stream::UploadState` with the constants of `UploadShared`. -/
structure UploadState extends UploadBody where
  queue : List Bytes
  queuedBytes : Nat
  runMode : Option RunMode
deriving DecidableEq, Repr

def UploadFraming.declaredLength : UploadFraming → Option Nat
  | .fixed length => some length
  | .chunked => none

namespace UploadState

/-- `UploadBody::pair`. -/
def pair (framing : UploadFraming) (queueCapacity : Nat) : Except Error UploadState :=
  if queueCapacity = 0 then
    .error (Error.new .invalidRequest "a streamed upload queue capacity must be greater than zero")
  else
    .ok ⟨⟨framing, queueCapacity, 0, .isOpen, true, none⟩, [], 0, none⟩

/-- `UploadBody::bind`. -/
def bind (s : UploadState) (maxQueueCapacity totalLimit : Nat) (mode : RunMode) : Except Error UploadState :=
  (s.toUploadBody.bind maxQueueCapacity totalLimit).map fun body =>
    { s with toUploadBody := body, runMode := some mode }

/-- The checks of both pushes on the number of accepted bytes. -/
def nextAccepted (s : UploadState) (length : Nat) : Except TryPushErrorKind Nat :=
  let next := s.acceptedBytes + length
  if next > u64Max then .error .lengthExceeded
  else if s.totalLimit.any (next > ·) then .error .totalLimitExceeded
  else if s.framing.declaredLength.any (next > ·) then .error .lengthExceeded
  else .ok next

/-- `UploadSender::try_push`. -/
def tryPush (s : UploadState) (chunk : Bytes) : UploadState × Except TryPushError Unit :=
  if chunk.length > s.queueCapacity then (s, .error ⟨.chunkTooLarge, chunk⟩)
  else if !s.receiverAlive then (s, .error ⟨.closed, chunk⟩)
  else if s.producer ≠ .isOpen then (s, .error ⟨.closed, chunk⟩)
  else if chunk.length > u64Max then (s, .error ⟨.lengthExceeded, chunk⟩)
  else match s.nextAccepted chunk.length with
    | .error kind => (s, .error ⟨kind, chunk⟩)
    | .ok next =>
      if chunk.length > s.queueCapacity - s.queuedBytes then (s, .error ⟨.wouldBlock, chunk⟩)
      else
        ({ s with
            acceptedBytes := next
            queuedBytes := s.queuedBytes + chunk.length
            queue := if chunk.isEmpty then s.queue else s.queue ++ [chunk] }, .ok ())

/-- The checks of `UploadSender::push`: what it returns at once, or `none` when it enters its loop. -/
def pushChecks (s : UploadState) (chunk : Bytes) : Option (Except TryPushError Unit) :=
  if chunk.length > u64Max then some (.error ⟨.lengthExceeded, chunk⟩)
  else match s.runMode with
    | none => some (.error ⟨.notSubmitted, chunk⟩)
    | some .manual => some (.error ⟨.wrongMode, chunk⟩)
    | some .spawned =>
      if chunk.isEmpty then some (.ok ())
      else if !s.receiverAlive || s.producer ≠ .isOpen then some (.error ⟨.closed, chunk⟩)
      else match s.nextAccepted chunk.length with
        | .error kind => some (.error ⟨kind, chunk⟩)
        | .ok _ => none

/-- What a round of the loop of `UploadSender::push` comes to. -/
inductive PushRound where
  | waiting
  | closed (rest : Bytes)
  | accepted (offset : Nat)
deriving DecidableEq, Repr

/-- A round of the loop of `UploadSender::push`. The addition is the one of a build without overflow checks. -/
def pushRound (s : UploadState) (chunk : Bytes) (offset : Nat) : UploadState × PushRound :=
  if s.receiverAlive && s.producer = .isOpen && s.queuedBytes = s.queueCapacity then (s, .waiting)
  else if !s.receiverAlive || s.producer ≠ .isOpen then (s, .closed (chunk.drop offset))
  else
    let available := s.queueCapacity - s.queuedBytes
    let count := min available (chunk.length - offset)
    ({ s with
        acceptedBytes := (s.acceptedBytes + count) % 2 ^ 64
        queuedBytes := s.queuedBytes + count
        queue := s.queue ++ [(chunk.drop offset).take count] }, .accepted (offset + count))

/-- `UploadSender::finish`. -/
def finish (s : UploadState) : UploadState × Except UploadFinishError Unit :=
  let expected := s.framing.declaredLength
  if !s.receiverAlive then (s, .error ⟨.closed, expected, s.acceptedBytes⟩)
  else if expected.any (· ≠ s.acceptedBytes) then
    ({ s with producer := .lengthMismatch }, .error ⟨.lengthMismatch, expected, s.acceptedBytes⟩)
  else ({ s with producer := .finished }, .ok ())

/-- `UploadSender::drop` of a sender that is not terminated. -/
def abandon (s : UploadState) : UploadState :=
  if s.producer = .isOpen then { s with producer := .abandoned } else s

/-- `UploadBody::try_pop`. -/
def tryPop (s : UploadState) : UploadState × UploadPoll :=
  if !s.receiverAlive then (s, .failed (Error.transport .send "the streamed upload body is closed"))
  else match s.queue with
    | chunk :: queue => ({ s with queue := queue, queuedBytes := s.queuedBytes - chunk.length }, .chunk chunk)
    | [] => (s, match s.producer with
      | .isOpen => .pending
      | .finished => .finished
      | .abandoned => .failed (Error.transport .send "the streamed upload sender was dropped before finish")
      | .lengthMismatch =>
        .failed (Error.transport .send "the fixed-length streamed upload finished at the wrong length"))

/-- `UploadBody::close`, and `UploadBody::drop`. -/
def close (s : UploadState) : UploadState := { s with receiverAlive := false, queue := [], queuedBytes := 0 }

end UploadState

/-! ## Runs -/

inductive UploadSender where
  | idle
  | pushing (chunk : Bytes) (offset : Nat) (before : Bytes)
  | gone
deriving DecidableEq, Repr

/-- A blocking `push` that has returned, with the bytes accepted before and after it. -/
structure PushCall where
  chunk : Bytes
  before : Bytes
  after : Bytes
  result : Except TryPushError Unit

/-- An upload between two sections, with the bytes accepted, the chunks popped and the blocking pushes so far. -/
structure Upload where
  state : UploadState
  sender : UploadSender
  accepted : Bytes
  popped : List Bytes
  pushes : List PushCall

namespace Upload

def start (state : UploadState) : Upload := ⟨state, .idle, [], [], []⟩

def tryPush (u : Upload) (chunk : Bytes) : Upload :=
  match u.state.tryPush chunk with
  | (state, .ok ()) => { u with state := state, accepted := u.accepted ++ chunk }
  | (state, .error _) => { u with state := state }

def push (u : Upload) (chunk : Bytes) : Upload :=
  match u.state.pushChecks chunk with
  | some result => { u with pushes := u.pushes ++ [⟨chunk, u.accepted, u.accepted, result⟩] }
  | none => { u with sender := .pushing chunk 0 u.accepted }

def pushRound (u : Upload) (chunk : Bytes) (offset : Nat) (before : Bytes) : Upload :=
  match u.state.pushRound chunk offset with
  | (state, .waiting) => { u with state := state }
  | (state, .closed rest) =>
    { u with
      state := state
      sender := .idle
      pushes := u.pushes ++ [⟨chunk, before, u.accepted, .error ⟨.closed, rest⟩⟩] }
  | (state, .accepted next) =>
    let accepted := u.accepted ++ (chunk.drop offset).take (next - offset)
    if next < chunk.length then
      { u with state := state, sender := .pushing chunk next before, accepted := accepted }
    else
      { u with
        state := state
        sender := .idle
        accepted := accepted
        pushes := u.pushes ++ [⟨chunk, before, accepted, .ok ()⟩] }

def tryPop (u : Upload) : Upload :=
  match u.state.tryPop with
  | (state, .chunk chunk) => { u with state := state, popped := u.popped ++ [chunk] }
  | (state, _) => { u with state := state }

/-- A section of the lock. The sender's calls take it exclusively, so no other call of it runs during a `push`. -/
inductive Step : Upload → Upload → Prop
  | bind {u : Upload} {maxQueueCapacity totalLimit : Nat} {mode : RunMode} {state : UploadState}
      (bound : u.state.bind maxQueueCapacity totalLimit mode = .ok state) : Step u { u with state := state }
  | tryPush {u : Upload} (chunk : Bytes) (idle : u.sender = .idle) : Step u (u.tryPush chunk)
  | push {u : Upload} (chunk : Bytes) (idle : u.sender = .idle) : Step u (u.push chunk)
  | pushRound {u : Upload} {chunk : Bytes} {offset : Nat} {before : Bytes}
      (pushing : u.sender = .pushing chunk offset before) : Step u (u.pushRound chunk offset before)
  | finish {u : Upload} (idle : u.sender = .idle) : Step u { u with state := u.state.finish.1, sender := .gone }
  | abandon {u : Upload} (idle : u.sender = .idle) : Step u { u with state := u.state.abandon, sender := .gone }
  | tryPop (u : Upload) : Step u u.tryPop
  | close (u : Upload) : Step u { u with state := u.state.close }

/-- The uploads that any interleaving of calls reaches from a fresh pair. -/
def Reachable (u : Upload) : Prop :=
  ∃ framing queueCapacity state, UploadState.pair framing queueCapacity = .ok state ∧
    Relation.ReflTransGen Step (start state) u

end Upload

/-! ## The invariant -/

/-- A body of this framing under this limit may have `length` bytes. -/
structure UploadFraming.Allows (framing : UploadFraming) (totalLimit : Option Nat) (length : Nat) : Prop where
  u64 : length ≤ u64Max
  limit : ∀ limit, totalLimit = some limit → length ≤ limit
  declared : ∀ declared, framing = .fixed declared → length ≤ declared

/-- The body may have accepted `length` bytes. -/
def UploadState.Fits (s : UploadState) (length : Nat) : Prop := s.framing.Allows s.totalLimit length

/-- A returned push reports what it did: it accepted its chunk up to the suffix it returns. -/
def PushCall.Honest (call : PushCall) : Prop :=
  match call.result with
  | .ok () => call.after = call.before ++ call.chunk
  | .error error => ∃ taken, call.chunk = taken ++ error.chunk ∧ call.after = call.before ++ taken

namespace Upload

/-- A blocking push between two of its sections. -/
structure Pushing (u : Upload) (chunk : Bytes) (offset : Nat) (before : Bytes) : Prop where
  within : offset < chunk.length
  accepted : u.accepted = before ++ chunk.take offset
  fits : u.state.Fits (before.length + chunk.length)
  submitted : u.state.runMode.isSome

structure Sound (u : Upload) : Prop where
  bytes : u.state.queuedBytes = u.state.queue.flatten.length
  window : u.state.queuedBytes ≤ u.state.queueCapacity
  counted : u.state.acceptedBytes = u.accepted.length
  fits : u.state.Fits u.accepted.length
  bound : u.state.runMode.isSome → u.state.totalLimit.isSome
  conveyed : u.state.receiverAlive → u.popped.flatten ++ u.state.queue.flatten = u.accepted
  popped : u.popped.flatten <+: u.accepted
  pushing : ∀ chunk offset before, u.sender = .pushing chunk offset before → u.Pushing chunk offset before
  finished : u.state.producer = .finished →
    u.sender = .gone ∧ ∀ declared, u.state.framing = .fixed declared → u.accepted.length = declared
  honest : ∀ call ∈ u.pushes, call.Honest

/-! ### What the sections do -/

end Upload

namespace UploadState

theorem Fits.mono {s : UploadState} {few many : Nat} (fits : s.Fits many) (le : few ≤ many) : s.Fits few :=
  ⟨le.trans fits.u64, fun limit equal => le.trans (fits.limit limit equal),
    fun declared equal => le.trans (fits.declared declared equal)⟩

variable {s s' : UploadState} {chunk : Bytes} {length next offset : Nat}

theorem nextAccepted_ok (checked : s.nextAccepted length = .ok next) :
    next = s.acceptedBytes + length ∧ s.Fits (s.acceptedBytes + length) := by
  unfold nextAccepted at checked
  dsimp only at checked
  split at checked
  · cases checked
  next u64 =>
  split at checked
  · cases checked
  next limit =>
  split at checked
  · cases checked
  next declared =>
  cases checked
  refine ⟨rfl, Nat.le_of_not_lt u64, ?_, ?_⟩
  · intro bound equal
    simpa [equal] using limit
  · intro bound equal
    simpa [equal, UploadFraming.declaredLength] using declared

/-- A push that fails changes nothing and hands its chunk back; one that succeeds queues it. -/
theorem tryPush_cases (s : UploadState) (chunk : Bytes) :
    (∃ kind, s.tryPush chunk = (s, .error ⟨kind, chunk⟩)) ∨
    (s.receiverAlive = true ∧ s.producer = .isOpen ∧ s.Fits (s.acceptedBytes + chunk.length) ∧
      chunk.length ≤ s.queueCapacity - s.queuedBytes ∧
      s.tryPush chunk = ({ s with
        acceptedBytes := s.acceptedBytes + chunk.length
        queuedBytes := s.queuedBytes + chunk.length
        queue := if chunk.isEmpty then s.queue else s.queue ++ [chunk] }, .ok ())) := by
  unfold tryPush
  split
  · exact .inl ⟨_, rfl⟩
  split
  · exact .inl ⟨_, rfl⟩
  next alive =>
  split
  · exact .inl ⟨_, rfl⟩
  next producing =>
  split
  · exact .inl ⟨_, rfl⟩
  split
  · exact .inl ⟨_, rfl⟩
  next next checked =>
  obtain ⟨rfl, fits⟩ := nextAccepted_ok checked
  split
  · exact .inl ⟨_, rfl⟩
  next room =>
  exact .inr ⟨by simpa using alive, by simpa using producing, fits, Nat.le_of_not_lt room, rfl⟩

/-- `push` returns at once with its whole chunk, with an empty one, or it enters its loop. -/
theorem pushChecks_cases (s : UploadState) (chunk : Bytes) :
    (∃ kind, s.pushChecks chunk = some (.error ⟨kind, chunk⟩)) ∨
    (chunk = [] ∧ s.pushChecks chunk = some (.ok ())) ∨
    (chunk ≠ [] ∧ s.runMode.isSome ∧ s.Fits (s.acceptedBytes + chunk.length) ∧ s.pushChecks chunk = none) := by
  unfold pushChecks
  split
  · exact .inl ⟨_, rfl⟩
  split
  · exact .inl ⟨_, rfl⟩
  · exact .inl ⟨_, rfl⟩
  next submitted =>
  split
  · next empty => exact .inr (.inl ⟨by simpa using empty, rfl⟩)
  next nonempty =>
  split
  · exact .inl ⟨_, rfl⟩
  split
  · exact .inl ⟨_, rfl⟩
  next next checked =>
  exact .inr (.inr ⟨by simpa using nonempty, by simp [submitted], (nextAccepted_ok checked).2, rfl⟩)

def roundCount (s : UploadState) (chunk : Bytes) (offset : Nat) : Nat :=
  min (s.queueCapacity - s.queuedBytes) (chunk.length - offset)

/-- A round waits, finds the body closed, or gets a piece in. -/
theorem pushRound_cases (s : UploadState) (chunk : Bytes) (offset : Nat) :
    s.pushRound chunk offset = (s, .waiting) ∨
    s.pushRound chunk offset = (s, .closed (chunk.drop offset)) ∨
    (s.receiverAlive = true ∧ s.producer = .isOpen ∧ s.queuedBytes ≠ s.queueCapacity ∧
      s.pushRound chunk offset = ({ s with
        acceptedBytes := (s.acceptedBytes + s.roundCount chunk offset) % 2 ^ 64
        queuedBytes := s.queuedBytes + s.roundCount chunk offset
        queue := s.queue ++ [(chunk.drop offset).take (s.roundCount chunk offset)] },
        .accepted (offset + s.roundCount chunk offset))) := by
  unfold pushRound
  split
  · exact .inl rfl
  next room =>
  split
  · exact .inr (.inl rfl)
  next live =>
  simp only [Bool.or_eq_true, Bool.not_eq_true', decide_eq_true_eq, not_or, Bool.not_eq_false, not_not] at live
  exact .inr (.inr ⟨live.1, live.2, by simpa [live.1, live.2] using room, rfl⟩)

/-- A pop takes the first chunk of an open body, or changes nothing. -/
theorem tryPop_cases (s : UploadState) :
    (s.receiverAlive = true ∧ ∃ chunk queue, s.queue = chunk :: queue ∧
      s.tryPop = ({ s with queue := queue, queuedBytes := s.queuedBytes - chunk.length }, .chunk chunk)) ∨
    ∃ poll, s.tryPop = (s, poll) ∧ (∀ chunk, poll ≠ .chunk chunk) ∧
      (poll = .finished → s.receiverAlive = true ∧ s.queue = [] ∧ s.producer = .finished) := by
  unfold tryPop
  split
  · exact .inr ⟨_, rfl, nofun, nofun⟩
  next alive =>
  split
  · next chunk queue queued => exact .inl ⟨by simpa using alive, chunk, queue, queued, rfl⟩
  next empty =>
  refine .inr ⟨_, rfl, ?_, ?_⟩
  · cases s.producer <;> nofun
  · intro reported
    refine ⟨by simpa using alive, empty, ?_⟩
    cases producer : s.producer <;> simp [producer] at reported ⊢

/-- A successful `finish` is of a body at its declared length; a failing one leaves the body unfinished. -/
theorem finish_cases (s : UploadState) :
    (s.finish.1 = s ∧ s.receiverAlive = false) ∨ s.finish.1 = { s with producer := .lengthMismatch } ∨
    (s.finish.1 = { s with producer := .finished } ∧
      ∀ declared, s.framing = .fixed declared → s.acceptedBytes = declared) := by
  unfold finish
  dsimp only
  split
  · next dead => exact .inl ⟨rfl, by simpa using dead⟩
  split
  · exact .inr (.inl rfl)
  next exact_length =>
  refine .inr (.inr ⟨rfl, fun declared framing => ?_⟩)
  rw [framing, UploadFraming.declaredLength, Option.any_some, decide_eq_true_eq, not_not] at exact_length
  exact exact_length.symm

/-- Binding stores a limit that what is accepted and what is declared keep to. -/
theorem bind_ok {maxQueueCapacity totalLimit : Nat} {mode : RunMode}
    (bound : s.bind maxQueueCapacity totalLimit mode = .ok s') :
    s.totalLimit = none ∧ ∃ limit, s.acceptedBytes ≤ limit ∧
      s' = { s with totalLimit := some limit, runMode := some mode } := by
  unfold bind at bound
  cases checked : s.toUploadBody.bind maxQueueCapacity totalLimit with
  | error error => simp [checked, Except.map] at bound
  | ok body =>
    rw [checked] at bound
    cases bound
    unfold UploadBody.bind at checked
    simp only [check_eq_ok] at checked
    obtain ⟨-, unbound, -, rest⟩ := checked
    have limited : s.acceptedBytes ≤ min totalLimit u64Max ∧
        body = { s.toUploadBody with totalLimit := some (min totalLimit u64Max) } := by
      split at rest
      iterate 2
        simp only [check_eq_ok, pure_eq_ok, Bool.or_eq_true, decide_eq_true_eq, not_or] at rest
        exact ⟨Nat.le_of_not_lt rest.1.1, rest.2⟩
      iterate 2 simp [bind_eq_ok, throw_ne_ok] at rest
    exact ⟨by simpa using unbound, _, limited.1, by rw [limited.2]⟩

end UploadState

namespace Upload

variable {u u' : Upload} {chunk before : Bytes} {offset : Nat}

/-! ### One section -/

theorem Sound.start {framing : UploadFraming} {queueCapacity : Nat} {state : UploadState}
    (created : UploadState.pair framing queueCapacity = .ok state) : (start state).Sound := by
  unfold UploadState.pair at created
  split at created
  · cases created
  cases created
  exact {
    bytes := rfl
    window := Nat.zero_le _
    counted := rfl
    fits := ⟨Nat.zero_le _, nofun, fun _ _ => Nat.zero_le _⟩
    bound := nofun
    conveyed := fun _ => rfl
    popped := List.nil_prefix
    pushing := nofun
    finished := nofun
    honest := nofun }

/-- Binding happens once, and so not during a blocking push. -/
theorem Sound.bind (sound : u.Sound) {maxQueueCapacity totalLimit : Nat} {mode : RunMode} {state : UploadState}
    (bound : u.state.bind maxQueueCapacity totalLimit mode = .ok state) : ({ u with state := state }).Sound := by
  obtain ⟨unbound, limit, accepted, rfl⟩ := UploadState.bind_ok bound
  exact { sound with
    fits := ⟨sound.fits.u64, fun _ equal => Option.some.inj equal ▸ sound.counted ▸ accepted, sound.fits.declared⟩
    bound := fun _ => rfl
    pushing := fun chunk offset before pushing => by
      have limited := sound.bound (sound.pushing chunk offset before pushing).submitted
      rw [unbound] at limited
      cases limited }

/-- The state with a piece of `count` bytes queued. -/
def queued (s : UploadState) (queue : List Bytes) (count : Nat) : UploadState :=
  { s with acceptedBytes := s.acceptedBytes + count, queuedBytes := s.queuedBytes + count, queue := queue }

/-- A piece that fits is queued. -/
theorem Sound.append (sound : u.Sound) {queue : List Bytes} {sender : UploadSender} {piece : Bytes}
    {pushes : List PushCall} (alive : u.state.receiverAlive = true) (producing : u.state.producer = .isOpen)
    (appended : queue.flatten = u.state.queue.flatten ++ piece)
    (room : piece.length ≤ u.state.queueCapacity - u.state.queuedBytes)
    (fits : u.state.Fits (u.accepted.length + piece.length))
    (pushing : ∀ chunk offset before, sender = .pushing chunk offset before →
      Pushing ⟨queued u.state queue piece.length, sender, u.accepted ++ piece, u.popped, pushes⟩ chunk offset before)
    (honest : ∀ call ∈ pushes, call.Honest) :
    Sound ⟨queued u.state queue piece.length, sender, u.accepted ++ piece, u.popped, pushes⟩ where
  bytes := by
    dsimp only [queued]
    rw [appended, List.length_append, sound.bytes]
  window := by
    have window := sound.window
    dsimp only [queued]
    omega
  counted := by
    rw [List.length_append, ← sound.counted]
    rfl
  fits := by
    rw [List.length_append]
    exact fits
  bound := sound.bound
  conveyed := fun _ => by
    rw [← sound.conveyed alive, List.append_assoc, ← appended]
    rfl
  popped := sound.popped.trans (List.prefix_append _ _)
  pushing := pushing
  finished := fun finished => nomatch producing.symm.trans finished
  honest := honest

theorem Sound.tryPush (sound : u.Sound) (idle : u.sender = .idle) : (u.tryPush chunk).Sound := by
  rcases u.state.tryPush_cases chunk with ⟨kind, failed⟩ | ⟨alive, producing, fits, room, pushed⟩
  · rw [Upload.tryPush, failed]
    exact sound
  rw [Upload.tryPush, pushed]
  rw [sound.counted] at fits
  refine sound.append alive producing ?_ room fits ?_ sound.honest
  · cases chunk with
    | nil => simp
    | cons => simp
  · rw [idle]
    nofun

/-- Logging a call that reports what it did. -/
theorem honest_append {pushes : List PushCall} {call : PushCall} (honest : ∀ call ∈ pushes, call.Honest)
    (new : call.Honest) : ∀ other ∈ pushes ++ [call], other.Honest := by
  simp only [List.mem_append, List.mem_singleton]
  rintro other (mem | rfl)
  · exact honest other mem
  · exact new

theorem Sound.push (sound : u.Sound) (idle : u.sender = .idle) : (u.push chunk).Sound := by
  rcases u.state.pushChecks_cases chunk with ⟨kind, failed⟩ | ⟨rfl, empty⟩ | ⟨nonempty, submitted, fits, entered⟩
  · rw [Upload.push, failed]
    have honest : PushCall.Honest ⟨chunk, u.accepted, u.accepted, .error ⟨kind, chunk⟩⟩ :=
      ⟨[], rfl, (List.append_nil _).symm⟩
    exact { sound with pushing := fun _ _ _ busy => nomatch idle.symm.trans busy
                       honest := honest_append sound.honest honest }
  · rw [Upload.push, empty]
    have honest : PushCall.Honest ⟨[], u.accepted, u.accepted, .ok ()⟩ := (List.append_nil _).symm
    exact { sound with pushing := fun _ _ _ busy => nomatch idle.symm.trans busy
                       honest := honest_append sound.honest honest }
  · rw [Upload.push, entered]
    refine { sound with pushing := ?_, finished := ?_ }
    · rintro _ _ _ ⟨⟩
      refine ⟨List.length_pos_iff.mpr nonempty, by simp, ?_, submitted⟩
      rwa [← sound.counted]
    · intro finished
      exact nomatch idle.symm.trans (sound.finished finished).1

/-- A round of a blocking push: the check at its start still covers what is left of the chunk. -/
theorem Sound.pushRound (sound : u.Sound) (pushing : u.sender = .pushing chunk offset before) :
    (u.pushRound chunk offset before).Sound := by
  obtain ⟨within, accepted, fits, submitted⟩ := sound.pushing _ _ _ pushing
  rcases u.state.pushRound_cases chunk offset with waiting | closed | ⟨alive, producing, room, pushed⟩
  · rw [Upload.pushRound, waiting]
    exact sound
  · rw [Upload.pushRound, closed]
    refine { sound with pushing := nofun, finished := ?_, honest := honest_append sound.honest ?_ }
    · exact fun finished => nomatch pushing.symm.trans (sound.finished finished).1
    · exact ⟨chunk.take offset, (List.take_append_drop _ _).symm, accepted⟩
  rw [Upload.pushRound, pushed]
  dsimp only
  generalize counted : u.state.roundCount chunk offset = count
  rw [UploadState.roundCount] at counted
  rw [Nat.add_sub_cancel_left]
  generalize taken : (chunk.drop offset).take count = piece
  have length : piece.length = count := by
    rw [← taken, List.length_take, List.length_drop]
    omega
  have progress : chunk.take offset ++ piece = chunk.take (offset + count) := by
    rw [← taken, ← List.take_add]
  have total : u.accepted.length = before.length + offset := by
    rw [accepted, List.length_append, List.length_take, Nat.min_eq_left (Nat.le_of_lt within)]
  have wrapped : (u.state.acceptedBytes + count) % 2 ^ 64 = u.state.acceptedBytes + count := by
    have u64 := fits.u64
    rw [u64Max] at u64
    rw [sound.counted]
    exact Nat.mod_eq_of_lt (by omega)
  rw [wrapped, ← length]
  have fits_now : u.state.Fits (u.accepted.length + piece.length) := fits.mono (by omega)
  split
  · next more =>
    refine sound.append alive producing (by simp) (by omega) fits_now ?_ sound.honest
    rintro _ _ _ ⟨⟩
    refine ⟨more, ?_, fits, submitted⟩
    rw [accepted, List.append_assoc, progress, length]
  · next whole =>
    refine sound.append alive producing (by simp) (by omega) fits_now nofun (honest_append sound.honest ?_)
    show u.accepted ++ piece = before ++ chunk
    rw [accepted, List.append_assoc, progress, List.take_of_length_le (by omega)]

theorem Sound.finish (sound : u.Sound) :
    Sound { u with state := u.state.finish.1, sender := .gone } := by
  rcases u.state.finish_cases with ⟨same, -⟩ | mismatch | ⟨finished, length⟩
  · rw [same]
    exact { sound with pushing := nofun, finished := fun finished => ⟨rfl, (sound.finished finished).2⟩ }
  · rw [mismatch]
    exact { sound with pushing := nofun, finished := nofun }
  · rw [finished]
    exact { sound with
      pushing := nofun
      finished := fun _ => ⟨rfl, fun declared fixed => sound.counted ▸ length declared fixed⟩ }

theorem Sound.abandon (sound : u.Sound) :
    Sound { u with state := u.state.abandon, sender := .gone } := by
  unfold UploadState.abandon
  split
  · exact { sound with
      pushing := nofun, finished := nofun }
  · exact { sound with pushing := nofun, finished := fun finished => ⟨rfl, (sound.finished finished).2⟩ }

theorem Sound.tryPop (sound : u.Sound) : u.tryPop.Sound := by
  rcases u.state.tryPop_cases with ⟨alive, chunk, queue, queued, popped⟩ | ⟨poll, same, other, -⟩
  · rw [Upload.tryPop, popped]
    have conveyed := sound.conveyed alive
    have bytes := sound.bytes
    rw [queued, List.flatten_cons] at conveyed
    rw [queued, List.flatten_cons, List.length_append] at bytes
    have moved : (u.popped ++ [chunk]).flatten ++ queue.flatten = u.accepted := by
      rw [← conveyed, List.flatten_append, List.flatten_singleton, List.append_assoc]
    exact { sound with
      bytes := by
        dsimp only
        omega
      window := (Nat.sub_le _ _).trans sound.window
      conveyed := fun _ => moved
      popped := ⟨_, moved⟩
      pushing := fun chunk offset before pushing => { sound.pushing chunk offset before pushing with } }
  · have unchanged : u.tryPop = u := by
      rw [Upload.tryPop, same]
      split
      · next chunk equal => exact absurd (congrArg Prod.snd equal) (other chunk)
      · next equal =>
        cases equal
        rfl
    rw [unchanged]
    exact sound

theorem Sound.close (sound : u.Sound) : Sound { u with state := u.state.close } where
  bytes := rfl
  window := Nat.zero_le _
  counted := sound.counted
  fits := sound.fits
  bound := sound.bound
  conveyed := nofun
  popped := sound.popped
  pushing := fun chunk offset before pushing => { sound.pushing chunk offset before pushing with }
  finished := sound.finished
  honest := sound.honest

theorem Step.sound (step : Step u u') (sound : u.Sound) : u'.Sound := by
  cases step with
  | bind bound => exact sound.bind bound
  | tryPush chunk idle => exact sound.tryPush idle
  | push chunk idle => exact sound.push idle
  | pushRound pushing => exact sound.pushRound pushing
  | finish idle => exact sound.finish
  | abandon idle => exact sound.abandon
  | tryPop => exact sound.tryPop
  | close => exact sound.close

/-! ## The results -/

theorem Reachable.sound (reachable : u.Reachable) : u.Sound := by
  obtain ⟨framing, queueCapacity, state, created, run⟩ := reachable
  induction run with
  | refl => exact .start created
  | tail _ step ih => exact step.sound ih

/-- The queue conveys what it accepts. -/
theorem Reachable.conveys (reachable : u.Reachable) :
    u.state.queuedBytes = u.state.queue.flatten.length ∧ u.state.queuedBytes ≤ u.state.queueCapacity ∧
    (u.state.receiverAlive = true → u.popped.flatten ++ u.state.queue.flatten = u.accepted) ∧
    u.popped.flatten <+: u.accepted ∧
    (∀ n, u.state.framing = .fixed n →
      u.accepted.length ≤ n ∧ (u.state.tryPop.2 = .finished → u.popped.flatten.length = n)) ∧
    (∀ chunk state error, u.state.tryPush chunk = (state, .error error) → state = u.state ∧ error.chunk = chunk) ∧
    (∀ call ∈ u.pushes, ∀ error, call.result = .error error →
      ∃ taken, call.chunk = taken ++ error.chunk ∧ call.after = call.before ++ taken) := by
  have sound := reachable.sound
  refine ⟨sound.bytes, sound.window, sound.conveyed, sound.popped, ?_, ?_, ?_⟩
  · intro n fixed
    refine ⟨sound.fits.declared n fixed, fun reported => ?_⟩
    rcases u.state.tryPop_cases with ⟨_, chunk, queue, _, popped⟩ | ⟨poll, same, _, finished⟩
    · rw [popped] at reported
      cases reported
    rw [same] at reported
    obtain ⟨alive, empty, producer⟩ := finished reported
    have conveyed := sound.conveyed alive
    rw [empty, List.flatten_nil, List.append_nil] at conveyed
    rw [conveyed]
    exact (sound.finished producer).2 n fixed
  · intro chunk state error failed
    rcases u.state.tryPush_cases chunk with ⟨kind, same⟩ | ⟨_, _, _, _, pushed⟩
    · rw [same] at failed
      cases failed
      exact ⟨rfl, rfl⟩
    · rw [pushed] at failed
      cases failed
  · intro call mem error failed
    have honest := sound.honest call mem
    rw [PushCall.Honest, failed] at honest
    exact honest

/-- An upload of two declared bytes that are pushed, finished and popped. -/
def twoBytes : Upload :=
  let pushed := (start ⟨⟨.fixed 2, 4, 0, .isOpen, true, none⟩, [], 0, none⟩).tryPush [1, 2]
  Upload.tryPop { pushed with state := pushed.state.finish.1, sender := .gone }

theorem twoBytes_reachable : twoBytes.Reachable :=
  ⟨.fixed 2, 4, _, rfl, .tail (.tail (.tail .refl (.tryPush [1, 2] rfl)) (.finish rfl)) (.tryPop _)⟩

theorem twoBytes_conveyed : twoBytes.state.tryPop.2 = .finished ∧ twoBytes.popped.flatten.length = 2 :=
  ⟨by decide, ((twoBytes_reachable.conveys).2.2.2.2.1 2 rfl).2 (by decide)⟩

/-- Closing the body drops what is still queued: the byte it accepted is neither popped nor queued. -/
theorem closing_discards : ∃ u : Upload, u.Reachable ∧ u.popped.flatten ++ u.state.queue.flatten ≠ u.accepted := by
  let pushed := (start ⟨⟨.chunked, 4, 0, .isOpen, true, none⟩, [], 0, none⟩).tryPush [1]
  refine ⟨{ pushed with state := pushed.state.close }, ?_, by decide⟩
  exact ⟨.chunked, 4, _, rfl, .tail (.tail .refl (.tryPush [1] rfl)) (.close _)⟩

end Upload

end NbReq
