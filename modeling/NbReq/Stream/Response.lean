import NbReq.Stream
import NbReq.Lib.Wakeup
import Mathlib.Logic.Relation

/-!
# The response stream

The sink, the control and the reader of a streaming response (`stream.rs`) work on one locked state, and the reader
keeps the chunk it is reading, and the generation it saw last, outside the lock. `Step` interleaves their sections: a
`try_read` is a look at the head and then a section of its own, and a blocking call sleeps between its sections.

1. `Sound`: what holds between any two sections; `Step.sound` keeps it.
2. `Reachable.delivers`: the reader gets the pushed bytes in order, within the window, up to the first terminal state,
   and it does not sleep through a change.
3. `asleep_after_wrap`: the generation wraps, so that `2 ^ 64` changes go unnoticed.
-/

namespace NbReq

open Wakeup

inductive ReaderGoal where
  | head
  | body (space : Nat)
deriving DecidableEq, Repr

/-- Where the unique reader is: between calls, between the two sections of a read, in `wait_for_change`, about to look
again after it, or dropped. -/
inductive ReaderCall where
  | idle
  | reading (space : Nat) (blocking : Bool)
  | waiting (goal : ReaderGoal)
  | again (goal : ReaderGoal)
  | gone
deriving DecidableEq, Repr

/-- A streaming response between two sections, with the bytes pushed and read, the outcomes recorded by the metrics and
whether an EOF was returned. -/
structure Streaming where
  pair : ResponsePair
  signal : Signal
  call : ReaderCall
  pushed : Bytes
  read : Bytes
  recorded : List Done
  eof : Bool

namespace Streaming

/-- The wrap of the generation, a `u64`. -/
def wrap : Nat := 2 ^ 64

def start (pair : ResponsePair) : Streaming := ⟨pair, .start, .idle, [], [], [], false⟩

/-! ## The sink and the control -/

/-- `ResponseSink::publish_head`. -/
def publishHead (r : Streaming) (head : ResponseHead) (noBody : Bool) : Streaming :=
  match r.pair.publishHead head noBody with
  | (pair, true, completed) =>
    { r with
      pair := pair
      signal := r.signal.change wrap
      recorded := if completed then r.recorded ++ [.completed .body] else r.recorded }
  | (pair, false, _) => { r with pair := pair }

/-- `ResponseSink::try_push`. -/
def tryPush (width : PointerWidth) (r : Streaming) (chunk : Bytes) : Streaming :=
  match r.pair.tryPush width chunk with
  | .ok pair => { r with pair := pair, signal := r.signal.change wrap, pushed := r.pushed ++ chunk }
  | .error _ => r

/-- What a `commit_terminal` leaves behind. -/
def committed (r : Streaming) (terminal : Done) : ResponsePair × Bool → Streaming
  | (pair, true) =>
    { r with pair := pair, signal := r.signal.change wrap, recorded := r.recorded ++ [terminal] }
  | (pair, false) => { r with pair := pair }

/-! ## The reader -/

/-- The call after a section that found nothing. -/
def pending (goal : ReaderGoal) (blocking : Bool) : ReaderCall := if blocking then .waiting goal else .idle

/-- The section of `ResponseReader::try_head`. -/
def lookHead (r : Streaming) : Streaming × Except ResponsePair.StreamError Bool :=
  match r.pair.tryHead with
  | (pair, result) =>
    ({ r with pair := pair, signal := if r.pair.reader.head.isNone then r.signal.look else r.signal }, result)

/-- `ResponseReader::try_head`, or a round of `wait_head`. -/
def tryHead (r : Streaming) (blocking : Bool) : Streaming :=
  match r.lookHead with
  | (r, .ok false) => { r with call := pending .head blocking }
  | (r, _) => { r with call := .idle }

/-- The first section of `ResponseReader::try_read`, or of a round of `read`. -/
def tryRead (r : Streaming) (space : Nat) (blocking : Bool) : Streaming :=
  match r.lookHead with
  | (r, .ok true) => { r with call := .reading space blocking }
  | (r, .ok false) => { r with call := pending (.body space) blocking }
  | (r, .error _) => { r with call := .idle }

/-- The second section of `ResponseReader::try_read`. It does not take the lock for a known EOF or an empty
destination, and it counts a change when it copied. -/
def readBody (r : Streaming) (space : Nat) (blocking : Bool) : Streaming :=
  let locks := !r.pair.reader.eofReached && space ≠ 0
  let looked := if locks then r.signal.look else r.signal
  match r.pair.readBody space with
  | (pair, .ok .pending) => { r with pair := pair, signal := looked, call := pending (.body space) blocking }
  | (pair, .ok (.data bytes)) =>
    { r with
      pair := pair
      signal := if locks then looked.advance wrap else looked
      call := .idle
      read := r.read ++ bytes }
  | (pair, .ok .eof) => { r with pair := pair, signal := looked, call := .idle, eof := true }
  | (pair, .error _) => { r with pair := pair, signal := looked, call := .idle }

/-- The check of `wait_for_change`. -/
def waitForChange (r : Streaming) (goal : ReaderGoal) : Streaming :=
  let signal := r.signal.wait
  { r with signal := signal, call := if signal.waiter = .running then .again goal else .waiting goal }

/-- `ResponseReader::drop`; the cancellation that follows is a call of the control. -/
def readerDrop (r : Streaming) : Streaming :=
  { r with pair := r.pair.readerDrop, signal := r.signal.advance wrap, call := .gone }

inductive Step (width : PointerWidth) : Streaming → Streaming → Prop
  | publishHead (r : Streaming) (head : ResponseHead) (noBody : Bool) : Step width r (r.publishHead head noBody)
  | tryPush (r : Streaming) (chunk : Bytes) : Step width r (r.tryPush width chunk)
  | complete (r : Streaming) : Step width r (r.committed (.completed .body) (r.pair.sinkCommit (.completed .body)))
  | fail (r : Streaming) (error : Error) : Step width r (r.committed (.failed error) (r.pair.sinkCommit (.failed error)))
  | cancel (r : Streaming) : Step width r (r.committed .cancelled (r.pair.sinkCommit .cancelled))
  | sinkDrop (r : Streaming) : Step width r (r.committed (.failed ResponsePair.droppedSinkError) r.pair.sinkDrop)
  | controlFail (r : Streaming) (error : Error) :
      Step width r (r.committed (.failed error) (r.pair.controlCommit (.failed error)))
  | controlCancel (r : Streaming) : Step width r (r.committed .cancelled (r.pair.controlCommit .cancelled))
  | notify (r : Streaming) (due : 0 < r.signal.notices) : Step width r { r with signal := r.signal.notify }
  | wake (r : Streaming) (asleep : r.signal.waiter = .asleep) : Step width r { r with signal := r.signal.wake }
  | tryHead (r : Streaming) (blocking : Bool) (call : r.call = .idle ∨ (r.call = .again .head ∧ blocking = true)) :
      Step width r (r.tryHead blocking)
  | tryRead (r : Streaming) (space : Nat) (blocking : Bool)
      (call : r.call = .idle ∨ (r.call = .again (.body space) ∧ blocking = true)) :
      Step width r (r.tryRead space blocking)
  | readBody (r : Streaming) (space : Nat) (blocking : Bool) (call : r.call = .reading space blocking) :
      Step width r (r.readBody space blocking)
  | waitForChange (r : Streaming) (goal : ReaderGoal) (call : r.call = .waiting goal)
      (awake : r.signal.waiter ≠ .asleep) : Step width r (r.waitForChange goal)
  | readerDrop (r : Streaming) (call : r.call = .idle) : Step width r r.readerDrop

/-- The responses that any interleaving of calls reaches from a fresh pair. -/
def Reachable (width : PointerWidth) (r : Streaming) : Prop :=
  ∃ queueCapacity totalLimit pair, responsePair queueCapacity totalLimit = .ok pair ∧
    Relation.ReflTransGen (Step width) (start pair) r

end Streaming

/-! ## What the sections do -/

def ResponseReader.unread (reader : ResponseReader) : Bytes :=
  match reader.current with
  | some (chunk, offset) => chunk.drop offset
  | none => []

namespace ResponsePair

/-- No failure, cancellation or reader drop has discarded bytes. -/
def Intact (pair : ResponsePair) : Prop :=
  pair.state.readerAlive = true ∧
    (pair.state.terminal = none ∨ pair.state.terminal = some (.completed .body))

variable {pair : ResponsePair}

theorem not_intact {done : Done} (terminal : pair.state.terminal = some done)
    (failure : ∀ payload, done ≠ .completed payload) : ¬pair.Intact := by
  rintro ⟨-, none | complete⟩
  · exact nomatch terminal.symm.trans none
  · exact failure _ (Option.some.inj (terminal.symm.trans complete))

theorem publishHead_cases (pair : ResponsePair) (head : ResponseHead) (noBody : Bool) :
    pair.publishHead head noBody = (pair, false, false) ∨
    (pair.state.head = none ∧ pair.state.terminal = none ∧ pair.state.readerAlive = true ∧
      pair.publishHead head noBody =
        ({ pair with
            state := { pair.state with
              head := some head
              noBody := noBody
              terminal := if noBody then some (.completed .body) else none }
            sinkTerminal := pair.sinkTerminal || noBody }, true, noBody)) := by
  unfold publishHead
  split
  · exact .inl rfl
  next open_head =>
  simp only [Bool.or_eq_true, Option.isSome_iff_ne_none, Bool.not_eq_true', not_or, not_not, ne_eq,
    Bool.not_eq_false] at open_head
  obtain ⟨⟨head, terminal⟩, alive⟩ := open_head
  exact .inr ⟨head, terminal, alive, by rw [terminal]⟩

theorem tryPush_cases (width : PointerWidth) (pair : ResponsePair) (chunk : Bytes) :
    (∃ error, pair.tryPush width chunk = .error error) ∨
    (pair.state.readerAlive = true ∧ pair.state.terminal = none ∧ pair.state.head ≠ none ∧
      chunk.length ≤ pair.state.queueCapacity - pair.state.queuedBytes ∧
      pair.tryPush width chunk = .ok { pair with state := { pair.state with
        receivedBytes := pair.state.receivedBytes + chunk.length
        queuedBytes := pair.state.queuedBytes + chunk.length
        queue := if chunk.isEmpty then pair.state.queue else pair.state.queue ++ [chunk] } }) := by
  unfold tryPush
  split
  · exact .inl ⟨_, rfl⟩
  next open_body =>
  split
  · exact .inl ⟨_, rfl⟩
  next head =>
  split
  · exact .inl ⟨_, rfl⟩
  next total added =>
  split
  · exact .inl ⟨_, rfl⟩
  split
  · exact .inl ⟨_, rfl⟩
  next room =>
  obtain ⟨rfl, -⟩ := checkedAdd_eq_some.mp added
  simp only [Bool.or_eq_true, Option.isSome_iff_ne_none, Bool.not_eq_true', not_or, not_not, ne_eq,
    Bool.not_eq_false] at open_body
  exact .inr ⟨open_body.1, open_body.2, by simpa using head, Nat.le_of_not_lt room, rfl⟩

/-- A commit finds a terminal state, or it is the first. It keeps what is queued when the response is complete. -/
theorem sinkCommit_cases (pair : ResponsePair) (terminal : Done) :
    pair.sinkCommit terminal = (pair, false) ∨
    ∃ queue queuedBytes sinkTerminal, pair.state.terminal = none ∧
      (queue = pair.state.queue ∧ queuedBytes = pair.state.queuedBytes ∨
        queue = [] ∧ queuedBytes = 0 ∧ ∀ payload, terminal ≠ .completed payload) ∧
      pair.sinkCommit terminal = ({ pair with
        state := { pair.state with queue := queue, queuedBytes := queuedBytes, terminal := some terminal }
        sinkTerminal := sinkTerminal }, true) := by
  unfold sinkCommit
  split
  · exact .inl rfl
  next fresh =>
  have fresh : pair.state.terminal = none := by simpa using fresh
  refine .inr ⟨_, _, true, fresh, ?_, rfl⟩
  cases terminal with
  | completed payload => exact .inl ⟨rfl, rfl⟩
  | failed error | cancelled => exact .inr ⟨rfl, rfl, nofun⟩

/-- The committed outcomes are the same for the sink and the control, apart from the flag of the sink. -/
theorem controlCommit_cases (pair : ResponsePair) (terminal : Done) :
    pair.controlCommit terminal = (pair, false) ∨
    (pair.state.terminal = none ∧ pair.controlCommit terminal = ({ pair with
      state := { pair.state with queue := [], queuedBytes := 0, terminal := some terminal } }, true)) := by
  unfold controlCommit
  split
  · exact .inl rfl
  · next fresh => exact .inr ⟨by simpa using fresh, rfl⟩

/-- Looking for the head copies it, and with it the end of a response without a body. -/
theorem tryHead_cases (pair : ResponsePair) :
    (∃ result, pair.tryHead = (pair, result)) ∨
    ∃ head, pair.tryHead = ({ pair with reader := { pair.reader with
      head := some head
      eofReached := pair.reader.eofReached ||
        (pair.state.noBody && pair.state.terminal == some (.completed .body)) } }, .ok true) := by
  unfold tryHead
  split
  · exact .inl ⟨_, rfl⟩
  split
  · exact .inr ⟨_, rfl⟩
  · exact .inl ⟨_, rfl⟩
  · exact .inl ⟨_, rfl⟩

/-- A read of the body copies from the current chunk or from the first queued one, or it changes at most what the reader
knows of the end. -/
inductive BodyRead (pair : ResponsePair) (space : Nat) : ResponsePair × Except StreamError StreamRead → Prop
  | known (eof : pair.reader.eofReached = true) : BodyRead pair space (pair, .ok .eof)
  | nothing (before : pair.reader.eofReached = false) (empty : space = 0) : BodyRead pair space (pair, .ok (.data []))
  | failed {error : StreamError} (before : pair.reader.eofReached = false)
      (terminal : ∃ done, pair.state.terminal = some done ∧ ∀ payload, done ≠ .completed payload) :
      BodyRead pair space ({ pair with reader := { pair.reader with current := none } }, .error error)
  | copied {queue : List Bytes} {chunk : Bytes} {offset : Nat} (before : pair.reader.eofReached = false)
      (some_space : space ≠ 0)
      (terminal : ∀ done, pair.state.terminal = some done → ∃ payload, done = .completed payload)
      (source : pair.reader.unread ++ pair.state.queue.flatten = chunk.drop offset ++ queue.flatten) :
      BodyRead pair space (pair.readCurrent queue chunk offset space)
  | ended (before : pair.reader.eofReached = false) (current : pair.reader.current = none)
      (empty : pair.state.queue = []) (terminal : pair.state.terminal = some (.completed .body)) :
      BodyRead pair space ({ pair with reader := { pair.reader with eofReached := true } }, .ok .eof)
  | pending : BodyRead pair space (pair, .ok .pending)

theorem readBody_cases (pair : ResponsePair) (space : Nat) : BodyRead pair space (pair.readBody space) := by
  unfold readBody
  split
  · next eof => exact .known eof
  next before =>
  have before : pair.reader.eofReached = false := by simpa using before
  split
  · next empty => exact .nothing before empty
  next some_space =>
  split
  · next error terminal => exact .failed before ⟨_, terminal, nofun⟩
  · next terminal => exact .failed before ⟨_, terminal, nofun⟩
  next failure cancelled =>
  have terminal : ∀ done, pair.state.terminal = some done → ∃ payload, done = .completed payload := by
    intro done equal
    cases done with
    | completed payload => exact ⟨payload, rfl⟩
    | failed error => exact absurd equal (failure error)
    | cancelled => exact absurd equal cancelled
  split
  · next chunk offset current =>
    exact .copied before some_space terminal (by rw [ResponseReader.unread, current])
  · next chunk queue current queued =>
    exact .copied before some_space terminal (by rw [ResponseReader.unread, current, queued]; rfl)
  · next current queued =>
    split
    · next complete => exact .ended before current queued complete
    · exact .pending

theorem readCurrent_unread (queue : List Bytes) (chunk : Bytes) (offset space : Nat) :
    (pair.readCurrent queue chunk offset space).1.reader.unread =
      (chunk.drop offset).drop (min space (chunk.length - offset)) := by
  unfold readCurrent
  dsimp only
  rw [List.drop_drop, ResponseReader.unread]
  split
  · next current =>
    split at current
    · cases current
    · cases current
      rfl
  · next current =>
    split at current
    · next whole => rw [whole, List.drop_length]
    · cases current

end ResponsePair

/-! ## The invariant -/

namespace Streaming

variable {width : PointerWidth} {r r' : Streaming} {terminal : Done} {space : Nat} {blocking : Bool}

structure Sound (r : Streaming) : Prop where
  signal : r.signal.Ok wrap
  stream : r.pair.Intact → r.read ++ (r.pair.reader.unread ++ r.pair.state.queue.flatten) = r.pushed
  bytes : r.pair.Intact →
    r.pair.state.queuedBytes = r.pair.state.queue.flatten.length + r.pair.reader.unread.length
  window : r.pair.state.queuedBytes ≤ r.pair.state.queueCapacity
  read : r.read <+: r.pushed
  headless : r.pair.state.head = none → r.pushed = []
  bodiless : r.pair.state.noBody = true → r.pair.state.terminal ≠ none ∧ r.pushed = []
  eof : r.pair.reader.eofReached = true → r.pair.state.terminal = some (.completed .body) ∧ r.read = r.pushed
  returned : r.eof = true → r.pair.reader.eofReached = true
  recorded : r.recorded = r.pair.state.terminal.toList
  payload : ∀ payload, r.pair.state.terminal = some (.completed payload) → payload = .body
  alive : r.pair.state.readerAlive = false → r.call = .gone

theorem Sound.start {queueCapacity totalLimit : Nat} {pair : ResponsePair}
    (created : responsePair queueCapacity totalLimit = .ok pair) : (start pair).Sound := by
  unfold responsePair at created
  split at created
  · cases created
  cases created
  exact {
    signal := .start
    stream := fun _ => rfl
    bytes := fun _ => rfl
    window := Nat.zero_le _
    read := List.nil_prefix
    headless := fun _ => rfl
    bodiless := nofun
    eof := nofun
    returned := nofun
    recorded := rfl
    payload := nofun
    alive := nofun }

/-- The signal and the reader's program counter do not matter to the bytes. -/
theorem Sound.move (sound : r.Sound) {signal : Signal} {call : ReaderCall} (ok : signal.Ok wrap)
    (alive : r.pair.state.readerAlive = false → call = .gone) : Sound { r with signal := signal, call := call } :=
  { sound with signal := ok, alive := alive }

/-- A reader in a call is alive. -/
theorem Sound.reader_alive (sound : r.Sound) (call : r.call ≠ .gone) : r.pair.state.readerAlive = true := by
  by_contra dead
  exact call (sound.alive (by simpa using dead))

/-- The reader does not know of an end before there is one. -/
theorem Sound.unended (sound : r.Sound) (open_ : r.pair.state.terminal = none) : r.pair.reader.eofReached = false := by
  by_contra eof
  have terminal := (sound.eof (by simpa using eof)).1
  rw [open_] at terminal
  cases terminal

/-! ### The sink and the control -/

theorem Sound.publishHead (sound : r.Sound) (head : ResponseHead) (noBody : Bool) :
    (r.publishHead head noBody).Sound := by
  rcases r.pair.publishHead_cases head noBody with same | ⟨headless, open_, alive, published⟩
  · rw [Streaming.publishHead, same]
    exact sound
  rw [Streaming.publishHead, published]
  have intact : r.pair.Intact := ⟨alive, .inl open_⟩
  exact { sound with
    signal := sound.signal.change
    stream := fun _ => sound.stream intact
    bytes := fun _ => sound.bytes intact
    headless := nofun
    bodiless := by
      rintro rfl
      exact ⟨nofun, sound.headless headless⟩
    eof := fun eof => nomatch (sound.unended open_).symm.trans eof
    recorded := by
      have recorded := sound.recorded
      rw [open_] at recorded
      cases noBody <;> simp [recorded]
    payload := by
      cases noBody with
      | false => nofun
      | true => exact fun payload equal => (Completion.completed.inj (Option.some.inj equal)).symm }

theorem Sound.tryPush (sound : r.Sound) (chunk : Bytes) : (r.tryPush width chunk).Sound := by
  rcases r.pair.tryPush_cases width chunk with ⟨error, failed⟩ | ⟨alive, open_, head, room, pushed⟩
  · rw [Streaming.tryPush, failed]
    exact sound
  rw [Streaming.tryPush, pushed]
  have intact : r.pair.Intact := ⟨alive, .inl open_⟩
  have appended : (if chunk.isEmpty then r.pair.state.queue else r.pair.state.queue ++ [chunk]).flatten =
      r.pair.state.queue.flatten ++ chunk := by
    cases chunk <;> simp
  have window := sound.window
  exact { sound with
    signal := sound.signal.change
    stream := fun _ => by
      rw [← sound.stream intact, appended]
      simp only [List.append_assoc]
    bytes := fun _ => by
      dsimp only
      rw [appended, List.length_append, sound.bytes intact]
      omega
    window := by
      dsimp only
      omega
    read := sound.read.trans (List.prefix_append _ _)
    headless := fun headless => absurd headless head
    bodiless := fun noBody => absurd open_ (sound.bodiless noBody).1
    eof := fun eof => nomatch (sound.unended open_).symm.trans eof }

variable {queue : List Bytes}

/-- The first commit: it keeps what is queued, or it is a failure or a cancellation. -/
theorem Sound.commit (sound : r.Sound) {queuedBytes : Nat} {sinkTerminal : Bool}
    (open_ : r.pair.state.terminal = none)
    (kept : queue = r.pair.state.queue ∧ queuedBytes = r.pair.state.queuedBytes ∨
      queue = [] ∧ queuedBytes = 0 ∧ ∀ payload, terminal ≠ .completed payload)
    (payload : ∀ payload, terminal = .completed payload → payload = .body) :
    (r.committed terminal ({ r.pair with
        state := { r.pair.state with queue := queue, queuedBytes := queuedBytes, terminal := some terminal }
        sinkTerminal := sinkTerminal }, true)).Sound := by
  have recorded := sound.recorded
  rw [open_] at recorded
  refine { sound with
    signal := sound.signal.change
    stream := fun now => ?_
    bytes := fun now => ?_
    window := ?_
    bodiless := fun noBody => ⟨nofun, (sound.bodiless noBody).2⟩
    eof := fun eof => nomatch (sound.unended open_).symm.trans eof
    recorded := by rw [committed, recorded]; rfl
    payload := fun other equal => payload other (Option.some.inj equal) }
  all_goals rcases kept with ⟨rfl, rfl⟩ | ⟨rfl, rfl, failure⟩
  · exact sound.stream ⟨now.1, .inl open_⟩
  · exact absurd now (ResponsePair.not_intact rfl failure)
  · exact sound.bytes ⟨now.1, .inl open_⟩
  · exact absurd now (ResponsePair.not_intact rfl failure)
  · exact sound.window
  · exact Nat.zero_le _

theorem Sound.sinkCommit (sound : r.Sound) (payload : ∀ payload, terminal = .completed payload → payload = .body) :
    (r.committed terminal (r.pair.sinkCommit terminal)).Sound := by
  rcases r.pair.sinkCommit_cases terminal with same | ⟨queue, queuedBytes, sinkTerminal, open_, kept, committed⟩
  · rw [same]
    exact sound
  · rw [committed]
    exact sound.commit open_ kept payload

theorem Sound.controlCommit (sound : r.Sound) (failure : ∀ payload, terminal ≠ .completed payload) :
    (r.committed terminal (r.pair.controlCommit terminal)).Sound := by
  rcases r.pair.controlCommit_cases terminal with same | ⟨open_, committed⟩
  · rw [same]
    exact sound
  · rw [committed]
    exact sound.commit open_ (.inr ⟨rfl, rfl, failure⟩) fun payload equal => absurd equal (failure payload)

theorem Sound.sinkDrop (sound : r.Sound) :
    (r.committed (.failed ResponsePair.droppedSinkError) r.pair.sinkDrop).Sound := by
  unfold ResponsePair.sinkDrop
  split
  · exact sound
  · exact sound.sinkCommit nofun

/-! ### The reader -/

theorem Sound.lookHead (sound : r.Sound) : r.lookHead.1.Sound := by
  have signal : (if r.pair.reader.head.isNone then r.signal.look else r.signal).Ok wrap := by
    split
    · exact sound.signal.look
    · exact sound.signal
  rcases r.pair.tryHead_cases with ⟨result, same⟩ | ⟨head, found⟩
  · rw [Streaming.lookHead, same]
    exact { sound with signal := signal }
  rw [Streaming.lookHead, found]
  refine { sound with signal := signal, eof := ?_, returned := ?_ }
  · simp only [Bool.or_eq_true, Bool.and_eq_true, beq_iff_eq]
    rintro (eof | ⟨noBody, complete⟩)
    · exact sound.eof eof
    have pushed := (sound.bodiless noBody).2
    have read := sound.read
    rw [pushed] at read
    exact ⟨complete, by rw [pushed, List.prefix_nil.mp read]⟩
  · intro eof
    simp only [Bool.or_eq_true]
    exact .inl (sound.returned eof)

/-- A look changes nothing in the lock. -/
theorem lookHead_state {looked : Streaming} {result : Except ResponsePair.StreamError Bool}
    (equal : r.lookHead = (looked, result)) : looked.pair.state = r.pair.state ∧ looked.read = r.read := by
  rcases r.pair.tryHead_cases with ⟨result, same⟩ | ⟨head, same⟩
  all_goals
    rw [lookHead, same] at equal
    cases equal
    exact ⟨rfl, rfl⟩

/-- After a look the reader is in a call, or between calls. -/
theorem Sound.afterLook (sound : r.Sound) (call : r.call ≠ .gone) {looked : Streaming}
    {result : Except ResponsePair.StreamError Bool} (equal : r.lookHead = (looked, result)) (next : ReaderCall) :
    Sound { looked with call := next } := by
  have sound' := sound.lookHead
  rw [equal] at sound'
  refine sound'.move sound'.signal fun dead => ?_
  rw [(lookHead_state equal).1, sound.reader_alive call] at dead
  cases dead

theorem Sound.tryHead (sound : r.Sound) (call : r.call ≠ .gone) : (r.tryHead blocking).Sound := by
  unfold Streaming.tryHead
  split
  all_goals next looked => exact sound.afterLook call looked _

theorem Sound.tryRead (sound : r.Sound) (call : r.call ≠ .gone) : (r.tryRead space blocking).Sound := by
  unfold Streaming.tryRead
  split
  all_goals next looked => exact sound.afterLook call looked _

/-- A terminal state that the reader does not take for a failure leaves the bytes alone. -/
theorem Sound.intact (sound : r.Sound) (alive : r.pair.state.readerAlive = true)
    (terminal : ∀ done, r.pair.state.terminal = some done → ∃ payload, done = .completed payload) : r.pair.Intact := by
  refine ⟨alive, ?_⟩
  cases equal : r.pair.state.terminal with
  | none => exact .inl rfl
  | some done =>
    obtain ⟨payload, rfl⟩ := terminal done equal
    rw [sound.payload payload equal]
    exact .inr rfl

/-- What a copy takes was queued. -/
theorem Sound.copy_le (sound : r.Sound) (intact : r.pair.Intact) {chunk : Bytes} {offset : Nat}
    (source : r.pair.reader.unread ++ r.pair.state.queue.flatten = chunk.drop offset ++ queue.flatten) :
    r.pair.state.queuedBytes = queue.flatten.length + (chunk.drop offset).length := by
  have lengths := congrArg List.length source
  rw [List.length_append, List.length_append] at lengths
  rw [sound.bytes intact]
  omega

/-- A read that copies moves the copied bytes from the unread to the read ones. -/
theorem Sound.copied (sound : r.Sound) (intact : r.pair.Intact) (unended : r.pair.reader.eofReached = false)
    {chunk : Bytes} {offset : Nat} {signal : Signal} (ok : signal.Ok wrap)
    (source : r.pair.reader.unread ++ r.pair.state.queue.flatten = chunk.drop offset ++ queue.flatten) :
    Sound { r with
      pair := (r.pair.readCurrent queue chunk offset space).1
      signal := signal
      call := .idle
      read := r.read ++ (chunk.drop offset).take (min space (chunk.length - offset)) } := by
  have queued := sound.copy_le intact source
  have unread := r.pair.readCurrent_unread queue chunk offset space
  have pushed := sound.stream intact
  rw [source] at pushed
  generalize counted : min space (chunk.length - offset) = count at unread
  have moved : r.read ++ (chunk.drop offset).take count ++
      ((r.pair.readCurrent queue chunk offset space).1.reader.unread ++ queue.flatten) = r.pushed := by
    rw [unread, ← pushed, List.append_assoc, ← List.append_assoc ((chunk.drop offset).take count),
      List.take_append_drop]
  have le : count ≤ (chunk.drop offset).length := by
    rw [List.length_drop]
    omega
  refine { sound with
    signal := ok
    stream := fun _ => counted ▸ moved
    bytes := fun _ => ?_
    window := (Nat.sub_le _ _).trans sound.window
    read := ?_
    eof := ?_
    returned := fun eof => nomatch unended.symm.trans (sound.returned eof)
    alive := fun dead => nomatch intact.1.symm.trans dead }
  · rw [unread, List.length_drop, ResponsePair.readCurrent]
    dsimp only
    omega
  · exact ⟨_, moved⟩
  intro eof
  rw [ResponsePair.readCurrent] at eof
  simp only [unended, Bool.false_or, Bool.and_eq_true, decide_eq_true_eq, List.isEmpty_iff, beq_iff_eq] at eof
  obtain ⟨⟨whole, rfl⟩, complete⟩ := eof
  refine ⟨complete, ?_⟩
  have rest : (r.pair.readCurrent [] chunk offset space).1.reader.unread = [] := by
    rw [unread, List.drop_drop, ← counted, whole, List.drop_length]
  rw [rest, List.flatten_nil, List.append_nil, List.append_nil] at moved
  exact moved

theorem Sound.readBody (sound : r.Sound) (call : r.call ≠ .gone) : (r.readBody space blocking).Sound := by
  have alive := sound.reader_alive call
  have awake : ∀ {next : ReaderCall}, r.pair.state.readerAlive = false → next = .gone :=
    fun dead => nomatch alive.symm.trans dead
  unfold Streaming.readBody
  dsimp only
  generalize locked : (!r.pair.reader.eofReached && decide (space ≠ 0)) = locks
  have looked : (if locks then r.signal.look else r.signal).Ok wrap := by
    split
    · exact sound.signal.look
    · exact sound.signal
  have cases := r.pair.readBody_cases space
  generalize r.pair.readBody space = result at cases
  cases cases with
  | known eof => exact { sound.move looked awake with returned := fun _ => eof }
  | nothing unended empty =>
    have unlocked : locks = false := by rw [← locked, empty]; simp
    subst unlocked
    dsimp only
    rw [List.append_nil]
    exact sound.move looked awake
  | failed unended terminal =>
    obtain ⟨done, equal, failure⟩ := terminal
    have broken := ResponsePair.not_intact equal failure
    exact { sound.move looked awake with
      stream := fun intact => absurd intact broken
      bytes := fun intact => absurd intact broken }
  | copied unended some_space terminal source =>
    have advanced : (if locks then (if locks then r.signal.look else r.signal).advance wrap
        else if locks then r.signal.look else r.signal).Ok wrap := by
      split
      · exact sound.signal.look.advance
      · exact sound.signal
    exact sound.copied (sound.intact alive terminal) unended advanced source
  | ended unended current empty terminal =>
    have read : r.read = r.pushed := by
      have stream := sound.stream ⟨alive, .inr terminal⟩
      rw [ResponseReader.unread, current, empty] at stream
      simpa using stream
    exact { sound.move looked awake with eof := fun _ => ⟨terminal, read⟩, returned := fun _ => rfl }
  | pending => exact sound.move looked awake

theorem Sound.waitForChange (sound : r.Sound) (call : r.call ≠ .gone) (goal : ReaderGoal) :
    (r.waitForChange goal).Sound :=
  sound.move sound.signal.wait fun dead => nomatch (sound.reader_alive call).symm.trans dead

theorem Sound.readerDrop (sound : r.Sound) : r.readerDrop.Sound :=
  { sound with
    signal := sound.signal.advance
    stream := fun intact => nomatch intact.1
    bytes := fun intact => nomatch intact.1
    window := Nat.zero_le _
    alive := fun _ => rfl }

theorem Step.sound (step : Step width r r') (sound : r.Sound) : r'.Sound := by
  cases step with
  | publishHead head noBody => exact sound.publishHead head noBody
  | tryPush chunk => exact sound.tryPush chunk
  | complete => exact sound.sinkCommit fun _ equal => (Completion.completed.inj equal).symm
  | fail error | cancel => exact sound.sinkCommit nofun
  | sinkDrop => exact sound.sinkDrop
  | controlFail error | controlCancel => exact sound.controlCommit nofun
  | notify => exact sound.move sound.signal.notify sound.alive
  | wake => exact sound.move sound.signal.wake sound.alive
  | tryHead blocking call => exact sound.tryHead (by rcases call with call | ⟨call, -⟩ <;> simp [call])
  | tryRead space blocking call => exact sound.tryRead (by rcases call with call | ⟨call, -⟩ <;> simp [call])
  | readBody space blocking call => exact sound.readBody (by simp [call])
  | waitForChange goal call => exact sound.waitForChange (by simp [call]) goal
  | readerDrop => exact sound.readerDrop

/-! ## The results -/

theorem Reachable.sound (reachable : Reachable width r) : r.Sound := by
  obtain ⟨queueCapacity, totalLimit, pair, created, run⟩ := reachable
  induction run with
  | refl => exact .start created
  | tail _ step ih => exact step.sound ih

variable {done : Done}

/-- A commit after the first changes nothing. -/
theorem committed_again (terminal' : r.pair.state.terminal = some done) (new : Done) :
    r.committed new (r.pair.sinkCommit new) = r ∧ r.committed new (r.pair.controlCommit new) = r ∧
      r.committed new r.pair.sinkDrop = r := by
  have sink : r.pair.sinkCommit = fun _ => (r.pair, false) := by
    funext new
    simp [ResponsePair.sinkCommit, terminal']
  refine ⟨by rw [sink]; rfl, ?_, ?_⟩
  · rw [ResponsePair.controlCommit, terminal']
    rfl
  · rw [ResponsePair.sinkDrop, sink, ite_self]
    rfl

/-- A section after a terminal state keeps it, and delivers nothing if it is a failure or a cancellation. -/
theorem Step.keeps_terminal (step : Step width r r') (before : r.pair.state.terminal = some done) :
    r'.pair.state.terminal = some done ∧ ((∀ payload, done ≠ .completed payload) → r'.read = r.read) := by
  have again := committed_again before
  have looking : ∀ {looked result}, r.lookHead = (looked, result) → looked.pair.state.terminal = some done ∧
      ((∀ payload, done ≠ .completed payload) → looked.read = r.read) := by
    intro looked result equal
    rw [(lookHead_state equal).1]
    exact ⟨before, fun _ => (lookHead_state equal).2⟩
  cases step with
  | publishHead head noBody =>
    rcases r.pair.publishHead_cases head noBody with same | ⟨_, fresh, _, _⟩
    · rw [Streaming.publishHead, same]
      exact ⟨before, fun _ => rfl⟩
    · exact nomatch before.symm.trans fresh
  | tryPush chunk =>
    rcases r.pair.tryPush_cases width chunk with ⟨error, failed⟩ | ⟨_, fresh, _⟩
    · rw [Streaming.tryPush, failed]
      exact ⟨before, fun _ => rfl⟩
    · exact nomatch before.symm.trans fresh
  | complete | fail error | cancel => exact (again _).1.symm ▸ ⟨before, fun _ => rfl⟩
  | sinkDrop => exact (again _).2.2.symm ▸ ⟨before, fun _ => rfl⟩
  | controlFail error | controlCancel => exact (again _).2.1.symm ▸ ⟨before, fun _ => rfl⟩
  | notify | wake | waitForChange | readerDrop => exact ⟨before, fun _ => rfl⟩
  | tryHead blocking call =>
    unfold Streaming.tryHead
    split
    all_goals next looked => exact (looking looked :)
  | tryRead space blocking call =>
    unfold Streaming.tryRead
    split
    all_goals next looked => exact (looking looked :)
  | readBody space blocking call =>
    have cases := r.pair.readBody_cases space
    unfold Streaming.readBody
    generalize r.pair.readBody space = result at cases
    cases cases with
    | known | failed | ended | pending => exact ⟨before, fun _ => rfl⟩
    | nothing => exact ⟨before, fun _ => List.append_nil _⟩
    | copied _ _ terminal =>
      obtain ⟨payload, rfl⟩ := terminal done before
      exact ⟨before, fun failure => absurd rfl (failure payload)⟩

/-- The first terminal state stays, and after a failure or a cancellation no byte is delivered. -/
theorem keeps_terminal (run : Relation.ReflTransGen (Step width) r r')
    (before : r.pair.state.terminal = some done) :
    r'.pair.state.terminal = some done ∧ ((∀ payload, done ≠ .completed payload) → r'.read = r.read) := by
  induction run with
  | refl => exact ⟨before, fun _ => rfl⟩
  | tail _ step ih =>
    obtain ⟨terminal, read⟩ := step.keeps_terminal ih.1
    exact ⟨terminal, fun failure => (read failure).trans (ih.2 failure)⟩

/-- A copy takes no more than is counted as queued. -/
theorem Sound.data_le (sound : r.Sound) (call : r.call = .reading space blocking) {pair : ResponsePair} {bytes : Bytes}
    (data : r.pair.readBody space = (pair, .ok (.data bytes))) : bytes.length ≤ r.pair.state.queuedBytes := by
  have alive := sound.reader_alive (by rw [call]; nofun)
  have cases := r.pair.readBody_cases space
  rw [data] at cases
  generalize result : (pair, (Except.ok (ResponsePair.StreamRead.data bytes) : Except ResponsePair.StreamError _)) = out at cases
  cases cases with
  | known | failed | ended | pending => cases result
  | nothing =>
    cases result
    exact Nat.zero_le _
  | copied unended some_space terminal source =>
    cases result
    rw [sound.copy_le (sound.intact alive terminal) source, List.length_take]
    omega

/-- The reader gets what the sink pushes. -/
theorem Reachable.delivers (reachable : Reachable width r) :
    r.read <+: r.pushed ∧
    (r.eof = true ∨ r.pair.reader.eofReached = true →
      r.pair.state.terminal = some (.completed .body) ∧ r.read = r.pushed) ∧
    (r.pair.Intact →
      r.pair.state.queuedBytes = r.pair.state.queue.flatten.length + r.pair.reader.unread.length) ∧
    r.pair.state.queuedBytes ≤ r.pair.state.queueCapacity ∧
    (∀ space blocking pair bytes, r.call = .reading space blocking →
      r.pair.readBody space = (pair, .ok (.data bytes)) → bytes.length ≤ r.pair.state.queuedBytes) ∧
    r.recorded = r.pair.state.terminal.toList ∧
    (∀ later done, Relation.ReflTransGen (Step width) r later → r.pair.state.terminal = some done →
      later.pair.state.terminal = some done ∧ ((∀ payload, done ≠ .completed payload) → later.read = r.read)) ∧
    (r.signal.changes < r.signal.looked + 2 ^ 64 → r.signal.looked < r.signal.changes →
      (r.signal.waiter = .asleep → 0 < r.signal.notices) ∧
      ∀ goal, (r.waitForChange goal).call = .again goal) := by
  have sound := reachable.sound
  refine ⟨sound.read, fun eof => sound.eof (eof.elim sound.returned id), sound.bytes, sound.window, ?_,
    sound.recorded, ?_, ?_⟩
  · exact fun space blocking pair bytes call data => sound.data_le call data
  · exact fun later done run before => keeps_terminal run before
  · intro near missed
    refine ⟨fun asleep => sound.signal.rested asleep near missed, fun goal => ?_⟩
    rw [waitForChange, sound.signal.wait_running near missed, if_pos rfl]

/-! ### Sleeping through a wrap -/

/-- A response whose head is published and whose reader found no byte, after `count` empty pushes. -/
def afterEmptyPushes (count : Nat) : Streaming where
  pair := ⟨⟨some ⟨200, []⟩, false, [], 0, 0, none, true, 1, 1⟩, false, ⟨some ⟨200, []⟩, none, false, false⟩⟩
  signal := ⟨(count + 1) % wrap, 1, .running, 0, count + 1, 1⟩
  call := .waiting (.body 1)
  pushed := []
  read := []
  recorded := []
  eof := false

theorem step_notified {next : Streaming} (step : Step width r next) (due : 0 < next.signal.notices) :
    Relation.ReflTransGen (Step width) r { next with signal := next.signal.notify } :=
  .tail (.single step) (.notify next due)

theorem afterEmptyPushes_reachable (width : PointerWidth) (count : Nat) : Reachable width (afterEmptyPushes count) := by
  refine ⟨1, 1, _, rfl, ?_⟩
  induction count with
  | zero =>
    -- The head is published, and the reader looks at it, finds no byte and is about to wait.
    refine .tail (.tail (step_notified (.publishHead _ ⟨200, []⟩ false) Nat.one_pos) (.tryRead _ 1 true (.inl rfl))) ?_
    exact .readBody _ 1 true rfl
  | succ count ih =>
    refine ih.trans ?_
    have pushed : (afterEmptyPushes count).pair.tryPush width [] = .ok (afterEmptyPushes count).pair := by
      cases width <;> rfl
    have step : Step width (afterEmptyPushes count) _ := .tryPush (afterEmptyPushes count) []
    rw [tryPush, pushed] at step
    convert step_notified step Nat.one_pos using 1
    simp only [afterEmptyPushes, Signal.change, Signal.notify, Nat.mod_add_mod]
    rfl

theorem afterEmptyPushes_again : Reachable .bits64 (afterEmptyPushes 3) ∧
    ((afterEmptyPushes 3).waitForChange (.body 1)).call = .again (.body 1) :=
  have reachable := afterEmptyPushes_reachable .bits64 3
  ⟨reachable, (reachable.delivers.2.2.2.2.2.2.2 (by decide) (by decide)).2 (.body 1)⟩

/-- The generation wraps: with `2 ^ 64` pushes between the look of a reader and its wait, it falls asleep with a byte
queued and no notification on its way. -/
theorem asleep_after_wrap : ∃ r : Streaming, Reachable .bits64 r ∧
    r.signal.waiter = .asleep ∧ r.signal.notices = 0 ∧ r.signal.looked < r.signal.changes ∧
    r.pair.state.queue = [[1]] := by
  obtain ⟨queueCapacity, totalLimit, pair, created, run⟩ := afterEmptyPushes_reachable .bits64 (wrap - 1)
  have step : Step .bits64 (afterEmptyPushes (wrap - 1)) _ := .tryPush _ [1]
  have pushed : (afterEmptyPushes (wrap - 1)).pair.tryPush .bits64 [1] =
      .ok ⟨⟨some ⟨200, []⟩, false, [[1]], 1, 1, none, true, 1, 1⟩, false, ⟨some ⟨200, []⟩, none, false, false⟩⟩ :=
    rfl
  rw [tryPush, pushed] at step
  have notified := run.trans (step_notified step Nat.one_pos)
  refine ⟨_, ⟨queueCapacity, totalLimit, pair, created, notified.tail (.waitForChange _ (.body 1) rfl nofun)⟩, ?_⟩
  decide

end Streaming

end NbReq
