import NbReq.Smtp.Request

/-!
# The DATA encoder

`smtp/src/data.rs`: the message goes out in chunks, with a dot before every line that starts with one and a line end at
its end if it has none. `encodeData` says the same of the whole message at once.

1. `nextChunk_remaining`: a chunk is the front of what is left to send, wherever the chunks before it ended.
-/

namespace NbReq.Smtp

/-- The message with a dot before each dot that starts a line; `atLineStart` tells where it starts. -/
def stuffDots : Bool → Bytes → Bytes
  | _, [] => []
  | atLineStart, byte :: rest =>
    if atLineStart ∧ byte = 0x2E then 0x2E :: byte :: stuffDots false rest
    else byte :: stuffDots (byte = 0x0A) rest

/-- What the DATA command sends of a message before the terminator. -/
def encodeData (message : Bytes) : Bytes := stuffDots true (message ++ messageSuffix message)

/-- `data::DataEncoder`. -/
structure DataEncoder where
  cursor : Nat
  suffixLength : Nat
  atLineStart : Bool
  extraDotPending : Bool
deriving DecidableEq, Repr

namespace DataEncoder

def new (message : Bytes) : DataEncoder := ⟨0, (messageSuffix message).length, true, false⟩

def finished (e : DataEncoder) (message : Bytes) : Bool :=
  e.cursor == message.length + e.suffixLength && !e.extraDotPending

/-- The byte at the cursor: one of the message, or of the line end after it. -/
def byteAt (message : Bytes) (cursor : Nat) : UInt8 :=
  match message[cursor]? with
  | some byte => byte
  | none => if cursor = message.length then 0x0D else 0x0A

/-- `DataEncoder::next_chunk`: every round of its loop adds one byte. -/
def nextChunk (message : Bytes) : DataEncoder → Nat → DataEncoder × Bytes
  | e, 0 => (e, [])
  | e, limit + 1 =>
    if e.finished message then (e, [])
    else
      let byte := byteAt message e.cursor
      if e.atLineStart && byte == 0x2E && !e.extraDotPending then
        let (e, chunk) := nextChunk message { e with extraDotPending := true, atLineStart := false } limit
        (e, 0x2E :: chunk)
      else
        let (e, chunk) := nextChunk message
          { e with cursor := e.cursor + 1, extraDotPending := false, atLineStart := byte == 0x0A } limit
        (e, byte :: chunk)

def remaining (message : Bytes) (e : DataEncoder) : Bytes :=
  stuffDots e.atLineStart ((message ++ messageSuffix message).drop e.cursor)

/-- The encoder is inside the message, and a dot it has doubled is at the cursor. -/
structure Ok (message : Bytes) (e : DataEncoder) : Prop where
  suffix : e.suffixLength = (messageSuffix message).length
  within : e.cursor ≤ (message ++ messageSuffix message).length
  doubled : e.extraDotPending = true →
    e.atLineStart = false ∧ ∃ rest, (message ++ messageSuffix message).drop e.cursor = 0x2E :: rest

variable {message : Bytes} {e : DataEncoder}

theorem Ok.new (message : Bytes) : (new message).Ok message := ⟨rfl, Nat.zero_le _, nofun⟩

theorem remaining_new (message : Bytes) : (new message).remaining message = encodeData message := rfl

/-- The line end is the two bytes after the message. -/
theorem byteAt_eq {cursor : Nat} {byte : UInt8} {rest : Bytes}
    (found : (message ++ messageSuffix message).drop cursor = byte :: rest) : byteAt message cursor = byte := by
  have at_cursor : (message ++ messageSuffix message)[cursor]? = some byte := by
    rw [← Nat.add_zero cursor, ← List.getElem?_drop, found]
    rfl
  unfold byteAt
  rw [List.getElem?_append] at at_cursor
  split at at_cursor
  · rw [at_cursor]
  next beyond =>
  rw [List.getElem?_eq_none (Nat.le_of_not_lt beyond)]
  dsimp only
  unfold messageSuffix at at_cursor
  split at at_cursor
  · cases at_cursor
  split
  · next last =>
    rw [last, Nat.sub_self] at at_cursor
    exact Option.some.inj at_cursor
  next later =>
  have second : cursor - message.length = 1 := by
    have bound := (List.getElem?_eq_some_iff.mp at_cursor).1
    simp only [List.length_cons, List.length_nil] at bound
    omega
  rw [second] at at_cursor
  exact Option.some.inj at_cursor

theorem stuffDots_eq_nil {atLineStart : Bool} {text : Bytes} : stuffDots atLineStart text = [] ↔ text = [] := by
  cases text with
  | nil => simp [stuffDots]
  | cons byte rest =>
    rw [stuffDots]
    split <;> simp

theorem Ok.finished_iff (ok : e.Ok message) : e.finished message = true ↔ e.remaining message = [] := by
  rw [finished, remaining, stuffDots_eq_nil, List.drop_eq_nil_iff, List.length_append, ok.suffix, Bool.and_eq_true,
    beq_iff_eq]
  have within := ok.within
  rw [List.length_append] at within
  constructor
  · rintro ⟨ended, -⟩
    omega
  intro ended
  refine ⟨by omega, ?_⟩
  by_contra pending
  obtain ⟨-, rest, found⟩ := ok.doubled (by simpa using pending)
  rw [List.drop_eq_nil_of_le (by rw [List.length_append]; omega)] at found
  cases found

/-- An unfinished encoder has a byte at the cursor. -/
theorem Ok.cursor_byte (ok : e.Ok message) (unfinished : ¬e.finished message = true) :
    ∃ rest, (message ++ messageSuffix message).drop e.cursor = byteAt message e.cursor :: rest := by
  rw [ok.finished_iff, remaining, stuffDots_eq_nil] at unfinished
  obtain ⟨byte, rest, found⟩ := List.exists_cons_of_ne_nil unfinished
  exact ⟨rest, by rw [byteAt_eq found, found]⟩

/-- A chunk is the front of what is left, and the encoder goes on after it. -/
theorem nextChunk_remaining (ok : e.Ok message) (limit : Nat) :
    (nextChunk message e limit).2 ++ (nextChunk message e limit).1.remaining message = e.remaining message ∧
      (nextChunk message e limit).1.Ok message := by
  induction limit generalizing e with
  | zero => exact ⟨rfl, ok⟩
  | succ limit ih =>
    rw [nextChunk]
    split
    · exact ⟨rfl, ok⟩
    next unfinished =>
    obtain ⟨rest, found⟩ := ok.cursor_byte unfinished
    generalize byteAt message e.cursor = byte at found
    dsimp only
    split
    · next doubling =>
      -- The extra dot goes first; the dot of the message is still at the cursor.
      simp only [Bool.and_eq_true, beq_iff_eq, Bool.not_eq_true'] at doubling
      obtain ⟨⟨start, rfl⟩, -⟩ := doubling
      have next : ({ e with extraDotPending := true, atLineStart := false } : DataEncoder).Ok message :=
        ⟨ok.suffix, ok.within, fun _ => ⟨rfl, rest, found⟩⟩
      obtain ⟨chunk, ok'⟩ := ih next
      refine ⟨?_, ok'⟩
      rw [List.cons_append, chunk, remaining, remaining, found, start]
      simp [stuffDots]
    next plain =>
    have within : e.cursor + 1 ≤ (message ++ messageSuffix message).length := by
      have length := congrArg List.length found
      rw [List.length_drop, List.length_cons] at length
      omega
    have next : ({ e with cursor := e.cursor + 1, extraDotPending := false, atLineStart := byte == 0x0A } :
        DataEncoder).Ok message := ⟨ok.suffix, within, nofun⟩
    obtain ⟨chunk, ok'⟩ := ih next
    refine ⟨?_, ok'⟩
    have single : ¬(e.atLineStart = true ∧ byte = 0x2E) := by
      rintro ⟨start, rfl⟩
      rw [start] at plain
      have pending : e.extraDotPending = true := by simpa using plain
      rw [(ok.doubled pending).1] at start
      cases start
    have after : (message ++ messageSuffix message).drop (e.cursor + 1) = rest := by
      rw [← List.drop_drop, found, List.drop_one, List.tail_cons]
    rw [List.cons_append, chunk, remaining, remaining, found, stuffDots, if_neg single]
    dsimp only
    rw [after, beq_eq_decide]

theorem length_nextChunk (message : Bytes) (e : DataEncoder) (limit : Nat) :
    (nextChunk message e limit).2.length ≤ limit := by
  induction limit generalizing e with
  | zero => exact Nat.le_refl 0
  | succ limit ih =>
    rw [nextChunk]
    split
    · exact Nat.zero_le _
    dsimp only
    split
    · exact Nat.succ_le_succ (ih _)
    · exact Nat.succ_le_succ (ih _)

/-- An unfinished encoder has a chunk to send. -/
theorem nextChunk_ne_nil {limit : Nat} (unfinished : ¬e.finished message = true) (some_limit : limit ≠ 0) :
    (nextChunk message e limit).2 ≠ [] := by
  obtain ⟨limit, rfl⟩ := Nat.exists_eq_succ_of_ne_zero some_limit
  rw [nextChunk, if_neg unfinished]
  dsimp only
  split <;> nofun

end DataEncoder

end NbReq.Smtp
