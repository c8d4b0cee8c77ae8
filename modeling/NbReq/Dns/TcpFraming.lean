import NbReq.Dns.Loop
import NbReq.Dns.RoundTrip

/-!
# Framing over TCP

What `drive_tcp` makes of the stream of a fallback over all its readiness events: the query is written once, in order
(`driveAll_wire`), and the message is returned by the read that brings its last byte, however the stream is cut into
reads (`driveAll_ends`). The limit on what is read is checked before the length of the message is looked at, so a read
that also brings bytes from behind the message fails if it goes over the limit: `trailing_bytes_lose_the_message`.
-/

namespace NbReq.Dns

/-- A readiness event of the stream, and what the stream answers while it is driven. -/
structure Drive where
  readable : Bool
  writable : Bool
  script : TcpScript

/-- What the stream takes in the write loop. -/
def takenBy : List WriteResult → TcpFallback → Bytes
  | [], _ => []
  | result :: rest, tcp =>
    if tcp.written < tcp.outbound.length then
      match result with
      | .wrote 0 => []
      | .wrote count =>
        (tcp.outbound.drop tcp.written).take count ++
          takenBy rest { tcp with written := min (tcp.written + count) tcp.outbound.length }
      | .wouldBlock => []
      | .failed _ => []
    else []

/-- How much the stream would take until it blocks. -/
def roomOf : List WriteResult → Nat
  | .wrote count :: rest => count + roomOf rest
  | _ => 0

/-- What the reads bring until the stream blocks. -/
def chunksOf : List ReadResult → List Bytes
  | .received bytes :: rest => bytes.take 1024 :: chunksOf rest
  | _ => []

namespace Drive

def wire (drive : Drive) (tcp : TcpFallback) : Bytes :=
  if drive.writable ∧ tcp.written < tcp.outbound.length ∧ drive.script.takeError = .ok none then
    takenBy drive.script.writes tcp
  else []

def room (drive : Drive) : Nat := if drive.writable then roomOf drive.script.writes else 0

def segments (drive : Drive) : List Bytes := if drive.readable then chunksOf drive.script.reads else []

/-- The stream does not fail and does not end: a write takes something or blocks, a read brings something or blocks. -/
structure Healthy (drive : Drive) : Prop where
  connected : drive.script.takeError = .ok none
  writes : ∀ result ∈ drive.script.writes, result ≠ .wrote 0 ∧ ∀ error, result ≠ .failed error
  registered : drive.script.reregister = .ok ()
  reads : ∀ result ∈ drive.script.reads, result ≠ .received [] ∧ ∀ error, result ≠ .failed error

end Drive

/-- `drive_tcp` at each readiness event until it returns a message or fails, and what the stream took. -/
def driveAll : List Drive → TcpFallback → Except ResolveFailure (TcpFallback × Option Bytes) × Bytes
  | [], tcp => (.ok (tcp, none), [])
  | drive :: rest, tcp =>
    match driveTcp drive.readable drive.writable drive.script tcp with
    | .ok (tcp', none) => ((driveAll rest tcp').1, drive.wire tcp ++ (driveAll rest tcp').2)
    | result => (result, drive.wire tcp)

def framed (message : Bytes) : Bytes := putU16 (UInt16.ofNat message.length) ++ message

/-- What has been read when `drive_tcp` returns: less than the message, or the message with the last read. -/
inductive Framed (message front : Bytes) (segments : List Bytes) (tcp : TcpFallback) : Option Bytes → Prop
  | waiting (read : tcp.inbound = front ++ segments.flatten) (short : tcp.inbound.length < message.length + 2) :
      Framed message front segments tcp none
  | complete (before : List Bytes) (last : Bytes) (after : List Bytes) (split : segments = before ++ last :: after)
      (read : tcp.inbound = front ++ before.flatten ++ last)
      (short : (front ++ before.flatten).length < message.length + 2)
      (enough : message.length + 2 ≤ tcp.inbound.length) :
      Framed message front segments tcp (some message)

/-- No read made before the message is complete brings more than the limit altogether. -/
def WithinLimit (message front : Bytes) (segments : List Bytes) : Prop :=
  ∀ before last after, segments = before ++ last :: after →
    (front ++ before.flatten).length < message.length + 2 →
    (front ++ before.flatten ++ last).length ≤ maxPacketLen + 2

abbrev overLimit : ResolveFailure :=
  .classified .truncated "DNS-over-TCP response exceeds the private packet limit"

/-! ## Writes -/

section

variable {tcp tcp' tcp'' : TcpFallback} {drive : Drive} {taken later : Bytes}

/-- The stream has taken the next bytes of the query. -/
structure Took (tcp : TcpFallback) (taken : Bytes) (tcp' : TcpFallback) : Prop where
  outbound : tcp'.outbound = tcp.outbound
  bound : tcp'.written ≤ tcp.outbound.length
  taken : tcp.outbound.take tcp.written ++ taken = tcp.outbound.take tcp'.written

theorem Took.refl (bound : tcp.written ≤ tcp.outbound.length) : Took tcp [] tcp := ⟨rfl, bound, List.append_nil _⟩

theorem Took.trans (first : Took tcp taken tcp') (second : Took tcp' later tcp'') :
    Took tcp (taken ++ later) tcp'' := by
  obtain ⟨outbound, bound, isTaken⟩ := second
  rw [first.outbound] at outbound bound isTaken
  exact ⟨outbound, bound, by rw [← List.append_assoc, first.taken, isTaken]⟩

theorem Took.front (took : Took tcp taken tcp') : tcp.outbound.take tcp.written ++ taken <+: tcp.outbound :=
  took.taken ▸ List.take_prefix _ _

theorem took_write (tcp : TcpFallback) (count : Nat) : Took tcp ((tcp.outbound.drop tcp.written).take count)
    { tcp with written := min (tcp.written + count) tcp.outbound.length } := by
  refine ⟨rfl, Nat.min_le_right _ _, ?_⟩
  rw [← List.take_add, List.take_eq_take_min]

theorem writeQuery_cases (writes : List WriteResult) (tcp : TcpFallback) (bound : tcp.written ≤ tcp.outbound.length) :
    tcp.outbound.take tcp.written ++ takenBy writes tcp <+: tcp.outbound ∧
      ∀ tcp', writeQuery writes tcp = .ok tcp' → Took tcp (takenBy writes tcp) tcp' ∧ tcp'.inbound = tcp.inbound ∧
        tcp'.expected = tcp.expected := by
  have refl := Took.refl bound
  induction writes generalizing tcp with
  | nil =>
    refine ⟨refl.front, ?_⟩
    rintro tcp' ⟨⟩
    exact ⟨refl, rfl, rfl⟩
  | cons result rest ih =>
    unfold takenBy writeQuery
    split
    · cases result with
      | wrote count =>
        cases count with
        | zero => exact ⟨refl.front, nofun⟩
        | succ count =>
          have took := took_write tcp (count + 1)
          obtain ⟨front, ok⟩ := ih _ took.bound (.refl took.bound)
          refine ⟨?_, fun tcp' written => ?_⟩
          · show _ ++ (_ ++ _) <+: _
            rw [← List.append_assoc, took.taken]
            exact front
          · obtain ⟨later, inbound, expected⟩ := ok tcp' written
            exact ⟨took.trans later, inbound, expected⟩
      | wouldBlock =>
        refine ⟨refl.front, ?_⟩
        rintro tcp' ⟨⟩
        exact ⟨refl, rfl, rfl⟩
      | failed error => exact ⟨refl.front, nofun⟩
    · refine ⟨refl.front, ?_⟩
      rintro tcp' ⟨⟩
      exact ⟨refl, rfl, rfl⟩

/-- The write half of `drive_tcp`. -/
def Drive.writesOf (drive : Drive) (tcp : TcpFallback) : Except ResolveFailure TcpFallback :=
  if drive.writable ∧ tcp.written < tcp.outbound.length then driveWrites drive.script tcp else .ok tcp

/-- What the write half of `drive_tcp` does. -/
theorem writesOf_cases (bound : tcp.written ≤ tcp.outbound.length) :
    tcp.outbound.take tcp.written ++ drive.wire tcp <+: tcp.outbound ∧
      ∀ tcp', drive.writesOf tcp = .ok tcp' →
        Took tcp (drive.wire tcp) tcp' ∧ tcp'.inbound = tcp.inbound ∧ tcp'.expected = tcp.expected := by
  have refl := Took.refl bound
  unfold Drive.wire Drive.writesOf driveWrites
  by_cases writes : drive.writable ∧ tcp.written < tcp.outbound.length
  · rw [if_pos writes]
    by_cases connected : drive.script.takeError = .ok none
    · rw [if_pos ⟨writes.1, writes.2, connected⟩, connected]
      obtain ⟨front, ok⟩ := writeQuery_cases drive.script.writes tcp bound
      refine ⟨front, ?_⟩
      dsimp only
      split
      · exact nofun
      next tcp' written =>
      split
      · split
        · exact nofun
        · rintro _ ⟨⟩
          exact ok tcp' written
      · rintro _ ⟨⟩
        exact ok tcp' written
    · rw [if_neg fun all => connected all.2.2]
      refine ⟨refl.front, ?_⟩
      split
      · exact nofun
      · exact nofun
      · next isConnected => exact absurd isConnected connected
  · rw [if_neg writes, if_neg fun all => writes ⟨all.1, all.2.1⟩]
    refine ⟨refl.front, ?_⟩
    rintro _ ⟨⟩
    exact ⟨refl, rfl, rfl⟩

theorem writeQuery_healthy (writes : List WriteResult)
    (healthy : ∀ result ∈ writes, result ≠ .wrote 0 ∧ ∀ error, result ≠ .failed error) (tcp : TcpFallback)
    (bound : tcp.written ≤ tcp.outbound.length) :
    writeQuery writes tcp = .ok { tcp with written := min (tcp.written + roomOf writes) tcp.outbound.length } := by
  have stays : min tcp.written tcp.outbound.length = tcp.written := Nat.min_eq_left bound
  induction writes generalizing tcp with
  | nil => simp only [writeQuery, roomOf, Nat.add_zero, stays]
  | cons result rest ih =>
    have rest := ih fun result mem => healthy result (List.mem_cons_of_mem _ mem)
    obtain ⟨positive, noError⟩ := healthy result List.mem_cons_self
    unfold writeQuery
    split
    · cases result with
      | wrote count =>
        cases count with
        | zero => exact absurd rfl positive
        | succ count =>
          refine (rest _ (Nat.min_le_right _ _) (by simp)).trans ?_
          simp only [roomOf]
          congr 2
          omega
      | wouldBlock => simp only [roomOf, Nat.add_zero, stays]
      | failed error => exact absurd rfl (noError error)
    · next all =>
      congr 1
      have full : tcp.written = tcp.outbound.length := bound.antisymm (Nat.le_of_not_lt all)
      rw [Nat.min_eq_right (by rw [full]; exact Nat.le_add_right _ _), ← full]

theorem writesOf_healthy (healthy : drive.Healthy) (bound : tcp.written ≤ tcp.outbound.length) :
    drive.writesOf tcp = .ok { tcp with written := min (tcp.written + drive.room) tcp.outbound.length } := by
  have stays : min tcp.written tcp.outbound.length = tcp.written := Nat.min_eq_left bound
  unfold Drive.writesOf Drive.room driveWrites
  by_cases writes : drive.writable ∧ tcp.written < tcp.outbound.length
  · rw [if_pos writes, if_pos writes.1, healthy.connected]
    dsimp only
    rw [writeQuery_healthy _ healthy.writes tcp bound, healthy.registered]
    dsimp only
    split <;> rfl
  · rw [if_neg writes]
    split
    · next writable =>
      have full : tcp.written = tcp.outbound.length :=
        bound.antisymm (Nat.le_of_not_lt fun short => writes ⟨writable, short⟩)
      rw [Nat.min_eq_right (by rw [full]; exact Nat.le_add_right _ _), ← full]
    · rw [Nat.add_zero, stays]

end

/-! ## Reads -/

section

variable {message trailing : Bytes} {tcp : TcpFallback} {chunk : Bytes}

/-- The message has not been read completely. -/
structure Awaits (message : Bytes) (tcp : TcpFallback) : Prop where
  short : tcp.inbound.length < message.length + 2
  expected : tcp.expected = if 2 ≤ tcp.inbound.length then some message.length else none

theorem length_framed : (framed message).length = message.length + 2 := by
  simp only [framed, putU16, List.length_append, List.length_cons, List.length_nil, Nat.zero_add]
  exact Nat.add_comm _ _

/-- The length is read off the first two octets. -/
theorem beNat_front {bytes : Bytes} (fits : message.length ≤ maxPacketLen)
    (front : bytes <+: framed message ++ trailing) (enough : 2 ≤ bytes.length) :
    beNat (bytes.take 2) = message.length := by
  have small : message.length < 2 ^ 16 := Nat.lt_of_le_of_lt fits (by decide)
  have same : bytes.take 2 = putU16 (UInt16.ofNat message.length) := by
    rw [List.prefix_iff_eq_take.mp front, List.take_take, Nat.min_eq_left enough]
    rfl
  rw [same, beNat_putU16, UInt16.toNat_ofNat', Nat.mod_eq_of_lt small]

/-- What a read within the limit leaves. -/
theorem acceptBytes_ok (awaits : Awaits message tcp) (positive : 0 < message.length)
    (fits : message.length ≤ maxPacketLen) (front : tcp.inbound ++ chunk <+: framed message ++ trailing)
    (within : (tcp.inbound ++ chunk).length ≤ maxPacketLen + 2) :
    acceptBytes chunk tcp = .ok
      { tcp with
        inbound := tcp.inbound ++ chunk
        expected := if 2 ≤ (tcp.inbound ++ chunk).length then some message.length else none } := by
  unfold acceptBytes expectLength
  rw [if_neg (by rw [← List.length_append]; exact Nat.not_lt.mpr within)]
  dsimp only
  rw [awaits.expected]
  by_cases known : 2 ≤ tcp.inbound.length
  · have more : 2 ≤ (tcp.inbound ++ chunk).length := by
      rw [List.length_append]
      exact Nat.le_add_right_of_le known
    rw [if_pos known, if_pos more, if_neg (by simp)]
  · rw [if_neg known]
    by_cases more : 2 ≤ (tcp.inbound ++ chunk).length
    · rw [if_pos ⟨rfl, more⟩, beNat_front fits front more, if_pos more, if_neg]
      rintro (zero | large)
      · exact absurd zero (Nat.pos_iff_ne_zero.mp positive)
      · exact absurd fits (Nat.not_le_of_lt large)
    · rw [if_neg fun both => more both.2, if_neg more]

theorem acceptBytes_over (exceeds : ¬(tcp.inbound ++ chunk).length ≤ maxPacketLen + 2) :
    acceptBytes chunk tcp = .error overLimit := by
  unfold acceptBytes
  rw [if_pos (by rw [← List.length_append]; exact Nat.lt_of_not_le exceeds)]

theorem message_eq {inbound : Bytes} (front : inbound <+: framed message ++ trailing)
    (isInbound : tcp.inbound = inbound)
    (expected : tcp.expected = if 2 ≤ inbound.length then some message.length else none) :
    tcp.message = if message.length + 2 ≤ inbound.length then some message else none := by
  unfold TcpFallback.message
  rw [expected, isInbound]
  by_cases enough : message.length + 2 ≤ inbound.length
  · have all : inbound.take (message.length + 2) = framed message := by
      rw [List.prefix_iff_eq_take.mp front, List.take_take, Nat.min_eq_left enough, ← length_framed, List.take_left]
    rw [if_pos (Nat.le_of_add_left_le enough), Option.bind_some, if_pos enough, if_pos enough, all]
    rfl
  · rw [if_neg enough]
    split
    · rw [Option.bind_some, if_neg enough]
    · rfl

section

variable {front : Bytes} {rest : List Bytes} {result : Option Bytes}

/-- What has been read before counts. -/
theorem Framed.after (first : List Bytes) (ends : Framed message (front ++ first.flatten) rest tcp result) :
    Framed message front (first ++ rest) tcp result := by
  cases ends with
  | waiting read short => exact .waiting (by rw [read, List.flatten_append, List.append_assoc]) short
  | complete before last after split read short enough =>
    refine .complete (first ++ before) last after (by rw [split, List.append_assoc]) ?_ ?_ enough
    · rw [read, List.flatten_append, ← List.append_assoc front]
    · rw [List.flatten_append, ← List.append_assoc]
      exact short

/-- What comes later does not count any more. -/
theorem Framed.before {first : List Bytes} {returned : Bytes} (ends : Framed message front first tcp (some returned))
    (rest : List Bytes) :
    Framed message front (first ++ rest) tcp (some returned) := by
  cases ends with
  | complete before last after split read short enough =>
    exact .complete before last (after ++ rest) (by rw [split, List.append_assoc, List.cons_append]) read short enough

theorem withinLimit_cons : WithinLimit message front (chunk :: rest) ↔
    (front.length < message.length + 2 → (front ++ chunk).length ≤ maxPacketLen + 2) ∧
      WithinLimit message (front ++ chunk) rest := by
  constructor
  · intro within
    refine ⟨fun short => ?_, fun before last after split short => ?_⟩
    · simpa using within [] chunk rest rfl (by simpa using short)
    · simpa using within (chunk :: before) last after (by rw [split]; rfl) (by simpa using short)
  · rintro ⟨now, later⟩ before last after split short
    cases before with
    | nil =>
      cases split
      simpa using now (by simpa using short)
    | cons _ before =>
      cases split
      simpa using later before last after rfl (by simpa using short)

theorem withinLimit_append {first : List Bytes} : WithinLimit message front (first ++ rest) ↔
    WithinLimit message front first ∧ WithinLimit message (front ++ first.flatten) rest := by
  induction first generalizing front with
  | nil => simp [WithinLimit]
  | cons chunk first ih =>
    rw [List.cons_append, withinLimit_cons, withinLimit_cons, ih, and_assoc, List.flatten_cons, List.append_assoc]

/-- Once the message is complete, there is no limit any more. -/
theorem withinLimit_of_complete (enough : message.length + 2 ≤ front.length) : WithinLimit message front rest := by
  intro before last after _ short
  rw [List.length_append] at short
  exact absurd (Nat.le_add_right_of_le enough) (Nat.not_le_of_lt short)

end

/-- How the read loop ends: within the limit as it should, and otherwise with a failure. -/
theorem readMessage_ends (positive : 0 < message.length) (fits : message.length ≤ maxPacketLen)
    (reads : List ReadResult)
    (healthy : ∀ result ∈ reads, result ≠ .received [] ∧ ∀ error, result ≠ .failed error) (tcp : TcpFallback)
    (awaits : Awaits message tcp)
    (front : tcp.inbound ++ (chunksOf reads).flatten <+: framed message ++ trailing) :
    (WithinLimit message tcp.inbound (chunksOf reads) → ∃ tcp' result, readMessage reads tcp = .ok (tcp', result) ∧
      Framed message tcp.inbound (chunksOf reads) tcp' result ∧ tcp'.outbound = tcp.outbound ∧
      tcp'.written = tcp.written ∧ (result = none → Awaits message tcp')) ∧
    (¬WithinLimit message tcp.inbound (chunksOf reads) → readMessage reads tcp = .error overLimit) := by
  have stays : Framed message tcp.inbound [] tcp none := .waiting (List.append_nil _).symm awaits.short
  have nothing : WithinLimit message tcp.inbound [] := fun _ _ _ no => (by simp at no)
  induction reads generalizing tcp with
  | nil => exact ⟨fun _ => ⟨tcp, none, rfl, stays, rfl, rfl, fun _ => awaits⟩, absurd nothing⟩
  | cons result rest ih =>
    obtain ⟨nonempty, noError⟩ := healthy result List.mem_cons_self
    cases result with
    | wouldBlock => exact ⟨fun _ => ⟨tcp, none, rfl, stays, rfl, rfl, fun _ => awaits⟩, absurd nothing⟩
    | failed error => exact absurd rfl (noError error)
    | received bytes =>
      have some_bytes : ¬bytes.isEmpty = true := fun empty => nonempty (by rw [List.isEmpty_iff.mp empty])
      obtain ⟨chunk, isChunk⟩ : ∃ chunk, chunk = bytes.take 1024 := ⟨_, rfl⟩
      simp only [chunksOf, readMessage, if_neg some_bytes, ← isChunk, List.flatten_cons, ← List.append_assoc,
        withinLimit_cons] at front ⊢
      have read : tcp.inbound ++ chunk <+: framed message ++ trailing := (List.prefix_append _ _).trans front
      by_cases limit : (tcp.inbound ++ chunk).length ≤ maxPacketLen + 2
      swap
      · rw [acceptBytes_over limit]
        exact ⟨fun within => absurd (within.1 awaits.short) limit, fun _ => rfl⟩
      rw [and_iff_right fun _ => limit, acceptBytes_ok awaits positive fits read limit]
      dsimp only
      obtain ⟨next, isNext⟩ : ∃ next : TcpFallback, next = { tcp with
        inbound := tcp.inbound ++ chunk
        expected := if 2 ≤ (tcp.inbound ++ chunk).length then some message.length else none } := ⟨_, rfl⟩
      have inbound : next.inbound = tcp.inbound ++ chunk := by rw [isNext]
      have expected : next.expected = if 2 ≤ (tcp.inbound ++ chunk).length then some message.length else none := by
        rw [isNext]
      have complete := message_eq read inbound expected
      rw [← isNext]
      by_cases enough : message.length + 2 ≤ (tcp.inbound ++ chunk).length
      · rw [if_pos enough] at complete
        rw [complete]
        refine ⟨fun _ => ⟨next, some message, rfl, ?_, by rw [isNext], by rw [isNext], nofun⟩,
          absurd (withinLimit_of_complete enough)⟩
        exact .complete [] chunk _ rfl (by simpa using inbound) (by simpa using awaits.short) (inbound ▸ enough)
      rw [if_neg enough] at complete
      rw [complete, ← inbound]
      have awaits' : Awaits message next :=
        ⟨inbound ▸ Nat.lt_of_not_le enough, by rw [expected, inbound]⟩
      obtain ⟨ok, fails⟩ := ih (fun result mem => healthy result (List.mem_cons_of_mem _ mem)) next awaits'
        (inbound ▸ front) (.waiting (List.append_nil _).symm awaits'.short) fun _ _ _ no => (by simp at no)
      refine ⟨fun within => ?_, fails⟩
      obtain ⟨tcp', result, ok, ends, outbound, written, still⟩ := ok within
      have first : tcp.inbound ++ [chunk].flatten = next.inbound := by simp [inbound]
      refine ⟨tcp', result, ok, Framed.after [chunk] (first ▸ ends), ?_, ?_, still⟩
      · rw [outbound, isNext]
      · rw [written, isNext]

theorem readMessage_same {reads : List ReadResult} {tcp' : TcpFallback} {result : Option Bytes}
    (ok : readMessage reads tcp = .ok (tcp', result)) : tcp'.outbound = tcp.outbound ∧ tcp'.written = tcp.written := by
  have accepted : ∀ {chunk : Bytes} {tcp next : TcpFallback}, acceptBytes chunk tcp = .ok next →
      next.outbound = tcp.outbound ∧ next.written = tcp.written := by
    intro chunk tcp next ok
    unfold acceptBytes expectLength at ok
    split at ok
    · cases ok
    split at ok
    · dsimp only at ok
      split at ok <;> cases ok
      exact ⟨rfl, rfl⟩
    · cases ok
      exact ⟨rfl, rfl⟩
  induction reads generalizing tcp with
  | nil =>
    cases ok
    exact ⟨rfl, rfl⟩
  | cons read rest ih =>
    cases read with
    | wouldBlock =>
      cases ok
      exact ⟨rfl, rfl⟩
    | failed error => cases ok
    | received bytes =>
      unfold readMessage at ok
      split at ok
      · cases ok
      split at ok
      · cases ok
      next next isNext =>
      split at ok
      · cases ok
        exact accepted isNext
      · exact ⟨(ih ok).1.trans (accepted isNext).1, (ih ok).2.trans (accepted isNext).2⟩

end

/-! ## Runs -/

section

variable {message trailing : Bytes} {tcp tcp' : TcpFallback} {drive : Drive} {result : Option Bytes}

theorem driveTcp_eq : driveTcp drive.readable drive.writable drive.script tcp =
    match drive.writesOf tcp with
    | .error failure => .error failure
    | .ok tcp => if drive.readable then readMessage drive.script.reads tcp else .ok (tcp, none) := rfl

theorem driveTcp_took (bound : tcp.written ≤ tcp.outbound.length)
    (ok : driveTcp drive.readable drive.writable drive.script tcp = .ok (tcp', result)) :
    Took tcp (drive.wire tcp) tcp' := by
  rw [driveTcp_eq] at ok
  split at ok
  · cases ok
  next middle isMiddle =>
  obtain ⟨took, -, -⟩ := (writesOf_cases bound).2 middle isMiddle
  split at ok
  · obtain ⟨outbound, written⟩ := readMessage_same ok
    exact ⟨outbound.trans took.outbound, written ▸ took.bound, written ▸ took.taken⟩
  · cases ok
    exact took

/-- The stream takes the query in order, each byte once, whatever else it does. -/
theorem driveAll_wire (drives : List Drive) (tcp : TcpFallback) (bound : tcp.written ≤ tcp.outbound.length) :
    tcp.outbound.take tcp.written ++ (driveAll drives tcp).2 <+: tcp.outbound ∧
      ∀ tcp' result, (driveAll drives tcp).1 = .ok (tcp', result) → Took tcp (driveAll drives tcp).2 tcp' := by
  induction drives generalizing tcp with
  | nil =>
    refine ⟨(Took.refl bound).front, ?_⟩
    rintro tcp' result ⟨⟩
    exact .refl bound
  | cons drive rest ih =>
    unfold driveAll
    split
    · next middle driven =>
      have took := driveTcp_took bound driven
      have bound' : middle.written ≤ middle.outbound.length := took.outbound ▸ took.bound
      obtain ⟨front, ok⟩ := ih middle bound'
      refine ⟨?_, fun tcp' result isResult => took.trans (ok tcp' result isResult)⟩
      rw [← List.append_assoc, took.taken]
      rwa [took.outbound] at front
    · exact ⟨(writesOf_cases bound).1, fun tcp' result ok => driveTcp_took bound ok⟩

theorem driveTcp_ends (positive : 0 < message.length) (fits : message.length ≤ maxPacketLen) (healthy : drive.Healthy)
    (bound : tcp.written ≤ tcp.outbound.length) (awaits : Awaits message tcp)
    (front : tcp.inbound ++ drive.segments.flatten <+: framed message ++ trailing) :
    (WithinLimit message tcp.inbound drive.segments →
      ∃ tcp' result, driveTcp drive.readable drive.writable drive.script tcp = .ok (tcp', result) ∧
        Framed message tcp.inbound drive.segments tcp' result ∧ tcp'.outbound = tcp.outbound ∧
        tcp'.written = min (tcp.written + drive.room) tcp.outbound.length ∧
        (result = none → Awaits message tcp')) ∧
    (¬WithinLimit message tcp.inbound drive.segments →
      driveTcp drive.readable drive.writable drive.script tcp = .error overLimit) := by
  rw [driveTcp_eq, writesOf_healthy healthy bound]
  unfold Drive.segments at front ⊢
  dsimp only
  split
  · next readable =>
    rw [if_pos readable] at front
    exact readMessage_ends positive fits _ healthy.reads
      { tcp with written := min (tcp.written + drive.room) tcp.outbound.length } ⟨awaits.short, awaits.expected⟩ front
  · refine ⟨fun _ => ⟨_, none, rfl, .waiting (List.append_nil _).symm awaits.short, rfl, rfl, fun _ =>
      ⟨awaits.short, awaits.expected⟩⟩, absurd fun _ _ _ no => (by simp at no)⟩

theorem driveAll_ends (positive : 0 < message.length) (fits : message.length ≤ maxPacketLen) (drives : List Drive)
    (healthy : ∀ drive ∈ drives, drive.Healthy) (tcp : TcpFallback) (bound : tcp.written ≤ tcp.outbound.length)
    (awaits : Awaits message tcp)
    (front : tcp.inbound ++ (drives.flatMap Drive.segments).flatten <+: framed message ++ trailing) :
    (WithinLimit message tcp.inbound (drives.flatMap Drive.segments) →
      ∃ tcp' result, (driveAll drives tcp).1 = .ok (tcp', result) ∧
        Framed message tcp.inbound (drives.flatMap Drive.segments) tcp' result ∧
        (result = none → tcp'.written = min (tcp.written + (drives.map Drive.room).sum) tcp.outbound.length)) ∧
    (¬WithinLimit message tcp.inbound (drives.flatMap Drive.segments) → (driveAll drives tcp).1 = .error overLimit) := by
  induction drives generalizing tcp with
  | nil =>
    refine ⟨fun _ => ⟨tcp, none, rfl, .waiting (List.append_nil _).symm awaits.short, fun _ => ?_⟩,
      absurd fun _ _ _ no => (by simp at no)⟩
    exact (Nat.min_eq_left bound).symm
  | cons drive rest ih =>
    rw [List.flatMap_cons] at front ⊢
    rw [List.flatten_append, ← List.append_assoc] at front
    rw [withinLimit_append]
    obtain ⟨ok, fails⟩ := driveTcp_ends positive fits (healthy drive List.mem_cons_self) bound awaits
      ((List.prefix_append _ _).trans front)
    unfold driveAll
    by_cases limit : WithinLimit message tcp.inbound drive.segments
    swap
    · rw [fails limit]
      exact ⟨fun within => absurd within.1 limit, fun _ => rfl⟩
    obtain ⟨middle, result, driven, ends, outbound, written, still⟩ := ok limit
    rw [and_iff_right limit, driven]
    cases result with
    | some returned =>
      refine ⟨fun _ => ⟨middle, some returned, rfl, ends.before _, nofun⟩, absurd (withinLimit_of_complete ?_)⟩
      obtain ⟨-⟩ | ⟨before, last, after, split, read, -, enough⟩ := ends
      rw [read] at enough
      refine Nat.le_trans enough (List.IsPrefix.length_le ?_)
      rw [split, List.flatten_append, List.flatten_cons, ← List.append_assoc, ← List.append_assoc]
      exact List.prefix_append _ _
    | none =>
      have inbound : tcp.inbound ++ drive.segments.flatten = middle.inbound := by
        cases ends with
        | waiting read => exact read.symm
      have bound' : middle.written ≤ middle.outbound.length := by
        rw [written, outbound]
        exact Nat.min_le_right _ _
      rw [inbound]
      obtain ⟨ok, fails⟩ := ih (fun drive mem => healthy drive (List.mem_cons_of_mem _ mem)) middle bound' (still rfl)
        (inbound ▸ front)
      refine ⟨fun within => ?_, fails⟩
      obtain ⟨tcp', result, ok, ends', all⟩ := ok within
      refine ⟨tcp', result, ok, .after _ (inbound ▸ ends'), fun isNone => ?_⟩
      rw [all isNone, written, outbound, List.map_cons, List.sum_cons]
      omega

end

/-- The fallback as `begin_tcp_fallback` starts it. -/
def TcpFallback.start (token : Nat) (query : Bytes) : TcpFallback := ⟨token, framed query, 0, [], none⟩

theorem beginTcpFallback_start {env : Env} {id : UInt16} {query started : PendingQuery} {io : StreamIo}
    {nameserver : SocketAddr} {timeout : Duration} {r : Resolver}
    (ok : (beginTcpFallback env id query io nameserver timeout r).2 = .ok started) :
    started.transport = .tcp (.start r.nextTcpToken query.wire) := by
  unfold beginTcpFallback at ok
  repeat' split at ok
  all_goals cases ok
  rfl

/-- The query is written once and in order. If the stream does not fail, the message is returned by the read that brings
its last byte, as long as no read up to then brings more than the limit altogether, and otherwise the fallback fails. -/
theorem driveAll_exact (token : Nat) (query : Bytes) (drives : List Drive) :
    ((driveAll drives (.start token query)).2 <+: framed query ∧
      ∀ tcp result, (driveAll drives (.start token query)).1 = .ok (tcp, result) →
        (driveAll drives (.start token query)).2 = (framed query).take tcp.written) ∧
    ∀ message trailing, 0 < message.length → message.length ≤ maxPacketLen → (∀ drive ∈ drives, drive.Healthy) →
      (drives.flatMap Drive.segments).flatten <+: framed message ++ trailing →
      (WithinLimit message [] (drives.flatMap Drive.segments) →
        ∃ tcp result, (driveAll drives (.start token query)).1 = .ok (tcp, result) ∧
          Framed message [] (drives.flatMap Drive.segments) tcp result ∧
          (result = none → tcp.written = min (drives.map Drive.room).sum (framed query).length)) ∧
      (¬WithinLimit message [] (drives.flatMap Drive.segments) →
        (driveAll drives (.start token query)).1 = .error overLimit) := by
  obtain ⟨front, took⟩ := driveAll_wire drives (.start token query) (Nat.zero_le _)
  refine ⟨⟨front, fun tcp result ok => (took tcp result ok).taken⟩, ?_⟩
  intro message trailing positive fits healthy stream
  have awaits : Awaits message (.start token query) := ⟨Nat.succ_pos _, rfl⟩
  obtain ⟨ok, fails⟩ :=
    driveAll_ends positive fits drives healthy (.start token query) (Nat.zero_le _) awaits stream
  refine ⟨fun within => ?_, fails⟩
  obtain ⟨tcp, result, ok, ends, written⟩ := ok within
  refine ⟨tcp, result, ok, ends, fun isNone => ?_⟩
  rw [written isNone]
  exact congrArg (min · _) (Nat.zero_add _)

theorem withinLimit_of_length {message front : Bytes} {segments : List Bytes}
    (le : (front ++ segments.flatten).length ≤ maxPacketLen + 2) : WithinLimit message front segments := by
  rintro before last after rfl -
  refine Nat.le_trans (List.IsPrefix.length_le ?_) le
  simp only [List.flatten_append, List.flatten_cons, ← List.append_assoc]
  exact List.prefix_append _ _

/-- The query goes out in three writes, and the message comes in in three reads, the last with a byte from behind it. -/
theorem driveAll_exact_sample :
    let reads (results : List ReadResult) : Drive := ⟨true, false, ⟨.ok none, [], .ok (), results⟩⟩
    let writes (results : List WriteResult) : Drive := ⟨false, true, ⟨.ok none, results, .ok (), []⟩⟩
    let drives := [writes [.wrote 1, .wouldBlock], writes [.wrote 2, .wrote 1],
      reads [.received [0], .received [3, 1, 2], .wouldBlock], reads [.received [3, 9]]]
    (∃ tcp result, (driveAll drives (.start 2 [5, 6])).1 = .ok (tcp, result) ∧
      Framed [1, 2, 3] [] [[0], [3, 1, 2], [3, 9]] tcp result) ∧
    (driveAll drives (.start 2 [5, 6])).1.toOption.map (·.2) = some (some [1, 2, 3]) ∧
    (driveAll drives (.start 2 [5, 6])).2 = framed [5, 6] := by
  intro reads writes drives
  have healthy : ∀ drive ∈ drives, drive.Healthy := by
    simp only [drives, reads, writes, List.forall_mem_cons]
    refine ⟨⟨rfl, ?_, rfl, ?_⟩, ⟨rfl, ?_, rfl, ?_⟩, ⟨rfl, ?_, rfl, ?_⟩, ⟨rfl, ?_, rfl, ?_⟩, nofun⟩ <;> simp
  obtain ⟨tcp, result, ok, ends, -⟩ := ((driveAll_exact 2 [5, 6] drives).2 [1, 2, 3] [9] (by decide) (by decide)
    healthy (by decide)).1 (withinLimit_of_length (by decide))
  exact ⟨⟨tcp, result, ok, ends⟩, by decide, by decide⟩

/-- A message of the greatest length, followed by one more byte, comes in as fast as it can be read: the last read
fails, although it brings the last byte of the message. -/
theorem trailing_bytes_lose_the_message :
    let full : ReadResult := .received (List.replicate 1024 0)
    let reads := [.received ([16, 0] ++ List.replicate 1022 0), full, full, full, .received [0, 0, 0]]
    let drive : Drive := ⟨true, false, ⟨.ok none, [], .ok (), reads⟩⟩
    drive.segments.flatten = framed (List.replicate maxPacketLen 0) ++ [0] ∧
      (driveAll [drive] (.start 2 [])).1 = .error overLimit := by
  intro full reads drive
  constructor
  · have whole : drive.segments.flatten = [16, 0] ++ (List.replicate 1022 0 ++ (List.replicate 1024 0 ++
        (List.replicate 1024 0 ++ (List.replicate 1024 0 ++ [0, 0, 0])))) := by
      simp [-List.reduceReplicate, drive, reads, full, Drive.segments, chunksOf, List.take_replicate]
    rw [whole, show [0, 0, 0] = List.replicate 3 (0 : UInt8) from rfl, List.replicate_append_replicate,
      List.replicate_append_replicate, List.replicate_append_replicate, List.replicate_append_replicate, framed,
      List.length_replicate, List.append_assoc,
      show [0] = List.replicate 1 (0 : UInt8) from rfl, List.replicate_append_replicate]
    rfl
  · simp [-List.reduceReplicate, drive, reads, full, driveAll, driveTcp, readMessage, acceptBytes, expectLength,
      TcpFallback.message, TcpFallback.start, maxPacketLen, beNat, List.take_replicate]

end NbReq.Dns
