import NbReq.Native.Connection

/-!
# Queued output reaches the socket in order

The queue of a connection between `queue_write`, `queue_body` and `flush_write`. Whatever the socket takes at a time and
wherever the ring buffer wraps, it gets the accepted bytes in the order in which they were queued, each once
(`written_in_order`).
-/

namespace NbReq.Native

/-- A call on a connection, with what the operating system answers. -/
inductive OutputCall where
  | queueWrite (bytes : Bytes) (poll : Option NativeFailure)
  | queueBody (owner start stop : Nat) (poll : Option NativeFailure)
  | flushWrite (attempts : List Attempt)
  | finishConnect

/-- A connection, until it is removed, with the bytes that went into its queue and those that the socket took. -/
structure Output where
  connection : Option Connection
  accepted : Bytes
  socket : Bytes

section

variable (buffers : Nat → Bytes) (id : SlotId)

def OutputCall.bytes : OutputCall → Bytes
  | .queueWrite bytes _ => bytes
  | .queueBody owner start stop _ => ((buffers owner).take stop).drop start
  | .flushWrite _ | .finishConnect => []

/-- A call that queues: refused, or its bytes are in the queue even if `reregister` fails after that. -/
def Output.queue (o : Output) (bytes : Bytes) (poll : Option NativeFailure) :
    Except NativeFailure Connection → Output
  | .error _ => o
  | .ok queued => { o with connection := (queued.reregister poll).1, accepted := o.accepted ++ bytes }

def Output.exec (o : Output) (call : OutputCall) : Output :=
  match o.connection with
  | none => o
  | some c =>
    match call with
    | .queueWrite bytes poll => o.queue (call.bytes buffers) poll (c.queueWrite bytes)
    | .queueBody owner start stop poll => o.queue (call.bytes buffers) poll (c.queueBody buffers owner start stop)
    | .flushWrite attempts =>
      let flushed := c.flushWrite buffers id attempts
      { o with connection := flushed.connection, socket := o.socket ++ flushed.sent }
    | .finishConnect => { o with connection := some { c with connected := true } }

end

/-! ## One connection -/

namespace Connection

variable {buffers : Nat → Bytes} {id : SlotId} {c : Connection}

/-- What is queued, in the order in which it is written. -/
def queued (buffers : Nat → Bytes) (c : Connection) : Bytes := c.outbound ++ c.window buffers

def Inside (buffers : Nat → Bytes) (c : Connection) : Prop :=
  ∀ window ∈ c.body, window.start < window.stop ∧ window.stop ≤ (buffers window.owner).length

theorem Inside.length_queued (inside : c.Inside buffers) : (c.queued buffers).length = c.outboundLen := by
  unfold queued window outboundLen
  cases isBody : c.body with
  | none => simp
  | some window =>
    have stop := (inside window isBody).2
    simp only [Option.map_some, Option.getD_some, List.length_append, List.length_drop, List.length_take]
    omega

/-- Whatever is offered to the socket is what is queued first. -/
theorem offered_front (wrap : Nat) : c.offered buffers wrap <+: c.queued buffers := by
  unfold offered queued
  dsimp only
  split
  · rewrite [List.take_append_drop]
    exact List.prefix_rfl
  split
  · next isEmpty =>
    have none : c.outbound = [] := by
      rw [List.isEmpty_iff, List.take_eq_nil_iff] at isEmpty
      exact isEmpty.resolve_left (Nat.ne_of_gt (Nat.le_max_left 1 wrap))
    rewrite [none, List.nil_append]
    exact List.prefix_rfl
  · exact (List.take_prefix _ _).trans (List.prefix_append _ _)

/-- A write takes its bytes off the queue, whichever slices they are in. -/
theorem queued_wrote (written : Nat) : (c.wrote written).queued buffers = (c.queued buffers).drop written := by
  unfold queued
  rw [List.drop_append]
  by_cases header : written ≤ c.outbound.length
  · simp [wrote, window, Nat.min_eq_left header, Nat.sub_eq_zero_of_le header]
  have beyond : c.outbound.length < written := Nat.lt_of_not_le header
  have none : c.outbound.drop written = [] := List.drop_eq_nil_of_le (Nat.le_of_lt beyond)
  simp only [wrote, Nat.min_eq_right (Nat.le_of_lt beyond), if_pos beyond, List.drop_length, none, List.nil_append,
    window]
  cases isBody : c.body with
  | none => simp
  | some window =>
    simp only [Option.bind_some, Option.map_some, Option.getD_some, List.drop_drop]
    split
    · next ends =>
      rw [ends, Option.map_none, Option.getD_none, List.drop_eq_nil_of_le]
      exact List.length_take_le _ _
    · rfl

theorem Inside.wrote {written : Nat} (inside : c.Inside buffers) (fits : written ≤ (c.queued buffers).length) :
    (c.wrote written).Inside buffers := by
  intro window isWindow
  simp only [Connection.wrote, Option.mem_def] at isWindow
  split at isWindow
  · next beyond =>
    obtain ⟨old, isOld, moved⟩ := Option.bind_eq_some_iff.mp isWindow
    obtain ⟨nonempty, stop⟩ := inside old isOld
    split at moved
    · cases moved
    next left =>
    cases moved
    rw [inside.length_queued, outboundLen, isOld, Option.map_some, Option.getD_some] at fits
    exact ⟨by dsimp only at left ⊢; omega, stop⟩
  · exact inside window isWindow

/-- What flushing does: it takes bytes off the queue, and reports how many unless the connection fails. -/
structure Flushes (buffers : Nat → Bytes) (id : SlotId) (c : Connection) (before : Nat) (flushed : Flushed) : Prop where
  front : flushed.sent <+: c.queued buffers
  kept : ∀ c' ∈ flushed.connection, c.queued buffers = flushed.sent ++ c'.queued buffers ∧ c'.Inside buffers ∧
    c'.outboundLimit = c.outboundLimit ∧ flushed.events =
      if c'.outboundEmpty then [.writeDrained id]
      else if before + flushed.sent.length ≠ 0 then [.writeProgress id (before + flushed.sent.length)] else []

theorem Inside.ended (inside : c.Inside buffers) (before : Nat) :
    Flushes buffers id c before (flushLoop.ended id c before) := by
  refine ⟨List.nil_prefix, ?_⟩
  rintro c' ⟨⟩
  exact ⟨rfl, inside, rfl, rfl⟩

theorem Inside.flushLoop {attempts : List Attempt} (inside : c.Inside buffers) (before : Nat) :
    Flushes buffers id c before (c.flushLoop buffers id attempts before) := by
  induction attempts generalizing c before with
  | nil =>
    unfold Connection.flushLoop
    split <;> exact inside.ended before
  | cons attempt rest ih =>
    unfold Connection.flushLoop
    split
    · exact inside.ended before
    cases attempt with
    | failed failure => exact ⟨List.nil_prefix, fun _ isLeft => by cases isLeft⟩
    | wrote wrap count =>
      dsimp only
      split
      · exact ⟨List.nil_prefix, fun _ isLeft => by cases isLeft⟩
      generalize taken : (c.offered buffers wrap).take count = bytes
      have front : bytes <+: c.queued buffers := taken ▸ (List.take_prefix _ _).trans (offered_front wrap)
      have rest := ih (inside.wrote front.length_le) (before + bytes.length)
      have split : c.queued buffers = bytes ++ (c.wrote bytes.length).queued buffers := by
        rw [queued_wrote]
        exact (List.prefix_iff_eq_append.mp front).symm
      refine ⟨?_, fun c' isLeft => ?_⟩
      · rw [split]
        exact (List.prefix_append_right_inj _).mpr rest.front
      obtain ⟨queue, inside', limit, events⟩ := rest.kept c' isLeft
      refine ⟨by rw [split, queue, List.append_assoc], inside', limit, ?_⟩
      rw [List.length_append, ← Nat.add_assoc]
      exact events

theorem Inside.flushWrite (inside : c.Inside buffers) (id : SlotId) (attempts : List Attempt) :
    Flushes buffers id c 0 (c.flushWrite buffers id attempts) ∨
      c.flushWrite buffers id attempts = ⟨some c, [], []⟩ := by
  unfold Connection.flushWrite
  split
  · exact .inr rfl
  · exact .inl (inside.flushLoop 0)

theorem queueWrite_ok {bytes : Bytes} {c' : Connection} (inside : c.Inside buffers) (ok : c.queueWrite bytes = .ok c') :
    c'.Inside buffers ∧ c'.queued buffers = c.queued buffers ++ bytes ∧ c'.outboundLimit = c.outboundLimit ∧
      bytes.length ≤ c.outboundLimit - c.outboundLen := by
  unfold Connection.queueWrite at ok
  split at ok
  · cases ok
  next overtakes =>
  split at ok
  · cases ok
  next fits =>
  cases ok
  refine ⟨inside, ?_, rfl, Nat.le_of_not_lt fits⟩
  rw [Bool.and_eq_true, not_and] at overtakes
  cases isBody : c.body with
  | none => simp [queued, window, isBody]
  | some old =>
    have none : bytes = [] := by simpa [isBody] using overtakes
    simp [queued, window, none, isBody]

theorem queueBody_ok {owner start stop : Nat} {c' : Connection} (inside : c.Inside buffers) (nonempty : start < stop)
    (ok : c.queueBody buffers owner start stop = .ok c') :
    c'.Inside buffers ∧ c'.queued buffers = c.queued buffers ++ ((buffers owner).take stop).drop start ∧
      c'.outboundLimit = c.outboundLimit ∧
      (((buffers owner).take stop).drop start).length ≤ c.outboundLimit - c.outboundLen := by
  unfold Connection.queueBody at ok
  split at ok
  · cases ok
  next valid =>
  simp only [not_or, Nat.not_lt] at valid
  obtain ⟨-, within, fits⟩ := valid
  have room : (((buffers owner).take stop).drop start).length ≤ c.outboundLimit - c.outboundLen := by
    rw [List.length_drop, List.length_take]
    omega
  split at ok
  · next isBody =>
    cases ok
    refine ⟨?_, ?_, rfl, room⟩
    · rintro _ ⟨⟩
      exact ⟨nonempty, within⟩
    · simp [queued, window, isBody]
  next old isBody =>
  split at ok
  · next follows =>
    cases ok
    obtain ⟨rfl, rfl⟩ := follows
    obtain ⟨started, -⟩ := inside old isBody
    refine ⟨?_, ?_, rfl, room⟩
    · rintro _ ⟨⟩
      exact ⟨Nat.lt_trans started nonempty, within⟩
    have first : (buffers old.owner).take old.stop = ((buffers old.owner).take stop).take old.stop := by
      rw [List.take_take, Nat.min_eq_left (Nat.le_of_lt nonempty)]
    have fits : old.start ≤ (((buffers old.owner).take stop).take old.stop).length := by
      rw [← first, List.length_take]
      have := inside old isBody
      omega
    simp only [queued, window, isBody, Option.map_some, Option.getD_some, List.append_assoc]
    rw [first, ← List.drop_append_of_le_length fits, List.take_append_drop]
  · cases ok

end Connection

/-! ## Every run -/

/-- The bytes on the socket are the first of those accepted, the rest is in the queue of a connection that is still
there, and the queue is within its limit. -/
structure Output.Flows (buffers : Nat → Bytes) (o : Output) : Prop where
  front : o.socket <+: o.accepted
  live : ∀ c ∈ o.connection, c.Inside buffers ∧ o.accepted = o.socket ++ c.queued buffers ∧
    c.outboundLen ≤ c.outboundLimit

section

variable {buffers : Nat → Bytes} {id : SlotId} {o : Output} {c : Connection}

theorem reregister_same (poll : Option NativeFailure) :
    (c.reregister poll).1 = { c with registered := (c.reregister poll).1.registered } := by
  unfold Connection.reregister
  split
  · rfl
  · split <;> rfl

theorem Output.Flows.queue {bytes : Bytes} {poll : Option NativeFailure} {result : Except NativeFailure Connection}
    (flows : o.Flows buffers) (isLive : o.connection = some c)
    (ok : ∀ c', result = .ok c' → c'.Inside buffers ∧ c'.queued buffers = c.queued buffers ++ bytes ∧
      c'.outboundLimit = c.outboundLimit ∧ bytes.length ≤ c.outboundLimit - c.outboundLen) :
    (o.queue bytes poll result).Flows buffers := by
  cases result with
  | error failure => exact flows
  | ok c' =>
    obtain ⟨inside, accepted, within⟩ := flows.live c isLive
    obtain ⟨inside', queued, limit, room⟩ := ok c' rfl
    refine ⟨flows.front.trans (List.prefix_append _ _), ?_⟩
    rintro _ ⟨⟩
    rw [reregister_same]
    refine ⟨inside', ?_, ?_⟩
    · show o.accepted ++ bytes = o.socket ++ c'.queued buffers
      rw [accepted, queued, List.append_assoc]
    · show c'.outboundLen ≤ c'.outboundLimit
      rw [← inside'.length_queued, queued, List.length_append, inside.length_queued, limit]
      omega

def OutputCall.Nonempty : OutputCall → Prop
  | .queueBody _ start stop _ => start < stop
  | _ => True

theorem Output.Flows.exec {call : OutputCall} (flows : o.Flows buffers) (nonempty : call.Nonempty) :
    (o.exec buffers id call).Flows buffers := by
  unfold Output.exec
  split
  · exact flows
  next c isLive =>
  obtain ⟨inside, accepted, within⟩ := flows.live c isLive
  cases call with
  | queueWrite bytes poll => exact flows.queue isLive fun c' ok => Connection.queueWrite_ok inside ok
  | queueBody owner start stop poll =>
    exact flows.queue isLive fun c' ok => Connection.queueBody_ok inside nonempty ok
  | flushWrite attempts =>
    dsimp only
    rcases inside.flushWrite id attempts with flushes | nothing
    · refine ⟨?_, fun c' isLeft => ?_⟩
      · rw [accepted]
        exact (List.prefix_append_right_inj _).mpr flushes.front
      obtain ⟨queue, inside', limit, -⟩ := flushes.kept c' isLeft
      refine ⟨inside', by rw [accepted, queue, List.append_assoc], ?_⟩
      have shorter : c'.outboundLen ≤ c.outboundLen := by
        rw [← inside.length_queued, queue, List.length_append, ← inside'.length_queued]
        exact Nat.le_add_left _ _
      exact limit ▸ Nat.le_trans shorter within
    · rw [nothing, List.append_nil]
      exact ⟨flows.front, fun c' isLeft => by cases isLeft; exact ⟨inside, accepted, within⟩⟩
  | finishConnect => exact ⟨flows.front, fun c' isLeft => by cases isLeft; exact ⟨inside, accepted, within⟩⟩

/-- In every run of `queue_write`, `queue_body` with windows that are not empty, and `flush_write` from an empty queue,
also if the connection is established in between: the bytes written to the socket are the first of those that were
accepted, in their order; the queue is never longer than its limit; and a flush that wrote something and did not fail
reports that the queue is drained exactly when it is, and otherwise how many bytes it wrote. -/
theorem written_in_order (fresh : c.outbound = [] ∧ c.body = none) (calls : List OutputCall)
    (nonempty : ∀ call ∈ calls, call.Nonempty) :
    let o := calls.foldl (Output.exec buffers id) ⟨some c, [], []⟩
    o.socket <+: o.accepted ∧ ∀ c' ∈ o.connection, c'.outboundLen ≤ c'.outboundLimit ∧
      ∀ attempts, let flushed := c'.flushWrite buffers id attempts
        flushed.sent ≠ [] → ∀ left ∈ flushed.connection, flushed.events =
          if left.outboundLen = 0 then [.writeDrained id] else [.writeProgress id flushed.sent.length] := by
  intro o
  have flows : o.Flows buffers := by
    have start : Output.Flows buffers ⟨some c, [], []⟩ := by
      refine ⟨List.prefix_rfl, ?_⟩
      rintro _ ⟨⟩
      refine ⟨by simp [Connection.Inside, fresh.2], ?_, ?_⟩
      · simp [Connection.queued, Connection.window, fresh]
      · simp [Connection.outboundLen, fresh]
    exact List.foldlRecOn (motive := Output.Flows buffers) calls _ start fun _ flows call mem =>
      flows.exec (nonempty call mem)
  refine ⟨flows.front, fun c' isLive => ?_⟩
  obtain ⟨inside, -, within⟩ := flows.live c' isLive
  refine ⟨within, ?_⟩
  intro attempts flushed sent left isLeft
  rcases inside.flushWrite id attempts with flushes | nothing
  · obtain ⟨-, -, -, events⟩ := flushes.kept left isLeft
    have some : 0 + flushed.sent.length ≠ 0 := by simpa using sent
    rw [Connection.outboundEmpty, if_pos some, Nat.zero_add] at events
    rw [events]
    simp only [beq_iff_eq]
    rfl
  · exact absurd (congrArg Flushed.sent nothing) sent

end

/-- A head and a window are written in two parts, the first of them up to the middle of the window. -/
def sampleCalls : List OutputCall :=
  [.queueWrite [1, 2] none, .queueBody 0 1 4 none, .flushWrite [.wrote 1 4]]

theorem written_in_order_sample :
    let c : Connection := ⟨1, true, true, false, [], none, none, 8, 0, 8, none, none⟩
    let o := sampleCalls.foldl (Output.exec (fun _ => [3, 4, 5, 6]) ⟨0, 1⟩) ⟨some c, [], []⟩
    o.socket = [1, 2, 4, 5] ∧ o.accepted = [1, 2, 4, 5, 6] ∧ o.socket <+: o.accepted ∧
      ∀ c' ∈ o.connection, c'.outboundLen ≤ c'.outboundLimit := by
  intro c o
  obtain ⟨front, live⟩ := @written_in_order (fun _ => [3, 4, 5, 6]) ⟨0, 1⟩ c ⟨rfl, rfl⟩ sampleCalls (by
    simp [sampleCalls, OutputCall.Nonempty])
  exact ⟨by decide, by decide, front, fun c' isLive => (live c' isLive).1⟩

end NbReq.Native
