import NbReq.Types
import Mathlib

/-!
# Encrypting a request

`NativeTls::pump_request_body`: the head of a request and the borrowed window of its body are offered to the TLS library
in shared writes, and the records that the library makes of them are taken out up to a limit. What the library does in
a call is a parameter.

1. `Pump.Joint`: the two cursors are one position in the head followed by the body; `pumpLoop_joint` keeps it.
2. `Pumping.Reachable.encrypted`: what any sequence of calls has handed to the library.
-/

namespace NbReq

def tlsPlaintextChunk : Nat := 16 * 1024

/-- What the TLS library does in a call: how much of the offered plaintext it accepts, the records it makes of that, and
how many bytes of its pending records it offers to a writer at once. -/
structure TlsLibrary where
  accepts : Nat → Bytes → Nat
  records : Nat → Bytes → Bytes
  offers : Nat → Bytes → Nat

/-- It accepts a part of everything that it is offered. -/
def TlsLibrary.Accepting (lib : TlsLibrary) : Prop :=
  ∀ call offered, offered ≠ [] → 0 < lib.accepts call offered ∧ lib.accepts call offered ≤ offered.length

/-- `native_tls::PendingPlaintext`. -/
structure PendingPlaintext where
  bytes : Bytes
  offset : Nat
deriving DecidableEq, Repr

namespace PendingPlaintext

def remaining (p : PendingPlaintext) : Bytes := p.bytes.drop p.offset

def isEmpty (p : PendingPlaintext) : Bool := p.offset == p.bytes.length

end PendingPlaintext

/-- The locals of `pump_request_body` with the parts of the client that it works on: the records that are pending in the
library, and the rest of the request. `calls` and `accepted` are kept for the history only: the number of calls of the
library, and the plaintext that it has accepted. -/
structure Pump where
  wire : Bytes
  request : Option PendingPlaintext
  consumed : Nat
  output : Bytes
  calls : Nat
  accepted : Bytes
deriving DecidableEq, Repr

namespace Pump

variable (lib : TlsLibrary) (limit : Nat)

def wantsWrite (p : Pump) : Bool := !p.wire.isEmpty

/-- What `write_tls` gives away: of what the library offers, `CappedWriter::write` takes what still fits. -/
def written (p : Pump) : Bytes := (p.wire.take (lib.offers p.calls p.wire)).take (limit - p.output.length)

/-- `write_tls` into a `CappedWriter`. -/
def writeTls (p : Pump) : Pump :=
  { p with
    wire := p.wire.drop (p.written lib limit).length
    output := p.output ++ p.written lib limit
    calls := p.calls + 1 }

def drainOutboundUpTo (p : Pump) : Pump :=
  if p.wantsWrite = true ∧ p.output.length < limit then
    if p.written lib limit = [] then p.writeTls lib limit else drainOutboundUpTo (p.writeTls lib limit)
  else p
termination_by limit - p.output.length
decreasing_by
  next room some =>
    have longer := List.length_pos_iff.mpr some
    simp only [writeTls, List.length_append]
    omega

def current (p : Pump) : Option PendingPlaintext := if p.request.any (·.isEmpty) then none else p.request

def head (p : Pump) : Bytes := ((p.current.map (·.remaining)).getD []).take tlsPlaintextChunk

def bodyChunk (p : Pump) (body : Bytes) : Bytes := (body.drop p.consumed).take (tlsPlaintextChunk - p.head.length)

def accept (p : Pump) (body : Bytes) (count : Nat) : Pump :=
  { p with
    wire := p.wire ++ lib.records p.calls ((p.head ++ p.bodyChunk body).take count)
    request := p.current.map fun r => { r with offset := r.offset + min count p.head.length }
    consumed := p.consumed + (count - p.head.length)
    calls := p.calls + 1
    accepted := p.accepted ++ (p.head ++ p.bodyChunk body).take count }

def count (p : Pump) (body : Bytes) : Nat := lib.accepts p.calls (p.head ++ p.bodyChunk body)

def left (p : Pump) (body : Bytes) : Nat :=
  ((p.request.map (·.remaining)).getD []).length + (body.length - p.consumed)

@[simp] theorem drainOutboundUpTo_request (p : Pump) :
    (p.drainOutboundUpTo lib limit).request = p.request ∧ (p.drainOutboundUpTo lib limit).consumed = p.consumed ∧
      (p.drainOutboundUpTo lib limit).accepted = p.accepted := by
  fun_induction drainOutboundUpTo lib limit p with
  | case1 | case3 => exact ⟨rfl, rfl, rfl⟩
  | case2 p room some ih => exact ih

theorem length_head (p : Pump) : p.head.length = min tlsPlaintextChunk ((p.current.map (·.remaining)).getD []).length :=
  List.length_take

theorem left_accept (p : Pump) {body : Bytes} {count : Nat} (some : ¬(p.head = [] ∧ p.bodyChunk body = []))
    (progress : count ≠ 0) : ((p.accept lib body count).drainOutboundUpTo lib limit).left body < p.left body := by
  obtain ⟨request, consumed, -⟩ := drainOutboundUpTo_request lib limit (p.accept lib body count)
  have chunk : (p.bodyChunk body).length = min (tlsPlaintextChunk - p.head.length) (body.length - p.consumed) := by
    rw [bodyChunk, List.length_take, List.length_drop]
  have offered : p.head.length + (p.bodyChunk body).length ≠ 0 := fun none =>
    some ⟨List.length_eq_zero_iff.mp (by omega), List.length_eq_zero_iff.mp (by omega)⟩
  have size := p.length_head
  rw [left, left, request, consumed]
  simp only [accept]
  unfold current at size ⊢
  split at size
  · next empty =>
    rw [if_pos empty]
    simp only [Option.map_none, Option.getD_none, List.length_nil, Nat.min_zero] at size ⊢
    omega
  next full =>
  rw [if_neg full]
  cases isRequest : p.request with
  | none =>
    simp only [isRequest, Option.map_none, Option.getD_none, List.length_nil, Nat.min_zero] at size ⊢
    omega
  | some r =>
    simp only [isRequest, Option.map_some, Option.getD_some, PendingPlaintext.remaining, List.length_drop] at size ⊢
    omega

/-- The loop of `pump_request_body`. -/
def pumpLoop (body : Bytes) (p : Pump) : Except Error Pump :=
  if p.output.length < limit ∧ p.wantsWrite = false then
    if p.head = [] ∧ p.bodyChunk body = [] then .ok { p with request := p.current }
    else if p.count lib body = 0 then
      .error (Error.new .internal "native TLS made no progress while accepting request plaintext")
    else pumpLoop body ((p.accept lib body (p.count lib body)).drainOutboundUpTo lib limit)
  else .ok p
termination_by p.left body
decreasing_by
  next some progress => exact left_accept lib limit p some progress

/-! ## One position in two cursors -/

/-- The plaintext that was accepted is the first part of the head followed by the body, the cursor of the request is
where it ends in the head, and the cursor of the body where it ends in the body. -/
structure Joint (head body : Bytes) (offset : Nat) (p : Pump) : Prop where
  plaintext : p.accepted <+: head ++ body
  cursor : offset + p.consumed = p.accepted.length - head.length
  pending : ∀ r, p.request = some r → r.bytes = head ∧ r.offset = min p.accepted.length head.length
  done : p.request = none → head.length ≤ p.accepted.length

variable {lib limit} {p : Pump} {head body : Bytes} {offset : Nat}

theorem Joint.of_eq {p' : Pump} (joint : p.Joint head body offset) (request : p'.request = p.request)
    (consumed : p'.consumed = p.consumed) (accepted : p'.accepted = p.accepted) : p'.Joint head body offset := by
  refine ⟨?_, ?_, ?_, ?_⟩
  · rw [accepted]
    exact joint.plaintext
  · rw [consumed, accepted]
    exact joint.cursor
  · rw [request, accepted]
    exact joint.pending
  · rw [request, accepted]
    exact joint.done

theorem Joint.drain (joint : p.Joint head body offset) : (p.drainOutboundUpTo lib limit).Joint head body offset := by
  obtain ⟨request, consumed, accepted⟩ := drainOutboundUpTo_request lib limit p
  exact joint.of_eq request consumed accepted

/-- A request of which nothing is left is over. -/
theorem Joint.forget (joint : p.Joint head body offset) (empty : p.request.any (·.isEmpty) = true) :
    ({ p with request := none } : Pump).Joint head body offset := by
  refine ⟨joint.plaintext, joint.cursor, by simp, fun _ => ?_⟩
  show head.length ≤ p.accepted.length
  cases isRequest : p.request with
  | none => exact joint.done isRequest
  | some r =>
    obtain ⟨isHead, position⟩ := joint.pending r isRequest
    simp only [isRequest, Option.any_some, PendingPlaintext.isEmpty, beq_iff_eq, isHead] at empty
    omega

theorem Joint.current (joint : p.Joint head body offset) :
    ({ p with request := p.current } : Pump).Joint head body offset := by
  unfold Pump.current
  split
  · next empty => exact joint.forget empty
  · exact joint

theorem Joint.head_eq (joint : p.Joint head body offset) :
    p.head = (head.drop p.accepted.length).take tlsPlaintextChunk := by
  unfold Pump.head
  cases isCurrent : p.current with
  | none =>
    have past : head.length ≤ p.accepted.length := joint.current.done isCurrent
    simp [List.drop_eq_nil_of_le past]
  | some r =>
    obtain ⟨isHead, position⟩ := joint.current.pending r isCurrent
    simp only [Option.map_some, Option.getD_some, PendingPlaintext.remaining, isHead, position]
    rcases Nat.le_total p.accepted.length head.length with before | after
    · rw [Nat.min_eq_left before]
    · rw [Nat.min_eq_right after, List.drop_eq_nil_of_le after, List.drop_length]

/-- What is offered comes next. -/
theorem Joint.offered (joint : p.Joint head body offset) :
    p.head ++ p.bodyChunk (body.drop offset) =
      ((head ++ body).drop p.accepted.length).take tlsPlaintextChunk := by
  rw [bodyChunk, List.drop_drop, joint.cursor, joint.head_eq, List.drop_append, List.take_append, List.length_take]
  congr 2
  omega

theorem Joint.accept (joint : p.Joint head body offset) {count : Nat}
    (most : count ≤ (p.head ++ p.bodyChunk (body.drop offset)).length) :
    (p.accept lib (body.drop offset) count).Joint head body offset := by
  have cursor := joint.cursor
  have front := p.length_head
  have offered := joint.offered
  have size : (p.accept lib (body.drop offset) count).accepted.length = p.accepted.length + count := by
    simp only [Pump.accept, List.length_append, List.length_take]
    rw [List.length_append] at most
    omega
  have headLength : p.head.length = min tlsPlaintextChunk (head.length - p.accepted.length) := by
    rw [joint.head_eq, List.length_take, List.length_drop]
  have chunk : count ≤ tlsPlaintextChunk := by
    rw [offered, List.length_take] at most
    omega
  refine ⟨?_, ?_, ?_, ?_⟩
  · obtain ⟨rest, whole⟩ := joint.plaintext
    simp only [Pump.accept]
    rw [offered, ← whole, List.drop_left, List.take_take, List.prefix_append_right_inj]
    exact List.take_prefix _ _
  · rw [size]
    simp only [Pump.accept]
    omega
  · intro r isRequest
    rw [size]
    obtain ⟨old, isCurrent, rfl⟩ := Option.map_eq_some_iff.mp isRequest
    obtain ⟨isHead, position⟩ := joint.current.pending old isCurrent
    refine ⟨isHead, ?_⟩
    dsimp only at position ⊢
    omega
  · intro none
    have past := joint.current.done (Option.map_eq_none_iff.mp none)
    rw [size]
    dsimp only at past
    omega

/-! ## The loop -/

theorem drain_fits (fits : p.output.length ≤ limit) : (p.drainOutboundUpTo lib limit).output.length ≤ limit := by
  have step : (p.writeTls lib limit).output.length ≤ limit := by
    simp only [writeTls, written, List.length_append, List.length_take]
    omega
  fun_induction drainOutboundUpTo lib limit p with
  | case1 => exact step
  | case2 p room some ih =>
    refine ih step ?_
    simp only [writeTls, written, List.length_append, List.length_take] at step ⊢
    omega
  | case3 => exact fits

/-- The loop ends with the cursors together, whatever the library accepts. -/
theorem pumpLoop_joint (accepting : lib.Accepting) (joint : p.Joint head body offset) (fits : p.output.length ≤ limit) :
    ∃ p', p.pumpLoop lib limit (body.drop offset) = .ok p' ∧ p'.Joint head body offset ∧ p'.output.length ≤ limit := by
  fun_induction pumpLoop lib limit (body.drop offset) p with
  | case1 p room none => exact ⟨_, rfl, joint.current, fits⟩
  | case2 p room some stuck =>
    have progress := accepting p.calls (p.head ++ p.bodyChunk (body.drop offset)) (by simpa using some)
    exact absurd stuck (Nat.pos_iff_ne_zero.mp progress.1)
  | case3 p room some progress ih =>
    have most := accepting p.calls (p.head ++ p.bodyChunk (body.drop offset)) (by simpa using some)
    exact ih (joint.accept most.2).drain (drain_fits fits)
  | case4 => exact ⟨_, rfl, joint, fits⟩

end Pump

/-! ## Calls -/

/-- The parts of `TlsSession` that the calls read. -/
structure TlsSession where
  handshaking : Bool
  wire : Bytes
deriving DecidableEq, Repr

/-- `NativeTls`; the session is not there while a worker has it. The last two fields are those of `Pump`. -/
structure NativeTls where
  session : Option TlsSession
  request : Option PendingPlaintext
  calls : Nat
  accepted : Bytes
deriving DecidableEq, Repr

namespace NativeTls

/-- `NativeTls::pump_request_body`; with the output and how much of the body it consumed. -/
def pumpRequestBody (lib : TlsLibrary) (t : NativeTls) (body : Bytes) (limit : Nat) :
    Except Error (NativeTls × Bytes × Nat) :=
  match t.session with
  | none => .ok (t, [], 0)
  | some session =>
    if session.handshaking = true ∨ limit = 0 then .ok (t, [], 0)
    else
      let start : Pump := ⟨session.wire, t.request, 0, [], t.calls, t.accepted⟩
      ((start.drainOutboundUpTo lib limit).pumpLoop lib limit body).map fun p =>
        let request := if p.request.any (·.isEmpty) && !p.wantsWrite then none else p.request
        (⟨some { session with wire := p.wire }, request, p.calls, p.accepted⟩, p.output, p.consumed)

def requestFullyEncrypted (t : NativeTls) : Bool := t.request.isNone && t.session.any (·.wire.isEmpty)

end NativeTls

/-- The client of an exchange, the owner's cursor in the body, and the limit and the output of each call. -/
structure Pumping where
  tls : NativeTls
  offset : Nat
  outputs : List (Nat × Bytes)

namespace Pumping

/-- A call for the rest of the body, or whatever else the session goes through: the handshake, in a worker or not, and
records that are read or sent elsewhere. -/
inductive Step (lib : TlsLibrary) (body : Bytes) : Pumping → Pumping → Prop
  | pump {p : Pumping} {tls : NativeTls} {output : Bytes} {consumed : Nat} (limit : Nat)
      (pumped : p.tls.pumpRequestBody lib (body.drop p.offset) limit = .ok (tls, output, consumed)) :
      Step lib body p ⟨tls, p.offset + consumed, p.outputs ++ [(limit, output)]⟩
  | other (p : Pumping) (session : Option TlsSession) : Step lib body p { p with tls.session := session }

/-- The states that any sequence of calls reaches for a request with this head and body. -/
def Reachable (lib : TlsLibrary) (head body : Bytes) (p : Pumping) : Prop :=
  ∃ session, Relation.ReflTransGen (Step lib body) ⟨⟨session, some ⟨head, 0⟩, 0, []⟩, 0, []⟩ p

structure Good (head body : Bytes) (p : Pumping) : Prop where
  joint : (⟨[], p.tls.request, 0, [], p.tls.calls, p.tls.accepted⟩ : Pump).Joint head body p.offset
  fits : ∀ call ∈ p.outputs, call.2.length ≤ call.1

variable {lib : TlsLibrary} {head body : Bytes} {p p' : Pumping}

theorem Good.pump (accepting : lib.Accepting) (good : p.Good head body) (limit : Nat) :
    ∃ tls output consumed, p.tls.pumpRequestBody lib (body.drop p.offset) limit = .ok (tls, output, consumed) ∧
      Good head body ⟨tls, p.offset + consumed, p.outputs ++ [(limit, output)]⟩ := by
  have quiet : Good head body ⟨p.tls, p.offset + 0, p.outputs ++ [(limit, [])]⟩ :=
    ⟨good.joint, List.forall_mem_append.mpr ⟨good.fits, by simp⟩⟩
  unfold NativeTls.pumpRequestBody
  cases p.tls.session with
  | none => exact ⟨_, _, _, rfl, quiet⟩
  | some session =>
    dsimp only
    split
    · exact ⟨_, _, _, rfl, quiet⟩
    have start : Pump.Joint head body p.offset ⟨session.wire, p.tls.request, 0, [], p.tls.calls, p.tls.accepted⟩ :=
      good.joint.of_eq rfl rfl rfl
    obtain ⟨last, pumped, joint, fits⟩ :=
      Pump.pumpLoop_joint accepting start.drain (Pump.drain_fits (Nat.zero_le limit))
    rw [pumped]
    refine ⟨_, _, _, rfl, ⟨joint.plaintext, joint.cursor, ?_, ?_⟩, List.forall_mem_append.mpr ⟨good.fits, by simpa⟩⟩
    · intro r isRequest
      dsimp only at isRequest
      split at isRequest
      · cases isRequest
      · exact joint.pending r isRequest
    · intro isNone
      dsimp only at isNone
      split at isNone
      · next ended => exact (joint.forget (Bool.and_eq_true_iff.mp ended).1).done rfl
      · exact joint.done isNone

theorem Reachable.good (accepting : lib.Accepting) (reachable : Reachable lib head body p) : p.Good head body := by
  obtain ⟨session, run⟩ := reachable
  induction run with
  | refl => exact ⟨⟨List.nil_prefix, by simp, by simp, by simp⟩, by simp⟩
  | tail _ step ih =>
    cases step with
    | pump limit pumped =>
      obtain ⟨tls, output, consumed, same, good⟩ := ih.pump accepting limit
      cases pumped.symm.trans same
      exact good
    | other session => exact ⟨ih.joint, ih.fits⟩

/-- The plaintext handed to the library is the first part of the head followed by the body, the body bytes in it are
those that the calls reported, no output is over its limit, the request counts as encrypted only if all of the head was
accepted and no record is pending, and every further call ends. -/
theorem Reachable.encrypted (reachable : Reachable lib head body p) (accepting : lib.Accepting) :
    p.tls.accepted <+: head ++ body ∧ p.offset = p.tls.accepted.length - head.length ∧
    (∀ call ∈ p.outputs, call.2.length ≤ call.1) ∧
    (p.tls.requestFullyEncrypted = true →
      head <+: p.tls.accepted ∧ ∀ session, p.tls.session = some session → session.wire = []) ∧
    ∀ limit, ∃ result, p.tls.pumpRequestBody lib (body.drop p.offset) limit = .ok result := by
  have good := reachable.good accepting
  refine ⟨good.joint.plaintext, good.joint.cursor, good.fits, fun encrypted => ⟨?_, ?_⟩, fun limit => ?_⟩
  · simp only [NativeTls.requestFullyEncrypted, Bool.and_eq_true, Option.isNone_iff_eq_none] at encrypted
    exact List.prefix_of_prefix_length_le (List.prefix_append _ _) good.joint.plaintext (good.joint.done encrypted.1)
  · intro session here
    simpa [NativeTls.requestFullyEncrypted, here] using (Bool.and_eq_true_iff.mp encrypted).2
  · obtain ⟨tls, output, consumed, pumped, -⟩ := good.pump accepting limit
    exact ⟨_, pumped⟩

/-- A library that accepts one byte at a time and makes a record of two bytes of it. -/
def byteLibrary : TlsLibrary := ⟨fun _ _ => 1, fun _ accepted => 0x17 :: accepted, fun _ wire => wire.length⟩

theorem encrypted_sample : ∃ p, Reachable byteLibrary [0x41] [0x42, 0x43] p ∧ p.outputs.length = 2 ∧
    p.tls.accepted <+: [0x41, 0x42, 0x43] ∧ p.offset = p.tls.accepted.length - 1 := by
  have accepting : byteLibrary.Accepting := fun _ offered some => ⟨Nat.one_pos, List.length_pos_iff.mpr some⟩
  have start : Reachable byteLibrary [0x41] [0x42, 0x43] _ := ⟨some ⟨false, []⟩, .refl⟩
  obtain ⟨tls, output, consumed, pumped, good⟩ := (start.good accepting).pump accepting 3
  obtain ⟨tls', output', consumed', pumped', -⟩ := good.pump accepting 4
  have reachable : Reachable byteLibrary [0x41] [0x42, 0x43] _ :=
    ⟨some ⟨false, []⟩, (Relation.ReflTransGen.single (.pump 3 pumped)).tail (.pump 4 pumped')⟩
  have encrypted := Reachable.encrypted reachable accepting
  exact ⟨_, reachable, rfl, encrypted.1, encrypted.2.1⟩

end Pumping

end NbReq
