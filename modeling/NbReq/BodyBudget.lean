import NbReq.Types
import Mathlib

/-!
# The budget of buffered bodies

`body_budget.rs`: every buffered body has its allocation charged to one budget of the engine, an atomic counter. The
buffers belong to different threads, so a call on one of them is a series of accesses to the counter with accesses of
other threads in between: `Step` is one of them.

1. `Accounts.Ok`: the counter is the sum of the permits, no more than the limit, and every budgeted buffer is charged
   for what it has allocated; `Step.ok` keeps it.
2. `Reachable.accounted`: so it is after any interleaving of calls, failed calls change nothing, and when every buffer
   is dropped the counter is zero.
-/

namespace NbReq

/-! ## Permits -/

def budgetExhausted : Error := Error.limit .bufferedBodyBytes "aggregate buffered HTTP body capacity exhausted"

/-- The error of `check_capacity`. -/
def capacityTooLarge : Error :=
  Error.limit .bufferedBodyBytes "buffered HTTP capacity exceeds the addressable allocation size"

def stagingExceeded : Error := Error.limit .bufferedBodyBytes "buffered HTTP staging capacity exceeded"

/-- What a round of the loop of `BodyBudget::acquire` comes to. -/
inductive AcquireRound where
  | failed (error : Error)
  | granted (used : Nat)
  | again (loaded : Nat)
deriving DecidableEq, Repr

/-- A round of the loop of `BodyBudget::acquire`, with the counter at `used` and the value `loaded` before. The exchange
may fail for no reason, for it is the weak one. -/
def acquireRound (width : PointerWidth) (limit : Option Nat) (used amount loaded : Nat) (weak : Bool) : AcquireRound :=
  match (checkedAdd width loaded amount).filter fun next => limit.all (next ≤ ·) with
  | none => .failed budgetExhausted
  | some next => if used = loaded && !weak then .granted next else .again used

/-- `BodyPermit::drop`: `fetch_sub`, which wraps. -/
def fetchSub (width : PointerWidth) (used amount : Nat) : Nat :=
  (used + (width.usizeMax + 1) - amount) % (width.usizeMax + 1)

/-! ## Buffers -/

/-- `body_budget::BodyBuffer`: the vector with its capacity, the permits by their bytes, and whether there is a
budget. -/
structure BodyBuffer where
  bytes : Bytes
  capacity : Nat
  permit : Option Nat
  budgeted : Bool
  future : Option Nat
  plannedCapacity : Nat
deriving DecidableEq, Repr

inductive Purpose where
  | plan (capacity : Nat)
  | grow (capacity : Nat) (rest : Bytes)
deriving DecidableEq, Repr

/-- Where the call on a buffer is: nowhere, in `acquire` (with the counter it loaded, and the buffer as it was when the
call began), between the steps of a replacement, or in the drop of the buffer. -/
inductive BufferCall where
  | idle
  | acquiring (amount : Nat) (loaded : Option Nat) (purpose : Purpose) (before : BodyBuffer)
  | planned (permit capacity : Nat)
  | allocating (permit : Option Nat) (capacity : Nat) (rest : Bytes)
  | copied (permit : Option Nat) (capacity : Nat) (rest : Bytes)
  | freed (permit : Option Nat) (rest : Bytes)
  | dropping
deriving DecidableEq, Repr

/-- What a call comes to before it touches the counter. -/
inductive BufferStart where
  | failed (error : Error)
  | done (buffer : BodyBuffer)
  | entered (buffer : BodyBuffer) (call : BufferCall)
deriving DecidableEq, Repr

namespace BodyBuffer

def new (budgeted : Bool) : BodyBuffer := ⟨[], 0, none, budgeted, none, 0⟩

def fromVec (bytes : Bytes) (capacity : Nat) : BodyBuffer := ⟨bytes, capacity, none, false, none, 0⟩

/-- `Vec::extend_from_slice`: it moves to an allocation of the size `grown` if the bytes do not fit. -/
def extendFromSlice (b : BodyBuffer) (bytes : Bytes) (grown : Nat) : BodyBuffer :=
  { b with
    bytes := b.bytes ++ bytes
    capacity := if b.bytes.length + bytes.length ≤ b.capacity then b.capacity
      else max grown (b.bytes.length + bytes.length) }

variable (width : PointerWidth)

def planCapacity (b : BodyBuffer) (capacity : Nat) : BufferStart :=
  if capacity > width.isizeMax then .failed capacityTooLarge
  else if b.budgeted then .entered b (.acquiring capacity none (.plan capacity) b)
  else .done b

/-- `BodyBuffer::reserve_capacity`, with the bytes that `extend` appends after it. -/
def reserveCapacity (b : BodyBuffer) (capacity : Nat) (rest : Bytes) (grown : Nat) : BufferStart :=
  let capacity := max capacity b.plannedCapacity
  if capacity > width.isizeMax then .failed capacityTooLarge
  else if capacity ≤ b.capacity then .done (b.extendFromSlice rest grown)
  else match b.future with
    | some reserved =>
      if capacity > reserved then
        -- Only the shortfall is acquired: the reservation pays for the rest.
        .entered b (.acquiring (capacity - reserved) none (.grow capacity rest) b)
      else
        .entered { b with future := none, plannedCapacity := 0 } (.allocating (some reserved) capacity rest)
    | none =>
      if b.budgeted then .entered b (.acquiring capacity none (.grow capacity rest) b)
      else .entered { b with plannedCapacity := 0 } (.allocating none capacity rest)

def extend (b : BodyBuffer) (bytes : Bytes) (ceiling grown : Nat) : BufferStart :=
  match (checkedAdd width b.bytes.length bytes.length).filter (· ≤ ceiling) with
  | none => .failed stagingExceeded
  | some needed =>
    if !b.budgeted then .done (b.extendFromSlice bytes grown)
    else if needed > b.capacity then
      let capacity := if b.plannedCapacity ≠ 0 then max b.plannedCapacity needed
        else min (max (max needed (min (2 * b.capacity) width.usizeMax)) 4096) ceiling
      b.reserveCapacity width capacity bytes grown
    else .done (b.extendFromSlice bytes grown)

def push (b : BodyBuffer) (byte : UInt8) (ceiling grown : Nat) : BufferStart :=
  if b.bytes.length < b.capacity || !b.budgeted then .done (b.extendFromSlice [byte] grown)
  else b.extend width [byte] ceiling grown

end BodyBuffer

/-! ## Calls -/

/-- What is charged to the budget: a vector that `admit` is acquiring a permit for, or a buffer and the call on it. -/
inductive Holder where
  | admitting (bytes : Bytes) (capacity : Nat) (loaded : Option Nat)
  | buffer (buffer : BodyBuffer) (call : BufferCall)
deriving DecidableEq, Repr

/-- The permits that a call holds outside the buffer. -/
def BufferCall.charge : BufferCall → Nat
  | .planned permit _ => permit
  | .allocating permit _ _ => permit.getD 0
  | .copied permit _ _ => permit.getD 0
  | .freed permit _ => permit.getD 0
  | _ => 0

def Holder.charge : Holder → Nat
  | .admitting _ _ _ => 0
  | .buffer b call => b.permit.getD 0 + b.future.getD 0 + call.charge

/-- The bytes a buffer has allocated: the old and the new vector, while both exist. -/
def Holder.allocated : Holder → Nat
  | .admitting _ _ _ => 0
  | .buffer b (.copied _ capacity _) => b.capacity + capacity
  | .buffer b _ => b.capacity

def Holder.budgeted : Holder → Bool
  | .admitting _ _ _ => false
  | .buffer b _ => b.budgeted

/-- A call that failed: the buffer when it began and when it returned. -/
structure FailedCall where
  before : BodyBuffer
  after : BodyBuffer
deriving DecidableEq, Repr

/-- The budget, its holders and the failed calls so far. -/
structure Accounts where
  limit : Option Nat
  used : Nat
  holders : List Holder
  failures : List FailedCall
deriving DecidableEq, Repr

/-- What the calls that begin leave behind: the holder, and the failure if there is one. -/
def BufferStart.begun (b : BodyBuffer) : BufferStart → Holder × List FailedCall
  | .failed _ => (.buffer b .idle, [⟨b, b⟩])
  | .done b' => (.buffer b' .idle, [])
  | .entered b' call => (.buffer b' call, [])

/-- The call after a granted permit: a plan holds it, and a growth takes the reservation along. -/
def Purpose.granted (b : BodyBuffer) (amount : Nat) : Purpose → Holder
  | .plan capacity => .buffer b (.planned amount capacity)
  | .grow capacity rest =>
    .buffer { b with future := none, plannedCapacity := 0 }
      (.allocating (some (b.future.getD 0 + amount)) capacity rest)

namespace Holder

/-- An access of a holder to the counter, or a step between two of them: the counter and the holder before and after,
the holder being gone in the end, and the call that failed. -/
inductive Step (width : PointerWidth) (limit : Option Nat) :
    Nat → Holder → Nat → Option Holder → List FailedCall → Prop
  | plan {used : Nat} (b : BodyBuffer) (capacity : Nat) :
      Step width limit used (.buffer b .idle) used ((b.planCapacity width capacity).begun b).1
        ((b.planCapacity width capacity).begun b).2
  | reserve {used : Nat} (b : BodyBuffer) (capacity grown : Nat) :
      Step width limit used (.buffer b .idle) used ((b.reserveCapacity width capacity [] grown).begun b).1
        ((b.reserveCapacity width capacity [] grown).begun b).2
  | extend {used : Nat} (b : BodyBuffer) (bytes : Bytes) (ceiling grown : Nat) :
      Step width limit used (.buffer b .idle) used ((b.extend width bytes ceiling grown).begun b).1
        ((b.extend width bytes ceiling grown).begun b).2
  | push {used : Nat} (b : BodyBuffer) (byte : UInt8) (ceiling grown : Nat) :
      Step width limit used (.buffer b .idle) used ((b.push width byte ceiling grown).begun b).1
        ((b.push width byte ceiling grown).begun b).2
  -- `BodyBudget::acquire`, for `admit` and for a call on a buffer
  | admitNothing {used : Nat} {bytes : Bytes} :
      Step width limit used (.admitting bytes 0 none) used (some (.buffer ⟨bytes, 0, some 0, true, none, 0⟩ .idle)) []
  | admitLoad {used : Nat} {bytes : Bytes} {capacity : Nat} (nonzero : capacity ≠ 0) :
      Step width limit used (.admitting bytes capacity none) used (some (.admitting bytes capacity (some used))) []
  | admitAgain {used : Nat} {bytes : Bytes} {capacity loaded next : Nat} {weak : Bool}
      (round : acquireRound width limit used capacity loaded weak = .again next) :
      Step width limit used (.admitting bytes capacity (some loaded)) used
        (some (.admitting bytes capacity (some next))) []
  | admitFailed {used : Nat} {bytes : Bytes} {capacity loaded : Nat} {weak : Bool} {error : Error}
      (round : acquireRound width limit used capacity loaded weak = .failed error) :
      Step width limit used (.admitting bytes capacity (some loaded)) used none []
  | admitted {used next : Nat} {bytes : Bytes} {capacity loaded : Nat} {weak : Bool}
      (round : acquireRound width limit used capacity loaded weak = .granted next) :
      Step width limit used (.admitting bytes capacity (some loaded)) next
        (some (.buffer ⟨bytes, capacity, some capacity, true, none, 0⟩ .idle)) []
  | nothing {used : Nat} {b before : BodyBuffer} {purpose : Purpose} :
      Step width limit used (.buffer b (.acquiring 0 none purpose before)) used (purpose.granted b 0) []
  | load {used amount : Nat} {b before : BodyBuffer} {purpose : Purpose} (nonzero : amount ≠ 0) :
      Step width limit used (.buffer b (.acquiring amount none purpose before)) used
        (some (.buffer b (.acquiring amount (some used) purpose before))) []
  | again {used amount loaded next : Nat} {b before : BodyBuffer} {purpose : Purpose} {weak : Bool}
      (round : acquireRound width limit used amount loaded weak = .again next) :
      Step width limit used (.buffer b (.acquiring amount (some loaded) purpose before)) used
        (some (.buffer b (.acquiring amount (some next) purpose before))) []
  | failed {used amount loaded : Nat} {b before : BodyBuffer} {purpose : Purpose} {weak : Bool} {error : Error}
      (round : acquireRound width limit used amount loaded weak = .failed error) :
      Step width limit used (.buffer b (.acquiring amount (some loaded) purpose before)) used
        (some (.buffer b .idle)) [⟨before, b⟩]
  | granted {used amount loaded next : Nat} {b before : BodyBuffer} {purpose : Purpose} {weak : Bool}
      (round : acquireRound width limit used amount loaded weak = .granted next) :
      Step width limit used (.buffer b (.acquiring amount (some loaded) purpose before)) next
        (purpose.granted b amount) []
  -- `self.future = Some(..)`: the reservation before it is dropped
  | planned {used permit capacity : Nat} {b : BodyBuffer} :
      Step width limit used (.buffer b (.planned permit capacity)) (fetchSub width used (b.future.getD 0))
        (some (.buffer { b with future := some permit, plannedCapacity := capacity } .idle)) []
  -- The replacement: allocate and copy, free the old vector, drop its permit
  | copied {used : Nat} {b : BodyBuffer} {permit : Option Nat} {capacity : Nat} {rest : Bytes} :
      Step width limit used (.buffer b (.allocating permit capacity rest)) used
        (some (.buffer b (.copied permit capacity rest))) []
  | freed {used : Nat} {b : BodyBuffer} {permit : Option Nat} {capacity : Nat} {rest : Bytes} :
      Step width limit used (.buffer b (.copied permit capacity rest)) used
        (some (.buffer { b with capacity := capacity } (.freed permit rest))) []
  | refunded {used : Nat} {b : BodyBuffer} {permit : Option Nat} {rest : Bytes} (grown : Nat) :
      Step width limit used (.buffer b (.freed permit rest)) (fetchSub width used (b.permit.getD 0))
        (some (.buffer ({ b with permit := permit }.extendFromSlice rest grown) .idle)) []
  -- The drop of a buffer frees its vector first; `into_vec` gives the vector away
  | drop {used : Nat} {b : BodyBuffer} :
      Step width limit used (.buffer b .idle) used (some (.buffer { b with bytes := [], capacity := 0 } .dropping)) []
  | dropPermit {used permit : Nat} {b : BodyBuffer} (held : b.permit = some permit) :
      Step width limit used (.buffer b .dropping) (fetchSub width used permit)
        (some (.buffer { b with permit := none } .dropping)) []
  | dropFuture {used reserved : Nat} {b : BodyBuffer} (released : b.permit = none) (held : b.future = some reserved) :
      Step width limit used (.buffer b .dropping) (fetchSub width used reserved)
        (some (.buffer { b with future := none } .dropping)) []
  | gone {used : Nat} {b : BodyBuffer} (released : b.permit = none) (unreserved : b.future = none) :
      Step width limit used (.buffer b .dropping) used none []

end Holder

namespace Accounts

inductive Step (width : PointerWidth) : Accounts → Accounts → Prop
  | new (a : Accounts) (budgeted : Bool) :
      Step width a { a with holders := .buffer (.new budgeted) .idle :: a.holders }
  | fromVec (a : Accounts) (bytes : Bytes) (capacity : Nat) (fits : bytes.length ≤ capacity) :
      Step width a { a with holders := .buffer (.fromVec bytes capacity) .idle :: a.holders }
  | admits (a : Accounts) (bytes : Bytes) (capacity : Nat) (fits : bytes.length ≤ capacity) :
      Step width a { a with holders := .admitting bytes capacity none :: a.holders }
  | step {limit : Option Nat} {used next : Nat} {left right : List Holder} {holder : Holder} {after : Option Holder}
      {failures failed : List FailedCall} (step : holder.Step width limit used next after failed) :
      Step width ⟨limit, used, left ++ holder :: right, failures⟩
        ⟨limit, next, left ++ (after.toList ++ right), failures ++ failed⟩

/-- `BodyBudget::new`. -/
def new (limit : Option Nat) : Accounts := ⟨limit, 0, [], []⟩

/-- The accounts that any interleaving of calls reaches from a fresh budget. -/
def Reachable (width : PointerWidth) (a : Accounts) : Prop :=
  ∃ limit, Relation.ReflTransGen (Step width) (new limit) a

end Accounts

/-! ## The invariant -/

/-- The counter is a `usize` and within the limit. -/
def Within (width : PointerWidth) (limit : Option Nat) (used : Nat) : Prop :=
  used ≤ width.usizeMax ∧ ∀ bound, limit = some bound → used ≤ bound

theorem Within.mono {width : PointerWidth} {limit : Option Nat} {few many : Nat} (within : Within width limit many)
    (le : few ≤ many) : Within width limit few :=
  ⟨Nat.le_trans le within.1, fun bound equal => Nat.le_trans le (within.2 bound equal)⟩

theorem acquireRound_granted {width : PointerWidth} {limit : Option Nat} {used amount loaded next : Nat} {weak : Bool}
    (round : acquireRound width limit used amount loaded weak = .granted next) :
    next = used + amount ∧ Within width limit next := by
  unfold acquireRound at round
  split at round
  · cases round
  next sum checked =>
  split at round
  · next exchanged =>
    cases round
    rw [Option.filter_eq_some_iff, checkedAdd_eq_some] at checked
    obtain ⟨⟨rfl, fits⟩, limited⟩ := checked
    simp only [Bool.and_eq_true, decide_eq_true_eq] at exchanged
    refine ⟨by rw [exchanged.1], fits, fun bound equal => ?_⟩
    simpa [equal] using limited
  · cases round

theorem fetchSub_eq {width : PointerWidth} {used amount : Nat} (le : amount ≤ used) (fits : used ≤ width.usizeMax) :
    fetchSub width used amount = used - amount := by
  have split : used + (width.usizeMax + 1) - amount = used - amount + (width.usizeMax + 1) := by omega
  rw [fetchSub, split, Nat.add_mod_right, Nat.mod_eq_of_lt (by omega)]

/-- What the call on a buffer knows of it. -/
def BufferCall.Ok (b : BodyBuffer) : BufferCall → Prop
  | .idle => b.budgeted = true → b.capacity ≤ b.permit.getD 0
  | .acquiring amount _ purpose before =>
    before = b ∧ b.budgeted = true ∧ b.capacity ≤ b.permit.getD 0 ∧
      match purpose with
      | .plan _ => True
      | .grow capacity rest => b.future.getD 0 + amount = capacity ∧ b.bytes.length + rest.length ≤ capacity
  | .planned _ _ => b.budgeted = true ∧ b.capacity ≤ b.permit.getD 0
  | .allocating permit capacity rest =>
    (b.budgeted = true → b.capacity ≤ b.permit.getD 0 ∧ capacity ≤ permit.getD 0) ∧
      b.bytes.length + rest.length ≤ capacity
  | .copied permit capacity rest =>
    (b.budgeted = true → b.capacity ≤ b.permit.getD 0 ∧ capacity ≤ permit.getD 0) ∧
      b.bytes.length + rest.length ≤ capacity
  | .freed permit rest =>
    (b.budgeted = true → b.capacity ≤ permit.getD 0) ∧ b.bytes.length + rest.length ≤ b.capacity
  | .dropping => b.capacity = 0

def Holder.Ok : Holder → Prop
  | .admitting bytes capacity _ => bytes.length ≤ capacity
  | .buffer b call => b.bytes.length ≤ b.capacity ∧ (b.future.isSome → b.budgeted = true) ∧ call.Ok b

theorem Holder.Ok.charged {h : Holder} (ok : h.Ok) (budgeted : h.budgeted = true) : h.allocated ≤ h.charge := by
  cases h with
  | admitting => exact Nat.zero_le _
  | buffer b call =>
    obtain ⟨-, -, ok⟩ := ok
    change b.budgeted = true at budgeted
    cases call <;> simp only [BufferCall.Ok, budgeted, forall_const, allocated, charge, BufferCall.charge] at ok ⊢ <;>
      omega

/-! ### What the calls begin with -/

namespace BodyBuffer

variable {width : PointerWidth} {b : BodyBuffer}

variable {bytes : Bytes}

theorem extendFromSlice_fits (grown : Nat) (fits : b.bytes.length + bytes.length ≤ b.capacity) :
    (b.extendFromSlice bytes grown).capacity = b.capacity := if_pos fits

theorem length_extendFromSlice (bytes : Bytes) (grown : Nat) :
    (b.extendFromSlice bytes grown).bytes.length ≤ (b.extendFromSlice bytes grown).capacity := by
  simp only [extendFromSlice, List.length_append]
  split
  · assumption
  · exact Nat.le_max_right _ _

/-- A buffer that is extended within its capacity, or that has no budget, is still charged for its allocation. -/
theorem ok_extendFromSlice (grown : Nat) (reserved : b.future.isSome → b.budgeted = true)
    (charged : b.budgeted = true → b.capacity ≤ b.permit.getD 0)
    (fits : b.budgeted = true → b.bytes.length + bytes.length ≤ b.capacity) :
    (Holder.buffer (b.extendFromSlice bytes grown) .idle).Ok := by
  refine ⟨length_extendFromSlice bytes grown, reserved, fun budgeted => ?_⟩
  rw [extendFromSlice_fits grown (fits budgeted)]
  exact charged budgeted

/-- A call that begins keeps the charge. -/
structure Begins (b : BodyBuffer) (start : BufferStart) : Prop where
  ok : (start.begun b).1.Ok
  charge : (start.begun b).1.charge = b.permit.getD 0 + b.future.getD 0
  honest : ∀ call ∈ (start.begun b).2, call.before = call.after

theorem Begins.failed (ok : (Holder.buffer b .idle).Ok) (error : Error) : Begins b (.failed error) :=
  ⟨ok, rfl, by simp [BufferStart.begun]⟩

theorem Begins.done (ok : (Holder.buffer b .idle).Ok) (grown : Nat)
    (fits : b.budgeted = true → b.bytes.length + bytes.length ≤ b.capacity) :
    Begins b (.done (b.extendFromSlice bytes grown)) :=
  ⟨ok_extendFromSlice grown ok.2.1 ok.2.2 fits, rfl, nofun⟩

theorem planCapacity_begins (ok : (Holder.buffer b .idle).Ok) (capacity : Nat) :
    Begins b (b.planCapacity width capacity) := by
  unfold planCapacity
  split
  · exact .failed ok _
  split
  · next budgeted => exact ⟨⟨ok.1, ok.2.1, rfl, budgeted, ok.2.2 budgeted, trivial⟩, rfl, nofun⟩
  · exact ⟨ok, rfl, nofun⟩

theorem reserveCapacity_begins (ok : (Holder.buffer b .idle).Ok) {capacity : Nat} {rest : Bytes} (grown : Nat)
    (fits : b.bytes.length + rest.length ≤ max capacity b.capacity) :
    Begins b (b.reserveCapacity width capacity rest grown) := by
  unfold reserveCapacity
  dsimp only
  generalize grows : max capacity b.plannedCapacity = target
  split
  · exact .failed ok _
  split
  · exact .done ok grown fun _ => by omega
  have room : b.bytes.length + rest.length ≤ target := by omega
  split
  · next reserved reservation =>
    have budgeted := ok.2.1 (by rw [reservation]; rfl)
    split
    · next short =>
      refine ⟨⟨ok.1, ok.2.1, rfl, budgeted, ok.2.2 budgeted, ?_, room⟩, rfl, nofun⟩
      rw [reservation, Option.getD_some]
      omega
    · next enough =>
      refine ⟨⟨ok.1, nofun, fun budgeted => ⟨ok.2.2 budgeted, Nat.le_of_not_lt enough⟩, room⟩, ?_, nofun⟩
      rw [reservation]
      rfl
  · next unreserved =>
    split
    · next budgeted =>
      refine ⟨⟨ok.1, ok.2.1, rfl, budgeted, ok.2.2 budgeted, ?_, room⟩, rfl, nofun⟩
      rw [unreserved, Option.getD_none, Nat.zero_add]
    · next unbudgeted => exact ⟨⟨ok.1, ok.2.1, fun budgeted => absurd budgeted unbudgeted, room⟩, rfl, nofun⟩

theorem extend_begins (ok : (Holder.buffer b .idle).Ok) (bytes : Bytes) (ceiling grown : Nat) :
    Begins b (b.extend width bytes ceiling grown) := by
  unfold extend
  split
  · exact .failed ok _
  next needed checked =>
  rw [Option.filter_eq_some_iff, checkedAdd_eq_some] at checked
  obtain ⟨⟨rfl, -⟩, staged⟩ := checked
  have staged : b.bytes.length + bytes.length ≤ ceiling := by simpa using staged
  split
  · next unbudgeted => exact .done ok grown fun budgeted => by simp [budgeted] at unbudgeted
  split
  · refine reserveCapacity_begins ok grown (Nat.le_trans ?_ (Nat.le_max_left _ _))
    split <;> omega
  · next room => exact .done ok grown fun _ => Nat.le_of_not_lt room

theorem push_begins (ok : (Holder.buffer b .idle).Ok) (byte : UInt8) (ceiling grown : Nat) :
    Begins b (b.push width byte ceiling grown) := by
  unfold push
  split
  · next room =>
    refine .done ok grown fun budgeted => ?_
    rw [budgeted, Bool.not_true, Bool.or_false, decide_eq_true_eq] at room
    exact room
  · exact extend_begins ok [byte] ceiling grown

end BodyBuffer

/-! ### Steps -/

namespace Holder

variable {width : PointerWidth} {limit : Option Nat} {used next : Nat} {h : Holder} {after : Option Holder}
  {failed : List FailedCall}

/-- What a step of a holder does to the accounts. -/
structure Settles (width : PointerWidth) (limit : Option Nat) (used : Nat) (h : Holder) (next : Nat)
    (after : Option Holder) (failed : List FailedCall) : Prop where
  within : Within width limit next
  balance : next + h.charge = used + (after.map charge).getD 0
  ok : ∀ h' ∈ after, h'.Ok
  honest : ∀ call ∈ failed, call.before = call.after

theorem ok_some {h : Holder} (ok : h.Ok) : ∀ h' ∈ some h, h'.Ok := by
  rintro _ ⟨⟩
  exact ok

theorem Settles.begins (within : Within width limit used) {b : BodyBuffer} {start : BufferStart}
    (begins : b.Begins start) :
    Settles width limit used (.buffer b .idle) used (start.begun b).1 (start.begun b).2 :=
  ⟨within, by rw [Option.map_some, Option.getD_some, begins.charge]; rfl, ok_some begins.ok, begins.honest⟩

/-- A step that leaves the counter alone keeps the charge. -/
theorem Settles.quiet (within : Within width limit used) {h' : Holder} (same : h'.charge = h.charge) (ok : h'.Ok) :
    Settles width limit used h used (some h') [] :=
  ⟨within, by rw [Option.map_some, Option.getD_some, same], ok_some ok, nofun⟩

/-- A permit that is dropped is taken off the counter. -/
theorem Settles.refund (within : Within width limit used) {h' : Holder} {amount : Nat}
    (less : h'.charge + amount = h.charge) (le : h.charge ≤ used) (ok : h'.Ok) :
    Settles width limit used h (fetchSub width used amount) (some h') [] := by
  rw [fetchSub_eq (by omega) within.1]
  refine ⟨within.mono (Nat.sub_le _ _), ?_, ok_some ok, nofun⟩
  rw [Option.map_some, Option.getD_some]
  omega

/-- A permit that is granted is put on the counter. -/
theorem Settles.granted {amount : Nat} {b before : BodyBuffer} {purpose : Purpose} {loaded : Option Nat}
    (ok : (Holder.buffer b (.acquiring amount loaded purpose before)).Ok) (within : Within width limit (used + amount)) :
    Settles width limit used (.buffer b (.acquiring amount loaded purpose before)) (used + amount)
      (purpose.granted b amount) [] := by
  obtain ⟨fits, reserved, -, budgeted, charged, wanted⟩ := ok
  cases purpose with
  | plan capacity =>
    refine ⟨within, ?_, ok_some ⟨fits, reserved, budgeted, charged⟩, nofun⟩
    simp only [Purpose.granted, Option.map_some, Option.getD_some, charge, BufferCall.charge]
    omega
  | grow capacity rest =>
    refine ⟨within, ?_, ok_some ⟨fits, nofun, fun _ => ⟨charged, Nat.le_of_eq wanted.1.symm⟩, wanted.2⟩, nofun⟩
    simp only [Purpose.granted, Option.map_some, Option.getD_some, Option.getD_none, charge, BufferCall.charge]
    omega

theorem Step.settles (step : h.Step width limit used next after failed) (ok : h.Ok) (le : h.charge ≤ used)
    (within : Within width limit used) : Settles width limit used h next after failed := by
  cases step with
  | plan b capacity => exact .begins within (b.planCapacity_begins ok capacity)
  | reserve b capacity grown =>
    exact .begins within (b.reserveCapacity_begins ok grown (Nat.le_trans ok.1 (Nat.le_max_right _ _)))
  | extend b bytes ceiling grown => exact .begins within (b.extend_begins ok bytes ceiling grown)
  | push b byte ceiling grown => exact .begins within (b.push_begins ok byte ceiling grown)
  | admitNothing => exact .quiet within rfl ⟨ok, nofun, fun _ => Nat.le_refl 0⟩
  | admitLoad | admitAgain | load | again | copied => exact .quiet within rfl ok
  | admitFailed => exact ⟨within, rfl, nofun, nofun⟩
  | admitted round =>
    obtain ⟨rfl, granted⟩ := acquireRound_granted round
    refine ⟨granted, ?_, ok_some ⟨ok, nofun, fun _ => Nat.le_refl _⟩, nofun⟩
    simp [charge, BufferCall.charge]
  | nothing => exact .granted ok within
  | failed round =>
    obtain ⟨fits, reserved, rfl, budgeted, charged, -⟩ := ok
    exact ⟨within, rfl, ok_some ⟨fits, reserved, fun _ => charged⟩, by simp⟩
  | granted round =>
    obtain ⟨rfl, granted⟩ := acquireRound_granted round
    exact .granted ok granted
  | planned =>
    refine .refund within ?_ le ⟨ok.1, fun _ => ok.2.2.1, fun _ => ok.2.2.2⟩
    simp only [charge, BufferCall.charge, Option.getD_some]
    omega
  | freed =>
    obtain ⟨-, reserved, charged, room⟩ := ok
    exact .quiet within rfl
      ⟨Nat.le_trans (Nat.le_add_right _ _) room, reserved, fun budgeted => (charged budgeted).2, room⟩
  | refunded grown =>
    obtain ⟨fits, reserved, charged, room⟩ := ok
    refine .refund within ?_ le (BodyBuffer.ok_extendFromSlice grown reserved charged fun _ => room)
    simp only [charge, BufferCall.charge, BodyBuffer.extendFromSlice]
    omega
  | drop => exact .quiet within rfl ⟨Nat.le_refl 0, ok.2.1, rfl⟩
  | dropPermit held =>
    refine .refund within ?_ le ⟨ok.1, ok.2.1, ok.2.2⟩
    simp only [charge, BufferCall.charge, held, Option.getD_some, Option.getD_none]
    omega
  | dropFuture released held =>
    refine .refund within ?_ le ⟨ok.1, nofun, ok.2.2⟩
    simp only [charge, BufferCall.charge, held, released, Option.getD_some, Option.getD_none]
    omega
  | gone released unreserved =>
    refine ⟨within, ?_, nofun, nofun⟩
    simp [charge, BufferCall.charge, released, unreserved]

end Holder

namespace Accounts

variable {width : PointerWidth} {a a' : Accounts}

def charged (holders : List Holder) : Nat := (holders.map Holder.charge).sum

theorem charged_append (left right : List Holder) : charged (left ++ right) = charged left + charged right := by
  rw [charged, List.map_append, List.sum_append, charged, charged]

theorem charged_cons (holder : Holder) (right : List Holder) :
    charged (holder :: right) = holder.charge + charged right := by
  rw [charged, List.map_cons, List.sum_cons, charged]

theorem charged_toList (after : Option Holder) : charged after.toList = (after.map Holder.charge).getD 0 := by
  cases after with
  | none => rfl
  | some holder => rw [Option.toList_some, charged_cons]; rfl

/-- The counter is the sum of the permits, and every holder is in order. -/
structure Ok (width : PointerWidth) (a : Accounts) : Prop where
  balanced : a.used = charged a.holders
  within : Within width a.limit a.used
  holders : ∀ holder ∈ a.holders, holder.Ok
  honest : ∀ call ∈ a.failures, call.before = call.after

/-- A holder with no charge can be added. -/
theorem Ok.add (ok : a.Ok width) {holder : Holder} (free : holder.charge = 0) (fine : holder.Ok) :
    Ok width { a with holders := holder :: a.holders } where
  balanced := by rw [charged_cons, free, Nat.zero_add, ← ok.balanced]
  within := ok.within
  holders := List.forall_mem_cons.mpr ⟨fine, ok.holders⟩
  honest := ok.honest

theorem Step.ok (step : Step width a a') (ok : a.Ok width) : a'.Ok width := by
  cases step with
  | new _ budgeted => exact ok.add rfl ⟨Nat.le_refl 0, nofun, fun _ => Nat.le_refl 0⟩
  | fromVec _ bytes capacity fits => exact ok.add rfl ⟨fits, nofun, nofun⟩
  | admits _ bytes capacity fits => exact ok.add rfl fits
  | @step limit used next left right holder after failures failed step =>
    have balanced : used = _ := ok.balanced
    rw [charged_append, charged_cons] at balanced
    have settled := step.settles (ok.holders holder (by simp)) (by omega) ok.within
    have balance := settled.balance
    refine ⟨?_, settled.within, ?_, ?_⟩
    · dsimp only
      rw [charged_append, charged_append, charged_toList]
      omega
    · intro other mem
      simp only [List.mem_append, Option.mem_toList] at mem
      rcases mem with mem | mem | mem
      · exact ok.holders other (by simp [mem])
      · exact settled.ok other mem
      · exact ok.holders other (by simp [mem])
    · intro call mem
      rcases List.mem_append.mp mem with mem | mem
      · exact ok.honest call mem
      · exact settled.honest call mem

/-! ## The result -/

theorem Reachable.ok (reachable : Reachable width a) : a.Ok width := by
  obtain ⟨limit, run⟩ := reachable
  induction run with
  | refl => exact ⟨rfl, ⟨Nat.zero_le _, fun _ _ => Nat.zero_le _⟩, nofun, nofun⟩
  | tail _ step ih => exact step.ok ih

/-- The budget accounts for every buffer. -/
theorem Reachable.accounted (reachable : Reachable width a) :
    a.used = (a.holders.map Holder.charge).sum ∧ (∀ limit, a.limit = some limit → a.used ≤ limit) ∧
    (∀ holder ∈ a.holders, holder.budgeted = true → holder.allocated ≤ holder.charge) ∧
    (∀ call ∈ a.failures, call.before = call.after) ∧ (a.holders = [] → a.used = 0) := by
  have ok := reachable.ok
  refine ⟨ok.balanced, ok.within.2, fun holder mem => (ok.holders holder mem).charged, ok.honest, fun none => ?_⟩
  rw [ok.balanced, none]
  rfl

theorem Step.alone {limit : Option Nat} {used next : Nat} {holder after : Holder} {failed : List FailedCall}
    (step : holder.Step width limit used next (some after) failed) :
    Step width ⟨limit, used, [holder], []⟩ ⟨limit, next, [after], failed⟩ :=
  @Step.step width limit used next [] [] holder (some after) [] failed step

def fourBytes : BodyBuffer := ⟨[1, 2, 3, 4], 4, some 4, true, none, 0⟩

/-- A budget of ten bytes that has refused to let the buffer grow to eight. -/
def refused : Accounts := ⟨some 10, 4, [.buffer fourBytes .idle], [⟨fourBytes, fourBytes⟩]⟩

theorem refused_reachable : Reachable .bits64 refused := by
  refine ⟨some 10, .head (.admits _ [1, 2, 3, 4] 4 (by decide)) ?_⟩
  refine .head (.alone (.admitLoad (by decide))) ?_
  refine .head (.alone (.admitted (show acquireRound .bits64 (some 10) 0 4 0 false = .granted 4 by decide))) ?_
  refine .head (.alone (.extend fourBytes [5] 8 0)) ?_
  refine .head (.alone (.load (by decide))) ?_
  refine .single (.alone (.failed (show acquireRound .bits64 (some 10) 4 8 4 false = .failed _ from rfl)))

theorem refused_accounted : refused.used = 4 ∧ ∀ call ∈ refused.failures, call.before = call.after :=
  ⟨refused_reachable.accounted.1, refused_reachable.accounted.2.2.2.1⟩

end Accounts

end NbReq
