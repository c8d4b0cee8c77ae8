import NbReq.Types
import Mathlib

/-!
# Admission counters, permits and metric counters

The seven `Arc<AtomicUsize>` counters of `Shared`, the permits (`AdmissionPermit`, `BytePermit`) that
hold a share of one of them until they are dropped, and the monotone metric counters. A permit names
its counter instead of pointing to it. `underflow` records that some drop took a counter below zero:
`fetch_sub` wraps there, and the wrapped value is kept as well.
-/

namespace NbReq

/-! ## Counters and permits -/

/-- The admission counters of `Shared`. -/
inductive Counter where
  | inflight | resolutionInflight | callbackInflight | streamQueuedBytes | queuedBytes
  | tcpConnections | tcpQueuedBytes
deriving DecidableEq, Repr

/-- `AdmissionPermit` (amount 1) or `BytePermit`. -/
structure Permit where
  counter : Counter
  amount : Nat
deriving DecidableEq, Repr

structure Counters where
  used : Counter → Nat
  underflow : Bool

/-- All counters at zero, as `Shared::new` creates them. -/
def Counters.zero : Counters := ⟨fun _ => 0, false⟩

/-- The counters after `permit` was acquired. -/
def Counters.charge (counters : Counters) (permit : Permit) : Counters :=
  { counters with used := fun k =>
      if k = permit.counter then counters.used k + permit.amount else counters.used k }

/-- `AdmissionPermit::try_acquire`. -/
def Counters.tryAdmit (counters : Counters) (counter : Counter) (limit : Nat) :
    Option (Counters × Permit) :=
  if counters.used counter < limit then
    some (counters.charge ⟨counter, 1⟩, ⟨counter, 1⟩)
  else
    none

/-- `BytePermit::try_acquire`. -/
def Counters.tryReserve (counters : Counters) (width : PointerWidth) (counter : Counter)
    (limit bytes : Nat) : Option (Counters × Permit) :=
  match checkedAdd width (counters.used counter) bytes with
  | some next =>
    if next ≤ limit then some (counters.charge ⟨counter, bytes⟩, ⟨counter, bytes⟩) else none
  | none => none

/-- Dropping a permit: `fetch_sub`, which wraps below zero. -/
def Counters.release (counters : Counters) (width : PointerWidth) (permit : Permit) : Counters :=
  if permit.amount ≤ counters.used permit.counter then
    { counters with used := fun k =>
        if k = permit.counter then counters.used k - permit.amount else counters.used k }
  else
    { used := fun k =>
        if k = permit.counter then counters.used k + (width.usizeMax + 1) - permit.amount
        else counters.used k
      underflow := true }

/-- Dropping several permits, in order. -/
def Counters.releaseAll (counters : Counters) (width : PointerWidth) (permits : List Permit) :
    Counters :=
  permits.foldl (fun counters permit => counters.release width permit) counters

/-- The amount that a list of permits holds of one counter. -/
def held (counter : Counter) (permits : List Permit) : Nat :=
  (permits.map fun permit => if permit.counter = counter then permit.amount else 0).sum

@[simp] theorem held_nil (counter : Counter) : held counter [] = 0 := rfl

@[simp] theorem held_cons (counter : Counter) (permit : Permit) (permits : List Permit) :
    held counter (permit :: permits) =
      (if permit.counter = counter then permit.amount else 0) + held counter permits := by
  simp [held]

@[simp] theorem held_append (counter : Counter) (permits permits' : List Permit) :
    held counter (permits ++ permits') = held counter permits + held counter permits' := by
  simp [held]

theorem Counters.tryAdmit_eq_some {counters counters' : Counters} {counter : Counter} {limit : Nat}
    {permit : Permit} (h : counters.tryAdmit counter limit = some (counters', permit)) :
    permit = ⟨counter, 1⟩ ∧ counters' = counters.charge permit ∧ counters.used counter < limit := by
  unfold tryAdmit at h
  split at h
  · simp only [Option.some.injEq, Prod.mk.injEq] at h
    obtain ⟨rfl, rfl⟩ := h
    exact ⟨rfl, rfl, by assumption⟩
  · cases h

theorem Counters.tryReserve_eq_some {counters counters' : Counters} {width : PointerWidth}
    {counter : Counter} {limit bytes : Nat} {permit : Permit}
    (h : counters.tryReserve width counter limit bytes = some (counters', permit)) :
    permit = ⟨counter, bytes⟩ ∧ counters' = counters.charge permit ∧
      counters.used counter + bytes ≤ limit := by
  unfold tryReserve at h
  split at h
  · next next fits =>
    split at h
    · simp only [Option.some.injEq, Prod.mk.injEq] at h
      obtain ⟨rfl, rfl⟩ := h
      obtain ⟨rfl, -⟩ := checkedAdd_eq_some.mp fits
      exact ⟨rfl, rfl, by assumption⟩
    · cases h
  · cases h

/-! ## Metric counters -/

inductive Family where
  | request
  | resolution
  | tcpConnect
deriving DecidableEq, Repr

/-- `metrics::Metrics`: the accepted and the completed/failed/cancelled counters of each family. -/
structure Metrics where
  accepted : Family → Nat
  terminal : Family → Outcome → Nat

def Metrics.zero : Metrics := ⟨fun _ => 0, fun _ _ => 0⟩

/-- A metric counter saturates at `u64::MAX`. -/
def saturatingSucc (n : Nat) : Nat := min (n + 1) u64Max

/-- `request_accepted`, `resolution_accepted`, `tcp_connect_accepted`. -/
def Metrics.countAccepted (metrics : Metrics) (family : Family) : Metrics :=
  { metrics with accepted := fun f =>
      if f = family then saturatingSucc (metrics.accepted f) else metrics.accepted f }

/-- `request_terminal`, `stream_terminal`, `resolution_terminal`, `tcp_connect_terminal`. -/
def Metrics.countTerminal (metrics : Metrics) (family : Family) (outcome : Outcome) : Metrics :=
  { metrics with terminal := fun f o =>
      if f = family ∧ o = outcome then saturatingSucc (metrics.terminal f o)
      else metrics.terminal f o }

end NbReq
