import Mathlib.Algebra.Group.Nat.Defs

/-!
# Shared value types

The error, identity and completion types that every part of the engine passes around, together with
the machine integers whose overflow the engine checks for. Byte strings are lists of octets; a Rust
`String` is the byte string of its UTF-8 encoding, since every check of the source on a string looks
at its bytes.
-/

namespace NbReq

/-- A byte string (`Vec<u8>`, `&[u8]`, or the UTF-8 bytes of a `String`). -/
abbrev Bytes := List UInt8

/-- The target's pointer width: it fixes `usize::MAX` and `isize::MAX`. -/
inductive PointerWidth where
  | bits32
  | bits64
deriving DecidableEq, Repr

/-- `usize::MAX`. -/
def PointerWidth.usizeMax : PointerWidth → Nat
  | .bits32 => 2 ^ 32 - 1
  | .bits64 => 2 ^ 64 - 1

/-- `isize::MAX as usize`, the largest allocation Rust permits. -/
def PointerWidth.isizeMax : PointerWidth → Nat
  | .bits32 => 2 ^ 31 - 1
  | .bits64 => 2 ^ 63 - 1

/-- `u64::MAX`. -/
def u64Max : Nat := 2 ^ 64 - 1

/-- `usize::checked_add`. -/
def checkedAdd (width : PointerWidth) (a b : Nat) : Option Nat :=
  if a + b ≤ width.usizeMax then some (a + b) else none

theorem checkedAdd_eq_some {width : PointerWidth} {a b c : Nat} :
    checkedAdd width a b = some c ↔ c = a + b ∧ a + b ≤ width.usizeMax := by
  unfold checkedAdd
  split <;> simp_all [eq_comm]

/-! ## Errors -/

/-- `types::ErrorKind`. -/
inductive ErrorKind where
  | engineStopped | wrongEngine | wrongMode | reentrantDrive | reentrantOperation
  | invalidRequest | queueFull | limit | backendUnavailable | unsupported
  | transport | timeout | redirect | internal
deriving DecidableEq, Repr

/-- `types::TimeoutKind`. -/
inductive TimeoutKind where
  | connect | inactivity | total | unknown
deriving DecidableEq, Repr

/-- `types::TransportStage`. -/
inductive TransportStage where
  | dns | connect | tls | send | receive | http
deriving DecidableEq, Repr

/-- `types::TlsFailure`. -/
inductive TlsFailure where
  | configuration | certificateHostnameMismatch | certificateUnknownIssuer | certificateExpired
  | certificateNotYetValid | certificateRevoked | certificateInvalid | peerAlert | protocol
  | truncated | io | unknown
deriving DecidableEq, Repr

/-- `types::DnsFailure`. -/
inductive DnsFailure where
  | serverFailure | refused | malformed | truncated | noNameserver | protocol | io | unknown
deriving DecidableEq, Repr

/-- `types::LimitKind`. -/
inductive LimitKind where
  | bufferedBodyBytes | requestBodyBytes | requestHeaderBytes | requestHeaderCount
  | responseBodyBytes | responseHeaderBytes | responseHeaderCount | streamingQueueBytes
  | resolveResults | tcpQueueBytes
deriving DecidableEq, Repr

/-- `types::Error`. -/
structure Error where
  kind : ErrorKind
  message : String
  timeoutKind : Option TimeoutKind
  transportStage : Option TransportStage
  tlsFailure : Option TlsFailure
  dnsFailure : Option DnsFailure
  limitKind : Option LimitKind
deriving DecidableEq, Repr

def Error.new (kind : ErrorKind) (message : String) : Error :=
  ⟨kind, message, none, none, none, none, none⟩

def Error.limit (kind : LimitKind) (message : String) : Error :=
  { Error.new .limit message with limitKind := some kind }

def Error.transport (stage : TransportStage) (message : String) : Error :=
  { Error.new .transport message with transportStage := some stage }

theorem bind_eq_ok {ε α β : Type} {x : Except ε α} {f : α → Except ε β} {b : β} :
    (x >>= f) = .ok b ↔ ∃ a, x = .ok a ∧ f a = .ok b := by
  cases x with
  | error | ok => simp [bind, Except.bind]

theorem throw_ne_ok {ε α : Type} {error : ε} {a : α} : (throw error : Except ε α) ≠ .ok a := nofun

theorem check_eq_ok {α β : Type} {c : Prop} [Decidable c] {error : Error} {f : α → Except Error β}
    {rest : Except Error β} {b : β} : (if c then throw error >>= f else rest) = .ok b ↔ ¬c ∧ rest = .ok b := by
  by_cases c <;> simp [*, bind_eq_ok, throw_ne_ok]

theorem pure_eq_ok {ε α : Type} {a b : α} : (pure a : Except ε α) = .ok b ↔ b = a := by
  simp [pure, Except.pure, eq_comm]

theorem ok_of_toOption {ε α : Type} {result : Except ε α} {value : α} (ok : result.toOption = some value) :
    result = .ok value := by
  cases result with
  | error => cases ok
  | ok => exact congrArg _ (Option.some.inj ok)

/-! ## Identities and completions -/

/-- `types::RequestId`: the engine it belongs to and the sequence number allocated by it. -/
structure RequestId where
  engine : Nat
  sequence : Nat
deriving DecidableEq, Repr

/-- `types::Header`. -/
structure Header where
  name : Bytes
  value : Bytes
deriving DecidableEq, Repr

/-- `types::Response`. -/
structure Response where
  status : Nat
  headers : List Header
  body : Bytes
deriving DecidableEq, Repr

/-- The two run modes of an engine (`types::RunMode`). -/
inductive RunMode where
  | spawned
  | manual
deriving DecidableEq, Repr

/-- The three-way terminal outcome every operation kind shares (`Completion`, `ResolveCompletion`,
`TcpConnectCompletion`, `TlsConnectCompletion`, `StreamTerminal`), over the payload of a success. -/
inductive Completion (α : Type) where
  | completed (value : α)
  | failed (error : Error)
  | cancelled
deriving DecidableEq, Repr

inductive Outcome where
  | completed
  | failed
  | cancelled
deriving DecidableEq, Repr

def Completion.outcome {α : Type} : Completion α → Outcome
  | .completed _ => .completed
  | .failed _ => .failed
  | .cancelled => .cancelled

end NbReq
