import NbReq.Request
import NbReq.Stream

/-!
# Uploads on the wire

`NativeUpload` of `native_http.rs`: what the transport makes of the chunks of a streamed request body.
-/

namespace NbReq

/-- `stream::UploadPoll`. -/
inductive UploadPoll where
  | chunk (bytes : Bytes)
  | pending
  | finished
  | failed (error : Error)
deriving DecidableEq, Repr

/-- `native_http::NativeUpload`; `chunks` records what came from the producer. -/
structure NativeUpload where
  framing : UploadFraming
  producerFinished : Bool
  pendingWire : Option Bytes
  chunks : List Bytes
deriving DecidableEq, Repr

/-- `native_http::UploadWire`. -/
inductive UploadWire where
  | pending
  | bytes (wire : Bytes)
  | complete
deriving DecidableEq, Repr

def upperHex (n : Nat) : Bytes := (Nat.toDigits 16 n).map fun c => UInt8.ofNat c.toUpper.toNat

/-- A chunk of an upload as it goes on the wire. -/
def UploadFraming.frame : UploadFraming → Bytes → Bytes
  | .fixed _, chunk => chunk
  | .chunked, chunk => upperHex chunk.length ++ [0x0D, 0x0A] ++ chunk ++ [0x0D, 0x0A]

def UploadFraming.terminator : UploadFraming → Bytes
  | .fixed _ => []
  | .chunked => [0x30, 0x0D, 0x0A, 0x0D, 0x0A]

namespace NativeUpload

def new (framing : UploadFraming) : NativeUpload := ⟨framing, false, none, []⟩

def prepareWire (u : NativeUpload) : UploadPoll → Except Error NativeUpload
  | .chunk chunk =>
    .ok { u with pendingWire := some (u.framing.frame chunk), chunks := u.chunks ++ [chunk] }
  | .pending => .ok u
  | .finished => match u.framing with
    | .fixed _ => .ok { u with producerFinished := true }
    | .chunked => .ok { u with producerFinished := true, pendingWire := some u.framing.terminator }
  | .failed error => .error error

/-- `NativeUpload::next_wire`; `poll` is what the body's queue answers if it is asked. -/
def nextWire (u : NativeUpload) (poll : UploadPoll) (capacity : Option Nat) :
    Except Error (NativeUpload × UploadWire) := do
  let u ← if u.pendingWire.isNone && !u.producerFinished then u.prepareWire poll else pure u
  match u.pendingWire with
  | some wire =>
    if capacity.any (wire.length > ·) then return (u, .pending)
    else return ({ u with pendingWire := none }, .bytes wire)
  | none => return (u, if u.producerFinished then .complete else .pending)

def isComplete (u : NativeUpload) : Bool := u.producerFinished && u.pendingWire.isNone

end NativeUpload

end NbReq
