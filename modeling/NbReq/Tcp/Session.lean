import NbReq.TcpIo
import NbReq.Lib.Tasks

/-!
# One TCP session and its callers

The calls of the user half and of the owner half on one session (`tcp/io.rs`) as a system of tasks. A call is
a list of sections under the session lock; a blocking call waits between two of them, and the release closure
and the finish job that a section takes are run by the same thread right after it.

Beside the session the state records the traffic: what every send was given and what was accepted of it, what
the owner took, what it reported as written, what it pushed and what was read.
-/

namespace NbReq

open TaskSystem

/-- One call of `try_send` or `send`: its input, what is left of it, and its result once it returned. -/
structure SendCall where
  input : Bytes
  remaining : Bytes
  result : Option (Except (TcpSendErrorKind × Bytes) Unit) := none

/-- A session with its traffic. `sent` lists the accepted chunks with the calls they came from. -/
structure Session where
  io : TcpIo
  runMode : RunMode
  calls : List SendCall := []
  sent : List (Nat × Bytes) := []
  taken : Bytes := []
  written : Bytes := []
  pushed : Bytes := []
  read : Bytes := []
  eofReported : Bool := false
  finishRequests : Nat := 0
  releasesRun : List (List Permit) := []
  dispatched : List CallbackJob := []
  panicked : Bool := false

/-- The sections of the calls on a session, and what a section leaves to its thread. -/
inductive SessionAct where
  -- the user half
  | trySend (bytes : Bytes)
  | send (bytes : Bytes)
  | sendChunk (call : Nat)
  | sendWait (call : Nat)
  | tryRead (space : Nat)
  | read (space : Nat)
  | readWait (space : Nat)
  | tryFinish
  | finish
  | finishWait
  | finishWith (callback : Callback)
  | beginCallbackEvent (callback : Callback)
  | registerFinish (callback : Callback) (permit : Permit)
  | activateFinish
  | dropPermit (permit : Permit)
  | writerDropped
  | readerDropped
  -- the TLS upgrade
  | beginUpgrade
  | attachTlsReserve (reserve : List Permit)
  | completeUpgrade
  -- the owner half
  | takeOutbound
  | takeOutboundUpTo (capacity : Nat)
  | takeTlsOutboundUpTo (capacity : Nat)
  | writeProgress (nbytes : Nat)
  | completeWriteShutdown
  | closeWriteAdmissionIfIdle
  | pushInbound (bytes : Bytes)
  | peerClosed
  | ownerDropped
  -- `cancel`, `reset` and `fail` of the owner, and the abort that a dropped half ends in
  | abort (kind : TcpAbort)
  -- after a section
  | runRelease (permits : List Permit)
  | dispatchJob (job : CallbackJob)

namespace Session

def accepted (s : Session) : Bytes := s.sent.flatMap Prod.snd

def acceptedFrom (s : Session) (call : Nat) : Bytes := (s.sent.filter (·.1 == call)).flatMap Prod.snd

/-- `TcpIoShared::pair`. -/
def new (id : RequestId) (runMode : RunMode) (sendWindow receiveWindow : Nat) (onRelease : List Permit) :
    Session where
  io := { id := id, sendWindow := sendWindow, receiveWindow := receiveWindow, onRelease := some onRelease }
  runMode := runMode

/-- What the thread does after a section: the release closure, then the finish job. -/
def after (effect : IoEffect) : List SessionAct :=
  (effect.release.map .runRelease).toList ++ (effect.job.map .dispatchJob).toList

/-- One attempt of a call to hand over `chunk`. -/
def attempt (s : Session) (call : Nat) (chunk : Bytes) : Session × Except TcpSendErrorKind Unit :=
  match s.io.trySend chunk with
  | (io, .ok ()) => ({ s with io := io, sent := s.sent ++ [(call, chunk)] }, .ok ())
  | (io, .error kind) => ({ s with io := io }, .error kind)

/-- The call has `remaining` left, or has returned. -/
def note (s : Session) (call : Nat) (remaining : Bytes)
    (result : Option (Except (TcpSendErrorKind × Bytes) Unit)) : Session :=
  { s with calls := s.calls.modify call fun c => { c with remaining := remaining, result := result } }

def enter (s : Session) (bytes : Bytes) : Session := { s with calls := s.calls ++ [⟨bytes, bytes, none⟩] }

/-- `try_send` as a call of its own. -/
def trySend (s : Session) (bytes : Bytes) : Session :=
  let call := s.calls.length
  match (s.enter bytes).attempt call bytes with
  | (s, .ok ()) => s.note call [] (some (.ok ()))
  | (s, .error kind) => s.note call bytes (some (.error (kind, bytes)))

/-- The part of `send` before its loop. -/
def send (s : Session) (bytes : Bytes) : Session × List SessionAct :=
  let call := s.calls.length
  let s := s.enter bytes
  if s.runMode = .manual then
    (s.note call bytes (some (.error (.wrongMode, bytes))), [])
  else if bytes.isEmpty then
    (s.note call bytes (some (.ok ())), [])
  else
    (s, [.sendChunk call])

/-- One attempt of the loop of `send`: a chunk of at most a send window. -/
def sendChunk (s : Session) (call : Nat) : Session × List SessionAct :=
  match s.calls[call]? with
  | none => (s, [])
  | some c =>
    let last := c.remaining.length ≤ s.io.sendWindow
    let chunk := c.remaining.take s.io.sendWindow
    let rest := c.remaining.drop s.io.sendWindow
    match s.attempt call chunk with
    | (s, .ok ()) =>
      if last then (s.note call rest (some (.ok ())), []) else (s.note call rest none, [.sendChunk call])
    | (s, .error .wouldBlock) => (s, [.sendWait call])
    | (s, .error kind) => (s.note call (chunk ++ rest) (some (.error (kind, chunk ++ rest))), [])

/-- What the wait of `send_one_blocking` waits for. -/
def sendReady (s : Session) (call : Nat) : Bool :=
  match s.calls[call]? with
  | none => true
  | some c =>
    s.io.aborted.isSome || s.io.writeFinishRequested || s.io.writeFinished ||
      (c.remaining.take s.io.sendWindow).length ≤ s.io.sendWindow - (s.io.outboundBytes + s.io.pumpBytes)

/-- `try_read`, with its result. -/
def tryRead (s : Session) (space : Nat) : Session × List SessionAct × Except TcpStreamError TcpRead :=
  let (io, effect, result) := s.io.tryRead space
  let s := { s with io := io }
  (match result with
    | .ok (.data bytes) => { s with read := s.read ++ bytes }
    | .ok .eof => { s with eofReported := true }
    | _ => s, after effect, result)

/-- `try_finish`, with its result. -/
def tryFinish (s : Session) : Session × Except TcpFinishError Bool :=
  let (io, result) := s.io.tryFinish
  ({ s with io := io, finishRequests := s.finishRequests + 1 }, result)

/-- What one of the owner's takes does to the traffic. -/
def took (s : Session) (result : TcpIo × Option Bytes) : Session :=
  { s with io := result.1, taken := s.taken ++ result.2.getD [] }

/-- A section that changes nothing but the session itself. -/
def onIo (s : Session) (result : TcpIo × IoEffect) : Session × List SessionAct :=
  ({ s with io := result.1, panicked := s.panicked || result.2.panicked }, after result.2)

/-- A check of a session under its lock, followed by an abort in a section of its own. -/
def abortIf (s : Session) (test : Bool) (kind : TcpAbort) : Session × List SessionAct :=
  (s, if test then [.abort kind] else [])

/-- Runs one action. The choice is what `try_begin_callback_event` of the registry returns. -/
def exec (admission : Option Permit) (act : SessionAct) (s : Session) : Session × List SessionAct :=
  match act with
  | .trySend bytes => (s.trySend bytes, [])
  | .send bytes => s.send bytes
  | .sendChunk call => s.sendChunk call
  | .sendWait call => (s, [.sendChunk call])
  | .tryRead space => let (s, acts, _) := s.tryRead space; (s, acts)
  | .read space =>
    if s.runMode = .manual then
      (s, [])
    else
      let (s, acts, result) := s.tryRead space
      (s, acts ++ match result with | .ok .pending => [.readWait space] | _ => [])
  | .readWait space => (s, [.read space])
  | .tryFinish => (s.tryFinish.1, [])
  | .finish =>
    if s.runMode = .manual then
      (s, [])
    else
      let (s, result) := s.tryFinish
      (s, match result with | .ok false => [.finishWait] | _ => [])
  | .finishWait => (s, [.finish])
  | .finishWith callback =>
    (s, if s.io.finishCallbackRegistered then [] else [.beginCallbackEvent callback])
  | .beginCallbackEvent callback =>
    (s, match admission with | some permit => [.registerFinish callback permit] | none => [])
  | .registerFinish callback permit =>
    match s.io.registerFinish callback permit with
    | some io => ({ s with io := io, finishRequests := s.finishRequests + 1 }, [.activateFinish])
    | none => (s, [.dropPermit permit])
  | .activateFinish => s.onIo (s.io.activateFinish 0)
  | .dropPermit _ => (s, [])
  | .writerDropped => s.abortIf s.io.writerDropAborts .cancelled
  | .readerDropped => s.abortIf s.io.readerDropAborts .cancelled
  | .beginUpgrade => (match s.io.beginUpgrade with | .ok io => { s with io := io } | .error _ => s, [])
  | .attachTlsReserve reserve =>
    (match s.io.attachTlsReserve reserve with | .ok io => { s with io := io } | .error _ => s, [])
  | .completeUpgrade => ({ s with io := s.io.completeUpgrade }, [])
  | .takeOutbound => (s.took s.io.takeOutbound, [])
  | .takeOutboundUpTo capacity => (s.took (s.io.takeOutboundUpTo capacity), [])
  | .takeTlsOutboundUpTo capacity => (s.took (s.io.takeTlsOutboundUpTo capacity), [])
  | .writeProgress nbytes =>
    ({ s with
        io := s.io.writeProgress nbytes
        written := s.written ++ (TcpIo.drainChunks nbytes s.io.pump s.io.pumpOffset).1 }, [])
  | .completeWriteShutdown =>
    let (io, effect, _) := s.io.completeWriteShutdown 0
    s.onIo (io, effect)
  | .closeWriteAdmissionIfIdle =>
    ({ s with io := s.io.closeWriteAdmissionIfIdle.1, finishRequests := s.finishRequests + 1 }, [])
  | .pushInbound bytes =>
    match s.io.pushInbound bytes with
    | (io, .ok ()) => ({ s with io := io, pushed := s.pushed ++ bytes }, [])
    | (io, .error _) => ({ s with io := io }, [])
  | .peerClosed => ({ s with io := s.io.peerClosed }, [])
  | .ownerDropped => s.abortIf s.io.ownerDropAborts .engineStopped
  | .abort kind => s.onIo (s.io.abort 0 kind)
  | .runRelease permits => ({ s with releasesRun := s.releasesRun ++ [permits] }, [])
  | .dispatchJob job => ({ s with dispatched := s.dispatched ++ [job] }, [])

def ready (act : SessionAct) (s : Session) : Bool :=
  match act with
  | .sendWait call => s.sendReady call
  | .readWait _ => s.io.aborted.isSome || s.io.inboundBytes != 0 || s.io.peerFin
  | .finishWait => s.io.aborted.isSome || s.io.writeFinished
  | _ => true

def isCall : SessionAct → Bool
  | .sendChunk _ | .sendWait _ | .readWait _ | .finishWait | .beginCallbackEvent _ | .registerFinish _ _
  | .activateFinish | .dropPermit _ | .runRelease _ | .dispatchJob _ => false
  | _ => true

/-- A thread that is in no call starts one. -/
inductive Call (s : Session) : Nat → List SessionAct → List SessionAct → Prop
  | mk {task : Nat} {act : SessionAct} (call : isCall act = true) : Call s task [] [act]

def system : TaskSystem Session SessionAct (Option Permit) where
  enabled act s := ready act s = true
  exec := exec
  jump := Call
  drift _ _ := False

/-- The states that runs of the callers reach, every step being allowed. The windows are not empty, as `pair`
asserts. -/
inductive ReachableBy (allowed : Config Session SessionAct → Label SessionAct → Prop)
    (c : Config Session SessionAct) : Prop
  | mk (id : RequestId) (runMode : RunMode) (sendWindow receiveWindow : Nat) (onRelease : List Permit)
      (sends : 0 < sendWindow) (receives : 0 < receiveWindow)
      (run : Run system allowed ⟨new id runMode sendWindow receiveWindow onRelease, [[]]⟩ c)

def Reachable (c : Config Session SessionAct) : Prop := ReachableBy anyStep c

/-! ## Scripts -/

instance : DecidableRel system.enabled := fun act s => inferInstanceAs (Decidable (ready act s = true))

/-- The only thread of a script starts a call. -/
def call (act : SessionAct) : Turn system :=
  .jump 0 (fun acts => acts.isEmpty && isCall act) (fun _ => [act]) fun s acts possible => by
    obtain ⟨empty, isCall⟩ := Bool.and_eq_true_iff.mp possible
    rw [List.isEmpty_iff.mp empty]
    exact .mk isCall

/-- It takes the next action of its call, which may be admitted to the callback events. -/
def next (admission : Option Permit := none) : Turn system := .run 0 admission

theorem reached_of_script (allowed : Config Session SessionAct → Label SessionAct → Prop)
    (allows : Config Session SessionAct → Label SessionAct → Bool)
    (sound : ∀ c label, allows c label = true → allowed c label) (window : Nat) (positive : 0 < window)
    (script : List (Turn system)) (P : Session → Prop) [DecidablePred P]
    (played : (play allows ⟨new ⟨0, 0⟩ .spawned window window [], [[]]⟩ script).any (fun c => decide (P c.shared)) = true) :
    ∃ c, ReachableBy allowed c ∧ P c.shared := by
  obtain ⟨c, run, holds⟩ := reach allows sound script (fun c => P c.shared) played
  exact ⟨c, ⟨_, _, _, _, _, positive, positive, run⟩, holds⟩

theorem reached_of_any_script (window : Nat) (positive : 0 < window) (script : List (Turn system))
    (P : Session → Prop) [DecidablePred P]
    (played : (play (fun _ _ => true) ⟨new ⟨0, 0⟩ .spawned window window [], [[]]⟩ script).any
      (fun c => decide (P c.shared)) = true) :
    ∃ c, Reachable c ∧ P c.shared :=
  reached_of_script anyStep (fun _ _ => true) (fun _ _ _ => trivial) window positive script P played

end Session

end NbReq
