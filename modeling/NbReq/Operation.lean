import NbReq.Stream

/-!
# Operations and their terminal commit

The per-operation state records of `registry.rs` and the critical sections on them: `commit`,
`activate_callback`, `publish_terminal`, the taking of the terminal job, and the waiters' reads. HTTP
requests and resolutions commit and deliver in one section; TCP and TLS connects commit first
(`terminal`) and deliver after a second section (`delivery_ready`); a streaming request commits in its
shared response state.

A section returns the new record and an `Effect`: what it counted, the job it took, the permits it
dropped, and whether one of its `expect`s failed.
-/

namespace NbReq

/-- What a section on one operation did outside its record. -/
structure Effect where
  won : Bool := false
  counted : Option (Family × Outcome) := none
  job : Option CallbackJob := none
  dropped : List Permit := []
  panicked : Bool := false

/-! ## Buffered HTTP -/

/-- `registry::RequestState`. -/
structure RequestState where
  id : RequestId
  completion : Option Done
  terminal : Bool
  callback : Option Callback
  callbackActive : Bool
  inflightPermit : Option Permit
  callbackPermit : Option Permit

namespace RequestState

/-- `RequestState::take_terminal_job`. `self` is the reference to this record. -/
def takeTerminalJob (self : Nat) (s : RequestState) : RequestState × Effect :=
  if !s.callbackActive || !s.terminal then
    (s, {})
  else
    match s.callback with
    | none => (s, {})
    | some callback =>
      match s.completion, s.inflightPermit, s.callbackPermit with
      | some completion, some inflight, some permit =>
        ({ s with callback := none, completion := none, inflightPermit := none,
                  callbackPermit := none },
          { job := some (CallbackJob.new s.id callback (.operation self completion)
              [inflight, permit]) })
      -- One of the three expects fails; what was taken before it is dropped by the unwinding.
      | some _, some inflight, none =>
        ({ s with callback := none, completion := none, inflightPermit := none },
          { dropped := [inflight], panicked := true })
      | some _, none, _ =>
        ({ s with callback := none, completion := none }, { panicked := true })
      | none, _, _ => ({ s with callback := none }, { panicked := true })

def permits (s : RequestState) : List Permit := s.inflightPermit.toList ++ s.callbackPermit.toList

def commit (self : Nat) (s : RequestState) (completion : Done) : RequestState × Effect :=
  if s.terminal then
    (s, {})
  else
    let (s, taken) := { s with terminal := true, completion := some completion }.takeTerminalJob self
    let counted := some (Family.request, completion.outcome)
    if s.callback.isNone && taken.job.isNone then
      ({ s with inflightPermit := none, callbackPermit := none },
        { taken with won := true, counted := counted, dropped := taken.dropped ++ s.permits })
    else
      (s, { taken with won := true, counted := counted })

def activateCallback (self : Nat) (s : RequestState) : RequestState × Effect :=
  { s with callbackActive := true }.takeTerminalJob self

/-- `RequestState::try_completion`; `wait` and `wait_for` end in the same take. -/
def tryCompletion (s : RequestState) : RequestState × Option Done :=
  ({ s with completion := none }, s.completion)

end RequestState

/-! ## Resolutions -/

/-- `registry::ResolveState`: there is no separate `terminal`, the completion is never taken out. -/
structure ResolveState where
  id : RequestId
  completion : Option Done
  callback : Option Callback
  callbackActive : Bool
  inflightPermit : Option Permit
  callbackPermit : Option Permit

namespace ResolveState

def takeTerminalJob (self : Nat) (s : ResolveState) : ResolveState × Effect :=
  if !s.callbackActive || s.completion.isNone then
    (s, {})
  else
    match s.callback with
    | none => (s, {})
    | some callback =>
      match s.completion, s.inflightPermit, s.callbackPermit with
      | some completion, some inflight, some permit =>
        ({ s with callback := none, inflightPermit := none, callbackPermit := none },
          { job := some (CallbackJob.new s.id callback (.operation self completion)
              [inflight, permit]) })
      | some _, some inflight, none =>
        ({ s with callback := none, inflightPermit := none },
          { dropped := [inflight], panicked := true })
      | some _, none, _ => ({ s with callback := none }, { panicked := true })
      | none, _, _ => ({ s with callback := none }, { panicked := true })

def permits (s : ResolveState) : List Permit := s.inflightPermit.toList ++ s.callbackPermit.toList

def commit (self : Nat) (s : ResolveState) (completion : Done) : ResolveState × Effect :=
  if s.completion.isSome then
    (s, {})
  else
    let (s, taken) := { s with completion := some completion }.takeTerminalJob self
    let counted := some (Family.resolution, completion.outcome)
    if s.callback.isNone && taken.job.isNone then
      ({ s with inflightPermit := none, callbackPermit := none },
        { taken with won := true, counted := counted, dropped := taken.dropped ++ s.permits })
    else
      (s, { taken with won := true, counted := counted })

def activateCallback (self : Nat) (s : ResolveState) : ResolveState × Effect :=
  { s with callbackActive := true }.takeTerminalJob self

end ResolveState

/-! ## TCP and TLS connects

`TcpConnectInner` and `TlsConnectInner` have the same fields and the same sections; a TLS connect
carries in addition whether it is an upgrade, which its `commit` does not count. -/

/-- `registry::TcpConnectState`, and the common part of `registry::TlsConnectState`. -/
structure ConnectState where
  id : RequestId
  sendWindow : Nat
  receiveWindow : Nat
  completion : Option Done
  terminal : Bool
  deliveryReady : Bool
  callback : Option Callback
  callbackActive : Bool
  occupancyPermit : Option Permit
  queuedBytesPermit : Option Permit
  metricBytesPermit : Option Permit
  dnsBorrow : Option Permit
  callbackPermit : Option Permit

namespace ConnectState

/-- `TcpConnectState::take_terminal_job`, `TlsConnectState::take_callback`. -/
def takeTerminalJob (self : Nat) (s : ConnectState) : ConnectState × Effect :=
  if !s.callbackActive || !s.deliveryReady then
    (s, {})
  else
    match s.callback with
    | none => (s, {})
    | some callback =>
      match s.completion, s.callbackPermit with
      | some completion, some permit =>
        ({ s with callback := none, completion := none, callbackPermit := none },
          { job := some (CallbackJob.new s.id callback (.operation self completion) [permit]) })
      | some _, none => ({ s with callback := none, completion := none }, { panicked := true })
      | none, _ => ({ s with callback := none }, { panicked := true })

/-- The permits that the commit drops or that a connected session takes over. -/
def reservations (s : ConnectState) : List Permit :=
  s.occupancyPermit.toList ++ s.queuedBytesPermit.toList ++ s.metricBytesPermit.toList ++
    s.dnsBorrow.toList

def permits (s : ConnectState) : List Permit := s.reservations ++ s.callbackPermit.toList

/-- `TcpConnectState::commit_terminal`; `count` is false for a TLS upgrade. -/
def commit (count : Bool) (s : ConnectState) (completion : Done) : ConnectState × Effect :=
  if s.terminal then
    (s, {})
  else
    ({ s with terminal := true, completion := some completion, occupancyPermit := none,
              queuedBytesPermit := none, metricBytesPermit := none, dnsBorrow := none },
      { won := true
        counted := if count then some (.tcpConnect, completion.outcome) else none
        dropped := s.reservations })

def publishTerminal (self : Nat) (s : ConnectState) : ConnectState × Effect :=
  { s with deliveryReady := true }.takeTerminalJob self

def activateCallback (self : Nat) (s : ConnectState) : ConnectState × Effect :=
  { s with callbackActive := true }.takeTerminalJob self

/-- `try_completion`; `wait` and `wait_for` end in the same take once delivery is ready. -/
def tryCompletion (s : ConnectState) : ConnectState × Option Done :=
  if s.deliveryReady then ({ s with completion := none }, s.completion) else (s, none)

/-- `TcpConnectSink::release_dns_borrow`, `TlsConnectSink::release_dns_borrow`. -/
def releaseDnsBorrow (s : ConnectState) : ConnectState × List Permit :=
  if s.terminal then (s, []) else ({ s with dnsBorrow := none }, s.dnsBorrow.toList)

end ConnectState

/-- `registry::TlsConnectState`. -/
structure TlsConnectState extends ConnectState where
  upgrade : Bool

/-! ## Streaming HTTP -/

/-- `registry::StreamRequestState`, with the response pair its control points into. -/
structure StreamRequestState where
  id : RequestId
  response : ResponsePair
  permits : Option (Permit × Permit × Permit)

namespace StreamRequestState

def permitList (s : StreamRequestState) : List Permit :=
  match s.permits with
  | some (inflight, queued, parentQueued) => [inflight, queued, parentQueued]
  | none => []

def releasePermits (s : StreamRequestState) : StreamRequestState × List Permit :=
  ({ s with permits := none }, s.permitList)

end StreamRequestState

end NbReq
