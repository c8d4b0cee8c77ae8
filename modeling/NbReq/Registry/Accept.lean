import NbReq.Registry.State

/-!
# Admission

The six `accept*` functions of `Shared`, each up to the point where it releases the core mutex. The order of
the checks, the permits taken between them and the drops on every early return are those of the source:
permits held in locals are dropped while the core is still locked, the parameters (the request with its
body permit, an unused callback) after it was unlocked.

On the last failure, a full command queue, the record has been built and is dropped under the lock, and
with it the callback. That destructor, or the reader's in `accept_stream`, may lock the core again; the call
then never returns.
-/

namespace NbReq

/-- `registry::TLS_EXTRA_RESERVE`. -/
def tlsExtraReserve : Nat := 256 * 1024

/-- How a call of an `accept*` function ends: with the reference of the accepted operation, with an error,
by unwinding from a failed `expect`, or not at all. -/
inductive CallResult where
  | accepted (op : Nat)
  | rejected (error : Error)
  | panicked
  | stuck

/-! ## Errors of admission -/

def engineStoppedError : Error :=
  Error.new .engineStopped "the owning Engine has stopped accepting work"

def identityExhaustedError : Error := Error.new .internal "request identity space is exhausted"

def inflightFullError : Error :=
  Error.new .queueFull "the Engine's accepted/inflight request capacity is full"

def callbackFullError : Error :=
  Error.new .queueFull "the Engine's callback request/event capacity is full"

def callbackCapacityError : Error := Error.new .queueFull "the Engine's callback capacity is full"

def commandQueueFullError : Error := Error.new .queueFull "the Engine's bounded command queue is full"

def resolutionFullError : Error :=
  Error.new .queueFull "the Engine's accepted/inflight public-resolution capacity is full"

def notLiveError : Error :=
  Error.new .invalidRequest "the TCP connection is not live or is already upgrading"

def tcpConnectionsFullError : Error :=
  Error.new .queueFull "the Engine's standalone TCP connection capacity is full"

namespace Shared

/-! ## Taking permits -/

/-- `AdmissionPermit::try_acquire` on one of the counters, against its configured limit. -/
def acquire (sh : Shared) (counter : Counter) : Option (Shared × Permit) :=
  (sh.counters.tryAdmit counter (sh.config.limit counter)).map fun (counters, permit) =>
    ({ sh with counters := counters }, permit)

/-- `BytePermit::try_acquire` on one of the counters, against its configured limit. -/
def reserve (sh : Shared) (counter : Counter) (bytes : Nat) : Option (Shared × Permit) :=
  (sh.counters.tryReserve sh.config.width counter (sh.config.limit counter) bytes).map
    fun (counters, permit) => ({ sh with counters := counters }, permit)

/-- An admission permit that is only needed under a condition. -/
def acquireIf (sh : Shared) (needed : Bool) (counter : Counter) : Option (Shared × Option Permit) :=
  if needed then (sh.acquire counter).map fun (sh, permit) => (sh, some permit) else some (sh, none)

/-- `Request::admit_body`: `BodyBudget::acquire` of the body's capacity. -/
def admitBody (sh : Shared) (capacity : Nat) : Option Shared :=
  if capacity = 0 then
    some sh
  else
    match checkedAdd sh.config.width sh.bodyUsed capacity with
    | some next =>
      if sh.config.maxBufferedBodyBytes.all (next ≤ ·) then some { sh with bodyUsed := next } else none
    | none => none

/-- Dropping a request drops its body permit. -/
def refundBody (sh : Shared) (capacity : Nat) : Shared := { sh with bodyUsed := sh.bodyUsed - capacity }

def bodyBudgetError : Error :=
  Error.limit .bufferedBodyBytes "aggregate buffered HTTP body capacity exhausted"

/-- The `try_fold` of `validate_request_limits`: the wire size of the headers, if it fits `usize`. -/
def headerBytes (width : PointerWidth) : Nat → List Header → Option Nat
  | total, [] => some total
  | total, header :: rest => do
    let total ← checkedAdd width total header.name.length
    let total ← checkedAdd width total header.value.length
    let total ← checkedAdd width total 4
    headerBytes width total rest

def validateRequestLimits (sh : Shared) (request : Request) : Except Error Unit :=
  let bodyLimit := request.options.requestBodyLimit sh.config.maxRequestBodyBytes
  if request.body.length > bodyLimit then
    .error (Error.limit .requestBodyBytes
      s!"request body exceeds the configured {bodyLimit} byte limit")
  else if request.headers.length > sh.config.maxHeaderCount then
    .error (Error.limit .requestHeaderCount
      s!"request headers exceed the configured {sh.config.maxHeaderCount} field limit")
  else if (headerBytes sh.config.width 0 request.headers).all (· > sh.config.maxHeaderBytes) then
    .error (Error.limit .requestHeaderBytes
      s!"request headers exceed the configured {sh.config.maxHeaderBytes} byte limit")
  else
    .ok ()

/-! ## Submission -/

def nextId (sh : Shared) : RequestId := ⟨sh.config.id, sh.core.nextSequence⟩

/-- `core.next_sequence += 1`. -/
def takeSequence (sh : Shared) : Shared :=
  { sh with core := { sh.core with nextSequence := sh.core.nextSequence + 1 } }

def queueFull (sh : Shared) : Bool := sh.config.commandQueueCapacity ≤ sh.queue.length

/-- The end of a rejected submission: the map entry is removed again and the record is dropped under the
lock, its callback before its permits. -/
def withdraw (sh : Shared) (op : Op) : Shared × CallResult :=
  let sh := { sh with core := sh.core.remove op.kind op.id }
  if op.callback.any (·.dropLocksCore) then
    ({ sh with deadlock := some ⟨op.permits, false⟩ }, .stuck)
  else
    (sh.dropPermits op.permits, .rejected commandQueueFullError)

/-- The common tail of the `accept*` functions: the record is put into its map and its submission into the
command queue; `counted` is the family whose accepted counter grows. -/
def submit (sh : Shared) (op : Op) (submission : Nat → Submission) (counted : Option Family) :
    Shared × CallResult :=
  let ref := sh.ops.length
  let sh := { sh with core := sh.core.insert op.kind op.id ref }
  if sh.queueFull then
    sh.withdraw op
  else
    ({ sh with
        ops := sh.ops ++ [{ op := op, origin := op.callback }]
        queue := sh.queue ++ [submission ref]
        metrics := match counted with
          | some family => sh.metrics.countAccepted family
          | none => sh.metrics
        callbackActivations := sh.callbackActivations + (if op.callback.isSome then 1 else 0) },
      .accepted ref)

/-! ## The accept functions -/

/-- A submission that `try_push` refused is dropped, and with it the body of its request. -/
def dropBodyUnlessAccepted (capacity : Nat) : Shared × CallResult → Shared × CallResult
  | (sh, .accepted ref) => (sh, .accepted ref)
  | (sh, result) => (sh.refundBody capacity, result)

def accept (sh : Shared) (request : Request) (callback : Option Callback) : Shared × CallResult :=
  if sh.core.lifecycle ≠ .running then
    (sh, .rejected engineStoppedError)
  else if sh.core.nextSequence = u64Max then
    (sh, .rejected identityExhaustedError)
  else
    match sh.validateRequestLimits request with
    | .error error => (sh, .rejected error)
    | .ok () =>
      match sh.admitBody request.bodyCapacity with
      | none => (sh, .rejected bodyBudgetError)
      | some sh =>
        match sh.acquire .inflight with
        | none => (sh.refundBody request.bodyCapacity, .rejected inflightFullError)
        | some (sh, inflight) =>
          match sh.acquireIf callback.isSome .callbackInflight with
          | none =>
            ((sh.dropPermits [inflight]).refundBody request.bodyCapacity, .rejected callbackFullError)
          | some (sh, callbackPermit) =>
            let op := Op.request ⟨sh.nextId, none, false, callback, false, some inflight, callbackPermit⟩
            dropBodyUnlessAccepted request.bodyCapacity
              (sh.takeSequence.submit op (.buffered request) (some .request))

def acceptResolve (sh : Shared) (request : ResolveRequest) (callback : Option Callback)
    (maxResolveResults : Nat) : Shared × CallResult :=
  if sh.core.lifecycle ≠ .running then
    (sh, .rejected engineStoppedError)
  else if request.maxResults.any (· > maxResolveResults) then
    (sh, .rejected (Error.limit .resolveResults
      s!"resolution max_results exceeds the Engine ceiling of {maxResolveResults}"))
  else if !sh.nativeResolverSupported then
    (sh, .rejected (Error.new .unsupported
      "public hostname resolution is not available on this Engine"))
  else if sh.core.nextSequence = u64Max then
    (sh, .rejected identityExhaustedError)
  else
    match sh.acquire .resolutionInflight with
    | none => (sh, .rejected resolutionFullError)
    | some (sh, inflight) =>
      match sh.acquireIf callback.isSome .callbackInflight with
      | none => (sh.dropPermits [inflight], .rejected callbackFullError)
      | some (sh, callbackPermit) =>
        let op := Op.resolve ⟨sh.nextId, none, callback, false, some inflight, callbackPermit⟩
        sh.takeSequence.submit op
          (.resolve request · (request.maxResults.getD maxResolveResults)) (some .resolution)

/-- The permits of a connect, in the order in which they are taken: occupancy, queued bytes, the metric
share of them, the DNS borrow of a hostname target and the callback permit. -/
structure ConnectPermits where
  occupancy : Permit
  queued : Permit
  metric : Permit
  dns : Option Permit
  callback : Option Permit

/-- Taking the permits of a connect; what was taken is dropped again on a failure. -/
def admitConnect (sh : Shared) (reserved : Nat) (hostname hasCallback : Bool)
    (queuedError dnsError callbackError : Error) :
    Except (Shared × CallResult) (Shared × ConnectPermits) :=
  match sh.acquire .tcpConnections with
  | none => .error (sh, .rejected tcpConnectionsFullError)
  | some (sh, occupancy) =>
    match sh.reserve .queuedBytes reserved with
    | none => .error (sh.dropPermits [occupancy], .rejected queuedError)
    | some (sh, queued) =>
      match sh.reserve .tcpQueuedBytes reserved with
      | none => .error (sh.dropPermits [queued, occupancy], .panicked)
      | some (sh, metric) =>
        match sh.acquireIf hostname .resolutionInflight with
        | none => .error (sh.dropPermits [metric, queued, occupancy], .rejected dnsError)
        | some (sh, dns) =>
          match sh.acquireIf hasCallback .callbackInflight with
          | none =>
            .error (sh.dropPermits (dns.toList ++ [metric, queued, occupancy]), .rejected callbackError)
          | some (sh, callback) => .ok (sh, ⟨occupancy, queued, metric, dns, callback⟩)

def connectState (id : RequestId) (sendWindow receiveWindow : Nat) (callback : Option Callback)
    (permits : ConnectPermits) : ConnectState where
  id := id
  sendWindow := sendWindow
  receiveWindow := receiveWindow
  completion := none
  terminal := false
  deliveryReady := false
  callback := callback
  callbackActive := false
  occupancyPermit := some permits.occupancy
  queuedBytesPermit := some permits.queued
  metricBytesPermit := some permits.metric
  dnsBorrow := permits.dns
  callbackPermit := permits.callback

/-- The window checks of `Shared::accept_tcp_connect`; the reserved bytes when they pass. -/
def tcpReservation (sh : Shared) (request : TcpConnectRequest) : Except Error (Nat × Nat × Nat) :=
  let ceiling := sh.config.maxTcpQueueBytesPerConnection
  let sendWindow := request.sendQueueBytes.getD ceiling
  let receiveWindow := request.receiveQueueBytes.getD ceiling
  if sendWindow > ceiling || receiveWindow > ceiling then
    .error (Error.limit .tcpQueueBytes
      s!"TCP queue window exceeds the Engine ceiling of {ceiling} bytes")
  else if sendWindow = 0 || receiveWindow = 0 then
    .error (Error.limit .tcpQueueBytes
      "standalone TCP is disabled by the Engine's zero-byte per-connection queue window")
  else
    match checkedAdd sh.config.width sendWindow receiveWindow with
    | none => .error (Error.limit .tcpQueueBytes "TCP queue reservation overflowed")
    | some reserved =>
      if sh.config.maxQueuedBytes = 0 then
        .error (Error.limit .tcpQueueBytes
          "standalone TCP is disabled by the Engine's zero-byte shared queue budget")
      else
        .ok (sendWindow, receiveWindow, reserved)

def acceptTcpConnect (sh : Shared) (request : TcpConnectRequest) (callback : Option Callback) :
    Shared × CallResult :=
  let hostname := request.target.isHostname
  if sh.core.lifecycle ≠ .running then
    (sh, .rejected engineStoppedError)
  else if !sh.standaloneTcpSupported then
    (sh, .rejected (Error.new .unsupported
      "standalone TCP connections are not available on this Engine"))
  else if hostname && !sh.nativeResolverSupported then
    (sh, .rejected (Error.new .unsupported
      "hostname TCP connections require the native resolver owner"))
  else
    match sh.tcpReservation request with
    | .error error => (sh, .rejected error)
    | .ok (sendWindow, receiveWindow, reserved) =>
      if sh.core.nextSequence = u64Max then
        (sh, .rejected identityExhaustedError)
      else
        match sh.admitConnect reserved hostname callback.isSome
          (Error.limit .tcpQueueBytes
            s!"TCP queues exceed the Engine's configured {sh.config.maxQueuedBytes} byte shared queue budget")
          resolutionFullError callbackFullError with
        | .error result => result
        | .ok (sh, permits) =>
          let op := Op.connect (connectState sh.nextId sendWindow receiveWindow callback permits)
          sh.takeSequence.submit op (.connect request) (some .tcpConnect)

/-- The window checks of `Shared::accept_tls_connect`; the reserved bytes when they pass. -/
def tlsReservation (sh : Shared) (request : TcpConnectRequest) : Except Error (Nat × Nat × Nat) :=
  let ceiling := sh.config.maxTcpQueueBytesPerConnection
  let sendWindow := request.sendQueueBytes.getD ceiling
  let receiveWindow := request.receiveQueueBytes.getD ceiling
  if sendWindow = 0 || receiveWindow = 0 || sendWindow > ceiling || receiveWindow > ceiling then
    .error (Error.limit .tcpQueueBytes "TLS queue window exceeds the Engine ceiling or is disabled")
  else
    match (checkedAdd sh.config.width sendWindow receiveWindow).bind
        (checkedAdd sh.config.width · tlsExtraReserve) with
    | none => .error (Error.limit .tcpQueueBytes "TLS queue reservation overflowed")
    | some reserved => .ok (sendWindow, receiveWindow, reserved)

def acceptTlsConnect (sh : Shared) (request : TcpConnectRequest) (options : TlsOptions)
    (clockRoom : Nat) (callback : Option Callback) : Shared × CallResult :=
  let hostname := request.target.isHostname
  match options.validate clockRoom with
  | .error error => (sh, .rejected error)
  | .ok () =>
    if sh.core.lifecycle ≠ .running then
      (sh, .rejected engineStoppedError)
    else if !sh.standaloneTcpSupported then
      (sh, .rejected (Error.new .unsupported
        "standalone TLS connections are not available on this Engine"))
    else if hostname && !sh.nativeResolverSupported then
      (sh, .rejected (Error.new .unsupported
        "hostname TLS connections require the native resolver owner"))
    else
      match sh.tlsReservation request with
      | .error error => (sh, .rejected error)
      | .ok (sendWindow, receiveWindow, reserved) =>
        if sh.core.nextSequence = u64Max then
          (sh, .rejected identityExhaustedError)
        else
          match sh.admitConnect reserved hostname callback.isSome
            (Error.limit .tcpQueueBytes "TLS queues exceed the Engine's shared queue budget")
            (Error.new .queueFull "the Engine's resolution capacity is full")
            callbackCapacityError with
          | .error result => result
          | .ok (sh, permits) =>
            let op := Op.tls
              { connectState sh.nextId sendWindow receiveWindow callback permits with upgrade := false }
            sh.takeSequence.submit op (.tlsConnect request options) (some .tcpConnect)

/-- The record of a TLS upgrade: it owns no reservation, the session's release closure does. -/
def upgradeState (id : RequestId) (callback : Option Callback) (callbackPermit : Option Permit) :
    TlsConnectState where
  id := id
  sendWindow := 0
  receiveWindow := 0
  completion := none
  terminal := false
  deliveryReady := false
  callback := callback
  callbackActive := false
  occupancyPermit := none
  queuedBytesPermit := none
  metricBytesPermit := none
  dnsBorrow := none
  callbackPermit := callbackPermit
  upgrade := true

/-- `Shared::accept_tls_upgrade` of the session `io`. -/
def acceptTlsUpgrade (sh : Shared) (io : Nat) (options : TlsOptions) (clockRoom : Nat)
    (callback : Option Callback) : Shared × CallResult :=
  match options.validate clockRoom, sh.ios[io]? with
  | .error error, _ => (sh, .rejected error)
  | .ok (), none => (sh, .rejected notLiveError)
  | .ok (), some session =>
    if sh.core.lifecycle ≠ .running then
      (sh, .rejected engineStoppedError)
    else if (sh.core.liveTcp.lookup session.id != some io) ||
        (sh.core.tlsConnects.lookup session.id).isSome then
      (sh, .rejected notLiveError)
    else
      match sh.reserve .queuedBytes tlsExtraReserve with
      | none => (sh, .rejected (Error.limit .tcpQueueBytes
          "TLS upgrade exceeds the Engine's shared queue budget"))
      | some (sh, queued) =>
        match sh.reserve .tcpQueuedBytes tlsExtraReserve with
        | none => (sh.dropPermits [queued], .panicked)
        | some (sh, metric) =>
          match sh.acquireIf callback.isSome .callbackInflight with
          | none => (sh.dropPermits [metric, queued], .rejected callbackCapacityError)
          | some (sh, callbackPermit) =>
            match session.beginUpgrade with
            | .error error =>
              (sh.dropPermits (callbackPermit.toList ++ [metric, queued]), .rejected error)
            | .ok session =>
              match session.attachTlsReserve [queued, metric] with
              | .error error =>
                ({ sh with ios := sh.ios.set io session }.dropPermits
                  ([queued, metric] ++ callbackPermit.toList), .rejected error)
              | .ok session =>
                let sh := { sh with ios := sh.ios.set io session }
                sh.submit (.tls (upgradeState session.id callback callbackPermit))
                  (.tlsUpgrade options) none

/-- The checks of `Shared::accept_stream` before it takes permits; the reserved bytes when they pass. -/
def streamReservation (sh : Shared) (request : StreamRequest) : Except Error Nat :=
  let responseWindow := sh.config.maxStreamQueueBytesPerRequest
  let uploadWindow := request.uploadQueueCapacity
  if responseWindow = 0 then
    .error (Error.limit .streamingQueueBytes
      "streaming is disabled by the Engine's zero-byte queue window")
  else if uploadWindow > responseWindow then
    .error (Error.limit .streamingQueueBytes
      s!"streamed upload queue exceeds the configured {responseWindow} byte per-transfer limit")
  else
    match checkedAdd sh.config.width responseWindow uploadWindow with
    | none => .error (Error.limit .streamingQueueBytes "streaming queue reservation overflowed")
    | some reserved => .ok reserved

/-- Taking the three permits of a streaming request; what was taken is dropped again on a failure. -/
def admitStream (sh : Shared) (reserved : Nat) :
    Except (Shared × Error) (Shared × Permit × Permit × Permit) :=
  match sh.acquire .inflight with
  | none => .error (sh, inflightFullError)
  | some (sh, inflight) =>
    match sh.reserve .streamQueuedBytes reserved with
    | none => .error (sh.dropPermits [inflight], Error.limit .streamingQueueBytes
        s!"streaming queues exceed the Engine's configured {sh.config.maxStreamQueuedBytes} byte aggregate budget")
    | some (sh, queued) =>
      match sh.reserve .queuedBytes reserved with
      | none => .error (sh.dropPermits [queued, inflight], Error.limit .streamingQueueBytes
          s!"streaming queues exceed the Engine's configured {sh.config.maxQueuedBytes} byte shared queue budget")
      | some (sh, parentQueued) => .ok (sh, inflight, queued, parentQueued)

/-- The end of `Shared::accept_stream` on a full command queue. `try_push` drops the submission and with it
the response sink, which commits and counts a failure; removing the map entry drops the record and its
permits; the reader, dropped before the core guard, cancels the request and locks the core again. -/
def withdrawStream (sh : Shared) (s : StreamRequestState) : Shared × CallResult :=
  let counted := if s.response.sinkDrop.2 then some (Family.request, Outcome.failed) else none
  let sh := { sh with
    core := sh.core.remove .stream s.id
    metrics := count sh.metrics counted }.dropPermits s.permitList
  ({ sh with deadlock := some ⟨[], true⟩ }, .stuck)

/-- The tail of `Shared::accept_stream`. -/
def submitStream (sh : Shared) (request : StreamRequest) (s : StreamRequestState) :
    Shared × CallResult :=
  let ref := sh.ops.length
  let sh := { sh with core := sh.core.insert .stream s.id ref }
  if sh.queueFull then
    (sh.refundBody request.request.bodyCapacity).withdrawStream s
  else
    ({ sh with
        ops := sh.ops ++ [{ op := .stream s, origin := none }]
        queue := sh.queue ++ [.stream request ref]
        metrics := sh.metrics.countAccepted .request }, .accepted ref)

def acceptStream (sh : Shared) (request : StreamRequest) : Shared × CallResult :=
  if !sh.config.streamingSupported then
    (sh, .rejected (Error.new .unsupported
      "the selected backend does not support streaming requests"))
  else if sh.core.lifecycle ≠ .running then
    (sh, .rejected engineStoppedError)
  else if sh.core.nextSequence = u64Max then
    (sh, .rejected identityExhaustedError)
  else
    match request.validate, sh.validateRequestLimits request.request with
    | .error error, _ => (sh, .rejected error)
    | .ok (), .error error => (sh, .rejected error)
    | .ok (), .ok () =>
      let capacity := request.request.bodyCapacity
      match sh.admitBody capacity with
      | none => (sh, .rejected bodyBudgetError)
      | some sh =>
        match sh.streamReservation request with
        | .error error => (sh.refundBody capacity, .rejected error)
        | .ok reserved =>
          match sh.admitStream reserved with
          | .error (sh, error) => (sh.refundBody capacity, .rejected error)
          | .ok (sh, inflight, queued, parentQueued) =>
            let id := sh.nextId
            let sh := sh.takeSequence
            let drop := [parentQueued, queued, inflight]
            let responseWindow := sh.config.maxStreamQueueBytesPerRequest
            let requestLimit := request.request.options.requestBodyLimit sh.config.maxRequestBodyBytes
            let responseLimit := request.request.options.responseBodyLimit sh.config.maxResponseBodyBytes
            match request.bindUpload responseWindow requestLimit with
            | .error error => ((sh.dropPermits drop).refundBody capacity, .rejected error)
            | .ok request =>
              match responsePair responseWindow responseLimit with
              | .error error => ((sh.dropPermits drop).refundBody capacity, .rejected error)
              | .ok pair =>
                sh.submitStream request ⟨id, pair, some (inflight, queued, parentQueued)⟩

end Shared

end NbReq
