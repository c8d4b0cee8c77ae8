import NbReq.Dns.Finish

/-!
# The resolver thread

`resolver_main` of `native_dns.rs` as a machine: the place where the loop stands and what happens to the resolver when
the next thing comes in there, a command, a datagram, a readiness event or the time. What the operating system and the
network answer on the way (how a connect, a send or a read turns out, what the configuration is) comes with the event,
so that every behaviour of a server is some choice of events.

The test-only parts of the source (the refresh command, the barrier before the first poll) are left out, and so are the
poll timeout, which only says how long the thread sleeps, and the registrations with the poll.
-/

namespace NbReq.Dns

/-! ## DNS over TCP -/

structure StreamIo where
  connect : SocketAddr → Except String Unit
  register : Except String Unit

def beginTcpFallback (env : Env) (id : UInt16) (query : PendingQuery) (io : StreamIo) (nameserver : SocketAddr)
    (timeout : Duration) (r : Resolver) : Resolver × Except ResolveFailure PendingQuery :=
  if query.wire.length > 65535 then
    (r, .error (.classified .protocol "the DNS query is too large for TCP framing"))
  else
    match checkedAdd env.width r.nextTcpToken 1 with
    | none => (r, .error (.classified .protocol "the native resolver TCP token space is exhausted"))
    | some following =>
      let token := r.nextTcpToken
      let r := { r with nextTcpToken := following }
      match io.connect nameserver with
      | .error error => (r, .error (.classified .io ("DNS-over-TCP connect failed: " ++ error)))
      | .ok () =>
        match io.register with
        | .error error => (r, .error (.classified .io ("DNS-over-TCP registration failed: " ++ error)))
        | .ok () =>
          let deadline := (checkedAddInstant env.latest (r.now env) timeout).getD (r.tick.now env)
          let outbound := putU16 (UInt16.ofNat query.wire.length) ++ query.wire
          ({ r.tick.tick with tcpByToken := r.tcpByToken.insert token id },
            .ok { query with nextAttempt := deadline, transport := .tcp ⟨token, outbound, 0, [], none⟩ })

inductive WriteResult where
  | wrote (count : Nat)
  | wouldBlock
  | failed (error : String)
deriving DecidableEq, Repr

/-- How a read turns out; no bytes are the end of the stream. -/
inductive ReadResult where
  | received (bytes : Bytes)
  | wouldBlock
  | failed (error : String)
deriving DecidableEq, Repr

/-- What the stream of a fallback answers while it is driven once. A script that has run out blocks. -/
structure TcpScript where
  takeError : Except String (Option String)
  writes : List WriteResult
  reregister : Except String Unit
  reads : List ReadResult

/-- The write loop of `drive_tcp`. -/
def writeQuery : List WriteResult → TcpFallback → Except ResolveFailure TcpFallback
  | [], tcp => .ok tcp
  | result :: rest, tcp =>
    if tcp.written < tcp.outbound.length then
      match result with
      | .wrote 0 => .error (.classified .io "DNS-over-TCP closed while sending the query")
      | .wrote count => writeQuery rest { tcp with written := min (tcp.written + count) tcp.outbound.length }
      | .wouldBlock => .ok tcp
      | .failed error => .error (.classified .io ("DNS-over-TCP query send failed: " ++ error))
    else .ok tcp

/-- The length of the message is known once its two octets have arrived. -/
def expectLength (tcp : TcpFallback) : Except ResolveFailure TcpFallback :=
  if tcp.expected.isNone ∧ tcp.inbound.length ≥ 2 then
    let expected := beNat (tcp.inbound.take 2)
    if expected = 0 ∨ expected > maxPacketLen then
      .error (.classified .malformed "DNS-over-TCP response length is invalid")
    else .ok { tcp with expected := some expected }
  else .ok tcp

def TcpFallback.message (tcp : TcpFallback) : Option Bytes :=
  tcp.expected.bind fun expected =>
    if tcp.inbound.length ≥ expected + 2 then some ((tcp.inbound.take (expected + 2)).drop 2) else none

/-- What `drive_tcp` makes of the bytes of a read. -/
def acceptBytes (bytes : Bytes) (tcp : TcpFallback) : Except ResolveFailure TcpFallback :=
  if tcp.inbound.length + bytes.length > maxPacketLen + 2 then
    .error (.classified .truncated "DNS-over-TCP response exceeds the private packet limit")
  else expectLength { tcp with inbound := tcp.inbound ++ bytes }

/-- The read loop of `drive_tcp`: the message once it is complete. The buffer holds 1024 bytes. -/
def readMessage : List ReadResult → TcpFallback → Except ResolveFailure (TcpFallback × Option Bytes)
  | [], tcp => .ok (tcp, none)
  | .wouldBlock :: _, tcp => .ok (tcp, none)
  | .failed error :: _, _ => .error (.classified .io ("DNS-over-TCP response read failed: " ++ error))
  | .received bytes :: rest, tcp =>
    if bytes.isEmpty then .error (.classified .io "DNS-over-TCP closed before a complete response")
    else
      match acceptBytes (bytes.take 1024) tcp with
      | .error failure => .error failure
      | .ok tcp => if tcp.message.isSome then .ok (tcp, tcp.message) else readMessage rest tcp

/-- The first half of `drive_tcp`. -/
def driveWrites (script : TcpScript) (tcp : TcpFallback) : Except ResolveFailure TcpFallback :=
  match script.takeError with
  | .error error => .error (.classified .io ("DNS-over-TCP connect status failed: " ++ error))
  | .ok (some error) => .error (.classified .io ("DNS-over-TCP connect failed: " ++ error))
  | .ok none =>
    match writeQuery script.writes tcp with
    | .error failure => .error failure
    | .ok tcp =>
      if tcp.written = tcp.outbound.length then
        match script.reregister with
        | .error error => .error (.classified .io ("DNS-over-TCP re-registration failed: " ++ error))
        | .ok () => .ok tcp
      else .ok tcp

/-- `drive_tcp`: `TcpDrive::Message` is a message, `TcpDrive::Pending` is none. -/
def driveTcp (readable writable : Bool) (script : TcpScript) (tcp : TcpFallback) :
    Except ResolveFailure (TcpFallback × Option Bytes) :=
  match if writable ∧ tcp.written < tcp.outbound.length then driveWrites script tcp else .ok tcp with
  | .error failure => .error failure
  | .ok tcp => if readable then readMessage script.reads tcp else .ok (tcp, none)

/-- `native_poll::PollReady`. -/
structure PollReady where
  token : Nat
  readable : Bool
  writable : Bool
deriving DecidableEq, Repr

def receiveTcp (env : Env) (event : PollReady) (script : TcpScript) (r : Resolver) : Resolver :=
  match r.tcpByToken.lookup event.token with
  | none => r
  | some id =>
    match r.pending.lookup id with
    | none => { r with tcpByToken := r.tcpByToken.erase event.token }
    | some query =>
      let removed := { r with pending := r.pending.erase id }
      match query.transport with
      | .udp => { removed with tcpByToken := r.tcpByToken.erase event.token }
      | .tcp tcp =>
        match driveTcp event.readable event.writable script tcp with
        | .ok (driven, none) =>
          { removed with pending := removed.pending.insert id { query with transport := .tcp driven } }
        | .ok (_, some message) =>
          let parsed := (parseAnswer message id query.host query.recordType (maxCnameHops - query.cnameHops)).getD
            (.error (.classified .protocol "the DNS-over-TCP response did not match its query"))
          finishAnswer env query parsed { removed with tcpByToken := r.tcpByToken.erase tcp.token }
        | .error failure =>
          (Resolver.forgetKey query.key { removed with tcpByToken := r.tcpByToken.erase tcp.token }).emitFailure query
            failure

/-! ## Datagrams -/

def datagramId : Bytes → Option UInt16
  | first :: second :: _ => some (UInt16.ofNat (beNat [first, second]))
  | _ => none

/-- What `receive_packets` takes a datagram for: the query it is for and what it says. -/
def takesDatagram (bytes : Bytes) (r : Resolver) :
    Option (UInt16 × PendingQuery × Except ResolveFailure ParsedAnswer) := do
  let id ← datagramId bytes
  let query ← r.pending.lookup id
  let result ← parseAnswer bytes id query.host query.recordType (maxCnameHops - query.cnameHops)
  return (id, query, result)

/-- The body of `receive_packets` for one datagram; `none` is the panic of the index into the nameservers. -/
def receivePacket (env : Env) (bytes : Bytes) (io : StreamIo) (r : Resolver) : Option Resolver :=
  match takesDatagram bytes r with
  | none => some r
  | some (id, query, result) =>
    let removed := { r with pending := r.pending.erase id }
    if result = .ok .truncated then do
      let nameserver ← r.config.snapshot.nameservers[r.currentNameserver]?
      match beginTcpFallback env id query io nameserver query.attemptTimeout removed with
      | (r, .ok query) => return { r with pending := r.pending.insert id query }
      | (r, .error failure) => return (r.forgetKey query.key).emitFailure query failure
    else some (finishAnswer env query result removed)

/-! ## Timers -/

/-- How opening and registering a UDP socket to a nameserver turns out. -/
structure SocketIo where
  connect : SocketAddr → Except String Unit
  register : SocketAddr → Except String Unit

def SocketIo.reaches (io : SocketIo) (nameserver : SocketAddr) : Bool :=
  (io.connect nameserver).isOk && (io.register nameserver).isOk

inductive SendResult where
  | sent (count : Nat)
  | wouldBlock
  | failed
deriving DecidableEq, Repr

structure DueIo where
  sockets : SocketIo
  send : SendResult

/-- `advance_udp_generation` and `advance_config_generation`: a wrapping `u64` that is never zero. -/
def advanceGeneration (generation : Nat) : Nat := if (generation + 1) % 2 ^ 64 = 0 then 1 else (generation + 1) % 2 ^ 64

/-- `advance_nameserver`: the next nameserver that can be reached. -/
def advanceNameserver (io : SocketIo) (nameservers : List SocketAddr) (current : Nat) : Option Nat :=
  (List.range' 1 (nameservers.length - 1)).findSome? fun offset =>
    let index := (current + offset) % nameservers.length
    if (nameservers[index]?).any io.reaches then some index else none

def replaceCurrentNameserver (io : SocketIo) (nameservers : List SocketAddr) (current : Nat) : Bool :=
  (nameservers[current]?).any io.reaches

/-- What moving on to another nameserver does to a query that is still on UDP. -/
def PendingQuery.restart (now : Instant) (query : PendingQuery) : PendingQuery :=
  match query.transport with
  | .udp => { query with attemptsSent := 0, serversTried := query.serversTried + 1, nextAttempt := now }
  | .tcp _ => query

def PendingQuery.afterSend (env : Env) (now : Instant) (generation server : Nat) (result : SendResult)
    (query : PendingQuery) : PendingQuery :=
  match result with
  | .wouldBlock => { query with nextAttempt := (checkedAddInstant env.latest now (10 ^ 6)).getD now }
  | .failed =>
    { query with attemptsSent := query.attemptLimit, lastUdpGeneration := generation, nextAttempt := now }
  | .sent count =>
    if count = query.wire.length then
      { query with
        attemptsSent := query.attemptsSent + 1, lastUdpGeneration := generation
        nextAttempt := (checkedAddInstant env.latest now query.attemptTimeout).getD now
        sent := query.sent ++ [server] }
    else { query with attemptsSent := query.attemptLimit, lastUdpGeneration := generation, nextAttempt := now }

namespace Resolver

/-- The send of `transmit_due`. -/
def sendDue (env : Env) (now : Instant) (id : UInt16) (result : SendResult) (r : Resolver) : Resolver :=
  match r.pending.lookup id with
  | none => r
  | some query =>
    match query.transport with
    | .udp =>
      { r with pending := r.pending.insert id (query.afterSend env now r.udpGeneration r.currentNameserver result) }
    | .tcp _ => r

/-- A query that has used up its attempts with every nameserver fails. -/
def failExhausted (id : UInt16) (query : PendingQuery) (io : SocketIo) (r : Resolver) : Resolver :=
  let replaced := query.lastUdpGeneration == r.udpGeneration &&
    replaceCurrentNameserver io r.config.snapshot.nameservers r.currentNameserver
  let r := { r with
    configDirty := true, udpGeneration := if replaced then advanceGeneration r.udpGeneration else r.udpGeneration
    pending := r.pending.erase id }
  (r.forgetKey query.key).emitFailure query
    (.classified .noNameserver "the configured DNS servers did not answer within the retry budget")

/-- The body of `transmit_due` for one due query. -/
def transmit (env : Env) (now : Instant) (id : UInt16) (io : DueIo) (r : Resolver) : Resolver :=
  match r.pending.lookup id with
  | none => r
  | some query =>
    match query.transport with
    | .tcp _ =>
      ((r.removeQuery id).1.forgetKey query.key).emitFailure query
        (.classified .io "the DNS-over-TCP fallback did not complete before its deadline")
    | .udp =>
      if query.attemptsSent ≥ query.attemptLimit then
        match if query.serversTried < r.config.snapshot.nameservers.length then
            advanceNameserver io.sockets r.config.snapshot.nameservers r.currentNameserver else none with
        | some index =>
          sendDue env now id io.send
            { r with
              currentNameserver := index, udpGeneration := advanceGeneration r.udpGeneration
              pending := r.pending.mapValues (·.restart now) }
        | none => r.failExhausted id query io.sockets
      else r.sendDue env now id io.send

/-- The ids of the queries whose next attempt is due, in the order of the map. -/
def dueIds (now : Instant) (r : Resolver) : List UInt16 :=
  (r.pending.entries.filter fun entry => decide (entry.2.nextAttempt ≤ now)).map (·.1)

/-- `transmit_due`, over the due queries in the order that the map iterates them. -/
def transmitDue (env : Env) (due : List UInt16) (io : UInt16 → DueIo) (r : Resolver) : Resolver :=
  due.foldl (fun state id => state.transmit env (r.now env) id (io id)) r.tick

end Resolver

/-! ## Configuration -/

/-- What rediscovering and installing a configuration turns out. -/
structure RefreshIo where
  discovered : Except Error ResolverSnapshot
  sockets : SocketIo

def resolverInternal (operation error : String) : Error :=
  .new .internal ("native resolver " ++ operation ++ " failed: " ++ error)

/-- The loop of `connect_nameserver`: the first nameserver that can be connected to, or the last error. -/
def connectFirst (env : Env) (io : SocketIo) : Nat → Option String → List SocketAddr → Except (Option String) Nat
  | _, last, [] => .error last
  | index, _, nameserver :: rest =>
    match io.connect nameserver with
    | .ok () => .ok index
    | .error error => connectFirst env io (index + 1) (some (env.showAddress nameserver ++ ": " ++ error)) rest

def connectNameserver (env : Env) (io : SocketIo) (nameservers : List SocketAddr) : Except Error Nat :=
  match connectFirst env io 0 none nameservers with
  | .ok index => .ok index
  | .error (some error) => .error (.new .internal ("no configured DNS nameserver was reachable: " ++ error))
  | .error none => .error (.new .internal "no DNS nameservers were configured")

/-- The socket that `install_configured_socket` installs. -/
def installConfiguredSocket (env : Env) (io : SocketIo) (nameservers : List SocketAddr) : Except Error Nat := do
  let index ← connectNameserver env io nameservers
  match (nameservers[index]?).map io.register with
  | some (.error error) => .error (resolverInternal "socket registration" error)
  | _ => .ok index

namespace Resolver

def configurationUnavailableMessage (r : Resolver) : String :=
  let message := "the current system DNS configuration is unavailable or unsupported"
  match r.configError with
  | some error => message ++ ": " ++ error.message
  | none => message

def configurationUnavailableFailure (r : Resolver) : ResolveFailure :=
  .classified .noNameserver r.configurationUnavailableMessage

/-- The body of `fail_pending_for_configuration_change` for one id. -/
def failPending (r : Resolver) (id : UInt16) : Resolver :=
  match r.removeQuery id with
  | (r, none) => r
  | (r, some query) =>
    (r.forgetKey query.key).emitFailure query
      (.classified .noNameserver "the system DNS configuration changed while the lookup was pending")

def failPendingForConfigurationChange (r : Resolver) : Resolver := r.pending.keys.foldl failPending r

/-- The end of every change of configuration: a new generation, and the pool of idle connections is told. -/
def announceConfiguration (r : Resolver) : Resolver :=
  let generation := advanceGeneration r.configGeneration
  { r with configGeneration := generation, controls := r.controls ++ [generation] }

def transitionConfigurationUnavailable (r : Resolver) : Resolver :=
  if !r.configAvailable then r
  else
    let r := r.failPendingForConfigurationChange
    announceConfiguration { r with cache := r.cache.clear, socket := false, configAvailable := false }

/-- The part of `refresh_configuration_if_dirty` that installs other nameservers. -/
def changeRoute (env : Env) (io : SocketIo) (snapshot : ResolverSnapshot) (r : Resolver) : Resolver :=
  let r := r.failPendingForConfigurationChange
  let r := { r with cache := r.cache.clear, config := { r.config with snapshot } }
  match installConfiguredSocket env io snapshot.nameservers with
  | .ok index =>
    announceConfiguration
      { r with socket := true, currentNameserver := index, configAvailable := true, configError := none }
  | .error error => announceConfiguration { r with socket := false, configAvailable := false, configError := some error }

def refreshConfigurationIfDirty (env : Env) (io : RefreshIo) (r : Resolver) : Resolver :=
  if !r.configDirty then r
  else
    let r := { r.tick with
      configDirty := false
      nextConfigRefresh := r.config.refreshInterval.bind (checkedAddInstant env.latest (r.now env)) }
    match r.config.source with
    | .static => r
    | .system =>
      match io.discovered with
      | .error error => transitionConfigurationUnavailable { r with configError := some error }
      | .ok snapshot =>
        if snapshot.nameservers.isEmpty ∨ snapshot.attempts = 0 ∨ snapshot.attemptTimeout = 0 then
          transitionConfigurationUnavailable
            { r with
              configError := some (.new .internal "DNS discovery returned no nameservers or a zero retry budget") }
        else if r.configAvailable ∧ snapshot = r.config.snapshot then r
        else if r.configAvailable ∧ snapshot.nameservers = r.config.snapshot.nameservers then
          { r with
            config := { r.config with snapshot }, configGeneration := advanceGeneration r.configGeneration }
        else r.changeRoute env io.sockets snapshot

end Resolver

/-! ## Commands -/

/-- `native_dns::Command`. -/
inductive Command where
  | resolve (key : ResolveKey) (host : Bytes)
  | publicResolve (key : ResolveKey) (spec : PublicResolveSpec)
  | cancel (key : ResolveKey)
  | shutdown
deriving DecidableEq, Repr

namespace Resolver

/-- `if let Some(id) = state.by_key.remove(&key) { remove_query(id, …) }`. -/
def dropLookup (key : ResolveKey) (r : Resolver) : Resolver :=
  match r.byKey.lookup key with
  | none => r
  | some id =>
    match (r.forgetKey key).removeQuery id with
    | (r, none) => r
    | (r, some query) => { r with withdrawn := r.withdrawn ++ [query.key] }

/-- A lookup is accepted; one that was in flight under its key is dropped. -/
def accept (key : ResolveKey) (r : Resolver) : Resolver :=
  let r := r.dropLookup key
  { r with accepted := r.accepted ++ [key] }

def resolveHost (env : Env) (key : ResolveKey) (host : Bytes) (r : Resolver) : Resolver :=
  if !r.configAvailable then r.sendResult (.http key (.error r.configurationUnavailableFailure))
  else
    match parseDnsName host with
    | .error failure => r.sendResult (.http key (.error failure))
    | .ok name =>
      match r.cache.get name (r.now env) with
      | (cache, some result) => sendResult (.http key result) { r.tick with cache }
      | (cache, none) =>
        match prepareNameQuery env key name .a 0 (.http r.config.retry) ⟨name, 1⟩ { r.tick with cache } with
        | (r, .ok (id, query)) => r.launch id query
        | (r, .error failure) => r.sendResult (.http key (.error failure))

/-- `Command::Resolve`. -/
def resolve (env : Env) (key : ResolveKey) (host : Bytes) (r : Resolver) : Resolver :=
  (r.accept key).resolveHost env key host

def resolvePublic (env : Env) (key : ResolveKey) (spec : PublicResolveSpec) (r : Resolver) : Resolver :=
  if !r.configAvailable then
    let error :=
      if spec.unavailableIsUnsupported then Error.new .unsupported r.configurationUnavailableMessage
      else publicError r.configurationUnavailableFailure
    r.sendResult (.ofPublic key (.failed error))
  else beginPublicResolve env key spec r.config.snapshot.searchSuffixes r.config.retry r

/-- `Command::PublicResolve`. -/
def publicResolve (env : Env) (key : ResolveKey) (spec : PublicResolveSpec) (r : Resolver) : Resolver :=
  (r.accept key).resolvePublic env key spec

/-- `Command::Cancel`. -/
def cancel (key : ResolveKey) (r : Resolver) : Resolver :=
  let r := r.dropLookup key
  if key ∈ r.accepted then { r with cancelled := r.cancelled ++ [key] } else r

/-- `fail_all`, when the poll fails. -/
def failAll (r : Resolver) : Resolver :=
  r.pending.entries.foldl
    (fun r entry => r.emitFailure entry.2 (.classified .io "native resolver poll failed"))
    { r with pending := ∅, byKey := ∅ }

end Resolver

/-! ## The loop -/

/-- Where `resolver_main` stands, with the readiness events it still has to look at. -/
inductive Point where
  /-- At the top of the loop. -/
  | top
  /-- Receiving commands. -/
  | commands
  /-- Before `transmit_due`. -/
  | due
  /-- Before the poll. -/
  | wait
  /-- In `receive_packets`. -/
  | packets (ready : List PollReady)
  /-- Before the next `receive_tcp`. -/
  | streams (ready : List PollReady)
  /-- It has returned. -/
  | stopped
  /-- It has panicked. -/
  | panicked
deriving DecidableEq, Repr

/-- The thread that runs `resolver_main`. -/
structure Thread where
  resolver : Resolver
  point : Point

inductive Event where
  /-- A round of the loop begins; the monitor may have seen a change of the configuration. -/
  | wake (pumped : Bool) (io : RefreshIo)
  | command (command : Command)
  /-- The queue of commands is empty. -/
  | drained (io : RefreshIo)
  /-- The command queue is disconnected. -/
  | disconnected
  /-- The due queries, in the order that the map iterates them. -/
  | timers (due : List UInt16) (io : UInt16 → DueIo) (refresh : RefreshIo)
  | polled (ready : List PollReady)
  | pollFailed
  | datagram (bytes : Bytes) (io : StreamIo)
  /-- The receive was interrupted. -/
  | interrupted
  /-- The receive would block. -/
  | blocked
  /-- The receive failed in a way that poisons the socket. -/
  | poisoned (io : SocketIo)
  | stream (script : TcpScript)

/-- `WAKE_TOKEN`, `SOCKET_TOKEN` and `FIRST_TCP_TOKEN` are 0, 1 and 2. -/
def socketToken : Nat := 1

def firstTcpToken : Nat := 2

/-- Where the loop stands once these readiness events are left. -/
def afterStreams (ready : List PollReady) : Point := if ready.isEmpty then .top else .streams ready

namespace Resolver

/-- The top of the loop: the monitor and the refresh deadline are looked at. -/
def wake (env : Env) (pumped : Bool) (io : RefreshIo) (r : Resolver) : Resolver :=
  let expired := r.nextConfigRefresh.any fun deadline => decide (deadline ≤ r.now env)
  refreshConfigurationIfDirty env io { r.tick with configDirty := r.configDirty || pumped || expired }

/-- A command that does not stop the thread. -/
def handle (env : Env) (command : Command) (r : Resolver) : Resolver :=
  match command with
  | .resolve key host => r.resolve env key host
  | .publicResolve key spec => r.publicResolve env key spec
  | .cancel key => r.cancel key
  | .shutdown => r

/-- What follows when `receive_packets` found the socket poisoned. -/
def replaceSocket (io : SocketIo) (r : Resolver) : Resolver :=
  if replaceCurrentNameserver io r.config.snapshot.nameservers r.currentNameserver then
    { r with udpGeneration := advanceGeneration r.udpGeneration }
  else r

end Resolver

/-- `resolver_main`: what the next event does at the place where the loop stands, or nothing if it cannot come there. -/
def Thread.step (env : Env) (event : Event) (thread : Thread) : Option Thread :=
  let r := thread.resolver
  match thread.point, event with
  | .top, .wake pumped io => some ⟨r.wake env pumped io, .commands⟩
  | .commands, .command .shutdown => some ⟨r, .stopped⟩
  | .commands, .disconnected => some ⟨r, .stopped⟩
  | .commands, .command command => some ⟨r.handle env command, .commands⟩
  | .commands, .drained io => some ⟨r.refreshConfigurationIfDirty env io, .due⟩
  | .due, .timers due io refresh =>
    if !r.socket then some ⟨r.refreshConfigurationIfDirty env refresh, .wait⟩
    else if due.isPerm (r.dueIds (r.now env)) then
      some ⟨(r.transmitDue env due io).refreshConfigurationIfDirty env refresh, .wait⟩
    else none
  | .wait, .pollFailed => some ⟨r.failAll, .stopped⟩
  | .wait, .polled ready =>
    let streams := ready.filter fun event => decide (event.token ≥ firstTcpToken)
    let socketReady := ready.any fun event => event.token == socketToken && event.readable
    some ⟨r, if socketReady && r.socket then .packets streams else afterStreams streams⟩
  | .packets ready, .datagram bytes io =>
    match receivePacket env (bytes.take maxPacketLen) io r with
    | some r => some ⟨r, .packets ready⟩
    | none => some ⟨r, .panicked⟩
  | .packets ready, .interrupted => some ⟨r, .packets ready⟩
  | .packets ready, .blocked => some ⟨r, afterStreams ready⟩
  | .packets ready, .poisoned io => some ⟨r.replaceSocket io, afterStreams ready⟩
  | .streams (event :: rest), .stream script => some ⟨receiveTcp env event script r, afterStreams rest⟩
  | _, _ => none

def Thread.Step (env : Env) (thread thread' : Thread) : Prop := ∃ event, thread.step env event = some thread'

def Thread.run (env : Env) : List Event → Thread → Option Thread
  | [], thread => some thread
  | event :: rest, thread => (thread.step env event).bind (Thread.run env rest)

theorem Thread.run_steps {env : Env} {events : List Event} {thread thread' : Thread}
    (ran : thread.run env events = some thread') : Relation.ReflTransGen (Thread.Step env) thread thread' := by
  induction events generalizing thread with
  | nil =>
    cases ran
    exact .refl
  | cons event rest ih =>
    obtain ⟨next, step, ran⟩ := Option.bind_eq_some_iff.mp ran
    exact .head ⟨event, step⟩ (ih ran)

/-- The steps of the thread, one case for each event at its place. -/
inductive Stepped (env : Env) : Thread → Event → Thread → Prop where
  | wake {r : Resolver} {pumped : Bool} {io : RefreshIo} :
      Stepped env ⟨r, .top⟩ (.wake pumped io) ⟨r.wake env pumped io, .commands⟩
  | command {r : Resolver} {command : Command} (goesOn : command ≠ .shutdown) :
      Stepped env ⟨r, .commands⟩ (.command command) ⟨r.handle env command, .commands⟩
  | shutdown {r : Resolver} : Stepped env ⟨r, .commands⟩ (.command .shutdown) ⟨r, .stopped⟩
  | disconnected {r : Resolver} : Stepped env ⟨r, .commands⟩ .disconnected ⟨r, .stopped⟩
  | drained {r : Resolver} {io : RefreshIo} :
      Stepped env ⟨r, .commands⟩ (.drained io) ⟨r.refreshConfigurationIfDirty env io, .due⟩
  | offline {r : Resolver} {due : List UInt16} {io : UInt16 → DueIo} {refresh : RefreshIo} (off : r.socket = false) :
      Stepped env ⟨r, .due⟩ (.timers due io refresh) ⟨r.refreshConfigurationIfDirty env refresh, .wait⟩
  | timers {r : Resolver} {due : List UInt16} {io : UInt16 → DueIo} {refresh : RefreshIo} (on : r.socket = true)
      (isDue : due.Perm (r.dueIds (r.now env))) :
      Stepped env ⟨r, .due⟩ (.timers due io refresh)
        ⟨(r.transmitDue env due io).refreshConfigurationIfDirty env refresh, .wait⟩
  | pollFailed {r : Resolver} : Stepped env ⟨r, .wait⟩ .pollFailed ⟨r.failAll, .stopped⟩
  | polled {r : Resolver} {ready : List PollReady} {point : Point}
      (at_ : r.socket = true ∧ (∃ streams, point = .packets streams) ∨ ∃ streams, point = afterStreams streams) :
      Stepped env ⟨r, .wait⟩ (.polled ready) ⟨r, point⟩
  | datagram {r r' : Resolver} {ready : List PollReady} {bytes : Bytes} {io : StreamIo}
      (received : receivePacket env (bytes.take maxPacketLen) io r = some r') :
      Stepped env ⟨r, .packets ready⟩ (.datagram bytes io) ⟨r', .packets ready⟩
  | panicked {r : Resolver} {ready : List PollReady} {bytes : Bytes} {io : StreamIo}
      (received : receivePacket env (bytes.take maxPacketLen) io r = none) :
      Stepped env ⟨r, .packets ready⟩ (.datagram bytes io) ⟨r, .panicked⟩
  | interrupted {r : Resolver} {ready : List PollReady} :
      Stepped env ⟨r, .packets ready⟩ .interrupted ⟨r, .packets ready⟩
  | blocked {r : Resolver} {ready : List PollReady} :
      Stepped env ⟨r, .packets ready⟩ .blocked ⟨r, afterStreams ready⟩
  | poisoned {r : Resolver} {ready : List PollReady} {io : SocketIo} :
      Stepped env ⟨r, .packets ready⟩ (.poisoned io) ⟨r.replaceSocket io, afterStreams ready⟩
  | stream {r : Resolver} {event : PollReady} {rest : List PollReady} {script : TcpScript} :
      Stepped env ⟨r, .streams (event :: rest)⟩ (.stream script) ⟨receiveTcp env event script r, afterStreams rest⟩

theorem Thread.stepped {env : Env} {event : Event} {thread thread' : Thread}
    (step : thread.step env event = some thread') : Stepped env thread event thread' := by
  obtain ⟨r, point⟩ := thread
  unfold Thread.step at step
  dsimp only at step
  split at step
  · cases step; exact .wake
  · cases step; exact .shutdown
  · cases step; exact .disconnected
  · rename_i command notShutdown
    cases step
    exact .command fun isShutdown => notShutdown isShutdown
  · cases step; exact .drained
  · split at step
    · rename_i off
      cases step
      exact .offline (by simpa using off)
    rename_i on
    split at step
    · rename_i isDue
      cases step
      exact .timers (by simpa using on) (List.isPerm_iff.mp isDue)
    · cases step
  · cases step; exact .pollFailed
  · cases step
    refine .polled ?_
    split
    · rename_i ready
      exact .inl ⟨(Bool.and_eq_true_iff.mp ready).2, _, rfl⟩
    · exact .inr ⟨_, rfl⟩
  · split at step
    · rename_i received
      cases step
      exact .datagram received
    · rename_i received
      cases step
      exact .panicked received
  · cases step; exact .interrupted
  · cases step; exact .blocked
  · cases step; exact .poisoned
  · cases step; exact .stream
  · cases step

end NbReq.Dns
