import NbReq.Smtp.Reply
import NbReq.Smtp.Data
import NbReq.TcpIo

/-!
# SMTP submissions

`smtp/src/client.rs`: one submission, from the connection to the outcome, as the state machine that `poll` drives. What
the transport and the clock answer to a round of `poll` is a `World`.

The operation has a `log` beside its fields: what it offered to a transport, what it read from one and the replies it
handled, in order. No function reads it. The request is kept after the end, where the source drops it: nothing reads it
there.
-/

namespace NbReq.Smtp

/-- `client::Stage`. -/
inductive Stage where
  | connect | greeting | ehlo | startTls | upgrade | mailFrom | rcptTo (index : Nat) | dataCommand | dataBody
  | dataResult | quit
deriving DecidableEq, Repr

/-- `client::FailureReason`. -/
inductive FailureReason where
  | cancelled | timeout | transport | protocol | engineStopped | startTlsUnavailable | noAcceptedRecipients
  | recipientsRejected
deriving DecidableEq, Repr

/-- `client::RecipientStatus`. -/
inductive RecipientStatus where
  | acceptedForTransaction (reply : ReplySummary)
  | rejected (reply : ReplySummary)
  | unattempted
  | unresolved
deriving DecidableEq, Repr

def RecipientStatus.isAccepted : RecipientStatus → Bool
  | .acceptedForTransaction _ => true
  | _ => false

def RecipientStatus.isRejected : RecipientStatus → Bool
  | .rejected _ => true
  | _ => false

/-- `client::RecipientReport`. -/
structure RecipientReport where
  address : Bytes
  status : RecipientStatus
deriving DecidableEq, Repr

/-- `client::Delivery`. -/
inductive Delivery where
  | accepted (reply : ReplySummary)
  | rejected (stage : Stage) (reply : ReplySummary)
  | notAccepted (stage : Stage) (reason : FailureReason)
  | uncertain (stage : Stage) (reason : FailureReason)
deriving DecidableEq, Repr

/-- `client::SendOutcome`. -/
structure SendOutcome where
  recipients : List RecipientReport
  delivery : Delivery
  transportDiagnostic : Option TransportDiagnostic
deriving DecidableEq, Repr

/-! ## Phases -/

/-- `client::Phase`. -/
inductive Phase where
  | connect | greeting | ehloSend | ehloReply | startTlsSend | startTlsReply | upgrade | mailSend | mailReply
  | rcptSend (index : Nat) | rcptReply (index : Nat) | dataSend | dataReply | dataBody | terminatorSend | dataResult
  | quitSend | quitReply | finish
deriving DecidableEq, Repr

/-- `Phase::public`. -/
def Phase.stage : Phase → Stage
  | .connect => .connect
  | .greeting => .greeting
  | .ehloSend | .ehloReply => .ehlo
  | .startTlsSend | .startTlsReply => .startTls
  | .upgrade => .upgrade
  | .mailSend | .mailReply => .mailFrom
  | .rcptSend index | .rcptReply index => .rcptTo index
  | .dataSend | .dataReply => .dataCommand
  | .dataBody | .terminatorSend => .dataBody
  | .dataResult => .dataResult
  | .quitSend | .quitReply | .finish => .quit

/-- The arms of `advance`. -/
inductive PhaseKind where
  | connecting | reading | sending | body | finishing
deriving DecidableEq, Repr

/-- The arm of `advance` for a phase. -/
def Phase.kind : Phase → PhaseKind
  | .connect | .upgrade => .connecting
  | .greeting | .ehloReply | .startTlsReply | .mailReply | .rcptReply _ | .dataReply | .dataResult | .quitReply => .reading
  | .ehloSend | .startTlsSend | .mailSend | .rcptSend _ | .dataSend | .terminatorSend | .quitSend => .sending
  | .dataBody => .body
  | .finish => .finishing

/-! ## The transport -/

/-- `client::Transport`, and `client::PendingConnect`: whether the connection is in the clear. -/
inductive Transport where
  | plain | tls
deriving DecidableEq, Repr

/-- What `wait_for` answers. -/
inductive ConnectAnswer where
  | timedOut
  | completed
  | failed (error : Error)
  | cancelled
deriving DecidableEq, Repr

/-- What `try_read` into one byte answers. -/
inductive ReadAnswer where
  | pending
  | data (byte : UInt8)
  | empty
  | eof
  | failed (error : Error)
  | cancelled
  | reset
deriving DecidableEq, Repr

/-- What `try_send` answers. -/
inductive SendAnswer where
  | taken
  | refused (kind : TcpSendErrorKind)
deriving DecidableEq, Repr

/-- What `try_finish` answers. -/
inductive FinishAnswer where
  | pending | finished | failed
deriving DecidableEq, Repr

/-- The answers of the transport and the clock in one round of `poll`. The clock is read before the round and, when a
phase begins, in it. -/
structure World where
  connect : ConnectAnswer
  read : ReadAnswer
  send : SendAnswer
  submitTls : Except Error Unit
  finish : FinishAnswer
  now : Nat
  later : Nat

/-- What happened, for the statements. -/
inductive Event where
  | offered (via : Transport) (bytes : Bytes) (taken : Bool)
  | read (via : Transport) (byte : UInt8)
  | replied (via : Transport) (phase : Phase) (reply : Reply)
deriving DecidableEq, Repr

/-! ## Sending -/

def maxStepsPerPoll : Nat := 64

def maxDataBytesPerPoll : Nat := 16 * 1024

def maxStaging : Nat := 2048

/-- `client::Outbound`. -/
structure Outbound where
  bytes : Bytes
  offset : Nat
  retry : Option Bytes
deriving DecidableEq, Repr

/-- `client::SendStep`. -/
inductive SendStep where
  | pending
  | progress (count : Nat)
  | done (count : Nat)
  | failed (reason : FailureReason)
deriving DecidableEq, Repr

namespace Outbound

def new (bytes : Bytes) : Outbound := ⟨bytes, 0, none⟩

/-- The bytes that `Outbound::step` offers. -/
def candidate (o : Outbound) (limit : Nat) : Bytes := o.retry.getD ((o.bytes.drop o.offset).take limit)

/-- `Outbound::step` after the transport's answer: the outbound, the limit and the result. -/
def step (o : Outbound) (answer : SendAnswer) (limit : Nat) : Outbound × Nat × SendStep :=
  if o.offset = o.bytes.length then (o, limit, .done 0)
  else
    let candidate := o.candidate limit
    let length := candidate.length
    match answer with
    | .taken =>
      let o := { o with offset := o.offset + length, retry := none }
      (o, limit, if o.offset = o.bytes.length then .done length else .progress length)
    | .refused kind =>
      if kind = .wouldBlock then ({ o with retry := some candidate }, limit, .pending)
      else if kind = .chunkTooLarge ∧ limit > 1 then
        ({ o with retry := none }, max (limit / 2) 1, .progress 0)
      else ({ o with retry := none }, limit, .failed (match kind with
        | .engineStopped => .engineStopped
        | .cancelled => .cancelled
        | _ => .transport))

end Outbound

/-- `client::ReadStep`. -/
inductive ReadStep where
  | pending
  | progress
  | complete (reply : Reply)
  | failed (reason : FailureReason)
deriving DecidableEq, Repr

/-! ## The commands -/

def crlf : Bytes := [0x0D, 0x0A]

def ehloCommand (request : SendRequest) : Bytes := ascii "EHLO " ++ request.ehloName ++ crlf

def startTlsCommand : Bytes := ascii "STARTTLS\r\n"

def mailCommand (request : SendRequest) : Bytes :=
  if request.envelope.sender.isEmpty then ascii "MAIL FROM:<>\r\n"
  else ascii "MAIL FROM:<" ++ request.envelope.sender ++ ascii ">\r\n"

def rcptCommand (address : Bytes) : Bytes := ascii "RCPT TO:<" ++ address ++ ascii ">\r\n"

def dataCommand : Bytes := ascii "DATA\r\n"

def terminator : Bytes := ascii ".\r\n"

def quitCommand : Bytes := ascii "QUIT\r\n"

/-! ## The operation -/

/-- `client::SendOperation`. -/
structure SendOperation where
  request : SendRequest
  phase : Phase
  pending : Option Transport
  transport : Option Transport
  parser : ReplyParser
  outbound : Option Outbound
  data : Option DataEncoder
  reports : List RecipientReport
  outcome : Option SendOutcome
  accepted : Option ReplySummary
  transportDiagnostic : Option TransportDiagnostic
  terminatorAdmitted : Bool
  sendLimit : Nat
  phaseDeadline : Nat
  overallDeadline : Nat
  log : List Event

namespace SendOperation

def reasonFromError (error : Error) : FailureReason :=
  match error.kind with
  | .timeout => .timeout
  | .engineStopped => .engineStopped
  | _ => .transport

/-- `SendOperation::set_phase`. The deadline saturates at the overall one. -/
def setPhase (op : SendOperation) (w : World) (phase : Phase) : SendOperation :=
  { op with phase := phase, phaseDeadline := min (w.later + op.request.commandTimeout) op.overallDeadline }

def command (op : SendOperation) (w : World) (phase : Phase) (bytes : Bytes) : SendOperation :=
  { op.setPhase w phase with outbound := some (.new bytes) }

/-- `SendOperation::terminal`, with `abort_transport`. -/
def terminal (op : SendOperation) (delivery : Delivery) : SendOperation :=
  if op.outcome.isSome then op
  else { op with
    pending := none
    transport := none
    outbound := none
    data := none
    outcome := some ⟨op.reports, delivery, op.transportDiagnostic⟩
    reports := []
    transportDiagnostic := none }

def fail (op : SendOperation) (reason : FailureReason) : SendOperation :=
  match op.accepted with
  | some reply => { op with accepted := none }.terminal (.accepted reply)
  | none =>
    if op.terminatorAdmitted then op.terminal (.uncertain op.phase.stage reason)
    else op.terminal (.notAccepted op.phase.stage reason)

/-- `fail` with the transport error it comes from. -/
def failWith (op : SendOperation) (error : Error) : SendOperation :=
  { op with transportDiagnostic := some (.of error) }.fail (reasonFromError error)

def reject (op : SendOperation) (reply : Reply) : SendOperation :=
  op.terminal (.rejected op.phase.stage reply.summary)

/-- `SendOperation::poll_connect`: whether to go on. -/
def pollConnect (op : SendOperation) (w : World) : SendOperation × Bool :=
  match op.pending with
  | none => (op.fail .protocol, false)
  | some pending =>
    match w.connect with
    | .timedOut => (op, false)
    | .completed =>
      let op := { op with pending := none, transport := some pending }
      (if pending = .tls ∧ op.phase = .upgrade then op.command w .ehloSend (ehloCommand op.request)
        else op.setPhase w .greeting, true)
    | .failed error => ({ op with pending := none }.failWith error, true)
    | .cancelled => ({ op with pending := none }.fail .cancelled, true)

def readStep (op : SendOperation) (w : World) : SendOperation × ReadStep :=
  match op.transport with
  | none => (op, .failed .transport)
  | some via =>
    match w.read with
    | .pending => (op, .pending)
    | .data byte =>
      let op := { op with log := op.log ++ [Event.read via byte] }
      match op.parser.push byte with
      | some (parser, some reply) => ({ op with parser := parser }, .complete reply)
      | some (parser, none) => ({ op with parser := parser }, .progress)
      | none => (op, .failed .protocol)
    | .empty | .eof | .reset => (op, .failed .transport)
    | .failed error => ({ op with transportDiagnostic := some (.of error) }, .failed (reasonFromError error))
    | .cancelled => (op, .failed .cancelled)

def sendStep (op : SendOperation) (w : World) : SendOperation × SendStep :=
  match op.outbound, op.transport with
  | some outbound, some via =>
    let offered := if outbound.offset = outbound.bytes.length then []
      else [.offered via (outbound.candidate op.sendLimit) (w.send = .taken)]
    let (outbound, limit, step) := outbound.step w.send op.sendLimit
    ({ op with outbound := some outbound, sendLimit := limit, log := op.log ++ offered }, step)
  | _, _ => (op, .failed .transport)

def afterCommand (op : SendOperation) (w : World) : SendOperation :=
  match op.phase with
  | .ehloSend => { op with phase := .ehloReply }
  | .startTlsSend => { op with phase := .startTlsReply }
  | .mailSend => { op with phase := .mailReply }
  | .rcptSend index =>
    { op with
      reports := op.reports.modify index fun report => { report with status := .unresolved }
      phase := .rcptReply index }
  | .dataSend => { op with phase := .dataReply }
  | .terminatorSend => { op with terminatorAdmitted := true }.setPhase w .dataResult
  | .quitSend => { op with phase := .quitReply }
  | _ => op.fail .protocol

def startRcpt (op : SendOperation) (w : World) (index : Nat) : SendOperation :=
  op.command w (.rcptSend index) (rcptCommand (op.request.envelope.recipients.getD index []))

def inClass (hundreds code : Nat) : Bool := hundreds * 100 ≤ code && code < (hundreds + 1) * 100

def negative (code : Nat) : Bool := 400 ≤ code && code < 600

/-- The end of most arms of `handle_reply`: a rejection, or a protocol failure. -/
def refuse (op : SendOperation) (reply : Reply) : SendOperation :=
  if negative reply.code then op.reject reply else op.fail .protocol

/-- The part of `handle_reply` after the last RCPT reply. -/
def afterRecipients (op : SendOperation) (w : World) : SendOperation :=
  if !op.reports.any (·.status.isAccepted) then op.fail .noAcceptedRecipients
  else if op.reports.any (·.status.isRejected) && op.request.recipientPolicy = .requireAllRecipients then
    op.fail .recipientsRejected
  else op.command w .dataSend dataCommand

/-- The part of `handle_reply` after a RCPT reply that has been recorded. -/
def nextRecipient (op : SendOperation) (w : World) (index : Nat) : SendOperation :=
  if index + 1 < op.request.envelope.recipients.length then op.startRcpt w (index + 1) else op.afterRecipients w

def report (op : SendOperation) (index : Nat) (status : RecipientStatus) : SendOperation :=
  { op with reports := op.reports.modify index fun report => { report with status := status } }

def handleReply (op : SendOperation) (w : World) (reply : Reply) : SendOperation :=
  match op.phase with
  | .greeting =>
    if inClass 2 reply.code then op.command w .ehloSend (ehloCommand op.request) else op.refuse reply
  | .ehloReply =>
    if inClass 2 reply.code then
      if op.request.server.policy = .requiredStartTls ∧ op.transport = some .plain then
        if reply.advertises (ascii "STARTTLS") then op.command w .startTlsSend startTlsCommand
        else op.fail .startTlsUnavailable
      else op.command w .mailSend (mailCommand op.request)
    else op.refuse reply
  | .startTlsReply =>
    if reply.code = 220 then
      match op.transport, w.submitTls with
      | some .plain, .ok () => { op with transport := none, pending := some .tls }.setPhase w .upgrade
      | some .plain, .error error => { op with transport := none }.failWith error
      | _, _ => { op with transport := none }.fail .protocol
    else op.refuse reply
  | .mailReply => if inClass 2 reply.code then op.startRcpt w 0 else op.refuse reply
  | .rcptReply index =>
    if inClass 2 reply.code then (op.report index (.acceptedForTransaction reply.summary)).nextRecipient w index
    else if negative reply.code then
      let op := op.report index (.rejected reply.summary)
      if reply.code = 421 then op.reject reply else op.nextRecipient w index
    else op.fail .protocol
  | .dataReply =>
    if inClass 3 reply.code then { op with data := some (.new op.request.message) }.setPhase w .dataBody
    else op.refuse reply
  | .dataResult =>
    if inClass 2 reply.code then { op with accepted := some reply.summary }.command w .quitSend quitCommand
    else op.refuse reply
  | .quitReply =>
    if inClass 2 reply.code && op.accepted.isSome then op.setPhase w .finish else op.fail .protocol
  | _ => op.fail .protocol

/-- The arm of `advance` for a phase that reads a reply. -/
def advanceReading (op : SendOperation) (w : World) : SendOperation × Bool :=
  match op.readStep w with
  | (op, .pending) => (op, false)
  | (op, .progress) => (op, true)
  | (op, .complete reply) =>
    ({ op with log := op.log ++ op.transport.toList.map (Event.replied · op.phase reply) }.handleReply w reply, true)
  | (op, .failed reason) => (op.fail reason, false)

/-- The arm of `advance` for a phase that sends a command. -/
def advanceSending (op : SendOperation) (w : World) : SendOperation × Bool :=
  match op.sendStep w with
  | (op, .pending) => (op, false)
  | (op, .progress _) => (op, true)
  | (op, .done _) => ({ op with outbound := none }.afterCommand w, true)
  | (op, .failed reason) => (op.fail reason, false)

/-- The chunk of the message that is being sent: the one before, or the next. -/
def stageChunk (op : SendOperation) (e : DataEncoder) (dataBytes : Nat) : SendOperation :=
  match op.outbound with
  | some _ => op
  | none =>
    let (e, chunk) := e.nextChunk op.request.message (min maxStaging (maxDataBytesPerPoll - dataBytes))
    { op with data := some e, outbound := some (.new chunk) }

/-- The arm of `advance` for the message, with the number of its bytes that this `poll` has sent. -/
def advanceBody (op : SendOperation) (w : World) (dataBytes : Nat) : SendOperation × Nat × Bool :=
  if dataBytes ≥ maxDataBytesPerPoll then (op, dataBytes, false)
  else match op.data with
    | none => (op.fail .protocol, dataBytes, false)
    | some e =>
      if op.outbound.isNone && e.finished op.request.message then
        (op.command w .terminatorSend terminator, dataBytes, true)
      else match (op.stageChunk e dataBytes).sendStep w with
        | (op, .pending) => (op, dataBytes, false)
        | (op, .progress count) => (op, dataBytes + count, true)
        | (op, .done count) => ({ op with outbound := none }, dataBytes + count, true)
        | (op, .failed reason) => (op.fail reason, dataBytes, false)

/-- The arm of `advance` for the end of the connection. -/
def advanceFinish (op : SendOperation) (w : World) : SendOperation × Bool :=
  match op.transport, w.finish with
  | none, _ => (op.fail .transport, false)
  | some _, .pending => (op, false)
  | some _, .finished => (op.fail .protocol, true)
  | some _, .failed => (op.fail .transport, false)

/-- `SendOperation::advance`: the bytes of the message sent by this `poll`, and whether to go on. -/
def advance (op : SendOperation) (w : World) (dataBytes : Nat) : SendOperation × Nat × Bool :=
  match op.phase.kind with
  | .connecting => ((op.pollConnect w).1, dataBytes, (op.pollConnect w).2)
  | .reading => ((op.advanceReading w).1, dataBytes, (op.advanceReading w).2)
  | .sending => ((op.advanceSending w).1, dataBytes, (op.advanceSending w).2)
  | .body => op.advanceBody w dataBytes
  | .finishing => ((op.advanceFinish w).1, dataBytes, (op.advanceFinish w).2)

/-- The loop of `SendOperation::poll`, with the rounds it has left. -/
def pollLoop : Nat → SendOperation → Nat → (Nat → World) → SendOperation
  | 0, op, _, _ => op
  | rounds + 1, op, dataBytes, worlds =>
    if op.outcome.isSome then op
    else if (worlds 0).now ≥ op.overallDeadline ∨ (worlds 0).now ≥ op.phaseDeadline then op.fail .timeout
    else match op.advance (worlds 0) dataBytes with
      | (op, _, false) => op
      | (op, dataBytes, true) => pollLoop rounds op dataBytes fun round => worlds (round + 1)

def poll (op : SendOperation) (worlds : Nat → World) : SendOperation := pollLoop maxStepsPerPoll op 0 worlds

def cancel (op : SendOperation) : SendOperation := if op.outcome.isNone then op.fail .cancelled else op

inductive Call where
  | poll (worlds : Nat → World)
  | cancel

def call (op : SendOperation) : Call → SendOperation
  | .poll worlds => op.poll worlds
  | .cancel => op.cancel

def calls (op : SendOperation) (list : List Call) : SendOperation := list.foldl call op

end SendOperation

/-- `SmtpClient::submit`, with the connector's answer. The clock is read twice: `clockRoom` and then `room` are the
longest durations it can still be advanced by, and `now` is the second reading. -/
def submit (request : SendRequest) (clockRoom now room : Nat) (admission : Except Error Unit) :
    Except SmtpError SendOperation :=
  match request.validateDeadlines clockRoom with
  | .error error => .error error
  | .ok () =>
    if room < request.overallTimeout then .error (.invalid "SMTP overall deadline cannot be represented")
    else if room < request.commandTimeout then .error (.invalid "SMTP command deadline cannot be represented")
    else
    let pending := match request.server.policy with
      | .implicit => Transport.tls
      | .requiredStartTls => .plain
    match admission with
    | .error error => .error (.transport error (match request.server.policy with
      | .implicit => "SMTP TLS connection admission failed"
      | .requiredStartTls => "SMTP TCP connection admission failed"))
    | .ok () => .ok {
        request := request
        phase := .connect
        pending := some pending
        transport := none
        parser := .fresh
        outbound := none
        data := none
        reports := request.envelope.recipients.map fun address => ⟨address, .unattempted⟩
        outcome := none
        accepted := none
        transportDiagnostic := none
        terminatorAdmitted := false
        sendLimit := min (request.server.connect.sendQueueBytes.getD maxStaging) maxStaging
        phaseDeadline := now + request.commandTimeout
        overallDeadline := now + request.overallTimeout
        log := [] }

end NbReq.Smtp
