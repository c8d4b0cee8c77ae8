import NbReq.Smtp.Transcript

/-!
# The progress of a submission

1. `Record`: what holds of the past of a submission in every state.
2. `Live`: what the phase of a submission without an outcome means. `Decided`: what an outcome means.
3. `Core`: what a live submission has at every point of a round of `poll`, from which a failure ends it as `Decided`.
-/

namespace NbReq.Smtp

open History SendOperation

variable {request : SendRequest} {log : List Event} {reports : List RecipientReport} {op : SendOperation}

/-! ## The past -/

/-- The codes of a final reply to a command: 2xx, 4xx and 5xx. -/
def isFinal (code : Nat) : Bool := inClass 2 code || negative code

/-- A reply was read after the whole terminator had been admitted. -/
def RepliedToData (request : SendRequest) (codes : Nat → Bool) (log : List Event) : Prop :=
  Replied (throughTerminator request <+: ·) (fun reply => codes reply.code = true) log

/-- A reply was read after the command for a recipient had been admitted and before the next one. -/
def RepliedTo (request : SendRequest) (index : Nat) (Q : Reply → Prop) (log : List Event) : Prop :=
  Replied (· = throughRcpts request (index + 1)) Q log

/-- The status of a recipient is that of the reply to its own command. -/
def StatusOk (request : SendRequest) (log : List Event) (index : Nat) : RecipientStatus → Prop
  | .acceptedForTransaction summary =>
    RepliedTo request index (fun reply => inClass 2 reply.code = true ∧ reply.summary = summary) log
  | .rejected summary =>
    RepliedTo request index (fun reply => negative reply.code = true ∧ reply.summary = summary) log
  | .unattempted => ¬throughRcpts request (index + 1) <+: admitted log
  | .unresolved => throughRcpts request (index + 1) <+: admitted log ∧
      ¬RepliedTo request index (fun reply => isFinal reply.code = true) log

def RecipientStatus.isSettled (status : RecipientStatus) : Bool := status.isAccepted || status.isRejected

/-- The recipients allow DATA. -/
def Consent (request : SendRequest) (reports : List RecipientReport) : Prop :=
  (∃ report ∈ reports, report.status.isAccepted = true) ∧
    (request.recipientPolicy = .requireAllRecipients → ∀ report ∈ reports, report.status.isRejected = false)

/-- What is offered in the clear is EHLO and STARTTLS. -/
def Clear (request : SendRequest) (before : List Event) : Event → Prop
  | .offered .plain bytes _ => request.server.policy = .requiredStartTls ∧
      admittedInClear before ++ bytes <+: ehloCommand request ++ startTlsCommand
  | _ => True

/-- A reply that is handled was read from the transport it is handled on. -/
def Pure (before : List Event) : Event → Prop
  | .replied via _ reply => JustRead via reply before
  | _ => True

structure Record (request : SendRequest) (log : List Event) (reports : List RecipientReport) : Prop where
  sent : admitted log <+: transcript request
  clear : Always (Clear request) log
  pure : Always Pure log
  addresses : reports.map RecipientReport.address = request.envelope.recipients
  statuses : ∀ index report, reports[index]? = some report → report.status.isSettled = true →
    StatusOk request log index report.status
  consent : ¬admitted log <+: throughRecipients request → Consent request reports

variable {status : RecipientStatus} {index : Nat}

theorem StatusOk.snoc (ok : StatusOk request log index status)
    (settled : status.isSettled = true) (event : Event) : StatusOk request (log ++ [event]) index status := by
  cases status with
  | acceptedForTransaction | rejected =>
    unfold StatusOk RepliedTo at *
    exact ok.snoc event
  | unattempted | unresolved => cases settled

variable {event : Event}

/-- An event that admits nothing and is no reply changes no status. -/
theorem StatusOk.quiet (ok : StatusOk request log index status)
    (nothing : event.taken = []) (other : ∀ via phase reply, event ≠ .replied via phase reply) :
    StatusOk request (log ++ [event]) index status := by
  have same : admitted (log ++ [event]) = admitted log := by rw [admitted_snoc, nothing, List.append_nil]
  unfold StatusOk RepliedTo at *
  cases status with
  | acceptedForTransaction | rejected => exact (replied_snoc_other other).mpr ok
  | unattempted => exact same ▸ ok
  | unresolved => exact ⟨same ▸ ok.1, fun replied => ok.2 ((replied_snoc_other other).mp replied)⟩

theorem Record.snoc (record : Record request log reports)
    (sent : admitted (log ++ [event]) <+: transcript request) (clear : Clear request log event) (pure : Pure log event)
    (consent : ¬admitted (log ++ [event]) <+: throughRecipients request → Consent request reports) :
    Record request (log ++ [event]) reports where
  sent := sent
  clear := always_snoc.mpr ⟨record.clear, clear⟩
  pure := always_snoc.mpr ⟨record.pure, pure⟩
  addresses := record.addresses
  statuses index report at_index settled := (record.statuses index report at_index settled).snoc settled event
  consent := consent

theorem Record.quiet (record : Record request log reports) (nothing : event.taken = [])
    (clear : Clear request log event) (pure : Pure log event) : Record request (log ++ [event]) reports := by
  have same : admitted (log ++ [event]) = admitted log := by rw [admitted_snoc, nothing, List.append_nil]
  exact record.snoc (same ▸ record.sent) clear pure (same ▸ record.consent)

theorem Record.length (record : Record request log reports) : reports.length = request.envelope.recipients.length := by
  rw [← record.addresses, List.length_map]

/-- What the reports say after the status of a recipient has been set. -/
theorem modify_status_cases {index at_ : Nat} {report : RecipientReport}
    (eq : (reports.modify index fun report => { report with status := status })[at_]? = some report) :
    at_ = index ∧ report.status = status ∨ at_ ≠ index ∧ reports[at_]? = some report := by
  rw [List.getElem?_modify] at eq
  obtain ⟨old, at_old, rfl⟩ := Option.map_eq_some_iff.mp eq
  by_cases same : index = at_
  · exact .inl ⟨same.symm, by rw [if_pos same]⟩
  · exact .inr ⟨Ne.symm same, by rw [if_neg same]; exact at_old⟩

/-- The status of a recipient is set before DATA. -/
theorem Record.modify (record : Record request log reports)
    (ok : status.isSettled = true → StatusOk request log index status)
    (early : admitted log <+: throughRecipients request) :
    Record request log (reports.modify index fun report => { report with status := status }) where
  sent := record.sent
  clear := record.clear
  pure := record.pure
  addresses := by
    rw [← record.addresses]
    apply List.ext_getElem?
    intro at_
    rw [List.getElem?_map, List.getElem?_map, List.getElem?_modify]
    cases reports[at_]? with
    | none => rfl
    | some report =>
      by_cases same : index = at_
      · simp [same]
      · simp [same]
  statuses at_ report at_report settled := by
    obtain ⟨rfl, eq⟩ | ⟨-, old⟩ := modify_status_cases at_report
    · rw [eq] at settled ⊢
      exact ok settled
    · exact record.statuses at_ report old settled
  consent past := absurd early past

/-! ## The present -/

/-- An outbound with something to send, which a refused candidate is the front of. -/
structure Outbound.Ok (o : Outbound) : Prop where
  unfinished : o.offset < o.bytes.length
  retries : ∀ candidate, o.retry = some candidate → candidate <+: o.bytes.drop o.offset

theorem Outbound.Ok.new {bytes : Bytes} (some_bytes : bytes ≠ []) : (Outbound.new bytes).Ok :=
  ⟨List.length_pos_iff.mpr some_bytes, nofun⟩

def SendOperation.unsent (op : SendOperation) : Bytes := op.outbound.elim [] fun o => o.bytes.drop o.offset

/-- How far a phase has come with what it sends. -/
def SendOperation.Sent (op : SendOperation) : Prop :=
  match op.phase.kind with
  | .sending => ∃ o, op.outbound = some o ∧ o.Ok ∧ o.bytes = op.phase.payload op.request ∧
      admitted op.log = op.phase.base op.request op.transport ++ o.bytes.take o.offset
  | .body => ∃ part e, op.data = some e ∧ e.Ok op.request.message ∧ (∀ o, op.outbound = some o → o.Ok) ∧
      admitted op.log = op.phase.base op.request op.transport ++ part ∧
      part ++ (op.unsent ++ e.remaining op.request.message) = op.phase.payload op.request
  | _ => op.outbound = none ∧ admitted op.log = op.phase.base op.request op.transport

/-- What a phase says of the fields. -/
structure Fits (phase : Phase) (op : SendOperation) : Prop where
  on : phase.On op.request.server.policy op.transport
  inside : phase.Inside op.request
  consent : phase.afterRecipients = true → Consent op.request op.reports
  terminator : op.terminatorAdmitted = phase.afterTerminator
  accepted : op.accepted.isSome = phase.afterResult
  result : phase.afterResult = true → RepliedToData op.request (inClass 2) op.log
  unattempted : ∀ index report, op.reports[index]? = some report → report.status = .unattempted →
    phase.attempted op.request.envelope.recipients.length ≤ index
  unresolved : ∀ index report, op.reports[index]? = some report → report.status = .unresolved →
    phase = .rcptReply index

/-- The bytes that the parser has, and the events they came with. -/
def Heard (via : Transport) (parser : ReplyParser) (log : List Event) : Prop :=
  ∃ earlier bytes, log = earlier ++ bytes.map (Event.read via) ∧ ReplyParser.fresh.feed bytes = some parser

/-- A submission of a request that has no outcome. -/
structure Past (request : SendRequest) (op : SendOperation) : Prop where
  same : op.request = request
  undecided : op.outcome = none
  record : Record op.request op.log op.reports
  inClear : op.transport ≠ some .tls → admittedInClear op.log = admitted op.log

/-- What the phase of a submission without an outcome means. -/
structure Live (request : SendRequest) (op : SendOperation) : Prop extends Past request op where
  fits : Fits op.phase op
  sent : op.Sent
  pending : op.phase.kind = .connecting →
    op.pending = some (if op.phase = .upgrade then .tls else op.request.server.policy.initial)
  heard : op.phase.kind = .reading → ∀ via, op.transport = some via → Heard via op.parser op.log
  silent : op.phase.kind ≠ .reading → op.parser = .fresh
  unanswered : op.phase.kind = .reading ∨ op.phase = .connect →
    ¬Replied (op.phase.base op.request op.transport <+: ·) (fun _ => True) op.log

structure Decided (request : SendRequest) (op : SendOperation) (outcome : SendOutcome) : Prop where
  same : op.request = request
  record : Record op.request op.log outcome.recipients
  statuses : ∀ index report, outcome.recipients[index]? = some report →
    StatusOk op.request op.log index report.status
  accepted : (∃ reply, outcome.delivery = .accepted reply) ↔ RepliedToData op.request (inClass 2) op.log
  uncertain : ∀ stage reason, outcome.delivery = .uncertain stage reason →
    throughTerminator op.request <+: admitted op.log ∧ ¬RepliedToData op.request isFinal op.log
  notAccepted : ∀ stage reason, outcome.delivery = .notAccepted stage reason →
    ¬throughTerminator op.request <+: admitted op.log

def Inv (request : SendRequest) (op : SendOperation) : Prop :=
  match op.outcome with
  | none => Live request op
  | some outcome => Decided request op outcome

theorem Live.inv (live : Live request op) : Inv request op := by
  unfold Inv
  rw [live.undecided]
  exact live

/-- What a live submission has at every point of a round of `poll`. -/
structure Core (request : SendRequest) (op : SendOperation) : Prop where
  same : op.request = request
  undecided : op.outcome = none
  record : Record op.request op.log op.reports
  statuses : ∀ index report, op.reports[index]? = some report → StatusOk op.request op.log index report.status
  terminator : op.terminatorAdmitted = true ↔ throughTerminator op.request <+: admitted op.log
  accepted : op.accepted.isSome = true ↔ RepliedToData op.request (inClass 2) op.log

/-! ## The end -/

theorem Core.terminal (core : Core request op) {delivery : Delivery}
    (accepted : (∃ reply, delivery = .accepted reply) ↔ op.accepted.isSome = true)
    (uncertain : ∀ stage reason, delivery = .uncertain stage reason →
      op.terminatorAdmitted = true ∧ ¬RepliedToData op.request isFinal op.log)
    (notAccepted : ∀ stage reason, delivery = .notAccepted stage reason → op.terminatorAdmitted = false) :
    Inv request (op.terminal delivery) := by
  unfold SendOperation.terminal Inv
  rw [core.undecided]
  exact
    { same := core.same
      record := core.record
      statuses := core.statuses
      accepted := accepted.trans core.accepted
      uncertain := fun stage reason eq =>
        have ⟨all, unanswered⟩ := uncertain stage reason eq
        ⟨core.terminator.mp all, unanswered⟩
      notAccepted := fun stage reason eq all =>
        nomatch (notAccepted stage reason eq).symm.trans (core.terminator.mpr all) }

/-- A failure ends a submission with what is known of its terminator and of the final reply. -/
theorem Core.fail (core : Core request op) (unanswered : op.accepted = none → ¬RepliedToData op.request isFinal op.log)
    (reason : FailureReason) : Inv request (op.fail reason) := by
  unfold SendOperation.fail
  split
  case h_1 reply accepted =>
    -- `accepted` is taken out of the field before the end, which nothing of the core but `Core.accepted` sees.
    have replied := core.accepted.mp (by rw [accepted]; rfl)
    unfold SendOperation.terminal Inv
    rw [core.undecided]
    exact
      { same := core.same
        record := core.record
        statuses := core.statuses
        accepted := ⟨fun _ => replied, fun _ => ⟨reply, rfl⟩⟩
        uncertain := nofun
        notAccepted := nofun }
  case h_2 accepted =>
    have nothing : ¬op.accepted.isSome = true := by rw [accepted]; nofun
    split
    case isTrue all =>
      refine core.terminal ⟨nofun, fun some_reply => absurd some_reply nothing⟩ ?_ nofun
      exact fun _ _ _ => ⟨all, unanswered accepted⟩
    case isFalse part =>
      refine core.terminal ⟨nofun, fun some_reply => absurd some_reply nothing⟩ nofun ?_
      exact fun _ _ _ => Bool.eq_false_iff.mpr part

theorem Core.reject (core : Core request op) (unaccepted : op.accepted = none) (reply : Reply) :
    Inv request (op.reject reply) := by
  refine core.terminal ⟨nofun, fun some_reply => ?_⟩ nofun nofun
  rw [unaccepted] at some_reply
  cases some_reply

theorem Core.quiet (core : Core request op) (nothing : event.taken = [])
    (other : ∀ via phase reply, event ≠ .replied via phase reply) (clear : Clear op.request op.log event)
    (pure : Pure op.log event) : Core request { op with log := op.log ++ [event] } := by
  have same : admitted (op.log ++ [event]) = admitted op.log := by rw [admitted_snoc, nothing, List.append_nil]
  exact
    { same := core.same
      undecided := core.undecided
      record := core.record.quiet nothing clear pure
      statuses := fun index report at_index => (core.statuses index report at_index).quiet nothing other
      terminator := same ▸ core.terminator
      accepted := core.accepted.trans (replied_snoc_other other).symm }

/-! ## Where a phase is in the transcript -/

structure Within (op : SendOperation) : Prop where
  base : op.phase.base op.request op.transport <+: admitted op.log
  target : admitted op.log <+: op.phase.target op.request op.transport
  sending : op.phase.kind = .sending → (admitted op.log).length < (op.phase.target op.request op.transport).length

theorem Live.within (live : Live request op) : Within op := by
  have sent := live.sent
  unfold Sent at sent
  split at sent
  case h_1 sending =>
    obtain ⟨o, -, ok, bytes, eq⟩ := sent
    refine ⟨eq ▸ List.prefix_append _ _, ?_, fun _ => ?_⟩
    · rw [eq, Phase.target, ← bytes]
      exact (List.prefix_append_right_inj _).mpr (List.take_prefix _ _)
    · rw [eq, Phase.target, ← bytes, List.length_append, List.length_append, List.length_take]
      have := ok.unfinished
      omega
  case h_2 body =>
    obtain ⟨part, e, -, -, -, eq, whole⟩ := sent
    refine ⟨eq ▸ List.prefix_append _ _, ?_, fun sending => by cases body.symm.trans sending⟩
    rw [eq, Phase.target, ← whole]
    exact (List.prefix_append_right_inj _).mpr (List.prefix_append _ _)
  case h_3 other _ =>
    refine ⟨sent.2 ▸ List.prefix_rfl, ?_, fun sending => absurd sending other⟩
    rw [sent.2]
    exact List.prefix_append _ _

section

variable (fits : Fits op.phase op) (within : Within op)
include fits within

/-- Before the terminator has been sent, it has not been admitted. -/
theorem Fits.not_throughTerminator (before : op.phase.afterTerminator = false) :
    ¬throughTerminator op.request <+: admitted op.log := by
  intro all
  have reached := all.length_le
  by_cases sending : op.phase = .terminatorSend
  · have short := within.sending (sending ▸ rfl)
    rw [sending] at short
    exact absurd short (Nat.not_lt.mpr reached)
  · have short := (within.target.trans (Phase.target_prefix_message fits.on fits.inside before sending)).length_le
    have := length_throughMessage_lt op.request
    omega

theorem Fits.terminator_iff : op.terminatorAdmitted = true ↔ throughTerminator op.request <+: admitted op.log := by
  rw [fits.terminator]
  constructor
  · exact fun after => (Phase.terminator_prefix_base after).trans within.base
  · intro all
    by_contra before
    exact fits.not_throughTerminator within (Bool.eq_false_iff.mpr before) all

/-- A recipient that is not attempted has not been sent. -/
theorem Fits.not_throughRcpts (unattempted : op.phase.attempted op.request.envelope.recipients.length ≤ index)
    (some_index : index < op.request.envelope.recipients.length) :
    ¬throughRcpts op.request (index + 1) <+: admitted op.log := by
  intro all
  have reached := all.length_le
  cases early : op.phase.afterRecipients with
  | true =>
    have attempted : op.phase.attempted op.request.envelope.recipients.length = op.request.envelope.recipients.length := by
      revert early
      cases op.phase <;> first | exact fun _ => rfl | nofun
    omega
  | false =>
    have target := Phase.target_prefix_rcpts fits.on fits.inside early
    by_cases sending : op.phase = .rcptSend index
    · have short := within.sending (sending ▸ rfl)
      have longer := target.length_le
      rw [sending] at short longer
      exact absurd (Nat.lt_of_lt_of_le short longer) (Nat.not_lt.mpr reached)
    have fewer : op.phase.reached < index + 1 := by
      revert unattempted sending
      cases op.phase with
      | rcptSend other =>
        intro le ne
        have : other ≠ index := fun eq => ne (eq ▸ rfl)
        simp only [Phase.attempted, Phase.reached, Phase.recipient, Option.elim_some] at le ⊢
        omega
      | rcptReply other => exact fun le _ => Nat.lt_succ_of_le le
      | _ => exact fun _ _ => Nat.succ_pos _
    have := length_throughRcpts_lt op.request fewer some_index
    have := (within.target.trans target).length_le
    omega

end

theorem Phase.not_afterTerminator {phase : Phase} (before : phase.afterResult = false) (other : phase ≠ .dataResult) :
    phase.afterTerminator = false := by
  revert before other
  cases phase <;> first | exact fun _ _ => rfl | exact fun _ ne => absurd rfl ne | nofun

/-- Before a final reply to DATA, nothing has been replied to the terminator. -/
theorem Live.not_repliedToData (live : Live request op) (before : op.phase.afterResult = false) {codes : Nat → Bool} :
    ¬RepliedToData op.request codes op.log := by
  by_cases result : op.phase = .dataResult
  · have unanswered := live.unanswered (.inl (result ▸ rfl))
    rw [result] at unanswered
    exact fun replied => unanswered (replied.mono (fun _ all => all) fun _ _ => trivial)
  · exact not_replied (live.fits.not_throughTerminator live.within (Phase.not_afterTerminator before result))

/-- The status of a recipient, given what it says of one without a reply. -/
theorem Record.statusOk (record : Record request log reports) {report : RecipientReport}
    (at_index : reports[index]? = some report)
    (unattempted : report.status = .unattempted → index < request.envelope.recipients.length →
      ¬throughRcpts request (index + 1) <+: admitted log)
    (unresolved : report.status = .unresolved → StatusOk request log index .unresolved) :
    StatusOk request log index report.status := by
  have settled := record.statuses index report at_index
  cases status : report.status with
  | acceptedForTransaction | rejected => exact status ▸ settled (status ▸ rfl)
  | unattempted => exact unattempted status (record.length ▸ (List.getElem?_eq_some_iff.mp at_index).1)
  | unresolved => exact unresolved status

/-- The core of a submission between two steps of a phase. -/
theorem Core.of_fits (past : Past request op) (fits : Fits op.phase op) (within : Within op)
    (unresolved : ∀ index, op.phase = .rcptReply index →
      ¬RepliedTo op.request index (fun reply => isFinal reply.code = true) op.log)
    (unreplied : op.phase.afterResult = false → ¬RepliedToData op.request (inClass 2) op.log) : Core request op where
  same := past.same
  undecided := past.undecided
  record := past.record
  statuses index report at_index := by
    refine past.record.statusOk at_index (fun status inside => ?_) fun status => ?_
    · exact fits.not_throughRcpts within (fits.unattempted index report at_index status) inside
    have phase := fits.unresolved index report at_index status
    have base := within.base
    rw [phase] at base
    exact ⟨base, unresolved index phase⟩
  terminator := fits.terminator_iff within
  accepted := by
    rw [fits.accepted]
    cases after : op.phase.afterResult with
    | true => exact iff_of_true rfl (fits.result after)
    | false => exact iff_of_false nofun (unreplied after)

theorem Live.core (live : Live request op) : Core request op := by
  refine .of_fits live.toPast live.fits live.within (fun index phase replied => ?_)
    fun before => live.not_repliedToData before
  have unanswered := live.unanswered (.inl (phase ▸ rfl))
  rw [phase] at unanswered
  exact unanswered (replied.mono (fun _ eq => eq ▸ List.prefix_rfl) fun _ _ => trivial)

theorem Live.unreplied (live : Live request op) (unaccepted : op.accepted = none) :
    ¬RepliedToData op.request isFinal op.log := by
  apply live.not_repliedToData
  rw [← live.fits.accepted, unaccepted]
  rfl

theorem Live.fail (live : Live request op) (reason : FailureReason) : Inv request (op.fail reason) :=
  live.core.fail live.unreplied reason

end NbReq.Smtp
