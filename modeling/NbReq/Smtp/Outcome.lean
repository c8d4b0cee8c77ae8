import NbReq.Smtp.Replies

/-!
# What a submission sends and reports

1. `Submission.transcript_prefix`: whatever the transport answers, what is admitted is a front of the transcript, and
   each command of it is one line.
2. `Submission.outcome_sound`: the outcome and the reports say what was read and admitted.
-/

namespace NbReq.Smtp

open History SendOperation

variable {request : SendRequest} {op : SendOperation}

/-! ## New submissions -/

/-- A new submission is one that is about to connect. -/
theorem submit_live {clockRoom now room : Nat} {admission : Except Error Unit}
    (submitted : submit request clockRoom now room admission = .ok op) : Live request op := by
  have unattempted : ∀ (index : Nat) (report : RecipientReport),
      (request.envelope.recipients.map fun address => RecipientReport.mk address .unattempted)[index]? = some report →
        report.status = .unattempted := by
    intro index report at_index
    rw [List.getElem?_map] at at_index
    obtain ⟨address, -, rfl⟩ := Option.map_eq_some_iff.mp at_index
    rfl
  unfold submit at submitted
  split at submitted
  · cases submitted
  split at submitted
  · cases submitted
  split at submitted
  · cases submitted
  cases admission with
  | error error => cases submitted
  | ok =>
    cases submitted
    exact
      { same := rfl
        undecided := rfl
        record :=
          { sent := List.nil_prefix
            clear := always_nil
            pure := always_nil
            addresses := by rw [List.map_map]; exact List.map_id _
            statuses := fun index report at_index settled => by
              rw [unattempted index report at_index] at settled
              cases settled
            consent := fun past => absurd List.nil_prefix past }
        fits :=
          { on := rfl
            inside := nofun
            consent := nofun
            terminator := rfl
            accepted := rfl
            result := nofun
            unattempted := fun _ _ _ _ => Nat.zero_le _
            unresolved := fun index report at_index status =>
              nomatch (unattempted index report at_index).symm.trans status }
        sent := ⟨rfl, rfl⟩
        inClear := fun _ => rfl
        pending := fun _ => by cases request.server.policy <;> rfl
        heard := nofun
        silent := fun _ => rfl
        unanswered := fun _ => ever_nil }

theorem calls_decided (decided : op.outcome.isSome = true) (list : List SendOperation.Call) : op.calls list = op := by
  have one : ∀ c, op.call c = op := by
    intro c
    cases c with
    | poll worlds =>
      unfold SendOperation.call SendOperation.poll maxStepsPerPoll pollLoop
      exact if_pos decided
    | cancel =>
      obtain ⟨outcome, eq⟩ := Option.isSome_iff_exists.mp decided
      exact if_neg (by rw [eq]; exact Bool.false_ne_true)
  induction list with
  | nil => rfl
  | cons c rest ih =>
    change (op.call c).calls rest = op
    rw [one c]
    exact ih

/-- The reports of a submission, which the outcome takes at the end. -/
def SendOperation.currentReports (op : SendOperation) : List RecipientReport :=
  (op.outcome.map SendOutcome.recipients).getD op.reports

theorem Inv.record (inv : Inv request op) : Record request op.log op.currentReports := by
  unfold Inv at inv
  unfold SendOperation.currentReports
  cases outcome : op.outcome with
  | none | some outcome' =>
    rw [outcome] at inv
    exact inv.same ▸ inv.record

/-! ## The commands are lines -/

def IsCommand (bytes : Bytes) : Prop := ∃ line, bytes = line ++ crlf ∧ IsLine line

theorem ehloCommand_isCommand (request : SendRequest) : IsCommand (ehloCommand request) := by
  refine ⟨ascii "EHLO " ++ request.ehloName, rfl, ?_⟩
  have verb : IsLine (ascii "EHLO ") := ⟨by decide +kernel, by decide +kernel⟩
  exact verb.append (validateEhlo_line request.ehloValid)

theorem isCommand_of_mailbox {verb address : Bytes} (verbLine : IsLine verb) (line : IsLine address) :
    IsCommand (verb ++ address ++ ascii ">\r\n") := by
  refine ⟨verb ++ address ++ ascii ">", ?_, ?_⟩
  · rw [List.append_assoc, List.append_assoc, List.append_assoc]
    exact congrArg (fun tail => verb ++ (address ++ tail)) (by decide +kernel)
  · have close : IsLine (ascii ">") := ⟨by decide +kernel, by decide +kernel⟩
    exact (verbLine.append line).append close

theorem mailCommand_isCommand (request : SendRequest) : IsCommand (mailCommand request) := by
  unfold mailCommand
  split
  · exact ⟨ascii "MAIL FROM:<>", by decide +kernel, by decide +kernel, by decide +kernel⟩
  next some_sender =>
    have verb : IsLine (ascii "MAIL FROM:<") := ⟨by decide +kernel, by decide +kernel⟩
    refine isCommand_of_mailbox verb (validateMailbox_line (request.envelope.senderValid fun empty => ?_))
    rw [empty] at some_sender
    exact some_sender rfl

theorem rcptCommand_isCommand {address : Bytes} (mem : address ∈ request.envelope.recipients) :
    IsCommand (rcptCommand address) := by
  have verb : IsLine (ascii "RCPT TO:<") := ⟨by decide +kernel, by decide +kernel⟩
  exact isCommand_of_mailbox verb (validateMailbox_line (request.envelope.recipientsValid address mem))

theorem fixed_isCommand :
    IsCommand startTlsCommand ∧ IsCommand dataCommand ∧ IsCommand terminator ∧ IsCommand quitCommand :=
  ⟨⟨ascii "STARTTLS", by decide +kernel, by decide +kernel, by decide +kernel⟩,
    ⟨ascii "DATA", by decide +kernel, by decide +kernel, by decide +kernel⟩,
    ⟨ascii ".", by decide +kernel, by decide +kernel, by decide +kernel⟩,
    ⟨ascii "QUIT", by decide +kernel, by decide +kernel, by decide +kernel⟩⟩

/-! ## The results -/

/-- Whatever the transport answers, what a submission has admitted is a front of the one transcript of its request:
EHLO, with the policy STARTTLS and EHLO again, MAIL, a RCPT for each recipient in order, DATA, the encoded message, the
terminator and QUIT. Each command is one line. -/
theorem Submission.transcript_prefix {clockRoom now room : Nat} {admission : Except Error Unit}
    (submitted : submit request clockRoom now room admission = .ok op) (list : List SendOperation.Call) :
    admitted (op.calls list).log <+: transcript request ∧
      IsCommand (ehloCommand request) ∧ IsCommand startTlsCommand ∧ IsCommand (mailCommand request) ∧
      (∀ address ∈ request.envelope.recipients, IsCommand (rcptCommand address)) ∧
      IsCommand dataCommand ∧ IsCommand terminator ∧ IsCommand quitCommand := by
  have record := (calls_inv (submit_live submitted).inv list).record
  have ⟨startTls, data, dot, quit⟩ := fixed_isCommand
  exact ⟨record.sent, ehloCommand_isCommand request, startTls, mailCommand_isCommand request,
    fun _ mem => rcptCommand_isCommand mem, data, dot, quit⟩

def sampleRequest : SendRequest where
  server := ⟨⟨.hostname (ascii "mail.example") 465, none, none⟩, ⟨ascii "mail.example", 1⟩, .implicit⟩
  ehloName := ascii "client.example"
  envelope :=
    { sender := ascii "a@client.example"
      recipients := [ascii "b@mail.example"]
      senderValid := fun _ => ok_of_toOption (by decide +kernel)
      someRecipients := by decide +kernel
      recipientsValid := fun _ mem => List.mem_singleton.mp mem ▸ ok_of_toOption (by decide +kernel) }
  message := ascii "Subject: one\r\n\r\n.two"
  recipientPolicy := .requireAllRecipients
  commandTimeout := 1
  overallTimeout := 1
  ehloValid := ok_of_toOption (by decide +kernel)
  messageValid := ⟨100, ok_of_toOption (by decide +kernel)⟩

/-- The answers of a server that accepts the message; a round that does not read ignores its byte. -/
def sampleSession (round : Nat) : World where
  connect := .completed
  read := .data ((ascii "-220\r\n-250\r\n-250\r\n-250\r\n-354\r\n---250\r\n-221\r\n-").getD round 0)
  send := .taken
  submitTls := .ok ()
  finish := .finished
  now := 0
  later := 0

theorem Submission.transcript_prefix_sample :
    ∃ op, submit sampleRequest 1 0 1 (.ok ()) = .ok op ∧
      admitted (op.calls [.poll sampleSession]).log <+: transcript sampleRequest :=
  have submitted := rfl
  ⟨_, submitted, (Submission.transcript_prefix submitted [.poll sampleSession]).1⟩

/-- The sample is all sent. -/
example : (submit sampleRequest 1 0 1 (.ok ())).toOption.map
    (fun op => admitted (op.calls [.poll sampleSession]).log == transcript sampleRequest) = some true := by
  decide +kernel

/-- The outcome is sound: it is `Accepted` if and only if a 2xx reply was read after the whole terminator had been
admitted, `Uncertain` only without a final reply to an admitted terminator, `NotAccepted` only without the terminator,
and it stays. The reports are those of the recipients, each from the reply to its own command, and nothing after the
recipients is admitted unless they allow it. -/
theorem Submission.outcome_sound {clockRoom now room : Nat} {admission : Except Error Unit}
    (submitted : submit request clockRoom now room admission = .ok op) (list : List SendOperation.Call) :
    (∀ outcome, (op.calls list).outcome = some outcome →
      ((∃ reply, outcome.delivery = .accepted reply) ↔
        RepliedToData request (inClass 2) (op.calls list).log) ∧
      (∀ stage reason, outcome.delivery = .uncertain stage reason →
        throughTerminator request <+: admitted (op.calls list).log ∧
          ¬RepliedToData request isFinal (op.calls list).log) ∧
      (∀ stage reason, outcome.delivery = .notAccepted stage reason →
        ¬throughTerminator request <+: admitted (op.calls list).log) ∧
      (∀ later, ((op.calls list).calls later).outcome = some outcome) ∧
      ∀ index report, outcome.recipients[index]? = some report →
        StatusOk request (op.calls list).log index report.status) ∧
    (op.calls list).currentReports.map RecipientReport.address = request.envelope.recipients ∧
    (¬admitted (op.calls list).log <+: throughRecipients request →
      Consent request (op.calls list).currentReports) := by
  have inv := calls_inv (submit_live submitted).inv list
  have record := inv.record
  refine ⟨fun outcome reached => ?_, record.addresses, record.consent⟩
  unfold Inv at inv
  rw [reached] at inv
  have decided : Decided request (op.calls list) outcome := inv
  have stays : ∀ later, ((op.calls list).calls later).outcome = some outcome := by
    intro later
    rw [calls_decided (by rw [reached]; rfl) later, reached]
  rw [← decided.same]
  exact ⟨decided.accepted, decided.uncertain, decided.notAccepted, stays, decided.statuses⟩

theorem Submission.outcome_sound_sample :
    ∃ op outcome, submit sampleRequest 1 0 1 (.ok ()) = .ok op ∧
      (op.calls [.poll sampleSession]).outcome = some outcome ∧ outcome.delivery = .accepted ⟨250, []⟩ ∧
      RepliedToData sampleRequest (inClass 2) (op.calls [.poll sampleSession]).log := by
  have run : (submit sampleRequest 1 0 1 (.ok ())).toOption.bind
      (fun op => (op.calls [.poll sampleSession]).outcome.map SendOutcome.delivery) =
      some (.accepted ⟨250, []⟩) := by
    decide +kernel
  obtain ⟨op, submitted, reached⟩ := Option.bind_eq_some_iff.mp run
  obtain ⟨outcome, reached, delivery⟩ := Option.map_eq_some_iff.mp reached
  have submitted := ok_of_toOption submitted
  have sound := (Submission.outcome_sound submitted [.poll sampleSession]).1 outcome reached
  exact ⟨op, outcome, submitted, reached, delivery, sound.1.mp ⟨_, delivery⟩⟩

end NbReq.Smtp
