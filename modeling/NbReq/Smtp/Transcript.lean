import NbReq.Smtp.Client
import NbReq.Lib.History

/-!
# The transcript of a submission

What a submission sends from its beginning to its end, and where in it each phase is.

1. `transcript` and the parts of it up to each command.
2. `admitted`, `Replied`: what the log of a submission says it sent, and which replies it handled after what.
3. `Phase.base`, `Phase.payload`: what has been sent when a phase begins and what the phase sends;
   `Phase.target_prefix_transcript` and the lemmas after it place them in the transcript.
-/

namespace NbReq.Smtp

open History

variable {request : SendRequest} {via : Option Transport} {phase : Phase}

/-! ## The transcript -/

/-- The commands before MAIL. -/
def opening (request : SendRequest) : Bytes :=
  match request.server.policy with
  | .implicit => ehloCommand request
  | .requiredStartTls => ehloCommand request ++ startTlsCommand ++ ehloCommand request

/-- The transcript up to the first `count` recipients. -/
def throughRcpts (request : SendRequest) (count : Nat) : Bytes :=
  opening request ++ mailCommand request ++ ((request.envelope.recipients.take count).map rcptCommand).flatten

def throughRecipients (request : SendRequest) : Bytes := throughRcpts request request.envelope.recipients.length

def throughData (request : SendRequest) : Bytes := throughRecipients request ++ dataCommand

def throughMessage (request : SendRequest) : Bytes := throughData request ++ encodeData request.message

def throughTerminator (request : SendRequest) : Bytes := throughMessage request ++ terminator

/-- All that a submission sends: EHLO, with the policy also STARTTLS and EHLO again, MAIL, the recipients, DATA, the
message, its terminator and QUIT. -/
def transcript (request : SendRequest) : Bytes := throughTerminator request ++ quitCommand

theorem throughRcpts_zero : throughRcpts request 0 = opening request ++ mailCommand request := List.append_nil _

theorem throughRcpts_succ {index : Nat} (inside : index < request.envelope.recipients.length) :
    throughRcpts request (index + 1) =
      throughRcpts request index ++ rcptCommand (request.envelope.recipients.getD index []) := by
  rw [throughRcpts, throughRcpts, List.take_succ_eq_append_getElem inside, List.map_append, List.flatten_append,
    List.getD_eq_getElem?_getD, List.getElem?_eq_getElem inside, ← List.append_assoc]
  simp

theorem throughRcpts_front (request : SendRequest) {fewer more : Nat} (le : fewer ≤ more) :
    throughRcpts request fewer <+: throughRcpts request more := by
  refine (List.prefix_append_right_inj _).mpr ?_
  rw [← Nat.add_sub_cancel' le, List.take_add, List.map_append, List.flatten_append]
  exact List.prefix_append _ _

theorem rcptCommand_length_pos (address : Bytes) : 0 < (rcptCommand address).length := by
  rw [rcptCommand, List.append_assoc, List.length_append]
  exact Nat.lt_of_lt_of_le (by decide +kernel : 0 < (ascii "RCPT TO:<").length) (Nat.le_add_right _ _)

/-- A recipient more is a longer transcript. -/
theorem length_throughRcpts_lt (request : SendRequest) {fewer more : Nat} (lt : fewer < more)
    (le : more ≤ request.envelope.recipients.length) :
    (throughRcpts request fewer).length < (throughRcpts request more).length := by
  have longer := (throughRcpts_front request lt).length_le
  rw [throughRcpts_succ (by omega), List.length_append] at longer
  have := rcptCommand_length_pos (request.envelope.recipients.getD fewer [])
  omega

theorem throughRecipients_prefix_data : throughRecipients request <+: throughData request := List.prefix_append _ _

theorem throughData_prefix_message : throughData request <+: throughMessage request := List.prefix_append _ _

theorem throughMessage_prefix_terminator : throughMessage request <+: throughTerminator request :=
  List.prefix_append _ _

theorem throughTerminator_prefix_transcript : throughTerminator request <+: transcript request :=
  List.prefix_append _ _

theorem length_throughMessage_lt (request : SendRequest) : (throughMessage request).length < (throughTerminator request).length := by
  rw [throughTerminator, List.length_append]
  exact Nat.lt_add_of_pos_right (by decide +kernel)

/-! ## The log -/

def Event.taken : Event → Bytes
  | .offered _ bytes true => bytes
  | _ => []

def Event.takenInClear : Event → Bytes
  | .offered .plain bytes true => bytes
  | _ => []

def admitted (log : List Event) : Bytes := log.flatMap Event.taken

def admittedInClear (log : List Event) : Bytes := log.flatMap Event.takenInClear

theorem admitted_append (log later : List Event) : admitted (log ++ later) = admitted log ++ admitted later :=
  List.flatMap_append

theorem admitted_snoc (log : List Event) (event : Event) : admitted (log ++ [event]) = admitted log ++ event.taken := by
  rw [admitted_append, admitted, admitted, List.flatMap_singleton]

theorem admittedInClear_snoc (log : List Event) (event : Event) :
    admittedInClear (log ++ [event]) = admittedInClear log ++ event.takenInClear := by
  rw [admittedInClear, List.flatMap_append, List.flatMap_singleton, admittedInClear]

theorem admitted_read (log : List Event) (via : Transport) (byte : UInt8) :
    admitted (log ++ [.read via byte]) = admitted log :=
  (admitted_snoc log _).trans (List.append_nil _)

theorem admitted_replied (log : List Event) (via : Transport) (phase : Phase) (reply : Reply) :
    admitted (log ++ [.replied via phase reply]) = admitted log :=
  (admitted_snoc log _).trans (List.append_nil _)

theorem admitted_refused (log : List Event) (via : Transport) (bytes : Bytes) :
    admitted (log ++ [.offered via bytes false]) = admitted log :=
  (admitted_snoc log _).trans (List.append_nil _)

theorem admittedInClear_read (log : List Event) (via : Transport) (byte : UInt8) :
    admittedInClear (log ++ [.read via byte]) = admittedInClear log :=
  (admittedInClear_snoc log _).trans (List.append_nil _)

theorem admittedInClear_replied (log : List Event) (via : Transport) (phase : Phase) (reply : Reply) :
    admittedInClear (log ++ [.replied via phase reply]) = admittedInClear log :=
  (admittedInClear_snoc log _).trans (List.append_nil _)

/-- The last bytes that were read are a reply. -/
def JustRead (via : Transport) (reply : Reply) (log : List Event) : Prop :=
  ∃ earlier bytes, log = earlier ++ bytes.map (Event.read via) ∧ ReplyParser.Parses bytes reply

/-- A reply was handled whose bytes had all been read, one after the other, when the admitted bytes were as `P` says. -/
def Replied (P : Bytes → Prop) (Q : Reply → Prop) (log : List Event) : Prop :=
  Ever (fun before event => ∃ via phase reply, event = .replied via phase reply ∧ JustRead via reply before ∧
    P (admitted before) ∧ Q reply) log

variable {P P' : Bytes → Prop} {Q Q' : Reply → Prop} {log : List Event}

theorem Replied.mono (replied : Replied P Q log) (left : ∀ bytes, P bytes → P' bytes)
    (right : ∀ reply, Q reply → Q' reply) : Replied P' Q' log :=
  Ever.mono replied fun _ _ ⟨via, phase, reply, eq, read, p, q⟩ => ⟨via, phase, reply, eq, read, left _ p, right _ q⟩

theorem Replied.snoc (replied : Replied P Q log) (event : Event) : Replied P Q (log ++ [event]) := Ever.snoc replied event

/-- A reply was handled after some part of what is admitted. -/
theorem Replied.after (replied : Replied P Q log) : ∃ part, part <+: admitted log ∧ P part := by
  obtain ⟨before, event, after, rfl, via, phase, reply, -, -, p, -⟩ := replied
  exact ⟨admitted before, by rw [admitted_append]; exact List.prefix_append _ _, p⟩

/-- Only a handled reply is a new one. -/
theorem replied_snoc_other {event : Event} (other : ∀ via phase reply, event ≠ .replied via phase reply) :
    Replied P Q (log ++ [event]) ↔ Replied P Q log := by
  refine ever_snoc.trans (or_iff_left ?_)
  rintro ⟨via, phase, reply, eq, -⟩
  exact other via phase reply eq

theorem replied_offered {via : Transport} {bytes : Bytes} {taken : Bool} :
    Replied P Q (log ++ [.offered via bytes taken]) ↔ Replied P Q log := replied_snoc_other nofun

theorem replied_read {via : Transport} {byte : UInt8} : Replied P Q (log ++ [.read via byte]) ↔ Replied P Q log :=
  replied_snoc_other nofun

theorem replied_snoc {via : Transport} {reply : Reply} :
    Replied P Q (log ++ [.replied via phase reply]) ↔
      Replied P Q log ∨ JustRead via reply log ∧ P (admitted log) ∧ Q reply := by
  refine ever_snoc.trans (or_congr_right ⟨?_, ?_⟩)
  · rintro ⟨_, _, _, eq, read, p, q⟩
    cases eq
    exact ⟨read, p, q⟩
  · rintro ⟨read, p, q⟩
    exact ⟨via, phase, reply, rfl, read, p, q⟩

/-- What has not been admitted has not been replied to. -/
theorem not_replied {part : Bytes} (short : ¬part <+: admitted log) : ¬Replied (part <+: ·) Q log := by
  intro replied
  obtain ⟨seen, sent, reached⟩ := replied.after
  exact short (reached.trans sent)

/-! ## The phases -/

def beforeEhlo (request : SendRequest) (via : Option Transport) : Bytes :=
  match request.server.policy, via with
  | .requiredStartTls, some .tls => ehloCommand request ++ startTlsCommand
  | _, _ => []

/-- What has been sent when a phase begins. -/
def Phase.base (request : SendRequest) (via : Option Transport) : Phase → Bytes
  | .connect | .greeting => []
  | .ehloSend => beforeEhlo request via
  | .ehloReply => beforeEhlo request via ++ ehloCommand request
  | .startTlsSend => ehloCommand request
  | .startTlsReply | .upgrade => ehloCommand request ++ startTlsCommand
  | .mailSend => opening request
  | .mailReply => throughRcpts request 0
  | .rcptSend index => throughRcpts request index
  | .rcptReply index => throughRcpts request (index + 1)
  | .dataSend => throughRecipients request
  | .dataReply | .dataBody => throughData request
  | .terminatorSend => throughMessage request
  | .dataResult | .quitSend => throughTerminator request
  | .quitReply | .finish => transcript request

def Phase.payload (request : SendRequest) : Phase → Bytes
  | .ehloSend => ehloCommand request
  | .startTlsSend => startTlsCommand
  | .mailSend => mailCommand request
  | .rcptSend index => rcptCommand (request.envelope.recipients.getD index [])
  | .dataSend => dataCommand
  | .dataBody => encodeData request.message
  | .terminatorSend => terminator
  | .quitSend => quitCommand
  | _ => []

/-- What has been sent when a phase ends. -/
def Phase.target (request : SendRequest) (via : Option Transport) (phase : Phase) : Bytes :=
  phase.base request via ++ phase.payload request

def TlsPolicy.initial : TlsPolicy → Transport
  | .implicit => .tls
  | .requiredStartTls => .plain

def Phase.On (policy : TlsPolicy) : Phase → Option Transport → Prop
  | .connect, via => via = none
  | .upgrade, via => via = none ∧ policy = .requiredStartTls
  | .greeting, via => via = some policy.initial
  | .ehloSend, via | .ehloReply, via => via = some policy.initial ∨ via = some .tls
  | .startTlsSend, via | .startTlsReply, via => via = some .plain ∧ policy = .requiredStartTls
  | _, via => via = some .tls

def Phase.afterTerminator : Phase → Bool
  | .dataResult | .quitSend | .quitReply | .finish => true
  | _ => false

def Phase.afterResult : Phase → Bool
  | .quitSend | .quitReply | .finish => true
  | _ => false

def Phase.afterRecipients : Phase → Bool
  | .dataSend | .dataReply | .dataBody | .terminatorSend | .dataResult | .quitSend | .quitReply | .finish => true
  | _ => false

def Phase.recipient : Phase → Option Nat
  | .rcptSend index | .rcptReply index => some index
  | _ => none

def Phase.attempted (count : Nat) : Phase → Nat
  | .rcptSend index => index
  | .rcptReply index => index + 1
  | phase => if phase.afterRecipients then count else 0

/-- How many of the recipients have been sent when a phase up to the recipients ends. -/
def Phase.reached (phase : Phase) : Nat := phase.recipient.elim 0 (· + 1)

def Phase.Inside (request : SendRequest) (phase : Phase) : Prop :=
  ∀ index, phase.recipient = some index → index < request.envelope.recipients.length

theorem opening_prefix_throughRcpts (count : Nat) : opening request <+: throughRcpts request count := by
  rw [throughRcpts, List.append_assoc]
  exact List.prefix_append _ _

theorem ehlo_prefix_opening : ehloCommand request <+: opening request := by
  rw [opening]
  split
  · exact List.prefix_rfl
  · rw [List.append_assoc]
    exact List.prefix_append _ _

theorem startTls_prefix_opening (required : request.server.policy = .requiredStartTls) :
    ehloCommand request ++ startTlsCommand <+: opening request := by
  rw [opening, required]
  exact List.prefix_append _ _

theorem beforeEhlo_implicit (policy : request.server.policy = .implicit) : beforeEhlo request via = [] := by
  unfold beforeEhlo
  rw [policy]

theorem beforeEhlo_clear : beforeEhlo request (some .plain) = [] := by
  unfold beforeEhlo
  cases request.server.policy <;> rfl

theorem beforeEhlo_upgraded (policy : request.server.policy = .requiredStartTls) :
    beforeEhlo request (some .tls) = ehloCommand request ++ startTlsCommand := by
  unfold beforeEhlo
  rw [policy]

/-- The EHLO on a session under TLS is the end of the opening. -/
theorem beforeEhlo_tls : beforeEhlo request (some .tls) ++ ehloCommand request = opening request := by
  unfold opening
  cases policy : request.server.policy with
  | implicit => rw [beforeEhlo_implicit policy, List.nil_append]
  | requiredStartTls => rw [beforeEhlo_upgraded policy]

theorem beforeEhlo_prefix_opening : beforeEhlo request via ++ ehloCommand request <+: opening request := by
  unfold beforeEhlo
  split
  case h_1 policy =>
    exact ⟨[], by rw [List.append_nil, opening, policy]⟩
  case h_2 => exact ehlo_prefix_opening

theorem ehloCommand_ne_nil : ehloCommand request ≠ [] := by
  rw [ehloCommand, List.append_assoc]
  exact List.append_ne_nil_of_left_ne_nil (by decide +kernel) _

theorem mailCommand_ne_nil : mailCommand request ≠ [] := by
  rw [mailCommand]
  split
  · decide +kernel
  · rw [List.append_assoc]
    exact List.append_ne_nil_of_left_ne_nil (by decide +kernel) _

theorem Phase.payload_ne_nil (sending : phase.kind = .sending) : phase.payload request ≠ [] := by
  cases phase with
  | ehloSend => exact ehloCommand_ne_nil
  | mailSend => exact mailCommand_ne_nil
  | rcptSend index => exact List.length_pos_iff.mp (rcptCommand_length_pos _)
  | startTlsSend => exact (by decide +kernel : startTlsCommand ≠ [])
  | dataSend => exact (by decide +kernel : dataCommand ≠ [])
  | terminatorSend => exact (by decide +kernel : terminator ≠ [])
  | quitSend => exact (by decide +kernel : quitCommand ≠ [])
  | _ => cases sending

theorem Phase.prefix_of_idle {bytes : Bytes} (idle : phase.payload request = [])
    (le : phase.base request via <+: bytes) : phase.target request via <+: bytes := by
  rw [target, idle, List.append_nil]
  exact le

/-- Up to the recipients, a phase sends no more than the commands through its own recipient. -/
theorem Phase.target_prefix_rcpts (on : phase.On request.server.policy via) (inside : phase.Inside request)
    (early : phase.afterRecipients = false) : phase.target request via <+: throughRcpts request phase.reached := by
  have first : ∀ {bytes : Bytes}, bytes <+: opening request → bytes <+: throughRcpts request 0 :=
    fun le => le.trans (opening_prefix_throughRcpts 0)
  cases phase with
  | connect | greeting => exact List.nil_prefix
  | ehloSend => exact first beforeEhlo_prefix_opening
  | ehloReply => exact first (prefix_of_idle rfl beforeEhlo_prefix_opening)
  | startTlsSend => exact first (startTls_prefix_opening on.2)
  | startTlsReply | upgrade => exact first (prefix_of_idle rfl (startTls_prefix_opening on.2))
  | mailSend => exact List.prefix_append _ _
  | mailReply | rcptReply index => exact prefix_of_idle rfl List.prefix_rfl
  | rcptSend index =>
    change _ <+: throughRcpts request (index + 1)
    rw [throughRcpts_succ (inside index rfl)]
    exact List.prefix_rfl
  | _ => cases early

theorem Phase.reached_le (inside : phase.Inside request) : phase.reached ≤ request.envelope.recipients.length := by
  cases phase with
  | rcptSend index | rcptReply index => exact inside index rfl
  | _ => exact Nat.zero_le _

theorem Phase.target_prefix_recipients (on : phase.On request.server.policy via) (inside : phase.Inside request)
    (early : phase.afterRecipients = false) : phase.target request via <+: throughRecipients request :=
  (target_prefix_rcpts on inside early).trans (throughRcpts_front request (reached_le inside))

/-- Before the terminator a phase sends no more than the message. -/
theorem Phase.target_prefix_message (on : phase.On request.server.policy via) (inside : phase.Inside request)
    (before : phase.afterTerminator = false) (other : phase ≠ .terminatorSend) :
    phase.target request via <+: throughMessage request := by
  cases early : phase.afterRecipients with
  | false =>
    exact ((target_prefix_recipients on inside early).trans throughRecipients_prefix_data).trans
      throughData_prefix_message
  | true =>
    cases phase with
    | dataSend => exact throughData_prefix_message
    | dataReply => exact prefix_of_idle rfl throughData_prefix_message
    | dataBody => exact List.prefix_rfl
    | terminatorSend => exact absurd rfl other
    | dataResult | quitSend | quitReply | finish => cases before
    | _ => cases early

theorem Phase.target_prefix_transcript (on : phase.On request.server.policy via) (inside : phase.Inside request) :
    phase.target request via <+: transcript request := by
  cases before : phase.afterTerminator with
  | false =>
    by_cases other : phase = .terminatorSend
    · exact other ▸ throughTerminator_prefix_transcript
    · exact ((target_prefix_message on inside before other).trans throughMessage_prefix_terminator).trans
        throughTerminator_prefix_transcript
  | true =>
    cases phase with
    | dataResult => exact prefix_of_idle rfl throughTerminator_prefix_transcript
    | quitSend => exact List.prefix_rfl
    | quitReply | finish => exact prefix_of_idle rfl List.prefix_rfl
    | _ => cases before

theorem Phase.terminator_prefix_base (after : phase.afterTerminator = true) :
    throughTerminator request <+: phase.base request via := by
  cases phase with
  | dataResult | quitSend => exact List.prefix_rfl
  | quitReply | finish => exact throughTerminator_prefix_transcript
  | _ => cases after

/-- In the clear a phase sends no more than EHLO and STARTTLS. -/
theorem Phase.target_prefix_clear (on : phase.On request.server.policy (some .plain)) :
    request.server.policy = .requiredStartTls ∧
      phase.target request (some .plain) <+: ehloCommand request ++ startTlsCommand := by
  have required : request.server.policy.initial = .plain → request.server.policy = .requiredStartTls := by
    cases request.server.policy with
    | implicit => nofun
    | requiredStartTls => exact fun _ => rfl
  have first : beforeEhlo request (some .plain) ++ ehloCommand request <+: ehloCommand request ++ startTlsCommand := by
    rw [beforeEhlo_clear, List.nil_append]
    exact List.prefix_append _ _
  cases phase with
  | greeting => exact ⟨required (Option.some.inj on).symm, List.nil_prefix⟩
  | ehloSend =>
    have policy := required (Option.some.inj (on.resolve_right nofun)).symm
    exact ⟨policy, first⟩
  | ehloReply =>
    have policy := required (Option.some.inj (on.resolve_right nofun)).symm
    exact ⟨policy, prefix_of_idle rfl first⟩
  | startTlsSend => exact ⟨on.2, List.prefix_rfl⟩
  | startTlsReply => exact ⟨on.2, prefix_of_idle rfl List.prefix_rfl⟩
  | upgrade => cases on.1
  | _ => cases on

end NbReq.Smtp
