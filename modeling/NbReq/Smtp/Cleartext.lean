import NbReq.Smtp.Outcome
import NbReq.Tcp.Upgrade

/-!
# What a submission says and hears in the clear

`Submission.cleartext_confined`: in the clear a submission offers at most one EHLO and one STARTTLS, and what it takes
for a reply under TLS was decrypted. The second part puts two levels together: the client takes a reply from bytes that
it read from the transport of that reply, and a session gives a TLS connection nothing but decrypted bytes.
-/

namespace NbReq.Smtp

open History SendOperation

variable {request : SendRequest} {op : SendOperation} {via : Transport} {log : List Event}

def Event.received (via : Transport) : Event → Bytes
  | .read from_ byte => if from_ = via then [byte] else []
  | _ => []

def readOver (via : Transport) (log : List Event) : Bytes := log.flatMap (Event.received via)

theorem readOver_append (via : Transport) (log later : List Event) :
    readOver via (log ++ later) = readOver via log ++ readOver via later := List.flatMap_append

theorem readOver_reads (via : Transport) (bytes : Bytes) : readOver via (bytes.map (Event.read via)) = bytes := by
  induction bytes with
  | nil => rfl
  | cons byte rest ih =>
    rw [List.map_cons, readOver, List.flatMap_cons, ← readOver, ih, Event.received, if_pos rfl]
    rfl

/-- The bytes of a reply that is handled are among those read from its transport. -/
theorem Pure.bytes_read (pure : Always Pure log) {before after : List Event} {phase : Phase} {reply : Reply}
    (handled : log = before ++ .replied via phase reply :: after) :
    ∃ bytes, bytes <:+: readOver via log ∧ ReplyParser.Parses bytes reply := by
  obtain ⟨earlier, bytes, rfl, parses⟩ : JustRead via reply before := pure before _ after handled
  refine ⟨bytes, ⟨readOver via earlier, readOver via after, ?_⟩, parses⟩
  rw [handled, readOver_append, readOver_append, readOver_reads]
  rfl

/-- In the clear a submission offers a front of one EHLO line and one STARTTLS line, and under `Implicit` nothing. A
reply is taken from bytes read from the transport it is handled on; so once the client's reads under TLS are those from
the TLS connection of a session, every reply handled under TLS is among the decrypted bytes. -/
theorem Submission.cleartext_confined {clockRoom now room : Nat} {admission : Except Error Unit}
    (submitted : submit request clockRoom now room admission = .ok op) (list : List SendOperation.Call) :
    (∀ before bytes taken after, (op.calls list).log = before ++ .offered .plain bytes taken :: after →
      request.server.policy = .requiredStartTls ∧
        admittedInClear before ++ bytes <+: ehloCommand request ++ startTlsCommand) ∧
    (∀ before via phase reply after, (op.calls list).log = before ++ .replied via phase reply :: after →
      JustRead via reply before) ∧
    ∀ c : Crossing, c.Reachable → c.holder = .tls → readOver .tls (op.calls list).log = c.readTls →
      ∀ before phase reply after, (op.calls list).log = before ++ .replied .tls phase reply :: after →
        ∃ bytes, bytes <:+: c.decrypted ∧ ReplyParser.Parses bytes reply := by
  have record := (calls_inv (submit_live submitted).inv list).record
  refine ⟨fun before bytes taken after split => ?_, fun before via phase reply after split => ?_, ?_⟩
  · exact record.clear before _ after split
  · exact record.pure before _ after split
  intro c reached held link before phase reply after split
  obtain ⟨bytes, within, parses⟩ := Pure.bytes_read record.pure split
  rw [link] at within
  exact ⟨bytes, within.trans (reached.crossed.readTls held).isInfix, parses⟩

def startTlsRequest : SendRequest :=
  { sampleRequest with server := { sampleRequest.server with policy := .requiredStartTls } }

/-- The answers of a server that accepts STARTTLS, answers EHLO under TLS and then says nothing. -/
def startTlsSession (round : Nat) : World where
  connect := .completed
  read := ((ascii "-220\r\n-250-a\r\n250 STARTTLS\r\n-220\r\n--250\r\n")[round]?).elim .pending .data
  send := .taken
  submitTls := .ok ()
  finish := .finished
  now := 0
  later := 0

theorem Submission.cleartext_confined_sample :
    ∃ op, submit startTlsRequest 1 0 1 (.ok ()) = .ok op ∧
      (∀ before bytes taken after,
        (op.calls [.poll startTlsSession]).log = before ++ .offered .plain bytes taken :: after →
          admittedInClear before ++ bytes <+: ehloCommand startTlsRequest ++ startTlsCommand) ∧
      ∃ before phase reply after,
        (op.calls [.poll startTlsSession]).log = before ++ .replied .tls phase reply :: after ∧
          ∃ bytes, bytes <:+: (Crossing.sampleRead (ascii "250\r\n")).decrypted ∧ ReplyParser.Parses bytes reply := by
  have ran : (submit startTlsRequest 1 0 1 (.ok ())).toOption.map (fun op =>
      (readOver .tls (op.calls [.poll startTlsSession]).log,
        (op.calls [.poll startTlsSession]).log.contains (.replied .tls .ehloReply ⟨250, [[]]⟩))) =
        some (ascii "250\r\n", true) := by decide +kernel
  obtain ⟨op, submitted, facts⟩ := Option.map_eq_some_iff.mp ran
  obtain ⟨read, replied⟩ := Prod.mk.inj facts
  have submitted := ok_of_toOption submitted
  obtain ⟨clear, -, decrypted⟩ := Submission.cleartext_confined submitted [.poll startTlsSession]
  obtain ⟨before, after, split⟩ := List.append_of_mem (List.contains_iff_mem.mp replied)
  refine ⟨op, submitted, fun before bytes taken after split => (clear before bytes taken after split).2, before, _, _,
    after, split, decrypted _ (Crossing.sampleRead_reachable _) (by decide +kernel) ?_ _ _ _ _ split⟩
  rw [read]
  decide +kernel

/-- EHLO and STARTTLS in the clear, and EHLO again under TLS. -/
example : (submit startTlsRequest 1 0 1 (.ok ())).toOption.map (fun op =>
    (admittedInClear (op.calls [.poll startTlsSession]).log == ehloCommand startTlsRequest ++ startTlsCommand) &&
      (admitted (op.calls [.poll startTlsSession]).log == opening startTlsRequest ++ mailCommand startTlsRequest)) =
      some true := by
  decide +kernel

end NbReq.Smtp
