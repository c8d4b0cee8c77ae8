import NbReq.Smtp.Progress

/-!
# The rounds of a submission that connect and send

The arms of `advance` for a connection, for a command and for the message take a live submission to a live or a decided
one.

1. `Live.of_command`, `Live.of_await`: what a phase needs to begin.
2. `pollConnect_inv`.
3. `sendStep_cases` says what one offer does; `advanceSending_inv` and `advanceBody_inv` use it.
-/

namespace NbReq.Smtp

open History SendOperation

variable {request : SendRequest} {op : SendOperation} {w : World} {via : Transport} {o : Outbound} {reply : Reply} {phase : Phase}

/-! ## Beginning a phase -/

theorem Live.of_other (past : Past request op) (fits : Fits op.phase op) (sent : op.Sent) (fresh : op.parser = .fresh)
    (idle : op.phase.kind ≠ .connecting) (mute : op.phase.kind ≠ .reading) : Live request op where
  toPast := past
  fits := fits
  sent := sent
  pending connecting := absurd connecting idle
  heard reading := absurd reading mute
  silent _ := fresh
  unanswered early := early.elim (absurd · mute) fun connect => absurd (congrArg Phase.kind connect) idle

theorem Live.of_command {bytes : Bytes} (past : Past request op) (fits : Fits phase op) (sending : phase.kind = .sending)
    (payload : bytes = phase.payload op.request) (base : admitted op.log = phase.base op.request op.transport)
    (fresh : op.parser = .fresh) : Live request (op.command w phase bytes) := by
  have kind : (op.command w phase bytes).phase.kind = .sending := sending
  refine .of_other { past with } { fits with } ?_ fresh (by rw [kind]; nofun) (by rw [kind]; nofun)
  unfold Sent
  rw [kind]
  refine ⟨.new bytes, rfl, .new (payload ▸ Phase.payload_ne_nil sending), payload, ?_⟩
  exact base.trans (List.append_nil _).symm

theorem Live.of_await (past : Past request op) (fits : Fits op.phase op) (reading : op.phase.kind = .reading)
    (idle : op.outbound = none) (base : admitted op.log = op.phase.base op.request op.transport)
    (fresh : op.parser = .fresh)
    (unanswered : ¬Replied (op.phase.base op.request op.transport <+: ·) (fun _ => True) op.log) : Live request op where
  toPast := past
  fits := fits
  sent := by
    unfold Sent
    rw [reading]
    exact ⟨idle, base⟩
  pending connecting := nomatch reading.symm.trans connecting
  heard _ via _ := ⟨op.log, [], (List.append_nil _).symm, fresh ▸ rfl⟩
  silent other := absurd reading other
  unanswered _ := unanswered

theorem Core.off (core : Core request op) (pending transport : Option Transport) (diagnostic : Option TransportDiagnostic) :
    Core request { op with pending := pending, transport := transport, transportDiagnostic := diagnostic } :=
  { core with }

/-- A failure after the connection has been given up. -/
theorem Live.fail_off (live : Live request op) (pending transport : Option Transport)
    (diagnostic : Option TransportDiagnostic) (reason : FailureReason) :
    Inv request ({ op with pending := pending, transport := transport, transportDiagnostic := diagnostic }.fail reason) :=
  (live.core.off pending transport diagnostic).fail live.unreplied reason

/-! ## Connecting -/

/-- A phase that connects or reads sends nothing. -/
theorem Live.sent_of_idle (live : Live request op) (idle : op.phase.kind = .connecting ∨ op.phase.kind = .reading) :
    op.outbound = none ∧ admitted op.log = op.phase.base op.request op.transport := by
  have sent := live.sent
  unfold Sent at sent
  rcases idle with kind | kind <;> (rw [kind] at sent; exact sent)

/-- After a phase that waits for no recipient, no recipient is unresolved. -/
theorem Fits.none_unresolved (fits : Fits phase op) (other : ∀ index, phase ≠ .rcptReply index) {next : Phase} :
    ∀ index report, op.reports[index]? = some report → report.status = .unresolved → next = .rcptReply index :=
  fun index report at_index status => absurd (fits.unresolved index report at_index status) (other index)

theorem pollConnect_inv (live : Live request op) (connecting : op.phase.kind = .connecting) :
    Inv request (op.pollConnect w).1 := by
  have pending := live.pending connecting
  obtain ⟨idle, base⟩ := live.sent_of_idle (.inl connecting)
  have fresh := live.silent (by rw [connecting]; nofun)
  have off : op.transport ≠ some .tls := by
    have on := live.fits.on
    intro tls
    revert connecting on
    rw [tls]
    cases op.phase <;> nofun
  unfold SendOperation.pollConnect
  rw [pending]
  dsimp only
  cases w.connect with
  | timedOut => exact live.inv
  | completed =>
    have fits := live.fits
    dsimp only
    cases phase : op.phase with
    | upgrade =>
      rw [phase] at base fits
      rw [if_pos ⟨if_pos rfl, rfl⟩]
      apply Live.inv
      refine Live.of_command { live.toPast with inClear := fun _ => live.inClear off } ?_ rfl rfl ?_ fresh
      · exact { fits with
          on := .inr (congrArg some (if_pos rfl))
          inside := nofun
          unresolved := fits.none_unresolved nofun }
      · exact base.trans (beforeEhlo_upgraded fits.on.2).symm
    | connect =>
      rw [phase] at base fits
      have unanswered := live.unanswered (.inr phase)
      rw [phase] at unanswered
      rw [if_neg (fun both => nomatch both.2)]
      apply Live.inv
      refine .of_await { live.toPast with inClear := fun _ => live.inClear off } ?_ rfl idle base fresh unanswered
      exact { fits with
        on := congrArg some (if_neg nofun)
        inside := nofun
        unresolved := fits.none_unresolved nofun }
    | _ =>
      rw [phase] at connecting
      cases connecting
  | failed error | cancelled => exact live.fail_off none _ _ _

/-! ## Sending -/

theorem Outbound.Ok.candidate (ok : o.Ok) (limit : Nat) : o.candidate limit <+: o.bytes.drop o.offset := by
  unfold Outbound.candidate
  cases retry : o.retry with
  | none => exact List.take_prefix _ _
  | some candidate => exact ok.retries candidate retry

/-- What one offer does: the transport takes the candidate, or it refuses it and the position stays. -/
theorem sendStep_cases (staged : op.outbound = some o) (ok : o.Ok) (transport : op.transport = some via) :
    ∃ chunk, chunk <+: o.bytes.drop o.offset ∧
      (op.sendStep w =
        ({ op with
            outbound := some ⟨o.bytes, o.offset + chunk.length, none⟩
            log := op.log ++ [.offered via chunk true] },
          if o.offset + chunk.length = o.bytes.length then .done chunk.length else .progress chunk.length) ∨
      ∃ retry limit step, (∀ candidate, retry = some candidate → candidate = chunk) ∧
        (∀ count, step ≠ SendStep.done count) ∧
        op.sendStep w =
          ({ op with
              outbound := some ⟨o.bytes, o.offset, retry⟩
              sendLimit := limit
              log := op.log ++ [.offered via chunk false] }, step)) := by
  have unfinished : o.offset ≠ o.bytes.length := Nat.ne_of_lt ok.unfinished
  refine ⟨o.candidate op.sendLimit, ok.candidate _, ?_⟩
  unfold sendStep
  rw [staged, transport]
  dsimp only
  unfold Outbound.step
  rw [if_neg unfinished, if_neg unfinished]
  cases answer : w.send with
  | taken => exact .inl rfl
  | refused kind =>
    dsimp only
    rw [decide_eq_false nofun]
    right
    split
    · refine ⟨_, _, _, ?_, ?_, rfl⟩
      · exact fun _ eq => (Option.some.inj eq).symm
      · nofun
    · split <;> refine ⟨none, _, _, nofun, ?_, rfl⟩ <;> nofun

theorem Fits.snoc (fits : Fits phase op) (event : Event) : Fits phase { op with log := op.log ++ [event] } :=
  ⟨fits.on, fits.inside, fits.consent, fits.terminator, fits.accepted, fun after => (fits.result after).snoc event,
    fits.unattempted, fits.unresolved⟩

theorem Event.taken_offered_prefix (via : Transport) (bytes : Bytes) (taken : Bool) :
    (Event.offered via bytes taken).taken <+: bytes := by
  cases taken with
  | true => exact List.prefix_rfl
  | false => exact List.nil_prefix

/-- An offer of what the phase sends next keeps to the transcript and to what may be said in the clear. -/
theorem Live.offered (live : Live request op) (transport : op.transport = some via) {chunk : Bytes}
    (room : admitted op.log ++ chunk <+: op.phase.target op.request op.transport) (taken : Bool) :
    Past request { op with log := op.log ++ [.offered via chunk taken] } := by
  have reach : admitted (op.log ++ [.offered via chunk taken]) <+: op.phase.target op.request op.transport := by
    rw [admitted_snoc]
    exact ((List.prefix_append_right_inj _).mpr (Event.taken_offered_prefix via chunk taken)).trans room
  refine ⟨live.same, live.undecided, live.record.snoc ?_ ?_ trivial ?_, fun off => ?_⟩
  · exact reach.trans (Phase.target_prefix_transcript live.fits.on live.fits.inside)
  · cases via with
    | tls => trivial
    | plain =>
      have on := live.fits.on
      rw [transport] at on room
      have ⟨required, clear⟩ := Phase.target_prefix_clear on
      refine ⟨required, ?_⟩
      rw [live.inClear (by rw [transport]; nofun)]
      exact room.trans clear
  · intro past
    apply live.fits.consent
    by_contra early
    exact past (reach.trans
      (Phase.target_prefix_recipients live.fits.on live.fits.inside (Bool.eq_false_iff.mpr early)))
  · rw [admittedInClear_snoc, admitted_snoc, live.inClear off]
    cases via with
    | tls => exact absurd transport off
    | plain => cases taken <;> rfl

theorem Fits.connected (fits : Fits op.phase op) (talking : op.phase.kind ≠ .connecting) :
    ∃ via, op.transport = some via := by
  have on := fits.on
  revert on talking
  cases op.phase with
  | connect | upgrade => exact fun talking => absurd rfl talking
  | ehloSend | ehloReply => exact fun _ on => on.elim (fun first => ⟨_, first⟩) fun second => ⟨_, second⟩
  | startTlsSend | startTlsReply => exact fun _ on => ⟨_, on.1⟩
  | _ => exact fun _ on => ⟨_, on⟩

variable {bytes chunk : Bytes} {offset : Nat}

theorem take_append_prefix (front : chunk <+: bytes.drop offset) :
    bytes.take offset ++ chunk = bytes.take (offset + chunk.length) := by
  rw [List.take_add, ← List.prefix_iff_eq_take.mp front]

theorem length_le_of_front (inside : offset ≤ bytes.length)
    (front : chunk <+: bytes.drop offset) : offset + chunk.length ≤ bytes.length := by
  have := front.length_le
  rw [List.length_drop] at this
  omega

/-- A submission whose command has all been admitted, before it waits for the reply. -/
structure Finished (request : SendRequest) (op : SendOperation) : Prop extends Past request op where
  fits : Fits op.phase op
  sending : op.phase.kind = .sending
  idle : op.outbound = none
  sent : admitted op.log = op.phase.target op.request op.transport
  fresh : op.parser = .fresh
  unanswered : ¬Replied (op.phase.target op.request op.transport <+: ·) (fun _ => True) op.log

/-- The submission waits for the reply to its command. -/
theorem Finished.await (finished : Finished request op) {reports : List RecipientReport} {flag : Bool} {deadline : Nat}
    (record : Record op.request op.log reports)
    (fits : Fits phase { op with
      phase := phase, reports := reports, terminatorAdmitted := flag, phaseDeadline := deadline })
    (reading : phase.kind = .reading)
    (base : phase.base op.request op.transport = op.phase.target op.request op.transport) :
    Inv request
      { op with phase := phase, reports := reports, terminatorAdmitted := flag, phaseDeadline := deadline } := by
  apply Live.inv
  refine .of_await { finished.toPast with record := record } fits reading finished.idle ?_ finished.fresh ?_
  · exact finished.sent.trans base.symm
  · exact base ▸ finished.unanswered

theorem Finished.afterCommand (finished : Finished request op) : Inv request (op.afterCommand w) := by
  have fits := finished.fits
  have record := finished.record
  unfold SendOperation.afterCommand
  split
  case h_1 phase | h_2 phase | h_5 phase | h_7 phase =>
    rw [phase] at fits
    refine finished.await record ?_ rfl (phase ▸ rfl)
    exact { fits with inside := nofun, unresolved := fits.none_unresolved nofun }
  case h_3 phase =>
    rw [phase] at fits
    refine finished.await record ?_ rfl (phase ▸ throughRcpts_zero)
    exact { fits with inside := nofun, unresolved := fits.none_unresolved nofun }
  case h_4 index phase =>
    rw [phase] at fits
    have inside := fits.inside index rfl
    refine finished.await (record.modify nofun ?_) ?_ rfl (phase ▸ throughRcpts_succ inside)
    · rw [finished.sent]
      exact Phase.target_prefix_recipients finished.fits.on finished.fits.inside (phase ▸ rfl)
    exact
      { on := fits.on
        inside := fun _ eq => Option.some.inj eq ▸ inside
        consent := nofun
        terminator := fits.terminator
        accepted := fits.accepted
        result := nofun
        unattempted := fun at_ report at_report status => by
          obtain ⟨-, eq⟩ | ⟨ne, old⟩ := modify_status_cases at_report
          · cases status.symm.trans eq
          · exact Nat.lt_of_le_of_ne (fits.unattempted at_ report old status) (Ne.symm ne)
        unresolved := fun at_ report at_report status => by
          obtain ⟨rfl, -⟩ | ⟨-, old⟩ := modify_status_cases at_report
          · rfl
          · exact fits.none_unresolved nofun at_ report old status }
  case h_6 phase =>
    rw [phase] at fits
    refine finished.await record ?_ rfl (phase ▸ rfl)
    exact { fits with inside := nofun, terminator := rfl, unresolved := fits.none_unresolved nofun }
  case h_8 =>
    have sending := finished.sending
    cases phase : op.phase <;> simp_all [Phase.kind]

theorem Live.sent_of_sending (live : Live request op) (sending : op.phase.kind = .sending) :
    ∃ o, op.outbound = some o ∧ o.Ok ∧ o.bytes = op.phase.payload op.request ∧
      admitted op.log = op.phase.base op.request op.transport ++ o.bytes.take o.offset := by
  have sent := live.sent
  unfold Sent at sent
  rw [sending] at sent
  exact sent

/-- A live submission that goes on sending, after an offer. -/
theorem Live.resend (live : Live request op) (sending : op.phase.kind = .sending) {o : Outbound} {limit : Nat}
    {event : Event} (past : Past request { op with log := op.log ++ [event] })
    (ok : o.Ok) (bytes : o.bytes = op.phase.payload op.request)
    (sent : admitted (op.log ++ [event]) = op.phase.base op.request op.transport ++ o.bytes.take o.offset) :
    Live request { op with outbound := some o, sendLimit := limit, log := op.log ++ [event] } := by
  refine .of_other { past with } { live.fits.snoc event with } ?_
    (live.silent (by rw [sending]; nofun)) (by rw [sending]; nofun) (by rw [sending]; nofun)
  unfold Sent
  dsimp only
  rw [sending]
  exact ⟨o, rfl, ok, bytes, sent⟩

theorem advanceSending_inv (live : Live request op) (sending : op.phase.kind = .sending) :
    Inv request (op.advanceSending w).1 := by
  obtain ⟨o, staged, ok, bytes, sent⟩ := live.sent_of_sending sending
  obtain ⟨via, transport⟩ := live.fits.connected (by rw [sending]; decide)
  obtain ⟨chunk, front, taken | ⟨retry, limit, step, again, unfinished, refused⟩⟩ :=
    sendStep_cases (w := w) staged ok transport
  all_goals
    have room : admitted op.log ++ chunk <+: op.phase.target op.request op.transport := by
      rw [sent, List.append_assoc, take_append_prefix front, Phase.target, ← bytes]
      exact (List.prefix_append_right_inj _).mpr (List.take_prefix _ _)
  · have past := live.offered transport room true
    have sent' : admitted (op.log ++ [.offered via chunk true]) =
        op.phase.base op.request op.transport ++ o.bytes.take (o.offset + chunk.length) := by
      rw [admitted_snoc, sent, List.append_assoc, Event.taken, take_append_prefix front]
    unfold SendOperation.advanceSending
    rw [taken]
    by_cases all : o.offset + chunk.length = o.bytes.length
    · rw [if_pos all]
      refine Finished.afterCommand ⟨{ past with }, { live.fits.snoc _ with }, sending, rfl, ?_, ?_, ?_⟩
      · exact sent'.trans (by rw [all, List.take_length, bytes]; rfl)
      · exact live.silent (by rw [sending]; decide)
      · -- The last byte has just been admitted, so no reply can have come after it.
        refine mt replied_offered.mp (not_replied fun whole => ?_)
        exact absurd (live.within.sending sending) (Nat.not_lt.mpr whole.length_le)
    · rw [if_neg all]
      apply Live.inv
      refine live.resend sending past ⟨?_, fun _ no => by cases no⟩ bytes sent'
      exact Nat.lt_of_le_of_ne (length_le_of_front (Nat.le_of_lt ok.unfinished) front) all
  · have past := live.offered transport room false
    have same := admitted_refused op.log via chunk
    have live' : Live request { op with
        outbound := some ⟨o.bytes, o.offset, retry⟩, sendLimit := limit,
        log := op.log ++ [.offered via chunk false] } := by
      refine live.resend sending past ⟨ok.unfinished, ?_⟩ bytes (same.trans sent)
      exact fun candidate eq => again candidate eq ▸ front
    unfold SendOperation.advanceSending
    rw [refused]
    cases step with
    | pending => exact live'.inv
    | progress count => exact live'.inv
    | done count => exact absurd rfl (unfinished count)
    | failed reason => exact live'.fail reason

/-! ## The message -/

theorem Phase.eq_dataBody (body : phase.kind = .body) : phase = .dataBody := by
  cases phase with
  | dataBody => rfl
  | _ => cases body

theorem Live.sent_of_body (live : Live request op) (body : op.phase.kind = .body) :
    ∃ part e, op.data = some e ∧ e.Ok op.request.message ∧ (∀ o, op.outbound = some o → o.Ok) ∧
      admitted op.log = op.phase.base op.request op.transport ++ part ∧
      part ++ (op.unsent ++ e.remaining op.request.message) = op.phase.payload op.request := by
  have sent := live.sent
  unfold Sent at sent
  rw [body] at sent
  exact sent

/-- A submission in its message, after an offer or before it. -/
theorem Live.of_body (live : Live request op) (body : op.phase.kind = .body) (outbound : Option Outbound) (limit : Nat)
    {data : Option DataEncoder} {e : DataEncoder} {log : List Event} {part : Bytes}
    (past : Past request { op with log := log })
    (result : op.phase.afterResult = true → RepliedToData op.request (inClass 2) log)
    (stored : data = some e) (encoder : e.Ok op.request.message) (ok : ∀ o, outbound = some o → o.Ok)
    (sent : admitted log = op.phase.base op.request op.transport ++ part)
    (whole : part ++ ((outbound.elim [] fun o => o.bytes.drop o.offset) ++ e.remaining op.request.message) =
      op.phase.payload op.request) :
    Live request { op with outbound := outbound, data := data, sendLimit := limit, log := log } := by
  refine .of_other { past with } { live.fits with result := result } ?_
    (live.silent (by rw [body]; nofun)) (by rw [body]; nofun) (by rw [body]; nofun)
  unfold Sent
  dsimp only
  rw [body]
  exact ⟨part, e, stored, encoder, ok, sent, whole⟩

theorem drop_of_front (front : chunk <+: bytes.drop offset) :
    bytes.drop offset = chunk ++ bytes.drop (offset + chunk.length) := by
  obtain ⟨rest, eq⟩ := front
  rw [← List.drop_drop, ← eq, List.drop_left]

/-- The arm for the message once a chunk is staged. -/
theorem Live.sendBody (live : Live request op) (body : op.phase.kind = .body) (staged : op.outbound = some o)
    (dataBytes : Nat) :
    Inv request (match op.sendStep w with
      | (op, .pending) => (op, dataBytes, false)
      | (op, .progress count) => (op, dataBytes + count, true)
      | (op, .done count) => ({ op with outbound := none }, dataBytes + count, true)
      | (op, .failed reason) => (op.fail reason, dataBytes, false) : SendOperation × Nat × Bool).1 := by
  obtain ⟨part, e, data, encoder, oks, sent, whole⟩ := live.sent_of_body body
  have ok := oks o staged
  rw [SendOperation.unsent, staged, Option.elim_some] at whole
  obtain ⟨via, transport⟩ := live.fits.connected (by rw [body]; decide)
  obtain ⟨chunk, front, taken | ⟨retry, limit, step, again, unfinished, refused⟩⟩ :=
    sendStep_cases (w := w) staged ok transport
  all_goals
    have room : admitted op.log ++ chunk <+: op.phase.target op.request op.transport := by
      rw [sent, List.append_assoc, Phase.target, ← whole]
      exact (List.prefix_append_right_inj _).mpr
        ((List.prefix_append_right_inj _).mpr (front.trans (List.prefix_append _ _)))
    have result : ∀ taken, op.phase.afterResult = true →
        RepliedToData op.request (inClass 2) (op.log ++ [.offered via chunk taken]) :=
      fun _ after => (live.fits.result after).snoc _
  · have past := live.offered transport room true
    have sent' : admitted (op.log ++ [.offered via chunk true]) =
        op.phase.base op.request op.transport ++ (part ++ chunk) := by
      rw [admitted_snoc, sent, List.append_assoc, Event.taken]
    rw [drop_of_front front, List.append_assoc, ← List.append_assoc] at whole
    rw [taken]
    by_cases all : o.offset + chunk.length = o.bytes.length
    · rw [if_pos all]
      rw [all, List.drop_length] at whole
      exact (live.of_body body none _ past (result true) data encoder (fun _ no => by cases no) sent' whole).inv
    · rw [if_neg all]
      have more : ∀ next, some (Outbound.mk o.bytes (o.offset + chunk.length) none) = some next → next.Ok := by
        rintro _ ⟨⟩
        exact ⟨Nat.lt_of_le_of_ne (length_le_of_front (Nat.le_of_lt ok.unfinished) front) all, fun _ no => by cases no⟩
      exact (live.of_body body (some _) _ past (result true) data encoder more sent' whole).inv
  · have past := live.offered transport room false
    have same := admitted_refused op.log via chunk
    have retries : ∀ next, some (Outbound.mk o.bytes o.offset retry) = some next → next.Ok := by
      rintro _ ⟨⟩
      exact ⟨ok.unfinished, fun candidate eq => again candidate eq ▸ front⟩
    have live' := live.of_body body (some _) limit past (result false) data encoder retries
      (same.trans sent) whole
    rw [refused]
    cases step with
    | pending => exact live'.inv
    | progress count => exact live'.inv
    | done count => exact absurd rfl (unfinished count)
    | failed reason => exact live'.fail reason

/-- The next chunk is staged when none is. -/
theorem Live.stageChunk (live : Live request op) (body : op.phase.kind = .body) {e : DataEncoder} (data : op.data = some e)
    {dataBytes : Nat} (some_room : dataBytes < maxDataBytesPerPoll)
    (more : ¬(op.outbound.isNone && e.finished op.request.message) = true) :
    Live request (op.stageChunk e dataBytes) ∧ ∃ o, (op.stageChunk e dataBytes).outbound = some o := by
  obtain ⟨part, e', data', encoder, oks, sent, whole⟩ := live.sent_of_body body
  cases Option.some.inj (data.symm.trans data')
  unfold SendOperation.stageChunk
  cases staged : op.outbound with
  | some o => exact ⟨live, o, staged⟩
  | none =>
    rw [staged] at more
    rw [SendOperation.unsent, staged] at whole
    dsimp only
    have limit : min maxStaging (maxDataBytesPerPoll - dataBytes) ≠ 0 := by
      unfold maxDataBytesPerPoll at *
      unfold maxStaging
      omega
    have chunked := DataEncoder.nextChunk_remaining encoder (min maxStaging (maxDataBytesPerPoll - dataBytes))
    refine ⟨live.of_body body (some _) _ live.toPast live.fits.result rfl chunked.2 ?_ sent ?_, _, rfl⟩
    · rintro _ ⟨⟩
      exact .new (DataEncoder.nextChunk_ne_nil more limit)
    · exact whole ▸ congrArg (part ++ ·) chunked.1

theorem advanceBody_inv (live : Live request op) (body : op.phase.kind = .body) {dataBytes : Nat} :
    Inv request (op.advanceBody w dataBytes).1 := by
  obtain ⟨part, e, data, encoder, oks, sent, whole⟩ := live.sent_of_body body
  have phase := Phase.eq_dataBody body
  unfold SendOperation.advanceBody
  rw [data]
  split
  · exact live.inv
  next some_room =>
    dsimp only
    split
    case isTrue finished =>
      obtain ⟨none_staged, finished⟩ := (Bool.and_eq_true _ _).mp finished
      rw [SendOperation.unsent, Option.isNone_iff_eq_none.mp none_staged,
        (DataEncoder.Ok.finished_iff encoder).mp finished] at whole
      have fits := live.fits
      rw [phase] at sent whole fits
      apply Live.inv
      refine Live.of_command live.toPast ?_ rfl rfl ?_ (live.silent (by rw [body]; nofun))
      · exact { fits with inside := nofun, unresolved := fits.none_unresolved nofun }
      · rw [sent, ← List.append_nil part]
        exact congrArg (throughData op.request ++ ·) whole
    case isFalse more =>
      obtain ⟨live', o, staged⟩ := live.stageChunk body data (Nat.lt_of_not_le some_room) more
      refine live'.sendBody ?_ staged dataBytes
      unfold SendOperation.stageChunk
      split <;> exact body

end NbReq.Smtp
