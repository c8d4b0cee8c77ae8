import NbReq.Smtp.Rounds

/-!
# The rounds of a submission that read

1. `Reported`: a submission that has recorded the reply to a recipient.
2. `Told`: a submission that has read a whole reply and has not acted on it. `Told.core`: what is left if the reply
   changes nothing but the end. `Told.handleReply`: the arms of `handle_reply`.
3. `calls_inv`: every submission is live until it has an outcome.
-/

namespace NbReq.Smtp

open History SendOperation

variable {request : SendRequest} {op : SendOperation} {w : World} {via : Transport} {reply : Reply} {phase : Phase}
  {index : Nat} {P : Bytes → Prop} {Q : Reply → Prop}

/-! ## The next command after a recipient -/

/-- A submission that has recorded the reply to a recipient. -/
structure Reported (request : SendRequest) (op : SendOperation) (index : Nat) : Prop extends Past request op where
  core : Core request op
  fits : Fits (.rcptReply index) op
  settled : ∀ (at_ : Nat) (report : RecipientReport), op.reports[at_]? = some report → report.status ≠ .unresolved
  sent : admitted op.log = throughRcpts op.request (index + 1)
  fresh : op.parser = .fresh
  unreplied : ¬RepliedToData op.request isFinal op.log

section

variable (reported : Reported request op index)
include reported

theorem Reported.unaccepted : op.accepted = none := by
  rw [← Option.not_isSome_iff_eq_none, reported.fits.accepted]
  nofun

theorem Reported.fail (reason : FailureReason) : Inv request (op.fail reason) :=
  reported.core.fail (fun _ => reported.unreplied) reason

theorem Reported.command {next : Phase} {bytes : Bytes} (fits : Fits next op)
    (sending : next.kind = .sending) (payload : bytes = next.payload op.request)
    (base : throughRcpts op.request (index + 1) = next.base op.request op.transport) :
    Inv request (op.command w next bytes) :=
  (Live.of_command reported.toPast fits sending payload (reported.sent.trans base) reported.fresh).inv

/-- DATA is only for recipients that allow it. -/
theorem Reported.afterRecipients
    (last : index + 1 = op.request.envelope.recipients.length) : Inv request (op.afterRecipients w) := by
  have fits := reported.fits
  unfold SendOperation.afterRecipients
  split
  · exact reported.fail _
  next some_accepted =>
    split
    · exact reported.fail _
    next allowed =>
      refine reported.command ?_ rfl rfl (last ▸ rfl)
      have consent : Consent op.request op.reports := by
        constructor
        · simpa using some_accepted
        intro all report mem
        rw [Bool.and_eq_true, not_and, decide_eq_true all] at allowed
        by_contra rejected
        exact allowed (List.any_eq_true.mpr ⟨report, mem, eq_true_of_ne_false rejected⟩) rfl
      exact { fits with
        inside := nofun
        consent := fun _ => consent
        unattempted := fun at_ report at_report status => last ▸ fits.unattempted at_ report at_report status
        unresolved := fun at_ report at_report status => absurd status (reported.settled at_ report at_report) }

theorem Reported.nextRecipient : Inv request (op.nextRecipient w index) := by
  have fits := reported.fits
  unfold SendOperation.nextRecipient
  split
  case isTrue more =>
    refine reported.command ?_ rfl rfl rfl
    exact { fits with
      inside := fun _ eq => Option.some.inj eq ▸ more
      unresolved := fun at_ report at_report status => absurd status (reported.settled at_ report at_report) }
  case isFalse last =>
    have := fits.inside index rfl
    exact reported.afterRecipients (by omega)

end

/-! ## A reply -/

/-- A submission that has read a whole reply to its phase and has not acted on it. -/
structure Told (request : SendRequest) (op : SendOperation) (via : Transport) (reply : Reply) : Prop
    extends Past request op where
  fits : Fits op.phase op
  reading : op.phase.kind = .reading
  idle : op.outbound = none
  sent : admitted op.log = op.phase.base op.request op.transport
  fresh : op.parser = .fresh
  latest : ∃ before, op.log = before ++ [.replied via op.phase reply] ∧ JustRead via reply before ∧
    ¬Replied (op.phase.base op.request op.transport <+: ·) (fun _ => True) before

theorem Fits.not_afterResult (fits : Fits op.phase op) (unaccepted : op.accepted = none) :
    op.phase.afterResult = false := by
  rw [← fits.accepted, unaccepted]
  rfl

theorem Fits.unaccepted (fits : Fits op.phase op) (before : op.phase.afterResult = false) : op.accepted = none := by
  rw [← Option.not_isSome_iff_eq_none, fits.accepted, before]
  nofun

section

variable (told : Told request op via reply)
include told

theorem Told.within : Within op where
  base := told.sent ▸ List.prefix_rfl
  target := told.sent ▸ List.prefix_append _ _
  sending sending := nomatch told.reading.symm.trans sending

/-- What has been replied to the phase is the reply. -/
theorem Told.of_replied (replied : Replied P Q op.log)
    (after : ∀ bytes, P bytes → op.phase.base op.request op.transport <+: bytes) : Q reply := by
  obtain ⟨before, log, read, unanswered⟩ := told.latest
  rw [log] at replied
  rcases replied_snoc.mp replied with earlier | ⟨-, -, q⟩
  · exact absurd (earlier.mono after fun _ _ => trivial) unanswered
  · exact q

theorem Told.to_replied (p : P (op.phase.base op.request op.transport)) (q : Q reply) :
    Replied P Q op.log := by
  obtain ⟨before, log, read, -⟩ := told.latest
  have same : admitted op.log = admitted before := by
    rw [log, admitted_replied]
  rw [log]
  exact replied_snoc.mpr (.inr ⟨read, same ▸ told.sent.symm ▸ p, q⟩)

theorem Told.not_repliedToData (before : op.phase.afterResult = false)
    {codes : Nat → Bool} (other : op.phase = .dataResult → codes reply.code = false) :
    ¬RepliedToData op.request codes op.log := by
  by_cases result : op.phase = .dataResult
  · intro replied
    have final := told.of_replied replied fun bytes all => by rw [result]; exact all
    exact nomatch (other result).symm.trans final
  · exact not_replied (told.fits.not_throughTerminator told.within (Phase.not_afterTerminator before result))

/-- The core of a submission whose reply is no final one to a recipient and no positive one to the message. -/
theorem Told.core
    (unresolved : ∀ index, op.phase = .rcptReply index → isFinal reply.code = false)
    (unaccepted : op.phase = .dataResult → inClass 2 reply.code = false) : Core request op := by
  refine .of_fits told.toPast told.fits told.within (fun index phase replied => ?_)
    fun before => told.not_repliedToData before unaccepted
  have final := told.of_replied replied fun bytes eq => by rw [phase, eq]; exact List.prefix_rfl
  exact nomatch (unresolved index phase).symm.trans final

/-- A failure because of a reply that is not a final one. -/
theorem Told.fail_off
    (unresolved : ∀ index, op.phase = .rcptReply index → isFinal reply.code = false)
    (unfinal : op.phase = .dataResult → isFinal reply.code = false)
    (pending transport : Option Transport) (diagnostic : Option TransportDiagnostic) (reason : FailureReason) :
    Inv request ({ op with pending := pending, transport := transport, transportDiagnostic := diagnostic }.fail reason) := by
  have core := told.core unresolved fun result => (Bool.or_eq_false_iff.mp (unfinal result)).1
  refine (core.off pending transport diagnostic).fail (fun unaccepted => ?_) reason
  exact told.not_repliedToData (told.fits.not_afterResult unaccepted) unfinal

theorem Told.fail
    (unresolved : ∀ index, op.phase = .rcptReply index → isFinal reply.code = false)
    (unfinal : op.phase = .dataResult → isFinal reply.code = false) (reason : FailureReason) :
    Inv request (op.fail reason) :=
  told.fail_off unresolved unfinal op.pending op.transport op.transportDiagnostic reason

/-- A reply that is not the wanted one: a rejection or a protocol failure. -/
theorem Told.refuse (other : ∀ index, op.phase ≠ .rcptReply index)
    (before : op.phase.afterResult = false) (unaccepted : op.phase = .dataResult → inClass 2 reply.code = false) :
    Inv request (op.refuse reply) := by
  unfold SendOperation.refuse
  split
  · have core := told.core (fun index phase => absurd phase (other index)) unaccepted
    exact core.reject (told.fits.unaccepted before) reply
  next positive =>
    refine told.fail (fun index phase => absurd phase (other index)) (fun result => ?_) _
    exact Bool.or_eq_false_iff.mpr ⟨unaccepted result, Bool.eq_false_iff.mpr positive⟩

theorem Told.command {next : Phase} {bytes : Bytes} (fits : Fits next op)
    (sending : next.kind = .sending) (payload : bytes = next.payload op.request)
    (base : op.phase.base op.request op.transport = next.base op.request op.transport) :
    Inv request (op.command w next bytes) :=
  (Live.of_command told.toPast fits sending payload (told.sent.trans base) told.fresh).inv

/-! ## The replies before the recipients -/

theorem Told.greeting (phase : op.phase = .greeting) : Inv request (op.handleReply w reply) := by
  have fits := told.fits
  rw [phase] at fits
  unfold SendOperation.handleReply
  rw [phase]
  dsimp only
  split
  · refine told.command ?_ rfl rfl ?_
    · exact { fits with on := .inl fits.on, inside := nofun, unresolved := fits.none_unresolved nofun }
    have on : op.transport = some op.request.server.policy.initial := fits.on
    rw [phase, on]
    change [] = beforeEhlo op.request _
    cases policy : op.request.server.policy with
    | implicit => exact (beforeEhlo_implicit policy).symm
    | requiredStartTls => exact beforeEhlo_clear.symm
  · exact told.refuse (fun _ => phase ▸ nofun) (phase ▸ rfl) (phase ▸ nofun)

theorem Told.ehloReply (phase : op.phase = .ehloReply) : Inv request (op.handleReply w reply) := by
  have fits := told.fits
  rw [phase] at fits
  unfold SendOperation.handleReply
  rw [phase]
  dsimp only
  split
  · split
    case isTrue clear =>
      split
      · refine told.command ?_ rfl rfl ?_
        · exact { fits with
            on := ⟨clear.2, clear.1⟩
            inside := nofun
            unresolved := fits.none_unresolved nofun }
        · rw [phase, clear.2]
          exact congrArg (· ++ ehloCommand op.request) beforeEhlo_clear
      · exact told.fail (fun _ => phase ▸ nofun) (phase ▸ nofun) _
    case isFalse submits =>
      -- With the policy the session in the clear has gone the other way, so this one is under TLS.
      have on : op.transport = some .tls := by
        rcases fits.on with first | second
        · cases policy : op.request.server.policy with
          | implicit => exact first.trans (policy ▸ rfl)
          | requiredStartTls => exact absurd ⟨policy, first.trans (policy ▸ rfl)⟩ submits
        · exact second
      refine told.command ?_ rfl rfl ?_
      · exact { fits with on := on, inside := nofun, unresolved := fits.none_unresolved nofun }
      · rw [phase, on]
        exact beforeEhlo_tls
  · exact told.refuse (fun _ => phase ▸ nofun) (phase ▸ rfl) (phase ▸ nofun)

theorem Told.startTlsReply (phase : op.phase = .startTlsReply) :
    Inv request (op.handleReply w reply) := by
  have fits := told.fits
  have sent := told.sent
  rw [phase] at fits sent
  unfold SendOperation.handleReply
  rw [phase]
  dsimp only
  split
  · rw [fits.on.1]
    have off : op.transport ≠ some .tls := by rw [fits.on.1]; nofun
    cases w.submitTls with
    | ok =>
      apply Live.inv
      exact
        { told.toPast with
          fits := { fits with
            on := ⟨rfl, fits.on.2⟩
            inside := nofun
            unresolved := fits.none_unresolved nofun }
          sent := ⟨told.idle, sent⟩
          inClear := fun _ => told.inClear off
          pending := fun _ => rfl
          heard := nofun
          silent := fun _ => told.fresh
          unanswered := fun early => early.elim nofun nofun }
    | error error =>
      have ended := told.fail_off (fun _ => phase ▸ nofun) (phase ▸ nofun) op.pending none (some (.of error))
        (reasonFromError error)
      rw [phase] at ended
      exact ended
  · exact told.refuse (fun _ => phase ▸ nofun) (phase ▸ rfl) (phase ▸ nofun)

theorem Told.mailReply (phase : op.phase = .mailReply) : Inv request (op.handleReply w reply) := by
  have fits := told.fits
  rw [phase] at fits
  unfold SendOperation.handleReply
  rw [phase]
  dsimp only
  split
  · refine told.command ?_ rfl rfl (phase ▸ rfl)
    exact { fits with
      inside := fun _ eq => Option.some.inj eq ▸ List.length_pos_iff.mpr op.request.envelope.someRecipients.1
      unresolved := fits.none_unresolved nofun }
  · exact told.refuse (fun _ => phase ▸ nofun) (phase ▸ rfl) (phase ▸ nofun)

/-! ## The replies to the recipients -/

theorem Told.reported (phase : op.phase = .rcptReply index) {status : RecipientStatus}
    (settled : status.isSettled = true) (ok : StatusOk op.request op.log index status) :
    Reported request (op.report index status) index := by
  have fits := told.fits
  have sent := told.sent
  rw [phase] at fits sent
  have record : Record op.request op.log (op.report index status).reports := by
    refine told.record.modify (fun _ => ok) ?_
    exact told.within.target.trans
      (Phase.target_prefix_recipients told.fits.on told.fits.inside (phase ▸ rfl))
  have unreplied : ∀ codes, ¬RepliedToData op.request codes op.log :=
    fun codes => told.not_repliedToData (phase ▸ rfl) (phase ▸ nofun)
  have resolved : ∀ (at_ : Nat) (report : RecipientReport), (op.report index status).reports[at_]? = some report →
      report.status ≠ .unresolved := by
    intro at_ report at_report unresolved
    obtain ⟨-, eq⟩ | ⟨ne, old⟩ := modify_status_cases at_report
    · rw [← eq, unresolved] at settled
      cases settled
    · cases fits.unresolved at_ report old unresolved
      exact ne rfl
  have unattempted : ∀ (at_ : Nat) (report : RecipientReport), (op.report index status).reports[at_]? = some report →
      report.status = .unattempted → index + 1 ≤ at_ := by
    intro at_ report at_report unattempted
    obtain ⟨-, eq⟩ | ⟨-, old⟩ := modify_status_cases at_report
    · rw [← eq, unattempted] at settled
      cases settled
    · exact fits.unattempted at_ report old unattempted
  refine ⟨{ told.toPast with record := record }, ⟨told.same, told.undecided, record, ?_, ?_, ?_⟩, ?_, resolved, sent,
    told.fresh, unreplied _⟩
  · intro at_ report at_report
    refine record.statusOk at_report (fun is inside => ?_) fun is => absurd is (resolved at_ report at_report)
    refine told.fits.not_throughRcpts told.within ?_ inside
    rw [phase]
    exact unattempted at_ report at_report is
  · exact told.fits.terminator_iff told.within
  · exact iff_of_false (by rw [report, fits.accepted]; nofun) (unreplied _)
  · exact { fits with
      consent := nofun
      unattempted := unattempted
      unresolved := fun at_ report at_report is => absurd is (resolved at_ report at_report) }

theorem Told.rcptReply (phase : op.phase = .rcptReply index) :
    Inv request (op.handleReply w reply) := by
  have base : op.phase.base op.request op.transport = throughRcpts op.request (index + 1) := phase ▸ rfl
  unfold SendOperation.handleReply
  rw [phase]
  dsimp only
  split
  case isTrue positive =>
    have own : RepliedTo op.request index (fun r => inClass 2 r.code = true ∧ r.summary = reply.summary) op.log :=
      told.to_replied base ⟨positive, rfl⟩
    have reported : Reported request (op.report index (.acceptedForTransaction reply.summary)) index :=
      told.reported phase rfl own
    exact reported.nextRecipient
  case isFalse other =>
    split
    case isTrue negative =>
      have own : RepliedTo op.request index
          (fun r => SendOperation.negative r.code = true ∧ r.summary = reply.summary) op.log :=
        told.to_replied base ⟨negative, rfl⟩
      have reported : Reported request (op.report index (.rejected reply.summary)) index := told.reported phase rfl own
      split
      · exact reported.core.reject reported.unaccepted reply
      · exact reported.nextRecipient
    case isFalse another =>
      refine told.fail (fun _ _ => ?_) (phase ▸ nofun) _
      exact Bool.or_eq_false_iff.mpr ⟨Bool.eq_false_iff.mpr other, Bool.eq_false_iff.mpr another⟩

/-! ## The replies to the message -/

theorem Told.dataReply (phase : op.phase = .dataReply) : Inv request (op.handleReply w reply) := by
  have fits := told.fits
  have sent := told.sent
  rw [phase] at fits sent
  unfold SendOperation.handleReply
  rw [phase]
  dsimp only
  split
  · apply Live.inv
    refine .of_other { told.toPast with }
      { fits with inside := nofun, unresolved := fits.none_unresolved nofun }
      ⟨[], _, rfl, .new _, ?_, sent.trans (List.append_nil _).symm, ?_⟩ told.fresh nofun nofun
    · exact fun o staged => nomatch told.idle.symm.trans staged
    · change [] ++ (op.outbound.elim [] _ ++ _) = _
      rw [told.idle]
      exact DataEncoder.remaining_new _
  · exact told.refuse (fun _ => phase ▸ nofun) (phase ▸ rfl) (phase ▸ nofun)

theorem Told.dataResult (phase : op.phase = .dataResult) :
    Inv request (op.handleReply w reply) := by
  have fits := told.fits
  have sent := told.sent
  rw [phase] at fits sent
  unfold SendOperation.handleReply
  rw [phase]
  dsimp only
  split
  case isTrue positive =>
    apply Live.inv
    refine Live.of_command { told.toPast with } ?_ rfl rfl sent told.fresh
    exact { fits with
      inside := nofun
      accepted := rfl
      result := fun _ => told.to_replied (by rw [phase]; exact List.prefix_rfl) positive
      unresolved := fits.none_unresolved nofun }
  case isFalse other =>
    exact told.refuse (fun _ => phase ▸ nofun) (phase ▸ rfl) fun _ => Bool.eq_false_iff.mpr other

theorem Told.quitReply (phase : op.phase = .quitReply) : Inv request (op.handleReply w reply) := by
  have fits := told.fits
  have sent := told.sent
  rw [phase] at fits sent
  unfold SendOperation.handleReply
  rw [phase]
  dsimp only
  split
  · apply Live.inv
    exact .of_other { told.toPast with }
      { fits with inside := nofun, unresolved := fits.none_unresolved nofun } ⟨told.idle, sent⟩ told.fresh nofun nofun
  · exact told.fail (fun _ => phase ▸ nofun) (phase ▸ nofun) _

theorem Told.handleReply : Inv request (op.handleReply w reply) := by
  have reading := told.reading
  cases phase : op.phase with
  | greeting => exact told.greeting phase
  | ehloReply => exact told.ehloReply phase
  | startTlsReply => exact told.startTlsReply phase
  | mailReply => exact told.mailReply phase
  | rcptReply index => exact told.rcptReply phase
  | dataReply => exact told.dataReply phase
  | dataResult => exact told.dataResult phase
  | quitReply => exact told.quitReply phase
  | _ =>
    rw [phase] at reading
    cases reading

end

/-! ## Reading -/

theorem Live.read (live : Live request op) (reading : op.phase.kind = .reading) (transport : op.transport = some via)
    {byte : UInt8} {parser : ReplyParser} (pushed : op.parser.push byte = some (parser, none)) :
    Live request { op with log := op.log ++ [.read via byte], parser := parser } := by
  obtain ⟨idle, sent⟩ := live.sent_of_idle (.inr reading)
  have same := admitted_read op.log via byte
  exact
    { live.toPast with
      record := live.record.quiet rfl trivial trivial
      fits := { live.fits.snoc (.read via byte) with }
      sent := by
        unfold Sent
        dsimp only
        rw [reading]
        exact ⟨idle, same.trans sent⟩
      inClear := fun off => by
        rw [same, admittedInClear_read]
        exact live.inClear off
      pending := live.pending
      heard := fun _ over' transport' => by
        cases Option.some.inj (transport.symm.trans transport')
        obtain ⟨earlier, bytes, log, fed⟩ := live.heard reading via transport
        refine ⟨earlier, bytes ++ [byte], ?_, ReplyParser.feed_snoc fed pushed⟩
        rw [log, List.map_append, List.append_assoc]
        rfl
      silent := fun other => absurd reading other
      unanswered := fun early => mt replied_read.mp (live.unanswered early) }

theorem Live.told (live : Live request op) (reading : op.phase.kind = .reading) (transport : op.transport = some via)
    {byte : UInt8} {parser : ReplyParser} (pushed : op.parser.push byte = some (parser, some reply)) :
    Told request { op with
      parser := parser, log := op.log ++ [.read via byte] ++ [.replied via op.phase reply] } via reply := by
  obtain ⟨idle, sent⟩ := live.sent_of_idle (.inr reading)
  obtain ⟨earlier, bytes, log, fed⟩ := live.heard reading via transport
  have just : JustRead via reply (op.log ++ [.read via byte]) := by
    refine ⟨earlier, bytes ++ [byte], ?_, .of_push fed pushed⟩
    rw [log, List.map_append, List.append_assoc]
    rfl
  have same : admitted (op.log ++ [.read via byte] ++ [.replied via op.phase reply]) = admitted op.log := by
    rw [admitted_replied, admitted_read]
  have read : Record op.request (op.log ++ [.read via byte]) op.reports := live.record.quiet rfl trivial trivial
  exact
    { live.toPast with
      record := read.quiet rfl trivial just
      fits := { (live.fits.snoc (.read via byte)).snoc (.replied via op.phase reply) with }
      reading := reading
      idle := idle
      sent := same.trans sent
      inClear := fun off => by
        rw [same, admittedInClear_replied, admittedInClear_read]
        exact live.inClear off
      fresh := ReplyParser.push_complete pushed
      latest := ⟨op.log ++ [.read via byte], rfl, just, mt replied_read.mp (live.unanswered (.inl reading))⟩ }

/-- What one read does: it takes a byte and gives it to the parser, or it takes none. -/
theorem readStep_cases (transport : op.transport = some via) :
    (∃ diagnostic step, (step = .pending ∨ ∃ reason, step = ReadStep.failed reason) ∧
      op.readStep w = ({ op with transportDiagnostic := diagnostic }, step)) ∨
    ∃ byte, (op.parser.push byte = none ∧
        op.readStep w = ({ op with log := op.log ++ [.read via byte] }, .failed .protocol)) ∨
      ∃ parser answer, op.parser.push byte = some (parser, answer) ∧
        op.readStep w = ({ op with log := op.log ++ [.read via byte], parser := parser },
          match answer with
          | some reply => .complete reply
          | none => .progress) := by
  unfold SendOperation.readStep
  split
  case h_1 off => cases off.symm.trans transport
  case h_2 over' on =>
    cases Option.some.inj (transport.symm.trans on)
    cases w.read with
    | pending => exact .inl ⟨_, _, .inl rfl, rfl⟩
    | data byte =>
      refine .inr ⟨byte, ?_⟩
      dsimp only
      split
      case h_1 parser reply pushed => exact .inr ⟨parser, some reply, pushed, rfl⟩
      case h_2 parser pushed => exact .inr ⟨parser, none, pushed, rfl⟩
      case h_3 pushed => exact .inl ⟨pushed, rfl⟩
    | empty | eof | reset | cancelled | failed error => exact .inl ⟨_, _, .inr ⟨_, rfl⟩, rfl⟩

theorem advanceReading_inv (live : Live request op) (reading : op.phase.kind = .reading) : Inv request (op.advanceReading w).1 := by
  obtain ⟨via, transport⟩ := live.fits.connected (by rw [reading]; nofun)
  unfold SendOperation.advanceReading
  obtain ⟨diagnostic, step, still, eq⟩ | ⟨byte, ⟨-, eq⟩ | ⟨parser, answer, pushed, eq⟩⟩ := readStep_cases (w := w) transport
  · rw [eq]
    rcases still with rfl | ⟨reason, rfl⟩
    · exact Live.inv { live with fits := { live.fits with } }
    · exact live.fail_off op.pending op.transport diagnostic reason
  · rw [eq]
    have core : Core request { op with log := op.log ++ [.read via byte] } := live.core.quiet rfl nofun trivial trivial
    exact core.fail (fun unaccepted => mt replied_read.mp (live.unreplied unaccepted)) _
  · rw [eq]
    cases answer with
    | none => exact (live.read reading transport pushed).inv
    | some reply =>
      have told := live.told reading transport pushed
      dsimp only
      rw [transport] at told ⊢
      exact told.handleReply

/-! ## The whole of it -/

theorem advanceFinish_inv (live : Live request op) : Inv request (op.advanceFinish w).1 := by
  unfold SendOperation.advanceFinish
  split
  · exact live.fail _
  · exact live.inv
  · exact live.fail _
  · exact live.fail _

theorem advance_inv (live : Live request op) (dataBytes : Nat) : Inv request (op.advance w dataBytes).1 := by
  unfold SendOperation.advance
  cases kind : op.phase.kind with
  | connecting => exact pollConnect_inv live kind
  | reading => exact advanceReading_inv live kind
  | sending => exact advanceSending_inv live kind
  | body => exact advanceBody_inv live kind
  | finishing => exact advanceFinish_inv live

theorem pollLoop_inv (rounds : Nat) (inv : Inv request op) (dataBytes : Nat) (worlds : Nat → World) :
    Inv request (pollLoop rounds op dataBytes worlds) := by
  induction rounds generalizing op dataBytes worlds with
  | zero => exact inv
  | succ rounds ih =>
    unfold pollLoop
    split
    · exact inv
    next undecided =>
      have live : Live request op := by
        unfold Inv at inv
        rwa [Option.not_isSome_iff_eq_none.mp undecided] at inv
      have next := advance_inv (w := worlds 0) live dataBytes
      split
      · exact live.fail _
      split
      case h_1 advanced =>
        rw [advanced] at next
        exact next
      case h_2 advanced =>
        rw [advanced] at next
        exact ih next _ _

theorem call_inv (inv : Inv request op) (c : SendOperation.Call) : Inv request (op.call c) := by
  cases c with
  | poll worlds => exact pollLoop_inv _ inv 0 worlds
  | cancel =>
    unfold SendOperation.call SendOperation.cancel
    dsimp only
    split
    next undecided =>
      unfold Inv at inv
      rw [Option.isNone_iff_eq_none.mp undecided] at inv
      exact Live.fail inv _
    · exact inv

theorem calls_inv (inv : Inv request op) (list : List SendOperation.Call) : Inv request (op.calls list) := by
  induction list generalizing op with
  | nil => exact inv
  | cons c rest ih => exact ih (call_inv inv c)

end NbReq.Smtp
