import NbReq.Tcp.Streams
import Mathlib.Logic.Relation

/-!
# The TLS upgrade of a session

A TCP connection is upgraded by its holder, who gives it up, by the registry, and by the reactor, which moves the
session from its plain half to its TLS half. All of them work on the one session under its lock; `Crossing` is the
session with who has it, and each step is one section.

Who decrypts is not modelled: what the TLS half pushes is what the verified TLS session has decrypted.

1. `Crossing.Step`: what each party can do.
2. `Crossed`: what holds of every reachable state. While the upgrade is under way the session is empty and nobody
   touches it.
3. `Crossing.Reachable.upgrade_clean`: nothing in the clear crosses an upgrade.
-/

namespace NbReq

/-! ## Marks -/

theorem TcpIo.takeTlsOutboundUpTo_marks (io : TcpIo) (capacity : Nat) :
    (io.takeTlsOutboundUpTo capacity).1.upgrading = io.upgrading ∧
      (io.takeTlsOutboundUpTo capacity).1.aborted = io.aborted ∧
      (io.takeTlsOutboundUpTo capacity).1.released = io.released := by
  simp only [TcpIo.takeTlsOutboundUpTo]
  repeat' split
  all_goals exact ⟨rfl, rfl, rfl⟩

namespace Session

theorem abort_marks (s : Session) (admission : Option Permit) (kind : TcpAbort) :
    (exec admission (.abort kind) s).1.io.upgrading = s.io.upgrading ∧
      (exec admission (.abort kind) s).1.io.outboundTlsOffset = s.io.outboundTlsOffset ∧
      (exec admission (.abort kind) s).1.io.aborted.isSome = true ∧
      ((s.io.aborted.isSome = true → s.io.released = true) →
        (exec admission (.abort kind) s).1.io.released = true) := by
  simp only [exec, onIo, TcpIo.abort]
  split
  next aborted => exact ⟨rfl, rfl, aborted, fun spent => spent aborted⟩
  next live =>
    have released : ∀ io : TcpIo, io.takeRelease.1.released = true := by
      intro io
      unfold TcpIo.takeRelease
      split
      next released => exact released
      · rfl
    have marks := fun io : TcpIo => ((TcpIo.takeRelease_streams io).trans (TcpIo.takeFinishJob_streams 0 _)).marks
    refine ⟨(marks _).upgrading, (marks _).tlsOffset, ?_, fun _ => ?_⟩
    · rw [(marks _).aborted]
      rfl
    · exact (TcpIo.takeFinishJob_streams 0 _).marks.released (released _)

end Session

/-! ## The parties -/

inductive ConnectionHolder where
  | tcp
  | nobody
  | tls
deriving DecidableEq, Repr

/-- Which half of the reactor has the session, and for TLS whether the handshake is over. -/
inductive Half where
  | plain
  | tls (verified : Bool)
deriving DecidableEq, Repr

/-- A session on its way to TLS. `requested` is `TlsConnectState::upgrade`: the TLS connection is made from a TCP
connection, and not from the start. `failing` is the error with which the reactor is about to fail the session.

For the statements it records what arrived in the clear, what was decrypted, what had been read when the TLS connection
was handed out, and whether anything arrived in the clear during the upgrade. -/
structure Crossing where
  session : Session
  holder : ConnectionHolder
  half : Half
  requested : Bool := false
  failing : Option Error := none
  clear : Bytes := []
  decrypted : Bytes := []
  before : Bytes := []
  crossed : Bool := false

def SessionAct.ofHolder : SessionAct → Bool
  | .trySend _ | .send _ | .sendChunk _ | .sendWait _ | .tryRead _ | .read _ | .readWait _ | .tryFinish | .finish
  | .finishWait | .finishWith _ | .beginCallbackEvent _ | .registerFinish _ _ => true
  | _ => false

/-- The sections of the two halves of the reactor other than a push. -/
def SessionAct.ofHalf (half : Half) : SessionAct → Bool
  | .takeOutboundUpTo _ => half == .plain
  | .takeTlsOutboundUpTo _ => half == .tls true
  | .closeWriteAdmissionIfIdle => half != .plain
  | .writeProgress _ | .completeWriteShutdown | .peerClosed => true
  | _ => false

/-- The sections that may run at any time: a cancellation or a failure, a dropped connection or owner, the registry's
reserve, and what a section leaves to its thread. -/
def SessionAct.anyTime : SessionAct → Bool
  | .abort _ | .writerDropped | .readerDropped | .ownerDropped | .attachTlsReserve _ | .activateFinish | .dropPermit _
  | .runRelease _ | .dispatchJob _ => true
  | _ => false

namespace Crossing

def upgradeBoundaryClean (io : TcpIo) : Bool :=
  io.upgrading && io.aborted.isNone && !io.peerFin && !io.writeFinishRequested && !io.writeFinished &&
    io.inboundBytes == 0 && io.outboundBytes == 0 && io.pumpBytes == 0 && !io.released

def on (c : Crossing) (admission : Option Permit) (act : SessionAct) : Crossing :=
  { c with session := (Session.exec admission act c.session).1 }

/-- `accept_tls_upgrade`: the connection is gone, whether or not the upgrade starts. -/
def startTls (c : Crossing) : Crossing :=
  { c.on none .beginUpgrade with holder := .nobody, requested := c.session.io.beginUpgrade.toOption.isSome }

/-- A `Data` event of the plain half: a chunk that cannot be pushed fails the session. -/
def arrive (c : Crossing) (bytes : Bytes) : Crossing :=
  match c.session.io.pushInbound bytes with
  | (_, .ok ()) => { c.on none (.pushInbound bytes) with clear := c.clear ++ bytes }
  | (_, .error error) =>
    { c.on none (.pushInbound bytes) with failing := some error, crossed := c.crossed || c.session.io.upgrading }

def decrypt (c : Crossing) (bytes : Bytes) : Crossing :=
  match c.session.io.pushInbound bytes with
  | (_, .ok ()) => { c.on none (.pushInbound bytes) with decrypted := c.decrypted ++ bytes }
  | (_, .error error) => { c.on none (.pushInbound bytes) with failing := some error }

/-- `complete_tls_connected` of a session that is not released. -/
def connected (c : Crossing) : Crossing :=
  { (if c.requested then c.on none .completeUpgrade else c) with
    holder := .tls
    half := .tls true
    before := c.session.read }

/-- What the holder, the registry and the reactor do. The reactor is one thread: a session it is about to fail is
failed before it does anything else with it. -/
inductive Step : Crossing → Crossing → Prop
  | call {c : Crossing} {admission : Option Permit} {act : SessionAct} (own : act.ofHolder = true)
      (held : c.holder ≠ .nobody) : Step c (c.on admission act)
  | startTls {c : Crossing} (held : c.holder = .tcp) : Step c c.startTls
  | anyTime {c : Crossing} {admission : Option Permit} {act : SessionAct} (loose : act.anyTime = true) :
      Step c (c.on admission act)
  | reactor {c : Crossing} {act : SessionAct} (own : act.ofHalf c.half = true) (well : c.failing = none) :
      Step c (c.on none act)
  | arrive {c : Crossing} {bytes : Bytes} (plain : c.half = .plain) (well : c.failing = none) : Step c (c.arrive bytes)
  | fail {c : Crossing} {error : Error} (failing : c.failing = some error) :
      Step c { c.on none (.abort (.failed error)) with failing := none }
  | takeOver {c : Crossing} (plain : c.half = .plain) (well : c.failing = none) (requested : c.requested = true)
      (clean : upgradeBoundaryClean c.session.io = true) : Step c { c with half := .tls false }
  | connected {c : Crossing} (handshaken : c.half = .tls false) (well : c.failing = none)
      (unreleased : c.session.io.released = false) : Step c c.connected
  | decrypt {c : Crossing} {bytes : Bytes} (verified : c.half = .tls true) (well : c.failing = none) :
      Step c (c.decrypt bytes)

/-- A new TCP connection, or a new session of a connection that is under TLS from the start. -/
inductive Initial : Crossing → Prop
  | tcp (id : RequestId) (runMode : RunMode) (sendWindow receiveWindow : Nat) (onRelease : List Permit) :
      Initial { session := .new id runMode sendWindow receiveWindow onRelease, holder := .tcp, half := .plain }
  | tls (id : RequestId) (runMode : RunMode) (sendWindow receiveWindow : Nat) (onRelease : List Permit) :
      Initial { session := .new id runMode sendWindow receiveWindow onRelease, holder := .nobody, half := .tls false }

def Reachable (c : Crossing) : Prop := ∃ start, Initial start ∧ Relation.ReflTransGen Step start c

def readTls (c : Crossing) : Bytes := c.session.read.drop c.before.length

end Crossing

/-! ## The traffic of a section -/

namespace Session

structure SameTraffic (s s' : Session) : Prop where
  accepted : s'.accepted = s.accepted
  taken : s'.taken = s.taken
  pushed : s'.pushed = s.pushed
  read : s'.read = s.read

variable {s : Session} {admission : Option Permit} {act : SessionAct}

theorem exec_anyTime (loose : act.anyTime = true) : s.SameTraffic (exec admission act s).1 := by
  cases act with
  | abort | writerDropped | readerDropped | ownerDropped | activateFinish | dropPermit | runRelease | dispatchJob =>
    exact ⟨rfl, rfl, rfl, rfl⟩
  | attachTlsReserve reserve =>
    simp only [exec]
    split <;> exact ⟨rfl, rfl, rfl, rfl⟩
  | _ => cases loose

/-- The reactor reads nothing, and during an upgrade it takes nothing. -/
theorem exec_ofHalf {half : Half} (own : act.ofHalf half = true) :
    (exec admission act s).1.read = s.read ∧ (s.io.upgrading = true → s.SameTraffic (exec admission act s).1) := by
  cases act with
  | writeProgress | completeWriteShutdown | peerClosed | closeWriteAdmissionIfIdle =>
    exact ⟨rfl, fun _ => ⟨rfl, rfl, rfl, rfl⟩⟩
  | takeOutboundUpTo capacity =>
    refine ⟨rfl, fun upgrading => ⟨rfl, ?_, rfl, rfl⟩⟩
    simp [exec, took, TcpIo.takeOutboundUpTo, upgrading]
  | takeTlsOutboundUpTo capacity =>
    refine ⟨rfl, fun upgrading => ⟨rfl, ?_, rfl, rfl⟩⟩
    simp [exec, took, TcpIo.takeTlsOutboundUpTo, upgrading]
  | _ => cases own

end Session

theorem Inbound.Step.read_grows {q q' : Inbound} (step : Inbound.Step q q') : q.read <+: q'.read := by
  cases step with
  | read space live => exact List.prefix_append _ _
  | _ => exact List.prefix_rfl

/-! ## What holds of every state -/

/-- While a session is on its way to TLS it is empty, and nobody has it. -/
structure Crossed (c : Crossing) : Prop where
  receiving : Receiving c.session.inbound
  sending : c.half = .plain → c.session.io.outboundTlsOffset = 0 ∧
    (c.session.io.aborted = none → Sending c.session.outbound)
  spent : c.session.io.aborted.isSome = true → c.session.io.released = true
  pushed : c.session.pushed = c.clear ++ c.decrypted
  undecrypted : c.half ≠ .tls true → c.decrypted = []
  tcp : c.holder = .tcp → c.half = .plain
  tls : c.holder = .tls → c.half = .tls true ∧ c.before = c.clear ∧ c.before <+: c.session.read
  upgrading : c.session.io.upgrading = true → c.holder = .nobody ∧ c.requested = true ∧ c.half ≠ .tls true ∧
    (c.session.io.aborted = none → c.session.read = c.clear)
  handshaking : c.half = .tls false → c.holder = .nobody ∧ (c.requested = true → c.session.io.upgrading = true) ∧
    (c.session.io.aborted = none → c.session.read = c.clear)
  crossed : c.crossed = true → c.half = .plain ∧ c.holder = .nobody ∧
    (c.failing.isSome = true ∨ c.session.io.aborted.isSome = true)

variable {c c' : Crossing}

/-- A section that does not touch the upgrade, reads nothing for nobody, and pushes in the clear only to a session that
is not on its way to TLS. -/
theorem Crossed.section (inv : Crossed c) {s : Session} (clear decrypted : Bytes)
    (sides : ∀ mixed, (mixed = false → c.session.io.outboundTlsOffset = 0) → c.session.Sides mixed s)
    (upgrading : s.io.upgrading = c.session.io.upgrading)
    (live : s.io.aborted = none → c.session.io.aborted = none)
    (tlsOffset : c.half = .plain → s.io.outboundTlsOffset = c.session.io.outboundTlsOffset)
    (spent : s.io.aborted.isSome = true → s.io.released = true)
    (read : c.holder = .nobody → s.read = c.session.read)
    (pushed : s.pushed = clear ++ decrypted) (undecrypted : c.half ≠ .tls true → decrypted = [])
    (same : (c.holder = .tls ∨ c.session.io.upgrading = true ∨ c.half = .tls false) → clear = c.clear) :
    Crossed { c with session := s, clear := clear, decrypted := decrypted } where
  receiving := inv.receiving.step (sides true nofun).1
  sending plain := by
    obtain ⟨offset, sending⟩ := inv.sending plain
    refine ⟨(tlsOffset plain).trans offset, fun unaborted => ?_⟩
    refine (sending (live unaborted)).step (sides false fun _ => offset).2 ?_
    show s.io.aborted.isSome = false
    rw [show s.io.aborted = none from unaborted]
    rfl
  spent := spent
  pushed := pushed
  undecrypted := undecrypted
  tcp := inv.tcp
  tls held := by
    obtain ⟨half, before, front⟩ := inv.tls held
    exact ⟨half, before.trans (same (.inl held)).symm, front.trans (sides true nofun).1.read_grows⟩
  upgrading still := by
    have still : c.session.io.upgrading = true := upgrading ▸ still
    obtain ⟨nobody, requested, half, empty⟩ := inv.upgrading still
    exact ⟨nobody, requested, half, fun unaborted =>
      (read nobody).trans ((empty (live unaborted)).trans (same (.inr (.inl still))).symm)⟩
  handshaking half := by
    obtain ⟨nobody, still, empty⟩ := inv.handshaking half
    exact ⟨nobody, fun requested => upgrading.trans (still requested), fun unaborted =>
      (read nobody).trans ((empty (live unaborted)).trans (same (.inr (.inr half))).symm)⟩
  crossed crossed := by
    obtain ⟨plain, nobody, fails⟩ := inv.crossed crossed
    refine ⟨plain, nobody, fails.imp_right fun ended => ?_⟩
    by_contra unaborted
    rw [live (Option.not_isSome_iff_eq_none.mp unaborted)] at ended
    cases ended

/-- A section that neither upgrades nor pushes, and reads nothing for nobody. -/
theorem Crossed.on (inv : Crossed c) {admission : Option Permit} {act : SessionAct}
    (other : act.ordinary = true ∨ (∃ capacity, act = .takeTlsOutboundUpTo capacity ∧ c.half ≠ .plain) ∨
      ∃ kind, act = .abort kind)
    (read : c.holder = .nobody → (Session.exec admission act c.session).1.read = c.session.read) :
    Crossed (c.on admission act) := by
  have sides : ∀ mixed, (mixed = false → c.session.io.outboundTlsOffset = 0) →
      c.session.Sides mixed (Session.exec admission act c.session).1 :=
    fun _ apart => c.session.exec_sides admission act fun unmixed _ => apart unmixed
  have kept := fun upgrading live tlsOffset spent pushed => inv.section c.clear c.decrypted sides upgrading live
    tlsOffset spent read (Eq.trans pushed inv.pushed) inv.undecrypted fun _ => rfl
  rcases other with ordinary | ⟨capacity, rfl, tls⟩ | ⟨kind, rfl⟩
  · obtain ⟨-, marks, pushed, -⟩ := @Session.exec_ordinary true c.session admission act ordinary nofun
    exact kept marks.upgrading (fun live => marks.aborted.symm.trans live) (fun _ => marks.tlsOffset)
      (fun ended => marks.released (inv.spent (marks.aborted ▸ ended))) pushed
  · obtain ⟨upgrading, aborted, released⟩ := c.session.io.takeTlsOutboundUpTo_marks capacity
    exact kept upgrading (fun live => aborted.symm.trans live) (fun plain => absurd plain tls)
      (fun ended => released.trans (inv.spent (aborted ▸ ended))) rfl
  · obtain ⟨upgrading, tlsOffset, ended, released⟩ := c.session.abort_marks admission kind
    refine kept upgrading (fun live => ?_) (fun _ => tlsOffset) (fun _ => released inv.spent) rfl
    rw [live] at ended
    cases ended

/-! ## The steps -/

theorem SessionAct.ordinary_of_ofHolder {act : SessionAct} (own : act.ofHolder = true) : act.ordinary = true := by
  cases act <;> first | rfl | cases own

theorem SessionAct.ordinary_of_ofHalf {act : SessionAct} {half : Half} (own : act.ofHalf half = true) :
    act.ordinary = true ∨ (∃ capacity, act = .takeTlsOutboundUpTo capacity ∧ half ≠ .plain) := by
  cases act with
  | takeTlsOutboundUpTo capacity =>
    refine .inr ⟨capacity, rfl, ?_⟩
    rintro rfl
    cases own
  | _ => first | exact .inl rfl | cases own

theorem SessionAct.ordinary_of_anyTime {act : SessionAct} (loose : act.anyTime = true) :
    act.ordinary = true ∨ ∃ kind, act = .abort kind := by
  cases act with
  | abort kind => exact .inr ⟨kind, rfl⟩
  | _ => first | exact .inl rfl | cases loose

variable {bytes : Bytes} {io : TcpIo}

/-- What a successful push needs, and what a push during an upgrade does. -/
theorem TcpIo.pushInbound_upgrading (upgrading : io.upgrading = true)
    (nonempty : bytes ≠ []) : ∃ error, io.pushInbound bytes = (io, .error error) := by
  unfold TcpIo.pushInbound
  rw [if_neg (by simpa using nonempty), if_pos upgrading]
  exact ⟨_, rfl⟩

theorem TcpIo.pushInbound_error {io io' : TcpIo} {error : Error}
    (refused : io.pushInbound bytes = (io', .error error)) : io' = io := by
  unfold TcpIo.pushInbound at refused
  repeat' split at refused
  all_goals cases refused
  all_goals rfl

/-- What `begin_upgrade` needs. -/
theorem TcpIo.beginUpgrade_ok {io io' : TcpIo} (started : io.beginUpgrade = .ok io') :
    io' = { io with upgrading := true } ∧ io.aborted = none ∧ io.peerFin = false ∧ io.inboundBytes = 0 ∧
      io.outboundBytes = 0 ∧ io.pumpBytes = 0 := by
  unfold TcpIo.beginUpgrade at started
  split at started
  · cases started
  next open_ =>
    cases started
    simp only [Bool.or_eq_true, not_or, bne_iff_ne, ne_eq, not_not, Bool.not_eq_true, Option.isSome_eq_false_iff,
      Option.isNone_iff_eq_none] at open_
    exact ⟨rfl, open_.1.1.1.1.1.1.1.1, open_.1.1.1.1.2, open_.1.1.2, open_.1.2, open_.2⟩

/-- A refused push changes nothing but that the session is about to fail. -/
theorem Crossed.refused (inv : Crossed c) {error : Error} {crossed : Bool}
    (refused : c.session.io.pushInbound bytes = (io, .error error))
    (plain : crossed = true → c.half = .plain ∧ c.holder = .nobody) :
    Crossed { c.on none (.pushInbound bytes) with failing := some error, crossed := crossed } := by
  have same : (Session.exec none (.pushInbound bytes) c.session).1 = c.session := by
    simp only [Session.exec, refused, TcpIo.pushInbound_error refused]
  unfold Crossing.on
  rw [same]
  exact { inv with crossed := fun is => ⟨(plain is).1, (plain is).2, .inl rfl⟩ }

theorem Crossed.push (inv : Crossed c) (clear decrypted : Bytes)
    (taken : c.session.io.pushInbound bytes = (io, .ok ()))
    (pushed : c.session.pushed ++ bytes = clear ++ decrypted)
    (undecrypted : c.half ≠ .tls true → decrypted = [])
    (same : (c.holder = .tls ∨ c.session.io.upgrading = true ∨ c.half = .tls false) → clear = c.clear) :
    Crossed { c.on none (.pushInbound bytes) with clear := clear, decrypted := decrypted } := by
  have session : (Session.exec none (.pushInbound bytes) c.session).1 =
      { c.session with io := io, pushed := c.session.pushed ++ bytes } := by
    simp only [Session.exec, taken]
  have marks := (@Session.pushInbound_sides true c.session none bytes).2
  unfold Crossing.on
  refine inv.section clear decrypted (fun _ apart => c.session.exec_sides none _ fun unmixed _ => apart unmixed)
    marks.upgrading (fun live => marks.aborted.symm.trans live) (fun _ => marks.tlsOffset)
    (fun ended => marks.released (inv.spent (marks.aborted ▸ ended))) (fun _ => ?_) ?_ undecrypted same
  · rw [session]
  · rw [session]
    exact pushed

theorem Crossed.startTls (inv : Crossed c) (held : c.holder = .tcp) : Crossed c.startTls := by
  have plain := inv.tcp held
  have settled : ¬c.session.io.upgrading = true := fun still => by cases held.symm.trans (inv.upgrading still).1
  have uncrossed : ¬c.crossed = true := fun crossed => by cases held.symm.trans (inv.crossed crossed).2.1
  have unverified : c.half ≠ .tls true := fun half => by cases plain.symm.trans half
  unfold Crossing.startTls Crossing.on
  cases begun : c.session.io.beginUpgrade with
  | error error =>
    have same : (Session.exec none .beginUpgrade c.session).1 = c.session := by simp only [Session.exec, begun]
    rw [same]
    exact
      { inv with
        tcp := fun held => by cases held
        tls := fun held => by cases held
        upgrading := fun still => absurd still settled
        handshaking := fun half => by cases plain.symm.trans half
        crossed := fun crossed => absurd crossed uncrossed }
  | ok io =>
    obtain ⟨rfl, live, -, empty, -⟩ := TcpIo.beginUpgrade_ok begun
    have same : (Session.exec none .beginUpgrade c.session).1 =
        { c.session with io := { c.session.io with upgrading := true } } := by
      simp only [Session.exec, begun]
    have read : c.session.read = c.clear := by
      have nothing : c.session.inbound.unread = [] := List.length_eq_zero_iff.mp (inv.receiving.bytes ▸ empty)
      have queued : c.session.pushed = c.session.read ++ c.session.inbound.unread :=
        inv.receiving.queued (by show c.session.io.aborted.isSome = false; rw [live]; rfl)
      rw [nothing, List.append_nil, inv.pushed, inv.undecrypted unverified, List.append_nil] at queued
      exact queued.symm
    rw [same]
    exact
      { receiving := inv.receiving
        sending := inv.sending
        spent := inv.spent
        pushed := inv.pushed
        undecrypted := inv.undecrypted
        tcp := fun held => by cases held
        tls := fun held => by cases held
        upgrading := fun _ => ⟨rfl, rfl, unverified, fun _ => read⟩
        handshaking := fun half => by cases plain.symm.trans half
        crossed := fun crossed => absurd crossed uncrossed }

theorem Crossed.arrive (inv : Crossed c) (plain : c.half = .plain) (bytes : Bytes) : Crossed (c.arrive bytes) := by
  unfold Crossing.arrive
  split
  next io taken =>
    refine inv.push (c.clear ++ bytes) c.decrypted taken ?_ inv.undecrypted ?_
    · rw [inv.pushed, inv.undecrypted (by rw [plain]; nofun), List.append_nil, List.append_nil]
    -- Nothing but an empty chunk gets past an upgrade.
    rintro (held | still | half)
    · exact nomatch plain.symm.trans (inv.tls held).1
    · by_cases nonempty : bytes = []
      · rw [nonempty, List.append_nil]
      · obtain ⟨error, refused⟩ := TcpIo.pushInbound_upgrading still nonempty
        rw [refused] at taken
        cases taken
    · exact nomatch plain.symm.trans half
  next io error refused =>
    refine inv.refused refused fun crossed => ⟨plain, ?_⟩
    rcases (Bool.or_eq_true _ _).mp crossed with earlier | still
    · exact (inv.crossed earlier).2.1
    · exact (inv.upgrading still).1

theorem Crossed.decrypt (inv : Crossed c) (verified : c.half = .tls true) (bytes : Bytes) :
    Crossed (c.decrypt bytes) := by
  unfold Crossing.decrypt
  split
  next io taken =>
    refine inv.push c.clear (c.decrypted ++ bytes) taken ?_ (fun other => absurd verified other) fun _ => rfl
    rw [inv.pushed, List.append_assoc]
  next io error refused =>
    exact inv.refused refused fun crossed => ⟨(inv.crossed crossed).1, (inv.crossed crossed).2.1⟩

theorem Crossed.connected (inv : Crossed c) (handshaken : c.half = .tls false)
    (unreleased : c.session.io.released = false) : Crossed c.connected := by
  have live : c.session.io.aborted = none := by
    rw [← Option.not_isSome_iff_eq_none]
    exact fun ended => nomatch unreleased.symm.trans (inv.spent ended)
  have ⟨_, still, empty⟩ := inv.handshaking handshaken
  have nothing : c.decrypted = [] := inv.undecrypted (by rw [handshaken]; nofun)
  have uncrossed : ¬c.crossed = true := fun crossed => nomatch handshaken.symm.trans (inv.crossed crossed).1
  have settled : ¬(if c.requested then c.on none .completeUpgrade else c).session.io.upgrading = true := by
    split
    · nofun
    next direct => exact fun still => direct (inv.upgrading still).2.1
  have same : (if c.requested then c.on none .completeUpgrade else c) =
      { c with session := { c.session with io := { c.session.io with
        upgrading := (if c.requested then c.on none .completeUpgrade else c).session.io.upgrading } } } := by
    split <;> rfl
  unfold Crossing.connected
  rw [same]
  exact
    { receiving := inv.receiving
      sending := nofun
      spent := inv.spent
      pushed := inv.pushed
      undecrypted := fun other => absurd rfl other
      tcp := nofun
      tls := fun _ => ⟨rfl, empty live, List.prefix_rfl⟩
      upgrading := fun still => absurd still settled
      handshaking := nofun
      crossed := fun crossed => absurd crossed uncrossed }

theorem Crossing.Step.crossed (step : Crossing.Step c c') (inv : Crossed c) : Crossed c' := by
  cases step with
  | call own held => exact inv.on (.inl (SessionAct.ordinary_of_ofHolder own)) fun nobody => absurd nobody held
  | startTls held => exact inv.startTls held
  | anyTime loose =>
    exact inv.on ((SessionAct.ordinary_of_anyTime loose).imp_right .inr) fun _ => (Session.exec_anyTime loose).read
  | reactor own well =>
    exact inv.on ((SessionAct.ordinary_of_ofHalf own).imp_right .inl) fun _ => (Session.exec_ofHalf own).1
  | arrive plain well => exact inv.arrive plain _
  | @fail error failing =>
    have aborted := (c.session.abort_marks none (.failed error)).2.2.1
    have ended : Crossed (c.on none (.abort (.failed error))) :=
      inv.on (.inr (.inr ⟨_, rfl⟩)) fun _ => rfl
    exact { ended with
      crossed := fun crossed => ⟨(inv.crossed crossed).1, (inv.crossed crossed).2.1, .inr aborted⟩ }
  | takeOver plain well requested clean =>
    simp only [Crossing.upgradeBoundaryClean, Bool.and_eq_true, Option.isNone_iff_eq_none] at clean
    obtain ⟨⟨⟨⟨⟨⟨⟨⟨still, live⟩, -⟩, -⟩, -⟩, -⟩, -⟩, -⟩, -⟩ := clean
    have ⟨nobody, _, _, empty⟩ := inv.upgrading still
    exact { inv with
      sending := nofun
      undecrypted := fun _ => inv.undecrypted (by rw [plain]; nofun)
      tcp := fun held => nomatch nobody.symm.trans held
      tls := fun held => nomatch nobody.symm.trans held
      upgrading := fun _ => ⟨nobody, requested, nofun, empty⟩
      handshaking := fun _ => ⟨nobody, fun _ => still, empty⟩
      crossed := fun crossed => by
        rcases (inv.crossed crossed).2.2 with failing | aborted
        · rw [well] at failing
          cases failing
        · rw [live] at aborted
          cases aborted }
  | connected handshaken well unreleased => exact inv.connected handshaken unreleased
  | decrypt verified well => exact inv.decrypt verified _

theorem Crossing.Initial.crossed (initial : Crossing.Initial c) : Crossed c := by
  cases initial with
  | tcp id runMode sendWindow receiveWindow onRelease =>
    exact
      { receiving := ⟨.nil, rfl, Nat.zero_le _, fun _ => rfl, List.prefix_rfl, nofun⟩
        sending := fun _ => ⟨rfl, fun _ => ⟨.nil, rfl, .nil, rfl, rfl, rfl, Nat.zero_le _⟩⟩
        spent := nofun
        pushed := rfl
        undecrypted := fun _ => rfl
        tcp := fun _ => rfl
        tls := nofun
        upgrading := nofun
        handshaking := nofun
        crossed := nofun }
  | tls id runMode sendWindow receiveWindow onRelease =>
    exact
      { receiving := ⟨.nil, rfl, Nat.zero_le _, fun _ => rfl, List.prefix_rfl, nofun⟩
        sending := nofun
        spent := nofun
        pushed := rfl
        undecrypted := fun _ => rfl
        tcp := nofun
        tls := nofun
        upgrading := nofun
        handshaking := fun _ => ⟨rfl, nofun, fun _ => rfl⟩
        crossed := nofun }

theorem Crossing.Reachable.crossed (reached : c.Reachable) : Crossed c := by
  obtain ⟨start, initial, run⟩ := reached
  induction run with
  | refl => exact initial.crossed
  | tail _ step ih => exact step.crossed ih

/-! ## The result -/

/-- A step of a session that is being upgraded moves no byte. -/
theorem Crossing.Step.sameTraffic (step : Crossing.Step c c') (inv : Crossed c)
    (upgrading : c.session.io.upgrading = true) : c.session.SameTraffic c'.session := by
  have ⟨nobody, _, unverified, _⟩ := inv.upgrading upgrading
  cases step with
  | call own held => exact absurd nobody held
  | startTls held => exact nomatch nobody.symm.trans held
  | anyTime loose => exact Session.exec_anyTime loose
  | reactor own well => exact (Session.exec_ofHalf own).2 upgrading
  | @arrive bytes plain well =>
    by_cases empty : bytes = []
    · subst empty
      exact ⟨rfl, rfl, List.append_nil _, rfl⟩
    · obtain ⟨error, refused⟩ := TcpIo.pushInbound_upgrading upgrading empty
      simp only [Crossing.arrive, Crossing.on, Session.exec, refused]
      exact ⟨rfl, rfl, rfl, rfl⟩
  | fail failing => exact Session.exec_anyTime rfl
  | takeOver plain well requested clean => exact ⟨rfl, rfl, rfl, rfl⟩
  | connected handshaken well unreleased =>
    unfold Crossing.connected
    split <;> exact ⟨rfl, rfl, rfl, rfl⟩
  | decrypt verified well => exact absurd verified unverified

/-- An upgrade starts on an empty session whose peer has not closed. -/
theorem Crossing.Step.startsEmpty (step : Crossing.Step c c') (inv : Crossed c)
    (before : c.session.io.upgrading = false) (after : c'.session.io.upgrading = true) :
    c.session.inbound.unread = [] ∧ c.session.outbound.untaken = [] ∧ c.session.outbound.unwritten = [] ∧
      c.session.io.peerFin = false := by
  have still : ∀ {admission act}, act.ordinary = true ∨ (∃ kind, act = .abort kind) →
      ¬(Session.exec admission act c.session).1.io.upgrading = true := by
    rintro admission act (ordinary | ⟨kind, rfl⟩)
    · rw [(@Session.exec_ordinary true c.session admission act ordinary nofun).2.1.upgrading, before]
      nofun
    · rw [(c.session.abort_marks admission kind).1, before]
      nofun
  have pushed : ∀ bytes, ¬(Session.exec none (.pushInbound bytes) c.session).1.io.upgrading = true := by
    intro bytes
    rw [(@Session.pushInbound_sides true c.session none bytes).2.upgrading, before]
    nofun
  cases step with
  | call own held => exact absurd after (still (.inl (SessionAct.ordinary_of_ofHolder own)))
  | startTls held =>
    have ⟨_, sending⟩ := inv.sending (inv.tcp held)
    cases begun : c.session.io.beginUpgrade with
    | error error =>
      simp only [Crossing.startTls, Crossing.on, Session.exec, begun] at after
      exact nomatch before.symm.trans after
    | ok io =>
      obtain ⟨-, live, fin, inbound, outbound, pump⟩ := TcpIo.beginUpgrade_ok begun
      have sending := sending live
      have queued : c.session.outbound.chunks.flatten = [] :=
        List.length_eq_zero_iff.mp (sending.bytes ▸ outbound)
      refine ⟨?_, ?_, ?_, fin⟩
      · exact List.length_eq_zero_iff.mp (inv.receiving.bytes ▸ inbound)
      · rw [Outbound.untaken, Chunks.contents, queued, List.drop_nil]
      · exact List.length_eq_zero_iff.mp (sending.pumpBytes ▸ pump)
  | anyTime loose => exact absurd after (still (SessionAct.ordinary_of_anyTime loose))
  | reactor own well =>
    rcases SessionAct.ordinary_of_ofHalf own with ordinary | ⟨capacity, rfl, -⟩
    · exact absurd after (still (.inl ordinary))
    · have same := (c.session.io.takeTlsOutboundUpTo_marks capacity).1
      exact nomatch before.symm.trans (same.symm.trans after)
  | @arrive bytes plain well =>
    unfold Crossing.arrive at after
    split at after <;> exact absurd after (pushed bytes)
  | fail failing => exact absurd after (still (.inr ⟨_, rfl⟩))
  | takeOver plain well requested clean => exact nomatch before.symm.trans after
  | connected handshaken well unreleased =>
    unfold Crossing.connected at after
    split at after
    · cases after
    · exact nomatch before.symm.trans after
  | @decrypt bytes verified well =>
    unfold Crossing.decrypt at after
    split at after <;> exact absurd after (pushed bytes)

/-- What is read from a TLS connection was decrypted. -/
theorem Crossed.readTls (inv : Crossed c) (held : c.holder = .tls) : c.readTls <+: c.decrypted := by
  obtain ⟨-, before, part, read⟩ := inv.tls held
  have order : c.session.read <+: c.session.pushed := inv.receiving.inOrder
  rw [inv.pushed, ← read, before] at order
  rw [Crossing.readTls, ← read, List.drop_left]
  exact (List.prefix_append_right_inj _).mp order

/-- Nothing in the clear crosses a TLS upgrade: it starts on an empty session, until it completes no byte is accepted,
taken, pushed or read, what is read from the TLS connection was decrypted, and what arrives in the clear on the way
fails the session, which then never becomes a TLS connection. -/
theorem Crossing.Reachable.upgrade_clean (reached : c.Reachable) :
    (∀ c', Crossing.Step c c' → c.session.io.upgrading = false → c'.session.io.upgrading = true →
      c.session.inbound.unread = [] ∧ c.session.outbound.untaken = [] ∧ c.session.outbound.unwritten = [] ∧
        c.session.io.peerFin = false) ∧
    (∀ c', Crossing.Step c c' → c.session.io.upgrading = true → c.session.SameTraffic c'.session) ∧
    (c.holder = .tls → c.readTls <+: c.decrypted) ∧
    (c.session.io.upgrading = true → ∀ bytes, bytes ≠ [] → (c.arrive bytes).crossed = true) ∧
    (c.crossed = true → c.holder ≠ .tls ∧ (c.failing.isSome = true ∨ c.session.io.aborted.isSome = true)) := by
  have inv := reached.crossed
  refine ⟨fun _ step => step.startsEmpty inv, fun _ step => step.sameTraffic inv, inv.readTls, ?_, ?_⟩
  · intro upgrading bytes nonempty
    obtain ⟨error, refused⟩ := TcpIo.pushInbound_upgrading upgrading nonempty
    simp only [Crossing.arrive, refused, upgrading, Bool.or_true]
  · intro crossed
    have ⟨_, nobody, fails⟩ := inv.crossed crossed
    exact ⟨by rw [nobody]; nofun, fails⟩

/-- A TCP connection with a byte that is read, ... -/
def Crossing.sampleTcp : Crossing :=
  ({ session := .new ⟨0, 0⟩ .spawned 8 8 [], holder := .tcp, half := .plain : Crossing }.arrive [1]).on none
    (.tryRead 8)

/-- ... is upgraded, ... -/
def Crossing.sampleTls : Crossing := { sampleTcp.startTls with half := .tls false }

/-- ... and what is decrypted is read. -/
def Crossing.sampleRead (bytes : Bytes) : Crossing := (sampleTls.connected.decrypt bytes).on none (.tryRead 8)

theorem Crossing.sampleRead_reachable (bytes : Bytes) : (sampleRead bytes).Reachable := by
  refine ⟨_, .tcp ⟨0, 0⟩ .spawned 8 8 [], ?_⟩
  have tcp : Relation.ReflTransGen Step _ sampleTcp := .head (.arrive rfl rfl) (.single (.call rfl nofun))
  have started : Step sampleTcp sampleTcp.startTls := .startTls (by decide +kernel)
  have taken : Step sampleTcp.startTls sampleTls :=
    .takeOver (by decide +kernel) rfl (by decide +kernel) (by decide +kernel)
  have connected : Step sampleTls sampleTls.connected := .connected rfl rfl (by decide +kernel)
  have decrypted : Step sampleTls.connected (sampleTls.connected.decrypt bytes) := .decrypt rfl rfl
  have held : (sampleTls.connected.decrypt bytes).holder = .tls := by
    unfold decrypt
    split <;> rfl
  have read : Step (sampleTls.connected.decrypt bytes) (sampleRead bytes) := .call rfl (by rw [held]; exact nofun)
  exact ((((tcp.tail started).tail taken).tail connected).tail decrypted).tail read

theorem Crossing.Reachable.upgrade_clean_read :
    (Crossing.sampleRead [2]).holder = .tls ∧ (Crossing.sampleRead [2]).clear = [1] ∧
      (Crossing.sampleRead [2]).session.read = [1, 2] ∧
      (Crossing.sampleRead [2]).readTls <+: (Crossing.sampleRead [2]).decrypted := by
  have held : (Crossing.sampleRead [2]).holder = .tls := by decide +kernel
  exact ⟨held, by decide +kernel, by decide +kernel,
    (Crossing.Reachable.upgrade_clean (Crossing.sampleRead_reachable [2])).2.2.1 held⟩

end NbReq
