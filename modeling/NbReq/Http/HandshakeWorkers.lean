import NbReq.Types
import Mathlib

/-!
# Handshake workers

The pool of `native_tls/worker.rs` that runs the TLS handshake steps of the owner: a bounded queue, two threads that
take jobs from it, and the results that the owner picks up. The threads are told apart only by what they do; that the
first submission creates them is not modelled. A job is its number and its slot; what a handshake step computes does not
matter here. The ticket of a job outlives its place in the pool, and is dropped without the lock.

1. `Placed`, `Good`: what holds between any two critical sections; `Step.good` keeps it.
2. `Good.drains`: the threads and the owner alone get every waiting job out of the pool.
3. `Reachable.handshakes_delivered`: the bound, every job is in one place and gets delivered unless it is cancelled.
-/

namespace NbReq

/-- `worker::WORKERS`. -/
def handshakeThreads : Nat := 2

/-- `worker::QUEUED`. -/
def handshakeQueue : Nat := 4

/-- `worker::Job` and `worker::Finished`. -/
structure HandshakeJob where
  number : Nat
  slot : Nat
deriving DecidableEq, Repr

def HandshakeJob.isAt (slot : Nat) (job : HandshakeJob) : Bool := job.slot == slot

/-- `HandshakeWorkers` with its `State`: the threads that are awake without a job, asleep, or at work; the entries of
`running`; the jobs whose `cancelled` flag is set; and the jobs outside the pool whose tickets are not dropped yet. The
last four fields are kept for the history only: the jobs that were submitted, delivered and discarded, and those whose
slot was cancelled, or the pool stopped, after they were submitted. -/
structure HandshakeWorkers where
  awake : Nat
  asleep : Nat
  working : List HandshakeJob
  queued : List HandshakeJob
  running : List HandshakeJob
  finished : List HandshakeJob
  stopping : Bool
  flagged : List HandshakeJob
  occupied : Nat
  tickets : List HandshakeJob
  submitted : List HandshakeJob
  delivered : List HandshakeJob
  discarded : List HandshakeJob
  excused : List HandshakeJob
deriving DecidableEq, Repr

namespace HandshakeWorkers

def new : HandshakeWorkers := ⟨handshakeThreads, 0, [], [], [], [], false, [], 0, [], [], [], [], []⟩

/-- `HandshakeWorkers::submit`, once the input is within its window; `notify_one` wakes a
thread if one sleeps. -/
def submit (p : HandshakeWorkers) (job : HandshakeJob) : HandshakeWorkers :=
  if p.stopping = true ∨ handshakeQueue ≤ p.queued.length ∨ handshakeThreads + handshakeQueue ≤ p.occupied then p
  else
    { p with
      occupied := p.occupied + 1
      queued := p.queued ++ [job]
      awake := if p.asleep = 0 then p.awake else p.awake + 1
      asleep := p.asleep - 1
      submitted := p.submitted ++ [job] }

def takeFinished (p : HandshakeWorkers) : HandshakeWorkers :=
  match p.finished with
  | [] => p
  | job :: rest => { p with finished := rest, tickets := p.tickets ++ [job], delivered := p.delivered ++ [job] }

/-- The section of `HandshakeWorkers::cancel`. -/
def cancel (p : HandshakeWorkers) (slot : Nat) : HandshakeWorkers :=
  let removed := (p.queued.find? (HandshakeJob.isAt slot)).toList ++ (p.finished.find? (HandshakeJob.isAt slot)).toList
  { p with
    flagged := (p.running.find? (HandshakeJob.isAt slot)).toList ++ p.flagged
    queued := p.queued.eraseP (HandshakeJob.isAt slot)
    finished := p.finished.eraseP (HandshakeJob.isAt slot)
    tickets := p.tickets ++ removed
    discarded := p.discarded ++ removed
    excused := p.submitted.filter (HandshakeJob.isAt slot) ++ p.excused }

def stop (p : HandshakeWorkers) : HandshakeWorkers :=
  { p with
    stopping := true
    flagged := p.running ++ p.flagged
    queued := []
    finished := []
    tickets := p.tickets ++ (p.queued ++ p.finished)
    discarded := p.discarded ++ (p.queued ++ p.finished)
    awake := p.awake + p.asleep
    asleep := 0
    excused := p.submitted ++ p.excused }

/-- The first section of `worker_main`: a thread without a job looks for one. -/
def look (p : HandshakeWorkers) : HandshakeWorkers :=
  if p.stopping then { p with awake := p.awake - 1 }
  else match p.queued with
    | [] => { p with awake := p.awake - 1, asleep := p.asleep + 1 }
    | job :: rest =>
      { p with
        awake := p.awake - 1
        working := job :: p.working
        queued := rest
        running := job :: p.running.filter (!HandshakeJob.isAt job.slot ·) }

/-- The second section: the thread is done with its job. -/
def finish (p : HandshakeWorkers) (job : HandshakeJob) : HandshakeWorkers :=
  let p := { p with
    awake := p.awake + 1
    working := p.working.erase job
    running := p.running.filter (!HandshakeJob.isAt job.slot ·) }
  if p.stopping = false ∧ job ∉ p.flagged then { p with finished := p.finished ++ [job] }
  else { p with tickets := p.tickets ++ [job], discarded := p.discarded ++ [job] }

def outstanding (p : HandshakeWorkers) : List HandshakeJob := p.queued ++ p.working ++ p.finished

/-- The critical sections, in any order. The owner submits a job for a slot only if the pool has none for it. -/
inductive Step : HandshakeWorkers → HandshakeWorkers → Prop
  | submit {p : HandshakeWorkers} (job : HandshakeJob) (new : job ∉ p.submitted)
      (alone : ∀ other ∈ p.outstanding, other.slot ≠ job.slot) : Step p (p.submit job)
  | takeFinished (p : HandshakeWorkers) : Step p p.takeFinished
  | cancel (p : HandshakeWorkers) (slot : Nat) : Step p (p.cancel slot)
  | stop (p : HandshakeWorkers) : Step p p.stop
  | look {p : HandshakeWorkers} (awake : 0 < p.awake) : Step p p.look
  | finish {p : HandshakeWorkers} {job : HandshakeJob} (working : job ∈ p.working) : Step p (p.finish job)
  | wake {p : HandshakeWorkers} (asleep : 0 < p.asleep) : Step p { p with awake := p.awake + 1, asleep := p.asleep - 1 }
  | dropTicket {p : HandshakeWorkers} {job : HandshakeJob} (held : job ∈ p.tickets) :
      Step p { p with tickets := p.tickets.erase job, occupied := p.occupied - 1 }

/-- The sections of the threads, and the owner's `take_finished`. -/
inductive Work (p : HandshakeWorkers) : HandshakeWorkers → Prop
  | takeFinished : Work p p.takeFinished
  | look (awake : 0 < p.awake) : Work p p.look
  | finish {job : HandshakeJob} (working : job ∈ p.working) : Work p (p.finish job)

def Reachable (p : HandshakeWorkers) : Prop := Relation.ReflTransGen Step new p

/-- Every job is in one place, once, and the tickets are counted. -/
structure Placed (p : HandshakeWorkers) : Prop where
  nodup : p.submitted.Nodup
  places : p.submitted.Perm (p.outstanding ++ p.delivered ++ p.discarded)
  slots : (p.outstanding.map HandshakeJob.slot).Nodup
  occupied : p.occupied = (p.outstanding ++ p.tickets).length
  bound : p.occupied ≤ handshakeThreads + handshakeQueue

structure Good (p : HandshakeWorkers) : Prop where
  placed : p.Placed
  running : ∀ job, job ∈ p.running ↔ job ∈ p.working
  known : ∀ job ∈ p.excused, job ∈ p.submitted
  discarded : ∀ job ∈ p.discarded ++ p.flagged, job ∈ p.excused
  excused : ∀ job ∈ p.excused, job ∉ p.queued ++ p.finished ∧ (job ∈ p.working → job ∈ p.flagged)
  stopped : p.stopping = true → ∀ job ∈ p.submitted, job ∈ p.excused
  threads : p.stopping = false → p.awake + p.asleep + p.working.length = handshakeThreads
  alert : p.queued ≠ [] → 0 < p.awake ∨ p.working ≠ []

variable {p p' : HandshakeWorkers} {job other : HandshakeJob}

/-! ## Places -/

attribute [local simp] outstanding List.count_cons

theorem Placed.unique (placed : p.Placed) (mem : job ∈ p.outstanding) (mem' : other ∈ p.outstanding)
    (same : job.slot = other.slot) : job = other :=
  List.inj_on_of_nodup_map placed.slots mem mem' same

theorem Placed.mem_submitted (placed : p.Placed) (mem : job ∈ p.outstanding) : job ∈ p.submitted := by
  rw [placed.places.mem_iff, List.append_assoc]
  exact List.mem_append_left _ mem

/-- A section that only moves jobs to other places, or out of the pool. -/
theorem Placed.move (placed : p.Placed) (submitted : p'.submitted = p.submitted) (occupied : p'.occupied = p.occupied)
    (moved : ∀ job, (p'.outstanding ++ p'.delivered ++ p'.discarded).count job =
        (p.outstanding ++ p.delivered ++ p.discarded).count job ∧
      p'.outstanding.count job ≤ p.outstanding.count job ∧
      (p'.outstanding ++ p'.tickets).count job = (p.outstanding ++ p.tickets).count job) : p'.Placed where
  nodup := submitted ▸ placed.nodup
  places := by
    rw [submitted]
    exact placed.places.trans (List.perm_iff_count.mpr fun job => (moved job).1.symm)
  slots := by
    obtain ⟨rest, perm, sublist⟩ := List.subperm_ext_iff.mpr fun job _ => (moved job).2.1
    exact (perm.map _).nodup_iff.mp (placed.slots.sublist (sublist.map _))
  occupied := by
    rw [occupied, placed.occupied]
    exact (List.perm_iff_count.mpr fun job => (moved job).2.2.symm).length_eq
  bound := occupied ▸ placed.bound

theorem count_find?_eraseP (l : List HandshakeJob) (q : HandshakeJob → Bool) (job : HandshakeJob) :
    l.count job = (l.find? q).toList.count job + (l.eraseP q).count job := by
  induction l with
  | nil => rfl
  | cons first rest ih =>
    cases here : q first with
    | true => simp [here, Nat.add_comm]
    | false => simp [here, ih, Nat.add_assoc]

/-! ## Flags and threads -/

/-- The job that a thread has for a slot is the one that `running` knows. -/
theorem Good.mem_find? (good : p.Good) (working : job ∈ p.working) :
    job ∈ (p.running.find? (HandshakeJob.isAt job.slot)).toList := by
  have isRunning := (good.running job).mpr working
  cases found : p.running.find? (HandshakeJob.isAt job.slot) with
  | none => simpa [HandshakeJob.isAt] using List.find?_eq_none.mp found job isRunning
  | some first =>
    have isFirst : first.slot = job.slot := by simpa [HandshakeJob.isAt] using List.find?_some found
    have isWorking := (good.running first).mp (List.mem_of_find?_eq_some found)
    have same := good.placed.unique (by simp [isWorking]) (by simp [working]) isFirst
    simp [same]

theorem found_at {l : List HandshakeJob} {slot : Nat} (mem : job ∈ (l.find? (HandshakeJob.isAt slot)).toList) :
    job ∈ l ∧ job.slot = slot := by
  have found := Option.mem_toList.mp mem
  exact ⟨List.mem_of_find?_eq_some found, by simpa [HandshakeJob.isAt] using List.find?_some found⟩

/-- What is taken out of a list that has it once is not in it any more. -/
theorem not_mem_eraseP {l : List HandshakeJob} {slot : Nat} (nodup : (l.map HandshakeJob.slot).Nodup)
    (same : job.slot = slot) : job ∉ l.eraseP (HandshakeJob.isAt slot) := by
  induction l with
  | nil => simp
  | cons first rest ih =>
    rw [List.map_cons, List.nodup_cons] at nodup
    by_cases here : first.slot = slot
    · rw [List.eraseP_cons_of_pos (by simpa [HandshakeJob.isAt] using here)]
      exact fun mem => nodup.1 (List.mem_map.mpr ⟨job, mem, same.trans here.symm⟩)
    · rw [List.eraseP_cons_of_neg (by simpa [HandshakeJob.isAt] using here), List.mem_cons, not_or]
      exact ⟨fun isFirst => here (isFirst ▸ same), ih nodup.2⟩

theorem Good.submit (good : p.Good) (new : job ∉ p.submitted)
    (alone : ∀ other ∈ p.outstanding, other.slot ≠ job.slot) : (p.submit job).Good := by
  unfold HandshakeWorkers.submit
  split
  · exact good
  next room =>
  simp only [not_or, Bool.not_eq_true, Nat.not_le] at room
  have total := good.threads room.1
  have occupied := good.placed.occupied
  refine { good with
    placed := ⟨List.nodup_append.mpr ⟨good.placed.nodup, by simp, by grind⟩, List.perm_iff_count.mpr fun other => ?_,
      ?_, ?_, room.2.2⟩
    known := fun other mem => List.mem_append_left _ (good.known other mem)
    excused := fun other mem => ?_
    stopped := by simp [room.1]
    threads := fun _ => ?_
    alert := fun _ => ?_ }
  · have same := List.perm_iff_count.mp good.placed.places other
    simp at same ⊢
    omega
  · have fresh : (p.outstanding.map HandshakeJob.slot ++ [job.slot]).Nodup :=
      List.nodup_append.mpr ⟨good.placed.slots, by simp, by grind⟩
    refine (List.Perm.nodup_iff (List.perm_iff_count.mpr fun slot => ?_)).mp fresh
    simp
    omega
  · simp at occupied ⊢
    omega
  · obtain ⟨gone, isFlagged⟩ := good.excused other mem
    have old := good.known other mem
    exact ⟨by grind, isFlagged⟩
  · simp only
    split <;> omega
  · by_cases idle : p.working = []
    · rw [idle, List.length_nil, handshakeThreads] at total
      left
      simp only
      split <;> omega
    · exact .inr idle

theorem Good.takeFinished (good : p.Good) : p.takeFinished.Good := by
  unfold HandshakeWorkers.takeFinished
  split
  · exact good
  next finished =>
  refine { good with placed := good.placed.move rfl rfl fun other => ?_, excused := fun other mem => ?_ }
  · simp [finished]
    omega
  · obtain ⟨gone, isFlagged⟩ := good.excused other mem
    rw [finished] at gone
    exact ⟨by grind, isFlagged⟩

theorem Good.cancel (good : p.Good) (slot : Nat) : (p.cancel slot).Good := by
  have slots := good.placed.slots
  simp only [outstanding, List.map_append, List.nodup_append] at slots
  have hit : ∀ job ∈ p.outstanding, job.slot = slot → job ∈ (p.cancel slot).excused := fun job here same =>
    List.mem_append_left _ (List.mem_filter.mpr ⟨good.placed.mem_submitted here, by simp [HandshakeJob.isAt, same]⟩)
  refine { good with
    placed := good.placed.move rfl rfl fun other => ?_
    known := fun other mem => (List.mem_append.mp mem).elim (fun new => (List.mem_filter.mp new).1) (good.known other)
    discarded := fun other mem => ?_
    excused := fun other mem => ?_
    stopped := fun stopping other mem => List.mem_append_right _ (good.stopped stopping other mem)
    alert := fun some => good.alert fun empty => some (by simp [HandshakeWorkers.cancel, empty]) }
  · have queued := count_find?_eraseP p.queued (HandshakeJob.isAt slot) other
    have finished := count_find?_eraseP p.finished (HandshakeJob.isAt slot) other
    simp [HandshakeWorkers.cancel]
    omega
  · simp only [HandshakeWorkers.cancel, List.mem_append] at mem
    rcases mem with (old | queued | finished) | running | old
    · exact List.mem_append_right _ (good.discarded other (by simp [old]))
    · exact hit other (by simp [(found_at queued).1]) (found_at queued).2
    · exact hit other (by simp [(found_at finished).1]) (found_at finished).2
    · exact hit other (by simp [(good.running other).mp (found_at running).1]) (found_at running).2
    · exact List.mem_append_right _ (good.discarded other (by simp [old]))
  · simp only [HandshakeWorkers.cancel, List.mem_append, not_or]
    rcases List.mem_append.mp mem with new | old
    · have same : other.slot = slot := by simpa [HandshakeJob.isAt] using (List.mem_filter.mp new).2
      exact ⟨⟨not_mem_eraseP slots.1.1 same, not_mem_eraseP slots.2.1 same⟩,
        fun working => .inl (same ▸ good.mem_find? working)⟩
    · obtain ⟨gone, isFlagged⟩ := good.excused other old
      rw [List.mem_append, not_or] at gone
      exact ⟨gone.imp (mt List.mem_of_mem_eraseP) (mt List.mem_of_mem_eraseP), fun working => .inr (isFlagged working)⟩

theorem Good.stop (good : p.Good) : p.stop.Good := by
  refine { good with
    placed := good.placed.move rfl rfl fun other => ?_
    known := fun other mem => (List.mem_append.mp mem).elim id (good.known other)
    discarded := fun other mem => ?_
    excused := fun other mem => ⟨by simp [HandshakeWorkers.stop], fun working => ?_⟩
    stopped := fun _ other mem => List.mem_append_left _ mem
    threads := by simp [HandshakeWorkers.stop]
    alert := by simp [HandshakeWorkers.stop] }
  · simp [HandshakeWorkers.stop]
    omega
  · have hit : ∀ job ∈ p.outstanding, job ∈ p.stop.excused := fun job here =>
      List.mem_append_left _ (good.placed.mem_submitted here)
    simp only [HandshakeWorkers.stop, List.mem_append] at mem
    rcases mem with (old | queued | finished) | running | old
    · exact List.mem_append_right _ (good.discarded other (by simp [old]))
    · exact hit other (by simp [queued])
    · exact hit other (by simp [finished])
    · exact hit other (by simp [(good.running other).mp running])
    · exact List.mem_append_right _ (good.discarded other (by simp [old]))
  · exact List.mem_append_left _ ((good.running other).mpr working)

/-- A pool that is stopped has no job waiting. -/
theorem Good.unqueued (good : p.Good) (stopping : p.stopping = true) : p.queued = [] := by
  refine List.eq_nil_iff_forall_not_mem.mpr fun job mem => ?_
  have excused := good.stopped stopping job (good.placed.mem_submitted (by simp [mem]))
  exact (good.excused job excused).1 (List.mem_append_left _ mem)

theorem Good.look (good : p.Good) (awake : 0 < p.awake) : p.look.Good := by
  unfold HandshakeWorkers.look
  split
  · next stopping =>
    exact { good with
      placed := good.placed.move rfl rfl fun other => by simp
      threads := by simp [stopping]
      alert := fun some => absurd (good.unqueued stopping) some }
  next going =>
  have total := good.threads (by simpa using going)
  split
  · next empty =>
    exact { good with
      placed := good.placed.move rfl rfl fun other => by simp
      threads := fun _ => by simp only; omega
      alert := fun some => absurd empty some }
  next job rest queued =>
  have nodup := good.placed.slots
  simp only [outstanding, queued, List.map_append, List.map_cons, List.cons_append, List.nodup_cons,
    List.mem_append, List.mem_map, not_or] at nodup
  refine { good with
    placed := good.placed.move rfl rfl fun other => ?_
    running := fun other => ?_
    excused := fun other mem => ?_
    threads := fun _ => by simp only [List.length_cons]; omega
    alert := by simp }
  · simp [queued]
    omega
  · rw [List.mem_cons, List.mem_cons, List.mem_filter, good.running]
    refine or_congr_right ⟨And.left, fun working => ⟨working, ?_⟩⟩
    have apart : ¬other.slot = job.slot := fun same => nodup.1.1.2 ⟨other, working, same⟩
    simpa [HandshakeJob.isAt] using apart
  · obtain ⟨gone, isFlagged⟩ := good.excused other mem
    rw [queued] at gone
    exact ⟨by grind, by grind⟩

theorem Good.finish (good : p.Good) (working : job ∈ p.working) : (p.finish job).Good := by
  have size : p.working.length = (p.working.erase job).length + 1 := (List.perm_cons_erase working).length_eq
  have here : job ∈ p.outstanding := by simp [working]
  have nodup : p.working.Nodup := by
    have all := good.placed.slots.of_map
    simp only [outstanding, List.nodup_append] at all
    exact all.1.2.1
  have counts := (List.perm_cons_erase working).count_eq
  have running : ∀ other, other ∈ p.running.filter (!HandshakeJob.isAt job.slot ·) ↔ other ∈ p.working.erase job := by
    intro other
    rw [List.mem_filter, good.running, nodup.mem_erase_iff, and_comm]
    refine and_congr_left fun isWorking => ?_
    have same : other.slot = job.slot ↔ other = job := ⟨good.placed.unique (by simp [isWorking]) here, congrArg _⟩
    simp [HandshakeJob.isAt, same]
  have threads : p.stopping = false → p.awake + 1 + p.asleep + (p.working.erase job).length = handshakeThreads := by
    intro going
    have total := good.threads going
    omega
  unfold HandshakeWorkers.finish
  dsimp only
  split
  · next goes =>
    refine { good with
      placed := good.placed.move rfl rfl fun other => ?_
      running := running
      threads := threads
      alert := by simp
      excused := fun other mem => ?_ }
    · have count := counts other
      simp at count ⊢
      omega
    · obtain ⟨gone, isFlagged⟩ := good.excused other mem
      refine ⟨?_, fun still => isFlagged (List.mem_of_mem_erase still)⟩
      have apart : other ≠ job := fun same => goes.2 (same ▸ isFlagged (same ▸ working))
      simpa [apart] using gone
  · next stays =>
    have excused : job ∈ p.excused := by
      rcases Bool.eq_false_or_eq_true p.stopping with stopping | going
      · exact good.stopped stopping job (good.placed.mem_submitted here)
      · exact good.discarded job (List.mem_append_right _ (by simpa [going] using stays))
    refine { good with
      placed := good.placed.move rfl rfl fun other => ?_
      running := running
      discarded := fun other mem => ?_
      excused := fun other mem => ?_
      threads := threads
      alert := by simp }
    · have count := counts other
      simp at count ⊢
      omega
    · have old := good.discarded other
      simp only [List.mem_append, List.mem_singleton] at mem old
      rcases mem with (earlier | rfl) | flagged
      · exact old (.inl earlier)
      · exact excused
      · exact old (.inr flagged)
    · obtain ⟨gone, isFlagged⟩ := good.excused other mem
      exact ⟨gone, fun still => isFlagged (List.mem_of_mem_erase still)⟩

theorem Step.good (step : Step p p') (good : p.Good) : p'.Good := by
  cases step with
  | submit job new alone => exact good.submit new alone
  | takeFinished => exact good.takeFinished
  | cancel slot => exact good.cancel slot
  | stop => exact good.stop
  | look awake => exact good.look awake
  | finish working => exact good.finish working
  | wake asleep =>
    exact { good with
      placed := good.placed.move rfl rfl fun other => by simp
      threads := fun going => by have := good.threads going; simp only; omega
      alert := fun _ => .inl (Nat.succ_pos _) }
  | dropTicket held =>
    have occupied := good.placed.occupied
    have size := List.length_erase_of_mem held
    have positive := List.length_pos_of_mem held
    refine { good with placed := ⟨good.placed.nodup, good.placed.places, good.placed.slots, ?_, ?_⟩ }
    · simp at occupied ⊢
      omega
    · exact Nat.le_trans (Nat.sub_le _ _) good.placed.bound

theorem Good.new : new.Good where
  placed := ⟨List.nodup_nil, .nil, List.nodup_nil, rfl, Nat.zero_le _⟩
  running := by simp [HandshakeWorkers.new]
  known := by simp [HandshakeWorkers.new]
  discarded := by simp [HandshakeWorkers.new]
  excused := by simp [HandshakeWorkers.new]
  stopped := by simp [HandshakeWorkers.new]
  threads := by simp [HandshakeWorkers.new]
  alert := by simp [HandshakeWorkers.new]

theorem Good.run (good : p.Good) (run : Relation.ReflTransGen Step p p') : p'.Good := by
  induction run with
  | refl => exact good
  | tail _ step ih => exact step.good ih

/-! ## Delivery -/

/-- How far the jobs of the pool are from leaving it. -/
def distance (p : HandshakeWorkers) : Nat := 3 * p.queued.length + 2 * p.working.length + p.finished.length

theorem Work.step (work : Work p p') : Step p p' := by
  cases work with
  | takeFinished => exact .takeFinished p
  | look awake => exact .look awake
  | finish working => exact .finish working

/-- A pool that has jobs can bring one of them closer to its delivery. -/
theorem Good.progress (good : p.Good) (busy : p.outstanding ≠ []) :
    ∃ p', Work p p' ∧ p'.distance < p.distance ∧ p'.submitted = p.submitted ∧ p'.excused = p.excused := by
  cases finished : p.finished with
  | cons job rest =>
    refine ⟨_, .takeFinished, ?_⟩
    simp [HandshakeWorkers.takeFinished, finished, distance]
  | nil =>
    cases working : p.working with
    | cons job rest =>
      have mem : job ∈ p.working := by simp [working]
      refine ⟨_, .finish mem, ?_⟩
      unfold HandshakeWorkers.finish
      dsimp only
      split
      · simp [distance, working, finished]
        omega
      · simp [distance, working, finished]
    | nil =>
      have waiting : p.queued ≠ [] := by simpa [finished, working] using busy
      have going : ¬p.stopping = true := fun stopping => waiting (good.unqueued stopping)
      refine ⟨_, .look ((good.alert waiting).resolve_right (by simp [working])), ?_⟩
      obtain ⟨job, rest, queued⟩ := List.exists_cons_of_ne_nil waiting
      simp [HandshakeWorkers.look, going, queued, distance, working]
      omega

/-- The threads and the owner alone get every job out of the pool. -/
theorem Good.drains (good : p.Good) : ∃ p', Relation.ReflTransGen Work p p' ∧ p'.Good ∧ p'.outstanding = [] ∧
    p'.submitted = p.submitted ∧ p'.excused = p.excused := by
  generalize far : p.distance = n
  induction n using Nat.strongRecOn generalizing p with
  | ind n ih =>
    by_cases idle : p.outstanding = []
    · exact ⟨p, .refl, good, idle, rfl, rfl⟩
    · obtain ⟨next, work, closer, submitted, excused⟩ := good.progress idle
      obtain ⟨last, run, isGood, empty, submitted', excused'⟩ := ih _ (far ▸ closer) (work.step.good good) rfl
      exact ⟨last, .head work run, isGood, empty, submitted'.trans submitted, excused'.trans excused⟩

/-- A job that is excused is not delivered later, and stays excused. -/
theorem Step.excused (step : Step p p') (good : p.Good) (excused : job ∈ p.excused) :
    job ∈ p'.excused ∧ (job ∈ p'.delivered → job ∈ p.delivered) := by
  cases step with
  | submit =>
    unfold HandshakeWorkers.submit
    split
    all_goals exact ⟨excused, id⟩
  | takeFinished =>
    unfold HandshakeWorkers.takeFinished
    split
    · exact ⟨excused, id⟩
    next first rest finished =>
    have gone := (good.excused job excused).1
    rw [finished] at gone
    exact ⟨excused, by grind⟩
  | look =>
    unfold HandshakeWorkers.look
    repeat' split
    all_goals exact ⟨excused, id⟩
  | finish =>
    unfold HandshakeWorkers.finish
    dsimp only
    split
    all_goals exact ⟨excused, id⟩
  | cancel | stop => exact ⟨List.mem_append_right _ excused, id⟩
  | wake | dropTicket => exact ⟨excused, id⟩

theorem Good.undelivered (good : p.Good) (run : Relation.ReflTransGen Step p p') (excused : job ∈ p.excused) :
    job ∈ p'.excused ∧ (job ∈ p'.delivered → job ∈ p.delivered) := by
  induction run with
  | refl => exact ⟨excused, id⟩
  | tail before step ih =>
    obtain ⟨still, late⟩ := step.excused (good.run before) ih.1
    exact ⟨still, fun delivered => ih.2 (late delivered)⟩

/-- The pool holds no more than its bound. Every job that was submitted is in one place, once: it waits, a thread has
it, its result waits, it was delivered, or it was discarded; and discarded are only jobs whose slot was cancelled or
whose pool was stopped after they were submitted. A waiting job always has a thread that will look for it, and the
threads and the owner alone get every other job delivered. After `cancel` nothing is delivered for the jobs of the slot,
and without jobs and tickets the occupancy is zero. -/
theorem Reachable.handshakes_delivered (reachable : p.Reachable) :
    p.outstanding.length + p.tickets.length ≤ handshakeThreads + handshakeQueue ∧
    p.submitted.Nodup ∧ p.submitted.Perm (p.outstanding ++ p.delivered ++ p.discarded) ∧
    (∀ job ∈ p.discarded, job ∈ p.excused) ∧
    (p.queued ≠ [] → 0 < p.awake ∨ p.working ≠ []) ∧
    (∃ p', Relation.ReflTransGen Work p p' ∧ ∀ job ∈ p.submitted, job ∉ p.excused → job ∈ p'.delivered) ∧
    (∀ slot p', Relation.ReflTransGen Step (p.cancel slot) p' → ∀ job ∈ p.submitted, job.slot = slot →
      job ∈ p'.delivered → job ∈ p.delivered) ∧
    (p.outstanding = [] → p.tickets = [] → p.occupied = 0) := by
  have good : p.Good := Good.new.run reachable
  have bound := good.placed.bound
  rw [good.placed.occupied, List.length_append] at bound
  refine ⟨bound, good.placed.nodup, good.placed.places, fun job mem => good.discarded job (List.mem_append_left _ mem),
    good.alert, ?_, ?_, ?_⟩
  · obtain ⟨p', run, isGood, empty, submitted, excused⟩ := good.drains
    refine ⟨p', run, fun job mem notExcused => ?_⟩
    rw [← submitted, isGood.placed.places.mem_iff, empty, List.nil_append, List.mem_append] at mem
    rw [← excused] at notExcused
    exact mem.resolve_right fun discarded => notExcused (isGood.discarded job (List.mem_append_left _ discarded))
  · intro slot p' run job submitted same delivered
    have excused : job ∈ (p.cancel slot).excused :=
      List.mem_append_left _ (List.mem_filter.mpr ⟨submitted, by simpa [HandshakeJob.isAt] using same⟩)
    exact ((good.cancel slot).undelivered run excused).2 delivered
  · intro none noTickets
    rw [good.placed.occupied, none, noTickets]
    rfl

theorem handshakes_delivered_sample : ∃ p : HandshakeWorkers, p.Reachable ∧ p.delivered = [⟨1, 8⟩] ∧ p.discarded = [⟨0, 7⟩] ∧
    ∀ job ∈ p.discarded, job ∈ p.excused := by
  let first := ((new.submit ⟨0, 7⟩).submit ⟨1, 8⟩).look.look
  let last := (((first.finish ⟨1, 8⟩).cancel 7).finish ⟨0, 7⟩).takeFinished
  have reachable : last.Reachable :=
    (((((((Relation.ReflTransGen.refl.tail (.submit ⟨0, 7⟩ (by decide) (by decide))).tail
      (.submit ⟨1, 8⟩ (by decide) (by decide))).tail (.look (by decide))).tail (.look (by decide))).tail
      (.finish (by decide))).tail (.cancel _ 7)).tail (.finish (by decide))).tail (.takeFinished _)
  exact ⟨last, reachable, by decide, by decide, (Reachable.handshakes_delivered reachable).2.2.2.1⟩

end HandshakeWorkers

end NbReq
