import Mathlib.Logic.Function.Basic
import Mathlib.Logic.Relation
import Mathlib.Data.List.Nodup

/-!
# Jobs in flight

A table of jobs under changing ids, each carried for one key, with an index from the keys to the ids and one from the
channels that some of the jobs have to their ids. A key is accepted, its job may be replaced by another any number of
times or given a channel, and in the end it is settled or withdrawn.

Two facts hold over every run: the indexes are exact (`Indexed.run`), and nothing is lost or settled twice
(`Balanced.run`): every acceptance is in flight, settled or withdrawn.
-/

namespace InFlight

variable {Id Key : Type}

/-- The table, its indexes, the next unused channel, and the keys that were accepted, settled, withdrawn and cancelled
so far. -/
structure Table (Id Key : Type) where
  jobs : Id → Option (Key × Option Nat)
  byKey : Key → Option Id
  byToken : Nat → Option Id
  nextToken : Nat
  accepted : List Key
  settled : List Key
  withdrawn : List Key
  cancelled : List Key

variable [DecidableEq Id] [DecidableEq Key]

namespace Table

/-- The index of the channels without the one of a job. -/
def close (s : Table Id Key) : Option Nat → Nat → Option Id
  | some token => Function.update s.byToken token none
  | none => s.byToken

def remove (s : Table Id Key) (id : Id) (key : Key) (token : Option Nat) : Table Id Key :=
  { s with
    jobs := Function.update s.jobs id none, byKey := Function.update s.byKey key none, byToken := s.close token }

/-- The table with a job that has no channel. -/
def add (s : Table Id Key) (id : Id) (key : Key) : Table Id Key :=
  { s with
    jobs := Function.update s.jobs id (some (key, none)), byKey := Function.update s.byKey key (some id) }

/-- The job has been given the next channel. -/
def divert (s : Table Id Key) (id : Id) (key : Key) : Table Id Key :=
  { s with
    jobs := Function.update s.jobs id (some (key, some s.nextToken))
    byToken := Function.update s.byToken s.nextToken (some id), nextToken := s.nextToken + 1 }

def settle (s : Table Id Key) (key : Key) : Table Id Key := { s with settled := s.settled ++ [key] }

end Table

/-- A key loses its job, if it has one. -/
inductive Dropped (key : Key) (s : Table Id Key) : Table Id Key → Prop where
  | idle (idle : s.byKey key = none) : Dropped key s s
  | withdrawn {id : Id} {token : Option Nat} (found : s.jobs id = some (key, token)) :
      Dropped key s { s.remove id key token with withdrawn := s.withdrawn ++ [key] }

inductive Move : Table Id Key → Table Id Key → Prop where
  /-- A job's key is settled. -/
  | settle {s : Table Id Key} {id : Id} {key : Key} {token : Option Nat} (found : s.jobs id = some (key, token)) :
      Move s ((s.remove id key token).settle key)
  /-- A job is replaced by another for the same key. -/
  | replace {s : Table Id Key} {id next : Id} {key : Key} {token : Option Nat}
      (found : s.jobs id = some (key, token)) (free : (s.remove id key token).jobs next = none) :
      Move s ((s.remove id key token).add next key)
  /-- A job without a channel is given one. -/
  | divert {s : Table Id Key} {id : Id} {key : Key} (found : s.jobs id = some (key, none)) : Move s (s.divert id key)
  /-- A channel is not used. -/
  | skip {s : Table Id Key} {token : Nat} (later : s.nextToken ≤ token) : Move s { s with nextToken := token }
  /-- An accepted key is cancelled. -/
  | cancel {s dropped : Table Id Key} {key : Key} (drop : Dropped key s dropped) (mem : key ∈ s.accepted) :
      Move s { dropped with cancelled := dropped.cancelled ++ [key] }
  /-- A key is accepted and settled at once. -/
  | reject {s dropped : Table Id Key} {key : Key} (drop : Dropped key s dropped) :
      Move s ({ dropped with accepted := dropped.accepted ++ [key] }.settle key)
  /-- A key is accepted and its first job started. -/
  | start {s dropped : Table Id Key} {key : Key} {id : Id} (drop : Dropped key s dropped)
      (free : dropped.jobs id = none) : Move s ({ dropped with accepted := dropped.accepted ++ [key] }.add id key)

abbrev Run : Table Id Key → Table Id Key → Prop := Relation.ReflTransGen Move

/-! ## Exact indexes -/

section

variable {β : Type} [DecidableEq β] {index : β → Option Id} {has has' : Id → β → Prop} {id : Id} {b : β}

/-- The index holds exactly the ids that have a value, each under its own. -/
def Exact (index : β → Option Id) (has : Id → β → Prop) : Prop := ∀ b id, index b = some id ↔ has id b

omit [DecidableEq Id] [DecidableEq β] in
/-- An id that has no value goes. -/
theorem Exact.forget (exact_ : Exact index has) (none : ∀ b, ¬has id b)
    (gone : ∀ at_ b, has' at_ b ↔ at_ ≠ id ∧ has at_ b) : Exact index has' := by
  intro b at_
  rw [gone, exact_ b at_]
  refine ⟨fun there => ⟨?_, there⟩, And.right⟩
  rintro rfl
  exact none b there

omit [DecidableEq Id] in
/-- An id goes, and so does its value. -/
theorem Exact.clear (exact_ : Exact index has) (own : has id b) (only : ∀ other, has id other → other = b)
    (gone : ∀ at_ b, has' at_ b ↔ at_ ≠ id ∧ has at_ b) : Exact (Function.update index b none) has' := by
  intro other at_
  rw [gone]
  by_cases same : other = b
  · subst same
    rw [Function.update_self]
    refine ⟨nofun, fun there => absurd ?_ there.1⟩
    exact Option.some.inj (((exact_ other at_).mpr there.2).symm.trans ((exact_ other id).mpr own))
  · rw [Function.update_of_ne same, exact_ other at_]
    refine ⟨fun there => ⟨?_, there⟩, And.right⟩
    rintro rfl
    exact same (only other there)

omit [DecidableEq Id] in
/-- An id gets a value that no other has. -/
theorem Exact.assign (exact_ : Exact index has) (free : index b = none)
    (new : ∀ at_ other, has' at_ other ↔ at_ = id ∧ other = b ∨ has at_ other) :
    Exact (Function.update index b (some id)) has' := by
  intro other at_
  rw [new, ← exact_ other at_]
  by_cases same : other = b
  · subst same
    simp [free, eq_comm]
  · simp [same]

end

/-! ## The indexes -/

/-- The index of the keys and the table are inverse to each other, the index of the channels holds exactly the
channels of the jobs, and a channel that has not been handed out is in no index. -/
structure Indexed (s : Table Id Key) : Prop where
  byKey : ∀ key id, s.byKey key = some id ↔ ∃ token, s.jobs id = some (key, token)
  byToken : ∀ token id, s.byToken token = some id ↔ ∃ key, s.jobs id = some (key, some token)
  fresh : ∀ token id, s.byToken token = some id → token < s.nextToken

namespace Indexed

variable {s s' : Table Id Key} {id id' : Id} {key : Key} {token : Option Nat}

omit [DecidableEq Id] [DecidableEq Key] in
theorem unique (indexed : Indexed s) {token' : Option Nat} (left : s.jobs id = some (key, token))
    (right : s.jobs id' = some (key, token')) : id = id' := by
  have fromLeft : s.byKey key = some id := (indexed.byKey key id).mpr ⟨token, left⟩
  have fromRight : s.byKey key = some id' := (indexed.byKey key id').mpr ⟨token', right⟩
  exact Option.some.inj (fromLeft.symm.trans fromRight)

omit [DecidableEq Id] [DecidableEq Key] in
/-- A key without an entry has no job. -/
theorem no_job (indexed : Indexed s) (idle : s.byKey key = none) : ∀ id token, s.jobs id ≠ some (key, token) := by
  intro id token found
  have : s.byKey key = some id := (indexed.byKey key id).mpr ⟨token, found⟩
  rw [idle] at this
  cases this

omit [DecidableEq Key] in
/-- The job under an id is gone, whatever is asked of it. -/
theorem cleared {α : Type} {job : α → Key × Option Nat} (at_ : Id) :
    (∃ a, Function.update s.jobs id none at_ = some (job a)) ↔ at_ ≠ id ∧ ∃ a, s.jobs at_ = some (job a) := by
  by_cases here : at_ = id
  · subst here
    simp
  · simp [here]

theorem remove (indexed : Indexed s) (found : s.jobs id = some (key, token)) : Indexed (s.remove id key token) := by
  refine ⟨?_, ?_, ?_⟩
  · refine Exact.clear indexed.byKey ⟨token, found⟩ ?_ fun at_ _ => cleared at_
    rintro other ⟨token', there⟩
    rw [found] at there
    exact (Prod.mk.inj (Option.some.inj there)).1.symm
  · have only : ∀ channel, (∃ owner, s.jobs id = some (owner, some channel)) → token = some channel := by
      rintro channel ⟨owner, there⟩
      rw [found] at there
      exact (Prod.mk.inj (Option.some.inj there)).2
    cases token with
    | none =>
      refine Exact.forget indexed.byToken (fun channel there => ?_) fun at_ _ => cleared at_
      cases only channel there
    | some closing =>
      refine Exact.clear indexed.byToken ⟨key, found⟩ (fun channel there => ?_) fun at_ _ => cleared at_
      exact (Option.some.inj (only channel there)).symm
  · intro channel at_ entry
    cases token with
    | none => exact indexed.fresh channel at_ entry
    | some closing =>
      simp only [Table.remove, Table.close] at entry
      by_cases same : channel = closing
      · simp [same] at entry
      · rw [Function.update_of_ne same] at entry
        exact indexed.fresh channel at_ entry

theorem add (indexed : Indexed s) (idle : s.byKey key = none) (free : s.jobs id = none) : Indexed (s.add id key) := by
  refine ⟨Exact.assign indexed.byKey idle ?_, ?_, indexed.fresh⟩
  · intro at_ other
    by_cases here : at_ = id
    · subst here
      simp [Table.add, free, eq_comm]
    · simp [Table.add, here]
  · intro channel at_
    simp only [Table.add, indexed.byToken channel at_]
    by_cases here : at_ = id
    · subst here
      simp [free]
    · simp [here]

omit [DecidableEq Key] in
theorem divert (indexed : Indexed s) (found : s.jobs id = some (key, none)) : Indexed (s.divert id key) := by
  have unused : s.byToken s.nextToken = none := by
    cases entry : s.byToken s.nextToken with
    | none => rfl
    | some at_ => exact absurd (indexed.fresh _ _ entry) (Nat.lt_irrefl _)
  refine ⟨?_, Exact.assign indexed.byToken unused ?_, ?_⟩
  · intro other at_
    simp only [Table.divert, indexed.byKey other at_]
    by_cases here : at_ = id
    · subst here
      simp [found]
    · simp [here]
  · intro at_ channel
    by_cases here : at_ = id
    · subst here
      simp [Table.divert, found, eq_comm]
    · simp [Table.divert, here]
  · intro channel at_ entry
    simp only [Table.divert] at entry ⊢
    by_cases same : channel = s.nextToken
    · omega
    · rw [Function.update_of_ne same] at entry
      have := indexed.fresh channel at_ entry
      omega

/-- Dropping a job keeps the indexes exact, and its key has no job then. -/
theorem drop (indexed : Indexed s) (drop : Dropped key s s') : Indexed s' ∧ s'.byKey key = none := by
  cases drop with
  | idle idle => exact ⟨indexed, idle⟩
  | withdrawn found =>
    exact ⟨⟨(indexed.remove found).byKey, (indexed.remove found).byToken, (indexed.remove found).fresh⟩,
      by simp [Table.remove]⟩

theorem move (indexed : Indexed s) (move : Move s s') : Indexed s' := by
  cases move with
  | settle found => exact ⟨(indexed.remove found).byKey, (indexed.remove found).byToken, (indexed.remove found).fresh⟩
  | replace found free => exact (indexed.remove found).add (by simp [Table.remove]) free
  | divert found => exact indexed.divert found
  | skip later =>
    exact ⟨indexed.byKey, indexed.byToken, fun token id entry => Nat.lt_of_lt_of_le (indexed.fresh token id entry) later⟩
  | cancel drop | reject drop =>
    obtain ⟨dropped, -⟩ := indexed.drop drop
    exact ⟨dropped.byKey, dropped.byToken, dropped.fresh⟩
  | @start _ key id drop free =>
    obtain ⟨dropped, idle⟩ := indexed.drop drop
    refine Indexed.add ⟨dropped.byKey, dropped.byToken, dropped.fresh⟩ idle free

theorem run (indexed : Indexed s) (run : Run s s') : Indexed s' := by
  induction run with
  | refl => exact indexed
  | tail _ move ih => exact ih.move move

end Indexed

/-! ## The balance -/

def Table.carried (s : Table Id Key) (key : Key) : Nat := (s.byKey key).elim 0 fun _ => 1

/-- Every acceptance of a key is in flight, settled or withdrawn. -/
def Balanced (s : Table Id Key) : Prop :=
  ∀ key, s.accepted.count key = s.carried key + s.settled.count key + s.withdrawn.count key

namespace Balanced

variable {s s' : Table Id Key}

omit [DecidableEq Id] [DecidableEq Key] in
theorem carried_of_job (indexed : Indexed s) {id : Id} {key : Key} {token : Option Nat}
    (found : s.jobs id = some (key, token)) : s.carried key = 1 := by
  have entry : s.byKey key = some id := (indexed.byKey key id).mpr ⟨token, found⟩
  simp [Table.carried, entry]

theorem carried_remove {id : Id} {key : Key} {token : Option Nat} (other : Key) :
    (s.remove id key token).carried other = if other = key then 0 else s.carried other := by
  by_cases same : other = key <;> simp [Table.carried, Table.remove, same]

theorem carried_add {id : Id} {key : Key} (other : Key) :
    (s.add id key).carried other = if other = key then 1 else s.carried other := by
  by_cases same : other = key <;> simp [Table.carried, Table.add, same]

/-- Dropping a job keeps the balance. -/
theorem drop (balanced : Balanced s) (indexed : Indexed s) {key : Key} (drop : Dropped key s s') : Balanced s' := by
  cases drop with
  | idle => exact balanced
  | @withdrawn id token found =>
    intro other
    have before : s.accepted.count other = s.carried other + s.settled.count other + s.withdrawn.count other :=
      balanced other
    have one : s.carried key = 1 := carried_of_job indexed found
    show s.accepted.count other =
      (s.remove id key token).carried other + s.settled.count other + (s.withdrawn ++ [key]).count other
    rw [carried_remove, List.count_append]
    by_cases same : other = key
    · subst same
      simp
      omega
    · simpa [same, Ne.symm same] using before

theorem move (balanced : Balanced s) (indexed : Indexed s) (move : Move s s') : Balanced s' := by
  cases move with
  | @settle id key token found =>
    intro other
    have before : s.accepted.count other = s.carried other + s.settled.count other + s.withdrawn.count other :=
      balanced other
    have one : s.carried key = 1 := carried_of_job indexed found
    show s.accepted.count other =
      (s.remove id key token).carried other + (s.settled ++ [key]).count other + s.withdrawn.count other
    rw [carried_remove, List.count_append]
    by_cases same : other = key
    · subst same
      simp
      omega
    · simpa [same, Ne.symm same] using before
  | @replace id next key token found =>
    intro other
    have before : s.accepted.count other = s.carried other + s.settled.count other + s.withdrawn.count other :=
      balanced other
    have one : s.carried key = 1 := carried_of_job indexed found
    show s.accepted.count other =
      ((s.remove id key token).add next key).carried other + s.settled.count other + s.withdrawn.count other
    rw [carried_add, carried_remove]
    by_cases same : other = key
    · subst same
      simpa [one] using before
    · simpa [same] using before
  | divert => exact balanced
  | skip => exact balanced
  | cancel drop => exact fun other => balanced.drop indexed drop other
  | @reject dropped key drop =>
    intro other
    have before := balanced.drop indexed drop other
    show (dropped.accepted ++ [key]).count other =
      dropped.carried other + (dropped.settled ++ [key]).count other + dropped.withdrawn.count other
    rw [List.count_append, List.count_append]
    omega
  | @start dropped key id drop =>
    intro other
    have before := balanced.drop indexed drop other
    have none : dropped.carried key = 0 := by simp [Table.carried, (indexed.drop drop).2]
    show (dropped.accepted ++ [key]).count other =
      ({ dropped with accepted := dropped.accepted ++ [key] }.add id key).carried other +
        dropped.settled.count other + dropped.withdrawn.count other
    rw [carried_add, List.count_append]
    show _ = (if other = key then 1 else dropped.carried other) + _ + _
    by_cases same : other = key
    · subst same
      simp
      omega
    · simpa [same, Ne.symm same] using before

theorem run (balanced : Balanced s) (indexed : Indexed s) (run : Run s s') : Balanced s' := by
  induction run with
  | refl => exact balanced
  | tail earlier move ih => exact ih.move (indexed.run earlier) move

end Balanced

/-! ## Keys without a job -/

section

variable {s s' : Table Id Key} {key : Key}

/-- The keys that are accepted only grow. -/
theorem Move.accepted_grows (move : Move s s') : ∃ more, s'.accepted = s.accepted ++ more := by
  have same : ∀ {other : Key} {dropped : Table Id Key}, Dropped other s dropped →
      dropped.accepted = s.accepted := by
    intro other dropped drop
    cases drop <;> rfl
  cases move with
  | cancel drop => exact ⟨[], by simpa using same drop⟩
  | reject drop | start drop => exact ⟨[_], congrArg (· ++ [_]) (same drop)⟩
  | _ => exact ⟨[], (List.append_nil _).symm⟩

theorem Run.accepted_grows (run : Run s s') : ∃ more, s'.accepted = s.accepted ++ more := by
  induction run with
  | refl => exact ⟨[], (List.append_nil _).symm⟩
  | tail _ move ih =>
    obtain ⟨more, earlier⟩ := ih
    obtain ⟨last, later⟩ := move.accepted_grows
    exact ⟨more ++ last, by rw [later, earlier, List.append_assoc]⟩

/-- Dropping a key leaves a key without a job alone. -/
theorem Dropped.idle_same (indexed : Indexed s) {other : Key} (drop : Dropped other s s') (idle : s.byKey key = none) :
    s'.byKey key = none ∧ s'.settled = s.settled ∧ s'.accepted = s.accepted := by
  cases drop with
  | idle => exact ⟨idle, rfl, rfl⟩
  | @withdrawn id token found =>
    have ne : key ≠ other := by
      rintro rfl
      exact indexed.no_job idle id token found
    refine ⟨?_, rfl, rfl⟩
    simp [Table.remove, ne, idle]

/-- A key without a job that is not accepted again has none afterwards and is not settled. -/
theorem Move.idle_same (indexed : Indexed s) (move : Move s s') (idle : s.byKey key = none)
    (same : s'.accepted.count key = s.accepted.count key) :
    s'.byKey key = none ∧ s'.settled.count key = s.settled.count key := by
  cases move with
  | @settle id other token found =>
    have ne : key ≠ other := by
      rintro rfl
      exact indexed.no_job idle id token found
    simp [Table.remove, Table.settle, ne, idle, List.count_append, Ne.symm ne]
  | @replace id next other token found =>
    have ne : key ≠ other := by
      rintro rfl
      exact indexed.no_job idle id token found
    simp [Table.remove, Table.add, ne, idle]
  | divert => exact ⟨idle, rfl⟩
  | skip => exact ⟨idle, rfl⟩
  | cancel drop =>
    obtain ⟨stays, settled, -⟩ := drop.idle_same indexed idle
    exact ⟨stays, by rw [settled]⟩
  | @reject dropped other drop =>
    obtain ⟨stays, settled, accepted⟩ := drop.idle_same indexed idle
    have ne : other ≠ key := by
      rintro rfl
      simp [Table.settle, List.count_append, accepted] at same
    refine ⟨stays, ?_⟩
    simp [Table.settle, settled, List.count_append, ne]
  | @start dropped other id drop =>
    obtain ⟨stays, settled, accepted⟩ := drop.idle_same indexed idle
    have ne : other ≠ key := by
      rintro rfl
      simp [Table.add, List.count_append, accepted] at same
    refine ⟨?_, by simp [Table.add, settled]⟩
    simp [Table.add, stays, Ne.symm ne]

theorem Run.idle_same (indexed : Indexed s) (run : Run s s') (idle : s.byKey key = none)
    (same : s'.accepted.count key = s.accepted.count key) :
    s'.byKey key = none ∧ s'.settled.count key = s.settled.count key := by
  induction run with
  | refl => exact ⟨idle, rfl⟩
  | @tail middle last earlier move ih =>
    obtain ⟨more, upto⟩ := Run.accepted_grows earlier
    obtain ⟨rest, after⟩ := move.accepted_grows
    have bound : middle.accepted.count key = s.accepted.count key := by
      have grows : last.accepted.count key = s.accepted.count key + more.count key + rest.count key := by
        rw [after, upto, List.count_append, List.count_append]
      rw [upto, List.count_append]
      omega
    obtain ⟨stillIdle, settled⟩ := ih bound
    obtain ⟨after, unchanged⟩ := Move.idle_same (indexed.run earlier) move stillIdle (same.trans bound.symm)
    exact ⟨after, unchanged.trans settled⟩

/-! ## Cancelled keys -/

theorem Run.cancelled_mem (run : Run s s') (cancelled : key ∈ s.cancelled) : key ∈ s'.cancelled := by
  have same : ∀ {s dropped : Table Id Key} {other : Key}, Dropped other s dropped →
      dropped.cancelled = s.cancelled := by
    intro s dropped other drop
    cases drop <;> rfl
  induction run with
  | refl => exact cancelled
  | tail _ move ih =>
    cases move with
    | cancel drop => exact List.mem_append_left _ (same drop ▸ ih)
    | reject drop | start drop => exact same drop ▸ ih
    | _ => exact ih

/-- As long as no key is accepted twice, the keys without a result are the cancelled ones, and a cancelled key has no
job. -/
structure Quiet (s : Table Id Key) : Prop where
  known : ∀ key ∈ s.cancelled, key ∈ s.accepted
  idle : s.accepted.Nodup → ∀ key ∈ s.cancelled, s.byKey key = none
  withdrawn : ∀ key ∈ s.withdrawn, key ∈ s.cancelled ∨ 2 ≤ s.accepted.count key

theorem Quiet.move (quiet : Quiet s) (indexed : Indexed s) (balanced : Balanced s) (move : Move s s') :
    Quiet s' := by
  obtain ⟨more, grows⟩ := move.accepted_grows
  have known : ∀ key ∈ s.cancelled, key ∈ s'.accepted := by
    intro key mem
    rw [grows]
    exact List.mem_append_left _ (quiet.known key mem)
  have stays : s'.accepted.Nodup → ∀ key ∈ s.cancelled, s'.byKey key = none := by
    intro nodup key mem
    have before : s.accepted.Nodup := by
      rw [grows] at nodup
      exact nodup.of_append_left
    refine (Move.idle_same indexed move (quiet.idle before key mem) ?_).1
    rw [List.count_eq_one_of_mem nodup (known key mem), List.count_eq_one_of_mem before (quiet.known key mem)]
  have still : ∀ key ∈ s.withdrawn, key ∈ s.cancelled ∨ 2 ≤ s'.accepted.count key := by
    intro key mem
    refine (quiet.withdrawn key mem).imp (fun mem => mem) fun twice => ?_
    rw [grows, List.count_append]
    omega
  -- a key that is dropped and accepted again has been accepted twice
  have again : ∀ {other : Key} {dropped : Table Id Key}, Dropped other s dropped →
      dropped.cancelled = s.cancelled ∧ (∀ key ∈ dropped.withdrawn, key ∈ s.withdrawn ∨
        key = other ∧ 1 ≤ dropped.accepted.count other) := by
    intro other dropped drop
    cases drop with
    | idle => exact ⟨rfl, fun key mem => .inl mem⟩
    | @withdrawn id token found =>
      refine ⟨rfl, fun key mem => ?_⟩
      rcases List.mem_append.mp mem with earlier | now
      · exact .inl earlier
      have carried : s.carried other = 1 := Balanced.carried_of_job indexed found
      have count := balanced other
      refine .inr ⟨List.mem_singleton.mp now, ?_⟩
      show 1 ≤ s.accepted.count other
      omega
  cases move with
  | @cancel dropped key drop mem =>
    obtain ⟨cancelled, withdrawn⟩ := again drop
    obtain ⟨-, idle⟩ := indexed.drop drop
    refine ⟨?_, ?_, ?_⟩
    · intro other isCancelled
      rcases List.mem_append.mp isCancelled with earlier | now
      · rw [cancelled] at earlier
        exact known other earlier
      · rw [List.mem_singleton.mp now]
        rw [grows]
        exact List.mem_append_left _ mem
    · intro nodup other isCancelled
      rcases List.mem_append.mp isCancelled with earlier | now
      · rw [cancelled] at earlier
        exact stays nodup other earlier
      · rw [List.mem_singleton.mp now]
        exact idle
    · intro other isWithdrawn
      rcases withdrawn other isWithdrawn with earlier | ⟨rfl, -⟩
      · refine (still other earlier).imp (fun mem => ?_) fun twice => twice
        rw [cancelled]
        exact List.mem_append_left _ mem
      · exact .inl (List.mem_append_right _ (List.mem_singleton.mpr rfl))
  | @reject dropped key drop | @start dropped key id drop =>
    obtain ⟨cancelled, withdrawn⟩ := again drop
    refine ⟨fun other mem => known other (cancelled ▸ mem), fun nodup other mem => stays nodup other (cancelled ▸ mem), ?_⟩
    intro other isWithdrawn
    rcases withdrawn other isWithdrawn with earlier | ⟨rfl, once⟩
    · exact (still other earlier).imp (fun mem => cancelled ▸ mem) fun twice => twice
    refine .inr ?_
    show 2 ≤ (dropped.accepted ++ [other]).count other
    rw [List.count_append, List.count_singleton_self]
    omega
  | _ => exact ⟨known, stays, still⟩

theorem Quiet.run (quiet : Quiet s) (indexed : Indexed s) (balanced : Balanced s) (run : Run s s') : Quiet s' := by
  induction run with
  | refl => exact quiet
  | tail earlier move ih => exact ih.move (indexed.run earlier) (balanced.run indexed earlier) move

end

end InFlight
