import Mathlib
import NbReq.Dns.Wire

/-!
# Reading compressed names

`Spells bytes position labels stop` is the reference for `read_name`: the name that starts at a position is a row of
labels of 1 to 63 octets that ends with a zero octet or with a pointer to a name that starts strictly before the
pointer; `stop` is the place after the part of it that stands at the position. It has no bound on the number of pointers
or on the length.

What `read_name` returns is spelled there, its wire form has at most 255 octets and the cursor stands after the part in
place (`readName_spells`). The loop ends by itself within the rounds that the model gives it, and no index is out of
range (`readName_returns`).
-/

namespace NbReq.Dns

/-! ## Octets -/

variable {octet : UInt8}

/-- The two high bits are set: the octet starts a pointer. -/
theorem isPointer_iff : octet &&& 0xC0 = 0xC0 ↔ 192 ≤ octet.toNat := by
  have all : ∀ n : Fin 256, n.val &&& 192 = 192 ↔ 192 ≤ n.val := by decide +kernel
  rw [← UInt8.toNat_inj]
  exact all ⟨octet.toNat, octet.toNat_lt⟩

/-- No high bit is set: the octet is the length of a label. -/
theorem isLength_iff : octet &&& 0xC0 = 0 ↔ octet.toNat < 64 := by
  have all : ∀ n : Fin 256, n.val &&& 192 = 0 ↔ n.val < 64 := by decide +kernel
  rw [← UInt8.toNat_inj]
  exact all ⟨octet.toNat, octet.toNat_lt⟩

theorem pointer_offset (isPointer : 192 ≤ octet.toNat) : (octet &&& 0x3F).toNat = octet.toNat - 192 := by
  have all : ∀ n : Fin 256, 192 ≤ n.val → n.val &&& 63 = n.val - 192 := by decide +kernel
  exact all ⟨octet.toNat, octet.toNat_lt⟩ isPointer

/-! ## The reference -/

/-- The labels that the name at a position has, and where its part in place ends. -/
inductive Spells (bytes : Bytes) : Nat → List Bytes → Nat → Prop where
  | root {position : Nat} (zero : bytes[position]? = some 0) : Spells bytes position [] (position + 1)
  | label {position stop : Nat} {length : UInt8} {labels : List Bytes} (octet : bytes[position]? = some length)
      (positive : 1 ≤ length.toNat) (short : length.toNat ≤ maxLabelLen)
      (inside : position + 1 + length.toNat ≤ bytes.length)
      (rest : Spells bytes (position + 1 + length.toNat) labels stop) :
      Spells bytes position (span bytes (position + 1) (position + 1 + length.toNat) :: labels) stop
  | pointer {position stop : Nat} {high low : UInt8} {labels : List Bytes} (octet : bytes[position]? = some high)
      (isPointer : 192 ≤ high.toNat) (second : bytes[position + 1]? = some low)
      (backward : (high.toNat - 192) * 256 + low.toNat < position)
      (rest : Spells bytes ((high.toNat - 192) * 256 + low.toNat) labels stop) :
      Spells bytes position labels (position + 2)

def wireLength (labels : List Bytes) : Nat := 1 + (labels.map fun label => label.length + 1).sum

@[simp]
theorem wireLength_nil : wireLength [] = 1 := rfl

theorem wireLength_cons {label : Bytes} {labels : List Bytes} :
    wireLength (label :: labels) = label.length + 1 + wireLength labels := by
  simp only [wireLength, List.map_cons, List.sum_cons]
  omega

theorem length_span {bytes : Bytes} {start stop : Nat} (inside : stop ≤ bytes.length) :
    (span bytes start stop).length = stop - start := by
  simp only [span, List.length_take, List.length_drop]
  omega

namespace Spells

variable {bytes : Bytes} {position stop stop' : Nat} {labels labels' : List Bytes}

/-- There is one name at a position at most. -/
theorem unique (spells : Spells bytes position labels stop) (spells' : Spells bytes position labels' stop') :
    labels = labels' ∧ stop = stop' := by
  induction spells generalizing labels' stop' with
  | root zero =>
    cases spells' with
    | root => exact ⟨rfl, rfl⟩
    | label octet positive =>
      rw [zero] at octet
      cases octet
      cases positive
    | pointer octet isPointer =>
      rw [zero] at octet
      cases octet
      exact absurd isPointer (by decide)
  | label octet positive short inside rest ih =>
    cases spells' with
    | root zero =>
      rw [zero] at octet
      cases octet
      cases positive
    | label octet' positive' short' inside' rest' =>
      rw [octet] at octet'
      cases octet'
      obtain ⟨rfl, rfl⟩ := ih rest'
      exact ⟨rfl, rfl⟩
    | pointer octet' isPointer =>
      rw [octet] at octet'
      cases octet'
      simp only [maxLabelLen] at short
      omega
  | pointer octet isPointer second backward rest ih =>
    cases spells' with
    | root zero =>
      rw [zero] at octet
      cases octet
      exact absurd isPointer (by decide)
    | label octet' positive' short' =>
      rw [octet] at octet'
      cases octet'
      simp only [maxLabelLen] at short'
      omega
    | pointer octet' isPointer' second' backward' rest' =>
      rw [octet] at octet'
      rw [second] at second'
      cases octet'
      cases second'
      exact ⟨(ih rest').1, rfl⟩

/-- The part in place is not empty and stands inside the packet. -/
theorem bounds (spells : Spells bytes position labels stop) : position < stop ∧ stop ≤ bytes.length := by
  induction spells with
  | root zero =>
    have inside := (List.getElem?_eq_some_iff.mp zero).1
    exact ⟨Nat.lt_succ_self _, inside⟩
  | label octet positive short inside rest ih => exact ⟨by omega, ih.2⟩
  | pointer octet isPointer second backward rest ih =>
    have inside := (List.getElem?_eq_some_iff.mp second).1
    exact ⟨by omega, by omega⟩

theorem label_lengths (spells : Spells bytes position labels stop) :
    ∀ label ∈ labels, 1 ≤ label.length ∧ label.length ≤ maxLabelLen := by
  induction spells with
  | root => exact fun _ => nofun
  | label octet positive short inside rest ih =>
    intro label mem
    rcases List.mem_cons.mp mem with rfl | mem
    · rw [length_span inside]
      exact ⟨by omega, by omega⟩
    · exact ih label mem
  | pointer octet isPointer second backward rest ih => exact ih

end Spells

/-! ## Calls that return -/

/-- The call returns a result or an error: it does not panic, and it ends. -/
def Returns {α : Type} (call : Except Fault α) : Prop := ∀ fault, call = .error fault → ∃ error, fault = .returned error

namespace Returns

variable {α β : Type} {call call' : Except Fault α}

theorem ok {value : α} : Returns (.ok value) := fun _ isFault => by cases isFault

theorem reject {message : String} : Returns (Dns.reject message : Except Fault α) := by
  rintro _ ⟨⟩
  exact ⟨_, rfl⟩

theorem bind {next : α → Except Fault β} (first : Returns call)
    (rest : ∀ value, call = .ok value → Returns (next value)) : Returns (call >>= next) := by
  cases isCall : call with
  | ok value => exact rest value isCall
  | error fault =>
    intro _ isFault
    cases isFault
    exact first fault isCall

theorem ite {c : Prop} [Decidable c] (yes : c → Returns call) (no : ¬c → Returns call') :
    Returns (if c then call else call') := by
  split
  · exact yes ‹c›
  · exact no ‹¬c›

end Returns

theorem octetsAt_inside {bytes : Bytes} {start stop : Nat} (le : start ≤ stop) (inside : stop ≤ bytes.length) :
    octetsAt bytes start stop = .ok (span bytes start stop) := if_pos ⟨le, inside⟩

/-! ## The loop -/

section

variable {bytes : Bytes} {reader next : NameReader} {name : Name} {stop : Nat}

/-- A round that ends the loop has found the zero octet. -/
theorem round_done (done : reader.round bytes = .ok (.inl (name, stop))) :
    bytes[reader.position]? = some 0 ∧ name = ⟨reader.labels⟩ ∧
      stop = reader.resume.getD (reader.position + 1) := by
  unfold NameReader.round at done
  split at done
  · cases done
  rename_i length octet
  split at done
  · dsimp only at done
    split at done
    · cases done
    split at done
    · cases done
    · split at done
      · cases done
      · split at done <;> cases done
  · split at done
    · cases done
    split at done
    · rename_i zero
      cases done
      rw [zero] at octet
      exact ⟨octet, rfl, rfl⟩
    split at done
    · cases done
    split at done
    · cases done
    split at done
    · cases done
    · obtain ⟨label, -, goesOn⟩ := bind_eq_ok.mp done
      cases pure_eq_ok.mp goesOn

/-- What the next round starts with: a pointer has been followed or a label has been read. -/
inductive Rounds (bytes : Bytes) (reader : NameReader) : NameReader → Prop where
  | pointer {high low : UInt8} (octet : bytes[reader.position]? = some high) (isPointer : 192 ≤ high.toNat)
      (second : bytes[reader.position + 1]? = some low)
      (backward : (high.toNat - 192) * 256 + low.toNat < reader.position)
      (hops : reader.pointerHops + 1 ≤ maxPointerHops) :
      Rounds bytes reader
        { reader with
          resume := some (reader.resume.getD (reader.position + 2)), pointerHops := reader.pointerHops + 1
          visited := reader.visited ++ [(high.toNat - 192) * 256 + low.toNat]
          position := (high.toNat - 192) * 256 + low.toNat }
  | label {length : UInt8} (octet : bytes[reader.position]? = some length) (positive : 1 ≤ length.toNat)
      (short : length.toNat ≤ maxLabelLen) (inside : reader.position + 1 + length.toNat ≤ bytes.length)
      (fits : reader.wireLen + (length.toNat + 1) ≤ maxWireNameLen) :
      Rounds bytes reader
        { reader with
          labels := reader.labels ++
            [foldLabel (span bytes (reader.position + 1) (reader.position + 1 + length.toNat))]
          wireLen := reader.wireLen + (length.toNat + 1), position := reader.position + 1 + length.toNat }

theorem round_next (goesOn : reader.round bytes = .ok (.inr next)) : Rounds bytes reader next := by
  unfold NameReader.round at goesOn
  split at goesOn
  · cases goesOn
  rename_i length octet
  split at goesOn
  · rename_i isPointer
    split at goesOn
    · cases goesOn
    rename_i low second
    dsimp only at goesOn
    split at goesOn
    · cases goesOn
    split at goesOn
    · cases goesOn
    rename_i backward
    split at goesOn
    · cases goesOn
    rename_i allowed
    have high := isPointer_iff.mp isPointer
    rw [pointer_offset high] at goesOn backward
    cases goesOn
    exact .pointer octet high second (Nat.lt_of_not_le backward) (by omega)
  · split at goesOn
    · cases goesOn
    rename_i isLength
    split at goesOn
    · cases goesOn
    rename_i nonzero
    split at goesOn
    · cases goesOn
    rename_i short
    split at goesOn
    · cases goesOn
    rename_i inside
    split at goesOn
    · cases goesOn
    rename_i fits
    rw [octetsAt_inside (Nat.le_add_right _ _) (Nat.le_of_not_lt inside)] at goesOn
    cases goesOn
    have positive : 1 ≤ length.toNat := by
      rw [← UInt8.toNat_inj] at nonzero
      exact Nat.one_le_iff_ne_zero.mpr nonzero
    exact .label octet positive (by omega) (by omega) (by omega)

/-- What the loop returns is spelled where it stands, after the labels it has read already. -/
theorem run_spells {rounds : Nat} (ok : reader.run bytes rounds = .ok (name, stop))
    (fits : reader.wireLen ≤ maxWireNameLen) :
    ∃ labels inPlace, Spells bytes reader.position labels inPlace ∧
      name.labels = reader.labels ++ labels.map foldLabel ∧ stop = reader.resume.getD inPlace ∧
      reader.wireLen + wireLength labels ≤ maxWireNameLen + 1 := by
  induction rounds generalizing reader with
  | zero => cases ok
  | succ rounds ih =>
    rw [NameReader.run] at ok
    split at ok
    · cases ok
    · rename_i result done
      cases ok
      obtain ⟨zero, rfl, rfl⟩ := round_done done
      exact ⟨[], _, .root zero, by simp, rfl, by simp only [wireLength_nil]; omega⟩
    rename_i next goesOn
    cases round_next goesOn with
    | pointer octet isPointer second backward hops =>
      obtain ⟨labels, inPlace, spells, isName, isStop, length⟩ := ih ok fits
      exact ⟨labels, _, .pointer octet isPointer second backward spells, isName, isStop, length⟩
    | @label octetLength octet positive short inside within =>
      obtain ⟨labels, inPlace, spells, isName, isStop, length⟩ := ih ok within
      refine ⟨_, inPlace, .label octet positive short inside spells, ?_, isStop, ?_⟩
      · rw [isName]
        simp
      · rw [wireLength_cons, length_span inside]
        dsimp only at length
        omega

/-- What `read_name` returns is spelled at its position. -/
theorem readName_spells {cursor : Nat} (ok : readName bytes cursor = .ok (name, stop)) :
    ∃ labels, Spells bytes cursor labels stop ∧ name.labels = labels.map foldLabel ∧
      wireLength labels ≤ maxWireNameLen := by
  obtain ⟨labels, inPlace, spells, isName, isStop, length⟩ := run_spells ok (show 1 ≤ maxWireNameLen by decide)
  cases isStop
  refine ⟨labels, spells, isName, ?_⟩
  dsimp only at length
  omega

def NameReader.left (reader : NameReader) : Nat :=
  (maxPointerHops - reader.pointerHops) + (maxWireNameLen - reader.wireLen)

theorem Rounds.left_lt (rounds : Rounds bytes reader next) : next.left < reader.left := by
  cases rounds with
  | pointer octet isPointer second backward hops | label octet positive short inside fits =>
    simp only [NameReader.left]
    omega

theorem round_returns : Returns (reader.round bytes) := by
  unfold NameReader.round
  cases bytes[reader.position]? with
  | none => exact .reject
  | some length =>
    refine .ite (fun _ => ?_) fun _ => .ite (fun _ => .reject) fun _ => .ite (fun _ => .ok) fun _ =>
      .ite (fun _ => .reject) fun _ => .ite (fun _ => .reject) fun inside => .ite (fun _ => .reject) fun _ => ?_
    · cases bytes[reader.position + 1]? with
      | none => exact .reject
      | some low =>
        exact .ite (fun _ => .reject) fun _ => .ite (fun _ => .reject) fun _ => .ite (fun _ => .reject) fun _ => .ok
    · rw [octetsAt_inside (Nat.le_add_right _ _) (Nat.le_of_not_lt inside)]
      exact .ok

/-- The loop ends before it has used up the rounds it is given. -/
theorem run_returns {rounds : Nat} (enough : reader.left < rounds) : Returns (reader.run bytes rounds) := by
  induction rounds generalizing reader with
  | zero => cases enough
  | succ rounds ih =>
    rw [NameReader.run]
    split
    · rename_i fault failed
      intro _ isFault
      cases isFault
      exact round_returns _ failed
    · exact .ok
    · rename_i next goesOn
      have less := (round_next goesOn).left_lt
      exact ih (by omega)

/-- `read_name` always returns. -/
theorem readName_returns (bytes : Bytes) (cursor : Nat) : Returns (readName bytes cursor) :=
  run_returns (by simp only [NameReader.left]; omega)

end

end NbReq.Dns
