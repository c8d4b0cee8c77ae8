import NbReq.Smtp.Reply
import Mathlib

/-!
# The grammar of replies

`ReplyParser` takes a reply byte by byte. Here the replies are given as lines, and the parser is compared with them
over whole streams.

1. `ReplyParser.isReply_iff`: the parser completes exactly the replies of the grammar.
2. `ReplyParser.run_stream`: what the parser makes of a stream, up to its first error.
3. `ReplyParser.a_full_reply_goes_on`: a last line that announces another one is not refused at once.
-/

namespace NbReq.Smtp

/-- The digits of a code, of which the first is 2 to 5 and the second 0 to 5. -/
def Digits (code : Nat) (digits : Bytes) : Prop :=
  ∃ a b c, digits = [a, b, c] ∧ (0x32 ≤ a ∧ a ≤ 0x35) ∧ (0x30 ≤ b ∧ b ≤ 0x35) ∧ (0x30 ≤ c ∧ c ≤ 0x39) ∧
    code = (a.toNat - 0x30) * 100 + (b.toNat - 0x30) * 10 + (c.toNat - 0x30)

/-- A line of a reply, with its line end and its text; a hyphen tells that another line follows. -/
inductive LineOf (code : Nat) : Bool → Bytes → Bytes → Prop
  | bare {digits : Bytes} (valid : Digits code digits) : LineOf code false [] (digits ++ [0x0D, 0x0A])
  | text {digits text : Bytes} (more : Bool) (valid : Digits code digits) (printable : ∀ byte ∈ text, textByte byte)
      (short : text.length + 6 ≤ maxLine) :
      LineOf code more text (digits ++ (if more then 0x2D else 0x20) :: text ++ [0x0D, 0x0A])

/-- The lines of a reply before its last, with their texts. -/
def Open (code : Nat) (texts lines : List Bytes) : Prop := List.Forall₂ (LineOf code true) texts lines

def IsReply (reply : Reply) (bytes : Bytes) : Prop :=
  ∃ texts lines text last, reply.lines = texts ++ [text] ∧ bytes = lines.flatten ++ last ∧
    Open reply.code texts lines ∧ LineOf reply.code false text last ∧ texts.length < maxLines ∧ bytes.length ≤ maxTotal

variable {code : Nat} {more : Bool} {text line bytes rest : Bytes} {reply : Reply}

/-- A byte of a line before its line feed. -/
def IsReplyByte (byte : UInt8) : Prop := byte ≠ 0x0A ∧ (byte = 0x0D ∨ textByte byte = true)

theorem isReplyByte_of_text {byte : UInt8} (printable : textByte byte = true) : IsReplyByte byte :=
  ⟨by rintro rfl; revert printable; decide, .inr printable⟩

theorem Digits.printable {digits : Bytes} (valid : Digits code digits) : ∀ byte ∈ digits, textByte byte = true := by
  obtain ⟨a, b, c, rfl, firsts, seconds, thirds, -⟩ := valid
  simp only [textByte, List.mem_cons, List.not_mem_nil, or_false, Bool.or_eq_true, Bool.and_eq_true, beq_iff_eq,
    decide_eq_true_eq, UInt8.le_iff_toNat_le, UInt8.reduceToNat, forall_eq_or_imp, forall_eq] at firsts seconds thirds ⊢
  omega

theorem Digits.length {digits : Bytes} (valid : Digits code digits) : digits.length = 3 := by
  obtain ⟨a, b, c, rfl, -⟩ := valid
  rfl

/-- A line is short and has its only line feed at its end. -/
theorem LineOf.shape (isLine : LineOf code more text line) :
    ∃ content, line = content ++ [0x0A] ∧ (∀ byte ∈ content, IsReplyByte byte) ∧ line.length ≤ maxLine := by
  cases isLine with
  | @bare digits valid =>
    refine ⟨digits ++ [0x0D], by simp, ?_, by simp [valid.length, maxLine]⟩
    rw [List.forall_mem_append, List.forall_mem_singleton]
    exact ⟨fun byte mem => isReplyByte_of_text (valid.printable byte mem), by decide, .inl rfl⟩
  | @text digits text more valid printable short =>
    refine ⟨digits ++ (if more then 0x2D else 0x20) :: text ++ [0x0D], by simp, ?_, ?_⟩
    · rw [List.forall_mem_append, List.forall_mem_append, List.forall_mem_cons, List.forall_mem_singleton]
      refine ⟨⟨fun byte mem => isReplyByte_of_text (valid.printable byte mem), ?_, fun byte mem =>
        isReplyByte_of_text (printable byte mem)⟩, by decide, .inl rfl⟩
      cases more <;> exact isReplyByte_of_text (by decide)
    · simp [valid.length]
      omega

theorem Open.snoc {texts lines : List Bytes} (isOpen : Open code texts lines) (isLine : LineOf code true text line) :
    Open code (texts ++ [text]) (lines ++ [line]) :=
  List.rel_append isOpen (.cons isLine .nil)

/-- A line before the last could have been the last. -/
theorem LineOf.last (isLine : LineOf code true text line) :
    ∃ last, LineOf code false text last ∧ last.length = line.length := by
  cases isLine with
  | text _ valid printable short => exact ⟨_, .text false valid printable short, by simp⟩

namespace ReplyParser

variable {p p' : ReplyParser} {byte : UInt8} {out : Option Reply}

/-! ## The end of a line -/

theorem lineCode_iff {a b c : UInt8} : lineCode (a :: b :: c :: rest) = some code ↔ Digits code [a, b, c] := by
  unfold lineCode
  simp only [Bool.and_eq_true, decide_eq_true_eq, Option.ite_none_right_eq_some, Option.some.injEq, Digits,
    List.cons.injEq, and_true]
  constructor
  · rintro ⟨⟨⟨⟨⟨⟨a1, a2⟩, b1⟩, b2⟩, c1⟩, c2⟩, rfl⟩
    exact ⟨a, b, c, ⟨rfl, rfl, rfl⟩, ⟨a1, a2⟩, ⟨b1, b2⟩, ⟨c1, c2⟩, rfl⟩
  · rintro ⟨a', b', c', ⟨rfl, rfl, rfl⟩, ⟨a1, a2⟩, ⟨b1, b2⟩, ⟨c1, c2⟩, rfl⟩
    exact ⟨⟨⟨⟨⟨⟨a1, a2⟩, b1⟩, b2⟩, c1⟩, c2⟩, rfl⟩

/-- What a good line leaves: the parser waits for the next one, or has a reply. -/
def ended (p : ReplyParser) (code : Nat) (more : Bool) (text : Bytes) : ReplyParser × Option Reply :=
  if more then ({ p with line := [], lines := p.lines ++ [text], code := some code }, none)
  else (fresh, some ⟨code, p.lines ++ [text]⟩)

/-- The line has the code of the lines before it. -/
def Agrees (p : ReplyParser) (code : Nat) : Prop := p.code = none ∨ p.code = some code

theorem agrees_iff : p.Agrees code ↔ p.code.any (fun first => !decide (first = code)) = false := by
  unfold Agrees
  cases p.code <;> simp

theorem endLine_of_line (isLine : LineOf code more text p.line) (agrees : p.Agrees code)
    (room : p.lines.length < maxLines) : p.endLine = some (p.ended code more text) := by
  have same := agrees_iff.mp agrees
  obtain ⟨line, lines, first, total⟩ := p
  dsimp only at isLine same room
  cases isLine with
  | bare valid =>
    obtain ⟨a, b, c, rfl, -⟩ := id valid
    simp [endLine, lineCode_iff.mpr valid, same, Nat.not_le.mpr room, ended]
  | text more valid printable short =>
    obtain ⟨a, b, c, rfl, -⟩ := id valid
    have textual : ¬(text.any (!textByte ·)) = true := by simpa using printable
    cases more <;> simp [endLine, lineCode_iff.mpr valid, same, Nat.not_le.mpr room, ended, textual]

theorem line_of_endLine (feed : p.line.getLast? = some 0x0A) (short : p.line.length ≤ maxLine)
    (done : p.endLine = some (p', out)) :
    ∃ code more text, LineOf code more text p.line ∧ p.Agrees code ∧ p.lines.length < maxLines ∧
      (p', out) = p.ended code more text := by
  obtain ⟨line, lines, first, total⟩ := p
  dsimp only at feed short ⊢
  unfold endLine at done
  dsimp only at done
  split at done
  · cases done
  next shape =>
  rw [not_or, not_not, Nat.not_lt] at shape
  obtain ⟨long, cr⟩ := shape
  -- The line is a code, the rest of the line and the line end.
  obtain ⟨body, rfl⟩ : ∃ body, line = body ++ [0x0D, 0x0A] := by
    refine ⟨line.take (line.length - 2), ?_⟩
    have two : (line.drop (line.length - 2)).length = 2 := by rw [List.length_drop]; omega
    obtain ⟨x, y, both⟩ := List.length_eq_two.mp two
    rw [both] at cr
    have whole := List.take_append_drop (line.length - 2) line
    rw [both] at whole
    rw [← whole, List.getLast?_append_of_ne_nil _ (by simp)] at feed
    cases Option.some.inj cr
    cases Option.some.inj feed
    exact whole.symm
  obtain ⟨a, b, c, tail, rfl⟩ : ∃ a b c tail, body = a :: b :: c :: tail := by
    rcases body with _ | ⟨a, _ | ⟨b, _ | ⟨c, tail⟩⟩⟩
    · simp at long
    · simp at long
    · simp at long
    · exact ⟨a, b, c, tail, rfl⟩
  split at done
  · cases done
  next code found =>
  have valid := lineCode_iff.mp found
  cases tail with
  | nil =>
    simp only [List.cons_append, List.nil_append, List.length_cons, List.length_nil, not_true_eq_false, false_and,
      if_false, true_or, if_true] at done
    split at done
    · cases done
    next same =>
    split at done
    · cases done
    next room =>
    cases done
    exact ⟨code, false, [], .bare valid, agrees_iff.mpr (by simpa using same), Nat.lt_of_not_le room, rfl⟩
  | cons separator text =>
    simp at done
    obtain ⟨separates, printable, same, room, done⟩ := done
    have agrees := fun line => agrees_iff (p := ⟨line, lines, first, total⟩).mpr same
    have shorter : text.length + 6 ≤ maxLine := by
      simp only [List.length_append, List.length_cons, List.length_nil] at short
      omega
    split at done
    · next space =>
      cases done
      exact ⟨code, false, text, space ▸ .text false valid printable shorter, agrees _, room, rfl⟩
    · next no_space =>
      cases done
      have hyphen : separator = 0x2D := by_contra fun other => no_space (separates other)
      exact ⟨code, true, text, hyphen ▸ .text true valid printable shorter, agrees _, room, rfl⟩

/-! ## Bytes -/

theorem push_lf (total : p.total < maxTotal) (short : p.line.length < maxLine) :
    p.push 0x0A = ({ p with line := p.line ++ [0x0A], total := p.total + 1 } : ReplyParser).endLine := by
  unfold push
  exact (if_neg (by simp only [not_or]; omega)).trans (if_neg (by simp))

theorem push_byte (total : p.total < maxTotal) (short : p.line.length < maxLine) (plain : IsReplyByte byte) :
    p.push byte = some ({ p with line := p.line ++ [byte], total := p.total + 1 }, none) := by
  have fits : ¬(p.total + 1 > maxTotal ∨ p.line.length ≥ maxLine) := by omega
  have good : ¬(byte ≠ 0x0D ∧ (!textByte byte) = true) := by
    rcases plain.2 with cr | printable
    · exact fun bad => bad.1 cr
    · simp [printable]
  unfold push
  dsimp only
  rw [if_neg fits, if_pos plain.1, if_neg good]

/-- Everything a byte can do. -/
theorem push_cases (pushed : p.push byte = some (p', out)) :
    p.total < maxTotal ∧ p.line.length < maxLine ∧
      (IsReplyByte byte ∧ p' = { p with line := p.line ++ [byte], total := p.total + 1 } ∧ out = none ∨
        byte = 0x0A ∧ ∃ code more text, LineOf code more text (p.line ++ [0x0A]) ∧ p.Agrees code ∧
          p.lines.length < maxLines ∧
          (p', out) = ({ p with total := p.total + 1 } : ReplyParser).ended code more text) := by
  have whole := pushed
  unfold push at pushed
  dsimp only at pushed
  split at pushed
  · cases pushed
  next fits =>
  have total : p.total < maxTotal := by omega
  have short : p.line.length < maxLine := by omega
  refine ⟨total, short, ?_⟩
  split at pushed
  · next no_lf =>
    split at pushed
    · cases pushed
    next good =>
    cases pushed
    refine .inl ⟨⟨no_lf, ?_⟩, rfl, rfl⟩
    by_cases cr : byte = 0x0D
    · exact .inl cr
    · exact .inr (by simpa [cr] using good)
  · next lf =>
    rw [not_not] at lf
    subst lf
    rw [push_lf total short] at whole
    obtain ⟨code, more, text, isLine, agrees, room, done⟩ :=
      line_of_endLine (List.getLast?_concat) (by simpa using short) whole
    exact .inr ⟨rfl, code, more, text, isLine, agrees, room, done⟩

theorem feed_content {content : Bytes} (plain : ∀ byte ∈ content, IsReplyByte byte)
    (total : p.total + content.length ≤ maxTotal) (short : p.line.length + content.length ≤ maxLine) :
    p.feed content = some { p with line := p.line ++ content, total := p.total + content.length } := by
  induction content generalizing p with
  | nil => simp [feed]
  | cons byte content ih =>
    rw [List.forall_mem_cons] at plain
    rw [List.length_cons] at total short
    rw [feed, push_byte (by omega) (by omega) plain.1]
    dsimp only
    rw [ih plain.2 (by dsimp only; omega) (by simp; omega)]
    simp [Nat.add_assoc, Nat.add_comm 1]

/-- Up to the last byte of a line, and the parser there. -/
theorem push_line (isLine : LineOf code more text line) (start : p.line = []) (agrees : p.Agrees code)
    (room : p.lines.length < maxLines) (total : p.total + line.length ≤ maxTotal) :
    ∃ content before, line = content ++ [0x0A] ∧ p.feed content = some before ∧
      before.push 0x0A = some (({ p with total := p.total + line.length } : ReplyParser).ended code more text) := by
  obtain ⟨content, rfl, plain, short⟩ := isLine.shape
  rw [List.length_append, List.length_singleton] at total short
  refine ⟨content, _, rfl, feed_content plain (by omega) (by rw [start]; simp; omega), ?_⟩
  rw [push_lf (by dsimp only; omega) (by rw [start]; simp; omega), start, List.nil_append, List.length_append,
    List.length_singleton, ← Nat.add_assoc]
  exact endLine_of_line (p := ⟨content ++ [0x0A], p.lines, p.code, p.total + content.length + 1⟩) isLine agrees room

/-! ## Replies -/

/-- The parser after the bytes of a reply that is not complete: the lines that have ended, and the one that has not. -/
structure Midway (bytes : Bytes) (p : ReplyParser) : Prop where
  lines : ∃ code lines, bytes = lines.flatten ++ p.line ∧ Open code p.lines lines ∧
    p.code = if p.lines = [] then none else some code
  few : p.lines.length ≤ maxLines
  plain : ∀ byte ∈ p.line, IsReplyByte byte
  total : p.total = bytes.length
  bounded : bytes.length ≤ maxTotal

theorem Midway.fresh : Midway [] .fresh :=
  ⟨⟨0, [], rfl, .nil, rfl⟩, Nat.zero_le _, by simp [ReplyParser.fresh], rfl, Nat.zero_le _⟩

/-- The code of the lines so far is the one of the next line, if that agrees. -/
theorem Midway.agreed (midway : Midway bytes p) (agrees : p.Agrees code) :
    ∃ lines, bytes = lines.flatten ++ p.line ∧ Open code p.lines lines := by
  obtain ⟨first, lines, split, isOpen, known⟩ := midway.lines
  refine ⟨lines, split, ?_⟩
  by_cases none : p.lines = []
  · rw [none] at isOpen ⊢
    cases isOpen
    exact .nil
  rw [if_neg none] at known
  rcases agrees with unknown | same
  · rw [known] at unknown
    cases unknown
  · rw [known] at same
    cases same
    exact isOpen

theorem Midway.push (midway : Midway bytes p) (pushed : p.push byte = some (p', none)) :
    Midway (bytes ++ [byte]) p' := by
  obtain ⟨total, short, ⟨plain, rfl, -⟩ | ⟨rfl, code, more, text, isLine, agrees, room, done⟩⟩ := push_cases pushed
  · obtain ⟨code, lines, split, isOpen, known⟩ := midway.lines
    rw [midway.total] at total
    refine ⟨⟨code, lines, by rw [split, List.append_assoc], isOpen, known⟩, midway.few, ?_, ?_, by simpa using total⟩
    · rw [List.forall_mem_append, List.forall_mem_singleton]
      exact ⟨midway.plain, plain⟩
    · simp [midway.total]
  unfold ended at done
  split at done
  · next isMore =>
    cases done
    cases isMore
    obtain ⟨lines, split, isOpen⟩ := midway.agreed agrees
    rw [midway.total] at total
    refine ⟨⟨code, lines ++ [p.line ++ [0x0A]], ?_, isOpen.snoc isLine, ?_⟩, ?_, by simp, ?_, by simpa using total⟩
    · simp [split]
    · simp
    · simpa using room
    · simp [midway.total]
  · cases done

theorem Midway.feed (midway : Midway bytes p) (fed : p.feed rest = some p') : Midway (bytes ++ rest) p' := by
  induction rest generalizing bytes p with
  | nil =>
    cases fed
    rwa [List.append_nil]
  | cons byte rest ih =>
    rw [ReplyParser.feed] at fed
    split at fed
    · next next pushed =>
      rw [List.append_cons]
      exact ih (midway.push pushed) fed
    · cases fed

theorem Midway.completes (midway : Midway bytes p) (pushed : p.push byte = some (p', some reply)) :
    IsReply reply (bytes ++ [byte]) := by
  obtain ⟨total, short, ⟨-, -, none⟩ | ⟨rfl, code, more, text, isLine, agrees, room, done⟩⟩ := push_cases pushed
  · cases none
  unfold ended at done
  split at done
  · cases done
  next isLast =>
  cases done
  cases Bool.eq_false_iff.mpr isLast
  obtain ⟨lines, split, isOpen⟩ := midway.agreed agrees
  refine ⟨p.lines, lines, text, p.line ++ [0x0A], rfl, by rw [split, List.append_assoc], isOpen, isLine, room, ?_⟩
  rw [midway.total] at total
  simpa using total

theorem feed_open {texts lines : List Bytes} (isOpen : Open code texts lines) (start : p.line = [])
    (agrees : p.Agrees code) (room : p.lines.length + texts.length ≤ maxLines)
    (total : p.total + lines.flatten.length ≤ maxTotal) :
    ∃ after, p.feed lines.flatten = some after ∧ after.line = [] ∧ after.lines = p.lines ++ texts ∧
      after.Agrees code ∧ after.total = p.total + lines.flatten.length := by
  induction isOpen generalizing p with
  | nil => exact ⟨p, rfl, start, by simp, agrees, rfl⟩
  | @cons text line texts lines isLine _ ih =>
    rw [List.flatten_cons, List.length_append] at total
    rw [List.length_cons] at room
    obtain ⟨content, before, rfl, fed, pushed⟩ := push_line isLine start agrees (by omega) (by omega)
    obtain ⟨after, rest_fed, line, texts, agrees, sum⟩ :=
      ih (p := ⟨[], p.lines ++ [text], some code, p.total + (content ++ [0x0A]).length⟩) rfl (.inr rfl)
        (by simp; omega) (by dsimp only; omega)
    refine ⟨after, ?_, line, by rw [texts]; simp, agrees, ?_⟩
    · rw [List.flatten_cons, feed_append, feed_snoc fed pushed]
      exact rest_fed
    · simp only [sum, List.flatten_cons, List.length_append, Nat.add_assoc]

/-- The parser completes exactly the replies of the grammar, each with its last byte. -/
theorem isReply_iff : IsReply reply bytes ↔ Parses bytes reply := by
  constructor
  · obtain ⟨code, replyLines⟩ := reply
    rintro ⟨texts, lines, text, last, rfl, rfl, isOpen, isLine, few, bounded⟩
    rw [List.length_append] at bounded
    obtain ⟨after, fed, line, after_lines, agrees, total⟩ := feed_open (p := fresh) isOpen rfl (.inl rfl)
      (by simp only [fresh, List.length_nil]; omega) (by simp only [fresh]; omega)
    simp only [fresh, List.nil_append, Nat.zero_add] at after_lines total
    obtain ⟨content, before, rfl, last_fed, pushed⟩ := push_line isLine line agrees (by rw [after_lines]; exact few)
      (by omega)
    refine ⟨lines.flatten ++ content, 0x0A, before, by rw [List.append_assoc], ?_, ?_⟩
    · rw [feed_append, fed]
      exact last_fed
    · rw [pushed, ended, after_lines]
      rfl
  · rintro ⟨init, last, p, rfl, fed, pushed⟩
    exact (Midway.fresh.feed fed).completes pushed

/-! ## Streams -/

/-- What the parser returns for the bytes of a stream, up to an error, and the parser after them unless there was
one. -/
def run (p : ReplyParser) : Bytes → List (Option Reply) × Option ReplyParser
  | [] => ([], some p)
  | byte :: rest =>
    match p.push byte with
    | none => ([], none)
    | some (p, out) => (out :: (p.run rest).1, (p.run rest).2)

theorem run_push (pushed : p.push byte = some (p', out)) (rest : Bytes) :
    p.run (byte :: rest) = (out :: (p'.run rest).1, (p'.run rest).2) := by
  rw [run, pushed]

theorem run_feed {left : Bytes} (fed : p.feed left = some p') (right : Bytes) :
    p.run (left ++ right) = (List.replicate left.length none ++ (p'.run right).1, (p'.run right).2) := by
  induction left generalizing p with
  | nil =>
    cases fed
    rfl
  | cons byte left ih =>
    rw [feed] at fed
    split at fed
    · next next pushed =>
      rw [List.cons_append, run_push pushed, ih fed]
      rfl
    · cases fed

theorem run_reply (isReply : IsReply reply bytes) (rest : Bytes) :
    fresh.run (bytes ++ rest) =
      (List.replicate (bytes.length - 1) none ++ [some reply] ++ (fresh.run rest).1, (fresh.run rest).2) := by
  obtain ⟨init, last, p, rfl, fed, pushed⟩ := isReply_iff.mp isReply
  rw [List.append_assoc, run_feed fed, List.singleton_append, run_push pushed]
  simp

/-- A stream without a reply: the parser is quiet up to an error. -/
theorem run_quiet
    (silent : ∀ t last p' next reply, t ++ [last] <+: bytes → p.feed t = some p' →
      p'.push last ≠ some (next, some reply)) :
    ∃ quiet ≤ bytes.length, (p.run bytes).1 = List.replicate quiet none ∧
      ((p.run bytes).2 = none ↔ quiet < bytes.length) ∧
      ∀ t, t <+: bytes → t.length ≤ quiet → ∃ p', p.feed t = some p' := by
  induction bytes generalizing p with
  | nil => exact ⟨0, Nat.le_refl 0, rfl, by simp [run], fun t front _ => ⟨p, by rw [List.prefix_nil.mp front]; rfl⟩⟩
  | cons byte rest ih =>
    cases pushed : p.push byte with
    | none =>
      refine ⟨0, Nat.zero_le _, by simp [run, pushed], by simp [run, pushed], fun t _ short => ⟨p, ?_⟩⟩
      rw [List.length_eq_zero_iff.mp (Nat.le_zero.mp short)]
      rfl
    | some result =>
      obtain ⟨next, out⟩ := result
      cases out with
      | some reply => exact absurd pushed (silent [] byte p next reply ⟨rest, rfl⟩ rfl)
      | none =>
        obtain ⟨quiet, bound, outputs, failed, fed⟩ := ih (p := next) fun t last p' after reply front reached => by
          refine silent (byte :: t) last p' after reply (List.cons_prefix_cons.mpr ⟨rfl, front⟩) ?_
          rw [feed, pushed]
          exact reached
        rw [run_push pushed]
        refine ⟨quiet + 1, by simpa using bound, by rw [outputs]; rfl, by simpa using failed, fun t front short => ?_⟩
        cases t with
        | nil => exact ⟨p, rfl⟩
        | cons first t =>
          obtain ⟨rfl, inner⟩ := List.cons_prefix_cons.mp front
          obtain ⟨p', reached⟩ := fed t inner (by simpa using short)
          exact ⟨p', by rw [feed, pushed]; exact reached⟩

def EndsLine (bytes : Bytes) : Prop := bytes.getLast? = some 0x0A

theorem Midway.lines_end (midway : Midway bytes p) (ends : EndsLine bytes) :
    ∃ code lines, bytes = lines.flatten ∧ Open code p.lines lines := by
  obtain ⟨code, lines, split, isOpen, -⟩ := midway.lines
  suffices empty : p.line = [] by
    rw [empty, List.append_nil] at split
    exact ⟨code, lines, split, isOpen⟩
  by_contra some_line
  rw [split, EndsLine, List.getLast?_append_of_ne_nil _ some_line] at ends
  exact (midway.plain _ (List.mem_of_getLast? ends)).1 rfl

/-- Lines that end stand before the last line, if that begins after them. -/
theorem begins_of_endsLine {front content : Bytes} (ends : EndsLine bytes) (line : EndsLine rest)
    (same : bytes ++ rest = front ++ (content ++ [0x0A])) (plain : ∀ byte ∈ content, IsReplyByte byte) :
    bytes <+: front := by
  rcases List.append_eq_append_iff.mp same with ⟨middle, rfl, -⟩ | ⟨middle, rfl, split⟩
  · exact ⟨middle, rfl⟩
  cases middle with
  | nil => simp
  | cons first middle =>
    -- The line feed of the first part would be inside the last line.
    obtain ⟨rest, rfl⟩ := List.getLast?_eq_some_iff.mp line
    rw [← List.append_assoc] at split
    have inside := (List.append_inj' split rfl).1
    rw [EndsLine, List.getLast?_append_of_ne_nil _ (by simp)] at ends
    refine absurd rfl (plain 0x0A ?_).1
    rw [inside]
    exact List.mem_append_left _ (List.mem_of_getLast? ends)

/-- Lines after which another one is taken begin a reply. -/
theorem Midway.viable (midway : Midway (bytes ++ rest) p) (ends : EndsLine bytes) (line : EndsLine rest) :
    ∃ reply raw, IsReply reply raw ∧ bytes <+: raw := by
  have whole : EndsLine (bytes ++ rest) := by
    rw [EndsLine, List.getLast?_append, line]
    rfl
  obtain ⟨code, lines, split, isOpen⟩ := midway.lines_end whole
  rcases List.eq_nil_or_concat lines with rfl | ⟨init, final, rfl⟩
  · rw [split] at whole
    cases whole
  rw [List.concat_eq_append] at split isOpen
  have before := List.forall₂_take_append _ _ _ isOpen
  have finals := List.forall₂_drop_append _ _ _ isOpen
  generalize taken : p.lines.take init.length = texts at before
  generalize dropped : p.lines.drop init.length = lasts at finals
  cases finals with
  | @cons text _ _ _ isLine none =>
    cases none
    have texts_eq : p.lines = texts ++ [text] := by rw [← taken, ← dropped, List.take_append_drop]
    obtain ⟨last, isLast, same⟩ := isLine.last
    obtain ⟨content, rfl, plain, -⟩ := isLine.shape
    rw [List.flatten_append, List.flatten_singleton] at split
    refine ⟨⟨code, texts ++ [text]⟩, init.flatten ++ last,
      ⟨texts, init, text, last, rfl, rfl, before, isLast, ?_, ?_⟩, ?_⟩
    · have few := midway.few
      rw [texts_eq, List.length_append] at few
      exact few
    · have bounded := midway.bounded
      rw [split, List.length_append, ← same] at bounded
      rwa [List.length_append]
    · exact (begins_of_endsLine ends line split plain).trans (List.prefix_append _ _)

/-- What the parser makes of a stream: the replies in it, and then bytes that do not begin with one, of which it takes
so many before it reports an error. -/
structure StreamOf (bytes : Bytes) (replies : List (Reply × Bytes)) (rest : Bytes) (quiet : Nat) : Prop where
  split : bytes = replies.flatMap Prod.snd ++ rest
  isReply : ∀ each ∈ replies, IsReply each.1 each.2
  noReply : ∀ reply raw, IsReply reply raw → ¬raw <+: rest
  outputs : (fresh.run bytes).1 =
    replies.flatMap (fun each => List.replicate (each.2.length - 1) none ++ [some each.1]) ++ List.replicate quiet none
  bound : quiet ≤ rest.length
  failed : (fresh.run bytes).2 = none ↔ quiet < rest.length
  /-- A line that is taken is one of those before the last of a reply, within the limits. -/
  prompt : ∀ t, t <+: rest → EndsLine t → t.length ≤ quiet →
    ∃ code texts lines, t = lines.flatten ∧ Open code texts lines ∧ texts.length ≤ maxLines ∧ t.length ≤ maxTotal
  /-- The line after one that no reply can contain is not taken. -/
  timely : ∀ t u, t ++ u <+: rest → EndsLine t → EndsLine u → (∀ reply raw, IsReply reply raw → ¬t <+: raw) →
    quiet < (t ++ u).length

theorem stream_rest (noReply : ∀ reply raw, IsReply reply raw → ¬raw <+: rest) :
    ∃ quiet, StreamOf rest [] rest quiet := by
  have silent : ∀ t last p' next reply, t ++ [last] <+: rest → fresh.feed t = some p' →
      p'.push last ≠ some (next, some reply) := fun t last p' next reply front reached pushed =>
    noReply reply _ (isReply_iff.mpr (.of_push reached pushed)) front
  obtain ⟨quiet, bound, outputs, failed, fed⟩ := run_quiet silent
  refine ⟨quiet, rfl, by simp, noReply, outputs, bound, failed, ?_, ?_⟩
  · intro t front ends short
    obtain ⟨p, reached⟩ := fed t front short
    have midway := Midway.fresh.feed reached
    obtain ⟨code, lines, split, isOpen⟩ := midway.lines_end ends
    exact ⟨code, p.lines, lines, split, isOpen, midway.few, midway.bounded⟩
  · intro t u front ends line dead
    by_contra taken
    obtain ⟨p, reached⟩ := fed (t ++ u) front (Nat.le_of_not_lt taken)
    obtain ⟨reply, raw, isReply, begins⟩ := (show Midway (t ++ u) p from Midway.fresh.feed reached).viable ends line
    exact dead reply raw isReply begins

/-- What the parser makes of any stream. -/
theorem run_stream (bytes : Bytes) :
    (∀ reply raw, IsReply reply raw ↔ Parses raw reply) ∧ ∃ replies rest quiet, StreamOf bytes replies rest quiet := by
  refine ⟨fun reply raw => isReply_iff, ?_⟩
  induction length : bytes.length using Nat.strong_induction_on generalizing bytes with
  | _ n ih =>
    by_cases found : ∃ reply raw, IsReply reply raw ∧ raw <+: bytes
    · obtain ⟨reply, raw, isReply, after, rfl⟩ := found
      have shorter : after.length < n := by
        obtain ⟨init, last, -, rfl, -⟩ := isReply_iff.mp isReply
        rw [← length, List.length_append, List.length_append, List.length_singleton]
        omega
      obtain ⟨replies, rest, quiet, stream⟩ := ih _ shorter after rfl
      refine ⟨(reply, raw) :: replies, rest, quiet,
        { stream with split := ?_, isReply := ?_, outputs := ?_, failed := ?_ }⟩
      · rw [List.flatMap_cons, List.append_assoc, ← stream.split]
      · exact List.forall_mem_cons.mpr ⟨isReply, stream.isReply⟩
      · rw [run_reply isReply, stream.outputs, List.flatMap_cons]
        simp only [List.append_assoc]
      · rw [run_reply isReply, ← stream.failed]
    · obtain ⟨quiet, stream⟩ := stream_rest fun reply raw isReply front => found ⟨reply, raw, isReply, front⟩
      exact ⟨[], bytes, quiet, stream⟩

/-! ## The limit on the number of lines -/

/-- As many lines as a reply may have, of which each announces another one. -/
def fullLines : Bytes := (List.replicate maxLines (ascii "250-\r\n")).flatten

theorem lines_le_of_feed (fed : p.feed bytes = some p') : p.lines.length ≤ p'.lines.length := by
  induction bytes generalizing p with
  | nil =>
    cases fed
    exact Nat.le_refl _
  | cons byte rest ih =>
    rw [feed] at fed
    split at fed
    · next next pushed =>
      refine Nat.le_trans ?_ (ih fed)
      obtain ⟨-, -, ⟨-, rfl, -⟩ | ⟨-, code, more, text, -, -, -, done⟩⟩ := push_cases pushed
      · exact Nat.le_refl _
      · cases more <;> cases done
        simp
    · cases fed

/-- No reply begins with these lines, and the parser takes the last of them. -/
theorem a_full_reply_goes_on :
    (∀ reply raw, IsReply reply raw → ¬fullLines <+: raw) ∧ (fresh.run fullLines).2 ≠ none := by
  have alive : ((fresh.feed fullLines).map fun p => p.lines.length) = some maxLines := by decide +kernel
  obtain ⟨full, fed, count⟩ := Option.map_eq_some_iff.mp alive
  constructor
  · intro reply raw isReply front
    obtain ⟨init, last, p, rfl, reached, pushed⟩ := isReply_iff.mp isReply
    rcases List.prefix_concat_iff.mp front with whole | ⟨middle, rfl⟩
    · rw [whole, feed_append, reached, Option.bind_some, feed, pushed] at fed
      cases fed
    rw [feed_append, fed, Option.bind_some] at reached
    have many := lines_le_of_feed reached
    obtain ⟨-, -, ⟨-, -, none⟩ | ⟨-, code, more, text, -, -, room, -⟩⟩ := push_cases pushed
    · cases none
    · omega
  · have ran := run_feed fed []
    rw [List.append_nil] at ran
    rw [ran]
    exact Option.some_ne_none _

end ReplyParser

end NbReq.Smtp
