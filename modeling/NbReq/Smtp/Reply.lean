import NbReq.Request

/-!
# SMTP replies

`smtp/src/reply.rs`: the parser that takes the bytes of a reply one at a time, and what the client reads off a reply.
-/

namespace NbReq.Smtp

/-- `client::ReplySummary`. -/
structure ReplySummary where
  code : Nat
  text : Bytes
deriving DecidableEq, Repr

/-- `reply::Reply`. -/
structure Reply where
  code : Nat
  lines : List Bytes
deriving DecidableEq, Repr

def Reply.summary (reply : Reply) : ReplySummary := ⟨reply.code, [0x0A].intercalate reply.lines⟩

/-- The first word of `split_ascii_whitespace`. -/
def firstWord (line : Bytes) : Option Bytes :=
  let word := (line.dropWhile isAsciiWhitespace).takeWhile fun byte => !isAsciiWhitespace byte
  if word.isEmpty then none else some word

def Reply.advertises (reply : Reply) (extension : Bytes) : Bool :=
  reply.lines.tail.any fun line => (firstWord line).any fun word => eqIgnoreAsciiCase word extension

/-- `reply::ReplyParser`. -/
structure ReplyParser where
  line : Bytes
  lines : List Bytes
  code : Option Nat
  total : Nat
deriving DecidableEq, Repr

def maxLine : Nat := 512

def maxTotal : Nat := 8 * 1024

def maxLines : Nat := 32

def textByte (byte : UInt8) : Bool := byte == 0x09 || (0x20 ≤ byte && byte ≤ 0x7E)

namespace ReplyParser

/-- `ReplyParser::default`. -/
def fresh : ReplyParser := ⟨[], [], none, 0⟩

def lineCode (line : Bytes) : Option Nat :=
  match line with
  | a :: b :: c :: _ =>
    if 0x32 ≤ a && a ≤ 0x35 && 0x30 ≤ b && b ≤ 0x35 && 0x30 ≤ c && c ≤ 0x39 then
      some ((a.toNat - 0x30) * 100 + (b.toNat - 0x30) * 10 + (c.toNat - 0x30))
    else none
  | _ => none

/-- The part of `ReplyParser::push` after a line feed, with the line feed in `line`. -/
def endLine (p : ReplyParser) : Option (ReplyParser × Option Reply) :=
  let bareCode := p.line.length = 5
  let separator := (p.line.drop 3).head?
  let text := (p.line.drop 4).take (p.line.length - 6)
  if p.line.length < 5 ∨ (p.line.drop (p.line.length - 2)).head? ≠ some 0x0D then none
  else match lineCode p.line with
    | none => none
    | some code =>
      if ¬bareCode ∧ separator ≠ some 0x2D ∧ separator ≠ some 0x20 then none
      else if ¬bareCode ∧ text.any (!textByte ·) then none
      else if p.code.any (· ≠ code) then none
      else if p.lines.length ≥ maxLines then none
      else
        let lines := p.lines ++ [if bareCode then [] else text]
        if bareCode ∨ separator = some 0x20 then some (fresh, some ⟨code, lines⟩)
        else some ({ p with line := [], lines := lines, code := some code }, none)

/-- `ReplyParser::push`; `none` is the error, after which the client does not use the parser again. -/
def push (p : ReplyParser) (byte : UInt8) : Option (ReplyParser × Option Reply) :=
  let p := { p with total := p.total + 1 }
  if p.total > maxTotal ∨ p.line.length ≥ maxLine then none
  else
    let p := { p with line := p.line ++ [byte] }
    if byte ≠ 0x0A then
      if byte ≠ 0x0D ∧ !textByte byte then none else some (p, none)
    else p.endLine

/-- The parser after bytes that do not complete a reply. -/
def feed (p : ReplyParser) : Bytes → Option ReplyParser
  | [] => some p
  | byte :: rest =>
    match p.push byte with
    | some (p, none) => p.feed rest
    | _ => none

/-- The bytes are one reply: a parser that has read nothing completes it with the last byte and not before. -/
def Parses (bytes : Bytes) (reply : Reply) : Prop :=
  ∃ init last p, bytes = init ++ [last] ∧ fresh.feed init = some p ∧ p.push last = some (fresh, some reply)

variable {p p' : ReplyParser} {byte : UInt8} {bytes : Bytes} {reply : Reply}

theorem feed_append (p : ReplyParser) (left right : Bytes) :
    p.feed (left ++ right) = (p.feed left).bind fun p => p.feed right := by
  induction left generalizing p with
  | nil => rfl
  | cons byte rest ih =>
    rw [List.cons_append, feed, feed]
    split
    · exact ih _
    · rfl

theorem feed_snoc (fed : p.feed bytes = some p') {next : ReplyParser} (pushed : p'.push byte = some (next, none)) :
    p.feed (bytes ++ [byte]) = some next := by
  rw [feed_append, fed, Option.bind_some, feed, pushed]
  rfl

/-- A parser that completes a reply is as before its first byte. -/
theorem push_complete (pushed : p.push byte = some (p', some reply)) : p' = fresh := by
  unfold push at pushed
  dsimp only at pushed
  split at pushed
  · cases pushed
  split at pushed
  · split at pushed <;> cases pushed
  unfold endLine at pushed
  dsimp only at pushed
  repeat' split at pushed
  all_goals cases pushed
  all_goals rfl

theorem Parses.of_push (fed : fresh.feed bytes = some p) (pushed : p.push byte = some (p', some reply)) :
    Parses (bytes ++ [byte]) reply :=
  ⟨bytes, byte, p, rfl, fed, push_complete pushed ▸ pushed⟩

/-- `250-a`, `250 b` is one reply of two lines, and not two. -/
example : Parses (ascii "250-a\r\n250 b\r\n") ⟨250, [ascii "a", ascii "b"]⟩ :=
  ⟨ascii "250-a\r\n250 b\r", 0x0A, ⟨ascii "250 b\r", [ascii "a"], some 250, 13⟩, by decide, by decide, by decide⟩

end ReplyParser

end NbReq.Smtp
