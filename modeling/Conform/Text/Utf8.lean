import Conform.Text.Quoted

/-!
Where bytes are no text in UTF-8. Decoding stops at the first byte that begins no character, or at
the bytes that begin one which is not completed.
-/

namespace Conform.Utf8

inductive Reason where
  | invalidStart
  | invalidContinuation
  | unexpectedEnd
deriving DecidableEq, Repr

def Reason.text : Reason → String
  | invalidStart => "invalid start byte"
  | invalidContinuation => "invalid continuation byte"
  | unexpectedEnd => "unexpected end of data"

/-- The bytes from `start` to before `stop`, of which `first` is the first. -/
structure Fault where
  start : Nat
  stop : Nat
  first : UInt8
  reason : Reason
deriving DecidableEq, Repr

def Fault.message (f : Fault) : String :=
  let place :=
    if f.stop = f.start + 1 then
      "byte 0x" ++ String.ofList (hexDigits 2 f.first.toNat) ++ " in position " ++ toString f.start
    else "bytes in position " ++ toString f.start ++ "-" ++ toString (f.stop - 1)
  "'utf-8' codec can't decode " ++ place ++ ": " ++ f.reason.text

/-- How many bytes follow the first byte of a character. -/
def tailLength? (b : UInt8) : Option Nat :=
  if b < 0x80 then some 0
  else if b < 0xC2 then none
  else if b < 0xE0 then some 1
  else if b < 0xF0 then some 2
  else if b < 0xF5 then some 3
  else none

def isTail (b : UInt8) : Bool := 0x80 ≤ b && b < 0xC0

/-- A second byte is restricted where the character would be too short for its form, a half of
one, or none at all. -/
def isSecond (first b : UInt8) : Bool :=
  isTail b && (first ≠ 0xE0 || 0xA0 ≤ b) && (first ≠ 0xED || b < 0xA0) &&
    (first ≠ 0xF0 || 0x90 ≤ b) && (first ≠ 0xF4 || b < 0x90)

/-- How many of the bytes after the first one go on with its character. -/
def goodTail (first : UInt8) : List UInt8 → Nat
  | [] => 0
  | b :: rest => if isSecond first b then 1 + (rest.takeWhile isTail).length else 0

/-- The first fault, in bytes that begin at an offset. -/
def fault? (offset : Nat) : List UInt8 → Option Fault
  | [] => none
  | b :: rest =>
    match tailLength? b with
    | none => some ⟨offset, offset + 1, b, .invalidStart⟩
    | some n =>
      let tail := rest.take n
      let good := goodTail b tail
      if good = n then fault? (offset + 1 + n) (rest.drop n)
      else some ⟨offset, offset + 1 + good, b,
        if good = tail.length then .unexpectedEnd else .invalidContinuation⟩
termination_by bs => bs.length
decreasing_by grind

/-- Cuts bytes into blocks. -/
def blocks (size : Nat) : Nat → List UInt8 → List (List UInt8)
  | 0, _ => []
  | fuel + 1, bs => if bs.isEmpty then [] else bs.take size :: blocks size fuel (bs.drop size)

/-- The first fault where bytes are decoded block by block: offsets count from the start of the
block, or from the character that the block before it left unfinished. -/
def faultInBlocks? (unfinished : List UInt8) : List (List UInt8) → Option Fault
  | [] => fault? 0 unfinished
  | block :: rest =>
    match fault? 0 (unfinished ++ block) with
    | none => faultInBlocks? [] rest
    | some f =>
      if f.reason = .unexpectedEnd then faultInBlocks? ((unfinished ++ block).drop f.start) rest
      else some f

end Conform.Utf8
