/-!
Labels of domain names in ASCII form: the letters that are ASCII, a hyphen, and digits in base 36
that say where which other characters are inserted.
-/

namespace Conform.Url.Punycode

def digit? (c : Char) : Option Nat :=
  if 'a' ≤ c && c ≤ 'z' then some (c.toNat - 97)
  else if 'A' ≤ c && c ≤ 'Z' then some (c.toNat - 65)
  else if '0' ≤ c && c ≤ '9' then some (c.toNat - 22)
  else none

/-- The least digit that does not end a number. -/
def threshold (position bias : Nat) : Nat := max 1 (min 26 (position - bias))

/-- Divides until the quotient is small, and counts the divisions; 32 are enough for any number
that is read. -/
def reduce : Nat → Nat → Nat → Nat × Nat
  | 0, n, k => (n, k)
  | fuel + 1, n, k => if 455 < n then reduce fuel (n / 35) (k + 36) else (n, k)

/-- The bias after a number that was read before `size` characters were there. -/
def adapt (delta size : Nat) (first : Bool) : Nat :=
  let d := if first then delta / 700 else delta / 2
  let (d, k) := reduce 32 (d + d / size) 0
  k + 36 * d / (d + 38)

/-- The characters so far, the code point and the place of the next insertion, and of the number
that is being read the place it counts from, its weight and the position of its next digit. -/
structure State where
  sofar : List Char
  code : Nat := 128
  place : Nat := 0
  bias : Nat := 72
  origin : Nat := 0
  weight : Nat := 1
  position : Nat := 36

/-- Inserts the character that a complete number stands for. -/
def State.insert (s : State) (place : Nat) : Option State :=
  let size := s.sofar.length + 1
  let code := s.code + place / size
  let at' := place % size
  if code < 0x110000 && !(0xD800 ≤ code && code < 0xE000) then
    some {
      sofar := s.sofar.insertIdx at' (Char.ofNat code)
      code, place := at' + 1, origin := at' + 1
      bias := adapt (place - s.origin) size (s.origin = 0) }
  else none

def State.step (s : State) (c : Char) : Option State := do
  let d ← digit? c
  let place := s.place + d * s.weight
  if 0x100000000 ≤ place then none
  else
    let t := threshold s.position s.bias
    if d < t then s.insert place
    else some { s with place, weight := s.weight * (36 - t), position := s.position + 36 }

/-- The label that a text stands for; its last number has to be complete. -/
def decode? (cs : List Char) : Option (List Char) := do
  let tail := (cs.reverse.takeWhile (· ≠ '-')).reverse
  let head := cs.take (cs.length - tail.length - 1)
  let digits := if head.isEmpty then cs else tail
  let s ← digits.foldlM State.step { sofar := head }
  if s.position = 36 then some s.sofar else none

end Conform.Url.Punycode
