import Conform.Number.Reading

/-!
Tables over code points, written as words of hexadecimal digits and searched by halving.
-/

namespace Conform.Unicode

variable {α : Type}

/-- Entries in the order of their keys. -/
abbrev Table (α : Type) := Array (Nat × α)

namespace Table

/-- The place of the first entry from `low` to before `high` that has a key above `n`, or `high`. -/
def placeAbove (t : Table α) (n low high : Nat) : Nat :=
  if low < high then
    let middle := (low + high) / 2
    match t[middle]? with
    | some (key, _) =>
      if key ≤ n then placeAbove t n (middle + 1) high else placeAbove t n low middle
    | none => low
  else low
termination_by high - low

/-- The last entry with a key of at most `n`. -/
def floor? (t : Table α) (n : Nat) : Option (Nat × α) :=
  match t.placeAbove n 0 t.size with
  | 0 => none
  | i + 1 => t[i]?

/-- The entry at a key. -/
def get? (t : Table α) (n : Nat) : Option α :=
  match t.floor? n with
  | some (key, a) => if key = n then some a else none
  | none => none

end Table

/-- The first code point of each range, with its last. -/
abbrev Ranges := Table Nat

def words (text : String) : List (List Char) :=
  (text.toList.splitOnP fun c => c = ' ' || c = '\n').filter (!·.isEmpty)

def hexNumber (cs : List Char) : Nat := cs.foldl (fun n c => 16 * n + (hexValue? c).getD 0) 0

/-- A range, of which a single code point is written once. -/
def rangeOfWord (word : List Char) : Nat × Nat :=
  let (first, last) := word.span (· ≠ '-')
  (hexNumber first, hexNumber (if last.isEmpty then first else last.drop 1))

def Ranges.ofText (text : String) : Ranges := ((words text).map rangeOfWord).toArray

def Ranges.contains (t : Ranges) (c : Char) : Bool :=
  match Table.floor? t c.toNat with
  | some (_, last) => c.toNat ≤ last
  | none => false

end Conform.Unicode
