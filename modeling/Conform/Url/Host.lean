import Conform.Number.Reading
import Conform.Url.Domain

/-!
Hosts: addresses in four or in eight parts, and names.
-/

namespace Conform.Url

/-- The value of digits in a base; no digits are zero. -/
def inBase? (base : Nat) (cs : List Char) : Option Nat :=
  cs.foldlM (fun n c =>
    (hexValue? c).bind fun d => if d < base then some (base * n + d) else none) 0

/-- A part of an address: decimal, octal after a zero, or hexadecimal after a zero and an `x`. -/
def part? : List Char → Option Nat
  | [] => none
  | '0' :: 'x' :: cs => inBase? 16 cs
  | '0' :: 'X' :: cs => inBase? 16 cs
  | ['0'] => some 0
  | '0' :: cs => inBase? 8 cs
  | cs => inBase? 10 cs

/-- The labels without an empty one at the end, unless it is the only one. -/
def dropEmptyEnd (labels : List (List Char)) : List (List Char) :=
  if labels.getLast? = some [] && 1 < labels.length then labels.dropLast else labels

/-- A name whose last label is a number has to be an address. -/
def endsInNumber (labels : List (List Char)) : Bool :=
  match (dropEmptyEnd labels).getLast? with
  | none | some [] => false
  | some last => last.all (fun c => (digit? c).isSome) || (part? last).isSome

/-- An address of one to four parts; the last one fills the bytes that are left. -/
def isAddress4 (labels : List (List Char)) : Bool :=
  let parts := dropEmptyEnd labels
  match parts.mapM part? with
  | none => false
  | some ns =>
    parts.length ≤ 4 && ns.dropLast.all (· < 256) &&
      ns.getLast?.any (· < 256 ^ (5 - parts.length))

/-- A decimal byte without zeros before it. -/
def isByte (cs : List Char) : Bool :=
  match inBase? 10 cs with
  | some n => !cs.isEmpty && n < 256 && (cs.length = 1 || cs.head? ≠ some '0')
  | none => false

/-- How many of the eight pieces of an address a group is: one of up to four hexadecimal digits, or
two at the end for four bytes with dots. -/
def pieceCount? : List (List Char) → Option Nat
  | [] => some 0
  | [last] =>
    if last.contains '.' then
      let bytes := last.splitOn '.'
      if bytes.length = 4 && bytes.all isByte then some 2 else none
    else single last
  | group :: rest => do return (← single group) + (← pieceCount? rest)
where
  single (cs : List Char) : Option Nat :=
    if 1 ≤ cs.length && cs.length ≤ 4 && cs.all (fun c => (hexValue? c).isSome) then some 1
    else none

/-- The groups between single colons. -/
def groups (cs : List Char) : List (List Char) := if cs.isEmpty then [] else cs.splitOn ':'

/-- What stands before and after the first two colons in a row. -/
def splitGap : List Char → Option (List Char × List Char)
  | ':' :: ':' :: cs => some ([], cs)
  | c :: cs => (splitGap cs).map fun (before, after) => (c :: before, after)
  | [] => none

/-- An address of eight pieces; two colons in a row stand for one zero piece or more. -/
def isAddress6 (cs : List Char) : Bool :=
  match splitGap cs with
  | none => pieceCount? (groups cs) = some 8
  | some (before, after) =>
    !before.contains '.' &&
      match pieceCount? (groups before), pieceCount? (groups after) with
      | some m, some n => m + n ≤ 7
      | _, _ => false

/-- The bytes of a text in which a percent sign and two hexadecimal digits stand for a byte. -/
def percentDecode : List Char → List UInt8
  | [] => []
  | '%' :: a :: b :: cs =>
    match hexValue? a, hexValue? b with
    | some m, some n => (16 * m + n).toUInt8 :: percentDecode cs
    | _, _ => 37 :: percentDecode (a :: b :: cs)
  | c :: cs => (String.singleton c).toUTF8.toList ++ percentDecode cs

/-- An address in brackets. -/
def isBracketed (cs : List Char) : Bool :=
  cs.getLast? = some ']' && isAddress6 (cs.drop 1).dropLast

/-- A host of a scheme that knows about domains. -/
def isHost (cs : List Char) : Bool :=
  if cs.head? = some '[' then isBracketed cs
  else match String.fromUTF8? ⟨(percentDecode cs).toArray⟩ with
    | none => false
    | some name =>
      match labels? name.toList with
      | none => false
      | some labels => !endsInNumber labels || isAddress4 labels

/-- A host of any other scheme. -/
def isOpaqueHost (cs : List Char) : Bool :=
  if cs.head? = some '[' then isBracketed cs
  else cs.all fun c => !(c.toNat = 0 || " \t\n\r#/:<>?@[\\]^|".toList.contains c)

end Conform.Url
