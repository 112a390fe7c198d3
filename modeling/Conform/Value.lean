import Conform.Fault
import Conform.Number.Binary64
import Conform.Time.Calendar

/-!
The values that guards and schemas look at: plain data, and objects that can only be asked for
their fields.
-/

namespace Conform

/-- What goes wrong when an object is asked for its fields. -/
structure Trouble where
  /-- Fields that are there and cannot be read. -/
  unreadable : List (String × Complaint) := []
  /-- How reading a field ends that is not there, where it does not just find nothing. -/
  elsewhere : Option Complaint := none
  /-- What keeps the fields from being listed. -/
  listing : Option Complaint := none
  /-- What comes after the last field in the list, where the list breaks off. -/
  breakOff : Option Complaint := none
  /-- What keeps the object from being shown. -/
  display : Option Complaint := none

inductive Value where
  | null
  /-- What stands at a key that is absent. -/
  | undefined
  | bool (b : Bool)
  | int (n : Int)
  | float (x : Binary64)
  | complex (re im : Binary64)
  | text (s : String)
  /-- A text with lone halves of characters, here replaced. It equals no other text. -/
  | brokenText (s : String)
  | bytes (bs : List UInt8)
  | list (items : List Value)
  /-- A sequence that is never equal to a list. -/
  | tuple (items : List Value)
  /-- Entries in order; each key occurs once. -/
  | map (entries : List (Value × Value))
  /-- A mapping that cannot be changed, and is no plain map. -/
  | frozenMap (entries : List (Value × Value))
  /-- A mapping of which every look-up fails with this message. -/
  | brokenMap (message : String)
  /-- An object with named fields. -/
  | record (fields : List (String × Value))
  /-- An object without fields. -/
  | opaqueObject
  /-- An object with named fields that does not answer for all of them. -/
  | trap (fields : List (String × Value)) (trouble : Trouble)
  | function (name : String)
  | moment (m : Moment)
  | date (d : Date)
  /-- A constant of an enumeration, with the value it stands for, its place among the constants, and
  what all of them stand for. -/
  | symbol (type name : String) (payload : Value) (place : Nat) (payloads : List Value)
  /-- A constant of an enumeration of whole numbers, which is a whole number itself. -/
  | namedInt (type name : String) (n : Int) (place : Nat) (payloads : List Int)
  /-- An enumeration as a whole, with what its constants stand for. The constants of some are whole
  numbers themselves. -/
  | enumeration (name : String) (numbers : Bool) (payloads : List Value)

namespace Value

/-- The exact numeric value, as a real and an imaginary part. Truth values count as 0 and 1. -/
def numeric? : Value → Option (Binary64 × Binary64)
  | bool b => some (.finite (if b then 1 else 0), .finite 0)
  | int n | namedInt _ _ n .. => some (.finite (Dyadic.ofInt n), .finite 0)
  | float x => some (x, .finite 0)
  | complex re im => some (re, im)
  | _ => none

/-- The map with the given texts as keys. -/
def ofFields (fields : List (String × Value)) : Value := map (fields.map fun f => (text f.1, f.2))

/-- A whole number that is not a truth value. -/
def int? : Value → Option Int
  | int n | namedInt _ _ n .. => some n
  | _ => none

/-- The entries of a mapping that can be looked into. -/
def entries? : Value → Option (List (Value × Value))
  | map es | frozenMap es => some es
  | _ => none

def isMapping : Value → Bool
  | map _ | frozenMap _ | brokenMap _ => true
  | _ => false

/-- The elements of a list or tuple. -/
def items? : Value → Option (List Value)
  | list xs | tuple xs => some xs
  | _ => none

def isArray (v : Value) : Bool := v.items?.isSome

def isCallable : Value → Bool
  | function _ | enumeration .. => true
  | _ => false

/-- Anything but absence, scalars and what can be called. -/
def isObject : Value → Bool
  | null | undefined | bool _ | int _ | float _ | complex .. | text _ | brokenText _
    | bytes _ | namedInt .. => false
  | v => !v.isCallable

/-- A finite number; truth values are none. -/
def isNumber : Value → Bool
  | int _ | namedInt .. => true
  | float x => x.isFinite
  | _ => false

/-- How a value counts where a truth value is wanted. -/
def truthy : Value → Bool
  | null | undefined => false
  | bool b => b
  | int n | namedInt _ _ n .. => n ≠ 0
  | float x => x.truthy
  | complex re im => re.truthy || im.truthy
  | text s => s ≠ ""
  | bytes bs => !bs.isEmpty
  | list xs | tuple xs => !xs.isEmpty
  | map es | frozenMap es => !es.isEmpty
  | _ => true

end Value

end Conform
