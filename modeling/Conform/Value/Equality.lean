import Conform.Fault
import Conform.Value

/-!
Equality of values, and strict equality, which in addition tells truth values from numbers and one
type from another at the top.
-/

namespace Conform.Value

/-- The kinds among which equality is decided by structure. -/
inductive Kind where
  | null | undefined | bool | int | float | complex | text | bytes | list | tuple | map | frozenMap
  | brokenMap | record | opaqueObject | trap | function | moment | date
  | member (type : String) | enumeration
deriving DecidableEq, Repr

def kind : Value → Kind
  | .null => .null
  | .undefined => .undefined
  | .bool _ => .bool
  | .int _ => .int
  | .float _ => .float
  | .complex .. => .complex
  | .text _ | .brokenText _ => .text
  | .bytes _ => .bytes
  | .list _ => .list
  | .tuple _ => .tuple
  | .map _ => .map
  | .frozenMap _ => .frozenMap
  | .brokenMap _ => .brokenMap
  | .record _ => .record
  | .opaqueObject => .opaqueObject
  | .trap .. => .trap
  | .function _ => .function
  | .moment _ => .moment
  | .date _ => .date
  | .symbol type .. | .namedInt type .. => .member type
  | .enumeration .. => .enumeration

/-- Equal numeric values; a part that is not a number equals nothing. -/
def numericEqual (a b : Binary64 × Binary64) : Bool := a.1.equal b.1 && a.2.equal b.2

/-- Goes on only after a true answer. -/
def andThen (first second : Except Fault Bool) : Except Fault Bool :=
  match first with
  | .ok true => second
  | r => r

def holds : Except Fault Bool → Bool
  | .ok b => b
  | .error _ => false

mutual

/-- Equality across types: numbers by value, sequences of one kind by elements, mappings and
records by entries in any order. Functions and objects without contents are told apart by identity,
and no two values share theirs. A broken mapping fails when it is held against a mapping. -/
def equal : Value → Value → Except Fault Bool
  | .null, .null => .ok true
  | .undefined, .undefined => .ok true
  | .text a, .text b => .ok (a == b)
  | .bytes a, .bytes b => .ok (a == b)
  | .list a, .list b => if a.length = b.length then equalAll a b else .ok false
  | .tuple a, .tuple b => equalAll a b
  | .brokenMap message, b => failIf b.isMapping message
  | a, .brokenMap message => failIf a.isMapping message
  | .map a, b => match b.entries? with
    | some b => if a.length = b.length then includedIn a b else .ok false
    | none => .ok false
  | .frozenMap a, b => match b.entries? with
    | some b => if a.length = b.length then includedIn a b else .ok false
    | none => .ok false
  | .record a, .record b => if a.length = b.length then fieldsIn a b else .ok false
  | .moment a, .moment b => .ok (a.same b)
  | .date a, .date b => .ok (a == b)
  | .symbol s n .., .symbol t m .. => .ok (s == t && n == m)
  | .enumeration a .., .enumeration b .. => .ok (a == b)
  | a, b => match a.numeric?, b.numeric? with
    | some x, some y => .ok (numericEqual x y)
    | _, _ => .ok false
where
  failIf (fails : Bool) (message : String) : Except Fault Bool :=
    if fails then .error (.ordinary .recursion message) else .ok false

/-- Decided by the first elements that differ. -/
def equalAll : List Value → List Value → Except Fault Bool
  | [], [] => .ok true
  | a :: as, b :: bs => andThen (equal a b) (equalAll as bs)
  | _, _ => .ok false

/-- Every entry of the first mapping has its equal in the second. -/
def includedIn : List (Value × Value) → List (Value × Value) → Except Fault Bool
  | [], _ => .ok true
  | (k, v) :: rest, es =>
    match es.find? fun e => holds (equal k e.1) with
    | some e => andThen (equal v e.2) (includedIn rest es)
    | none => .ok false

def fieldsIn : List (String × Value) → List (String × Value) → Except Fault Bool
  | [], _ => .ok true
  | (k, v) :: rest, fs =>
    match fs.find? fun f => k == f.1 with
    | some f => andThen (equal v f.2) (fieldsIn rest fs)
    | none => .ok false

end

/-- A number that is no truth value and no complex one. -/
def isReal : Value → Bool
  | .int _ | .namedInt .. | .float _ => true
  | _ => false

/-- Equality without coercion between types: a truth value never equals a number, though a whole
number equals a float of the same value; all else must be of one kind. -/
def strictEqual (value expected : Value) : Except Fault Bool :=
  match expected with
  | .null | .undefined => .ok (value.kind == expected.kind)
  | _ =>
    if value.isReal && expected.isReal || value.kind == expected.kind then equal value expected
    else .ok false

/-- Equality of keys. No broken mapping is one. -/
def sameKey (a b : Value) : Bool := holds (equal a b)

@[simp] theorem sameKey_text (a b : String) : sameKey (.text a) (.text b) = (a == b) := by
  unfold sameKey
  rw [equal]
  rfl

/-- Puts an entry into the entries of a map. -/
def put (k v : Value) : List (Value × Value) → List (Value × Value)
  | [] => [(k, v)]
  | (k', v') :: rest => if sameKey k k' then (k', v) :: rest else (k', v') :: put k v rest

/-- The map with the given entries: of equal keys the first stays, with the value of the last. -/
def mapOf (entries : List (Value × Value)) : Value :=
  .map (entries.foldl (fun es e => put e.1 e.2 es) [])

end Conform.Value
