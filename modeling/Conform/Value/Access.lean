import Conform.Assoc
import Conform.Value.Attribute

/-!
Reading fields: a mapping is read by key, any other object by name. What is absent is undefined;
some objects fail when they are asked.
-/

namespace Conform.Value

mutual

/-- The name of the first part that keeps a value from being a key, if there is one. -/
def unhashable? : Value → Option String
  | .list _ => some "list"
  | .map _ => some "dict"
  | .frozenMap _ => some "mappingproxy"
  | .brokenMap _ => some "BadMap"
  | .record _ => some "types.SimpleNamespace"
  | .tuple xs => unhashableIn? xs
  | _ => none

def unhashableIn? : List Value → Option String
  | [] => none
  | x :: xs => (unhashable? x).orElse fun _ => unhashableIn? xs

end

/-- The entry of a key among the entries of a mapping. -/
def lookup (k : Value) (es : List (Value × Value)) : Option Value :=
  (es.find? fun e => sameKey k e.1).map Prod.snd

/-- Only some values can be keys. -/
def requireKey (k : Value) : Except Fault Unit :=
  match k.unhashable? with
  | some t => .error (.ordinary .type ("unhashable type: '" ++ t ++ "'"))
  | none => .ok ()

/-- The value at a key of a mapping, if there is one. -/
def mappingGet (es : List (Value × Value)) (k : Value) : Except Fault (Option Value) := do
  k.requireKey
  pure (lookup k es)

/-- What a constant of an enumeration holds, in order. -/
def memberFields (whole : Value) (name : String) (payload : Value) (place : Nat) :
    List (String × Value) :=
  [("_value_", payload), ("_name_", .text name), ("__objclass__", whole),
   ("_sort_order_", .int place)]

/-- The named fields of an object that is no mapping. -/
def fields : Value → List (String × Value)
  | .record fs | .trap fs _ => fs
  | .symbol type name payload place payloads =>
    memberFields (.enumeration type false payloads) name payload place
  | .namedInt type name n place payloads =>
    memberFields (.enumeration type true (payloads.map .int)) name (.int n) place
  | _ => []

/-- Fields that can be read but are not held. -/
def derivedFields : Value → List (String × Value)
  | .symbol _ name payload .. => [("name", .text name), ("value", payload)]
  | .namedInt _ name n .. => [("name", .text name), ("value", .int n)]
  | _ => []

/-- The field that gives all others, where there is one. -/
def table? (v : Value) : Option Value :=
  match v with
  | .record _ | .trap .. | .symbol .. | .namedInt .. => some (.ofFields v.fields)
  | _ => none

/-- What stands under a name before a field of that name can. -/
def fixedFields (v : Value) : List (String × Value) :=
  ("__class__", .function v.typeName) :: v.table?.toList.map fun table => ("__dict__", table)

/-- All that can be read of an object that is no mapping, the first of each name. -/
def attributes (v : Value) : List (String × Value) :=
  v.fixedFields ++ v.fields ++ v.derivedFields ++ v.inherited

/-- How a look-up ends that has found nothing. -/
def absent : Option Complaint → Except Fault Value
  | some c => if c.kind = .attribute then .ok .undefined else .error c.fault
  | none => .ok .undefined

/-- The value under a name of an object that is no mapping. -/
def getAttribute (v : Value) (name : String) : Except Fault Value :=
  match v with
  | .trap _ t =>
    match if name = "__dict__" then t.listing else Assoc.get? name t.unreadable with
    | some c => if c.kind = .attribute then absent t.elsewhere else .error c.fault
    | none => (Assoc.get? name v.attributes).elim (absent t.elsewhere) .ok
  | v => (Assoc.get? name v.attributes).elim (absent none) .ok

/-- The value of a field. -/
def getField (v key : Value) : Except Fault Value :=
  match v with
  | .map es | .frozenMap es => (mappingGet es key).map fun found => found.getD .undefined
  | .brokenMap message => .error (.ordinary .recursion message)
  | v =>
    match key with
    | .text name => v.getAttribute name
    | _ => .ok .undefined

/-- An entry of a list that is made up while it is gone through, or the fault that ends it. -/
abbrev Entry := Except Fault (Value × Value)

/-- The fields of a troubled object as far as they can be listed. If they cannot be had because there
are none, that is no fault. -/
def listFields (fs : List (String × Value)) (t : Trouble) : List Entry :=
  match t.listing, getAttribute (.trap fs t) "__dict__" with
  | none, _ => fs.map (fun f => .ok (.text f.1, f.2)) ++ t.breakOff.toList.map fun c => .error c.fault
  | some _, .ok _ | some _, .error (.ordinary .type _) => []
  | some _, .error fault => [.error fault]

/-- The entries that a value holds itself, one after another, as they come out of a generator. -/
def ownEntries (v : Value) : List Entry :=
  match v with
  | .map es | .frozenMap es => es.map .ok
  | .brokenMap message => [.error (.ordinary .recursion message)]
  | .trap fs t => (listFields fs t).map fun e => e.mapError (Fault.leave .closed)
  | v => v.fields.map fun f => .ok (.text f.1, f.2)

end Conform.Value
