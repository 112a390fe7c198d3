import Conform.Event
import Conform.Guard.Check
import Conform.Journal
import Conform.Value.Access

/-!
What a check says of a value. A guard turns every ordinary fault of its evaluation into a rejection and
reports it, unless the report itself comes to grief; an interrupt passes through all guards.
-/

namespace Conform.Guard

open Value (Depth)

/-- The answer to a check, with the calls and faults on the way. -/
abbrev Verdict := Journal Event Fault Bool

abbrev Test := Value → Verdict

/-- Rejects where the test fails with an ordinary fault. Where the text of the fault cannot be told, what
is raised instead gets out. -/
def failClosed (name : Value) (t : Test) : Test := fun v =>
  let r := t v
  match r.result with
  | .error (.ordinary kind text) => ⟨r.notes ++ [.guardFault name kind.name text], .ok false⟩
  | .error (.mute _ instead) => ⟨r.notes, .error instead⟩
  | _ => r

namespace Test

def ofPredicate (p : Predicate) : Test := fun v =>
  ⟨p.tag.toList.map .called, p.test v⟩

/-- Looks for what a value stands for among the constants of an enumeration. -/
def findPayload (v : Value) : List Value → Except Fault (Option Value)
  | [] => .ok none
  | p :: ps => do if ← p.equal v then pure (some p) else findPayload v ps

/-- Calls an enumeration for one of its constants, and takes that for true or false. -/
def ofEnumeration (name : String) (numbers : Bool) (payloads : List Value) (v : Value) :
    Except Fault Bool :=
  if v.kind == .member name then .ok v.truthy
  else do
    match ← findPayload v payloads with
    | some p => pure (!numbers || p.truthy)
    | none =>
      let shown ← v.shown .usual
      throw (.ordinary (.other "ValueError") (shown ++ " is not a valid " ++ name))

/-- A value is called like a predicate. -/
def ofValue (c : Value) : Test := fun v =>
  match c with
  | .enumeration name numbers payloads => .ofExcept (ofEnumeration name numbers payloads v)
  | c =>
    if c.isCallable then pure true
    else .fail (.ordinary .type ("'" ++ c.qualifiedTypeName ++ "' object is not callable"))

/-- The test as it is asked in a frame. -/
def inside (frame : Frame) (t : Test) : Test := fun v => (t v).mapError (Fault.leave frame)

/-- Decided by the first rejection. -/
def all (ts : List Test) : Test := fun v => ts.allM fun t => t.inside .generator v

/-- Decided by the first acceptance. -/
def any (ts : List Test) : Test := fun v => ts.anyM fun t => t.inside .generator v

def object (fields : List (String × Test)) : Test := fun v =>
  if v.isObject then fields.allM fun (k, t) =>
    Journal.mapError (Fault.leave .generator) do t (← .ofExcept (v.getField (.text k)))
  else pure false

/-- The test declared for a key. -/
def declared (fields : List (String × Test)) : Value → Option Test
  | .text k => Assoc.get? k fields
  | _ => none

/-- Accepts if all entries of a value can be listed and are accepted. -/
def eachEntry (ask : Value × Value → Verdict) : Test := fun v =>
  v.ownEntries.allM fun e => do ask (← .ofExcept e)

def partialObject (fields : List (String × Test)) : Test := fun v =>
  if v.isObject then
    v |> eachEntry fun (k, x) =>
      match declared fields k with
      | some t => t x
      | none => pure true
  else pure false

def array (t : Test) : Test := fun v =>
  match v.items? with
  | some xs => xs.allM (t.inside .generator)
  | none => pure false

def tuple (ts : List Test) : Test := fun v =>
  match v.items? with
  | some xs =>
    if xs.length = ts.length then (ts.zip xs).allM fun (t, x) => t.inside .generator x else pure false
  | none => pure false

/-- The answer about a key is taken in the generator, the one about a value outside. -/
def record (key value : Test) : Test := fun v =>
  if v.isObject && !v.isArray then
    v |> eachEntry fun (k, x) => do
      if ← key.inside .closed k then value.inside .generator x else pure false
  else pure false

def refined (base condition : Test) : Test := fun v => do
  if ← base v then condition v else pure false

end Test

namespace Check

mutual

/-- What a check asks of a value. -/
def test : Check → Test
  | predicate p => .ofPredicate p
  | constant v => .ofValue v
  | primitive p => fun v => pure (p.accepts v)
  | object fs => failClosed (label (object fs)) (.object (fieldTests fs))
  | partialObject fs => failClosed (label (partialObject fs)) (.partialObject (fieldTests fs))
  | array c => failClosed (label (array c)) (.array (test c))
  | tuple cs => failClosed (label (tuple cs)) (.tuple (tests cs))
  | record k v => failClosed (label (record k v)) (.record (test k) (test v))
  | union cs => failClosed (label (union cs)) (.any (tests cs))
  | intersection cs => failClosed (label (intersection cs)) (.all (tests cs))
  | literal e => failClosed (label (literal e)) fun v => .ofExcept (v.strictEqual e)
  | refined b c => failClosed (label (refined b c)) (.refined (test b) (test c))
  | named n c => failClosed n (test c)

def tests : List Check → List Test
  | [] => []
  | c :: cs => test c :: tests cs

def fieldTests : List (String × Check) → List (String × Test)
  | [] => []
  | (k, c) :: fs => (k, test c) :: fieldTests fs

end

/-- The outcome of a guard as data. -/
inductive Outcome where
  | accepted (value : Value)
  | rejected (message : String)

/-- Why a value is rejected, if it can be told: the value is shown and the guard named. -/
def rejection (c : Check) (v : Value) (depth : Depth := .usual) : Except Fault String := do
  let value ← v.shown depth
  let name ← c.label.said depth
  pure ("value " ++ value ++ " was rejected by guard '" ++ name ++ "'")

def examine (c : Check) (v : Value) (depth : Depth := .usual) : Journal Event Fault Outcome := do
  if ← c.test v then pure (.accepted v) else .rejected <$> .ofExcept (c.rejection v depth)

/-- Why no value comes back from a guard. -/
inductive Refusal where
  | rejected (guard value : Value) (message : String)
  | failed (fault : Fault)

/-- The value itself, if the guard accepts it. -/
def expect (c : Check) (v : Value) (depth : Depth := .usual) : Journal Event Refusal Value := do
  match ← (c.examine v depth).mapError Refusal.failed with
  | .accepted v => pure v
  | .rejected message => .fail (.rejected c.label v message)

end Check

end Conform.Guard
