import Conform.Fault
import Conform.Guard.Primitive
import Conform.Value.Display
import Conform.Value.Shape

/-!
Checks: what can be asked of a value. A guard is a check that never fails; a plain predicate or a
bare value may also stand where a check is wanted.
-/

namespace Conform.Guard

/-- A test from outside. Calls of a tagged one are traced. -/
structure Predicate where
  name : Option String
  typeName : String
  tag : Option String := none
  test : Value → Except Fault Bool

inductive Check where
  | predicate (p : Predicate)
  /-- A value in place of a check: a function accepts everything, any other cannot be called. -/
  | constant (v : Value)
  | primitive (p : Primitive)
  /-- Each field's check accepts what the object has under that name. -/
  | object (fields : List (String × Check))
  /-- The same, of the fields that are there. -/
  | partialObject (fields : List (String × Check))
  | array (item : Check)
  | tuple (items : List Check)
  | record (key value : Check)
  | union (members : List Check)
  | intersection (members : List Check)
  | literal (expected : Value)
  /-- The condition is only asked of what the base accepts. -/
  | refined (base condition : Check)
  /-- A guard around a check, called by a value that is a text in all but odd cases. -/
  | named (name : Value) (body : Check)

namespace Check

/-- A guard, in contrast to a predicate or a value. -/
def isGuard : Check → Bool
  | predicate _ | constant _ => false
  | _ => true

def isCallable : Check → Bool
  | constant v => v.isCallable
  | _ => true

mutual

/-- What a check is called by composite guards around it. -/
def label : Check → Value
  | predicate p => .text (p.name.getD p.typeName)
  | constant v => v.ownName?.getD (.text v.typeName)
  | primitive p => .text p.name
  | object fs => .text ("object[" ++ commaSeparated (fs.map Prod.fst) ++ "]")
  | partialObject fs => .text ("partial[" ++ commaSeparated (fs.map Prod.fst) ++ "]")
  | array c => .text ("array[" ++ (label c).plain ++ "]")
  | tuple cs => .text ("tuple[" ++ commaSeparated (labelTexts cs) ++ "]")
  | record k v => .text ("record[" ++ (label k).plain ++ ", " ++ (label v).plain ++ "]")
  | union cs => .text (" | ".intercalate (labelTexts cs))
  | intersection cs => .text (" & ".intercalate (labelTexts cs))
  | literal v => .text ("literal[" ++ v.display ++ "]")
  | refined b _ => .text ("refined[" ++ (label b).plain ++ "]")
  | named n _ => n

def labelTexts : List Check → List String
  | [] => []
  | c :: cs => (label c).plain :: labelTexts cs

end

def name (c : Check) : String := c.label.plain

/-- The name of its own, if a check has one. -/
def ownName? : Check → Option Value
  | predicate p => p.name.map .text
  | constant v => v.ownName?
  | c => some c.label

/-- A guard as it is shown. -/
def display (c : Check) : String := "Guard(" ++ c.label.display ++ ")"

/-- Why no field of a guard can be set. -/
def immutableMessage (c : Check) : String := "Guard '" ++ c.name ++ "' is immutable"

end Check

end Conform.Guard
