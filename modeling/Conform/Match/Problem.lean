import Conform.Value.Shape

/-!
Where a value fails a schema, and how it is said. A path leads from the value to the place by
field names and item indexes.
-/

namespace Conform.Match

inductive Step where
  | field (name : String)
  | item (index : Nat)
deriving DecidableEq, Repr

abbrev Path := List Step

/-- A path with a step more. A field at the outermost level is written without a dot. -/
def extend (path : String) : Step → String
  | .field name => if path = "" then name else path ++ "." ++ name
  | .item i => path ++ "[" ++ toString i ++ "]"

def Path.text (p : Path) : String := p.foldl extend ""

/-- What a schema wants at a place. -/
inductive Expected where
  | object
  | array
  | named (type : String)
deriving DecidableEq, Repr

inductive Problem where
  /-- A required property is absent. -/
  | missing (path : Path)
  | mismatch (path : Path) (expected : Expected) (found : Shape)
deriving DecidableEq, Repr

def Problem.path : Problem → Path
  | .missing p | .mismatch p _ _ => p

def isItem (p : Path) : Bool :=
  match p.getLast? with
  | some (.item _) => true
  | _ => false

/-- A place is called by its path, and the value itself `Value`. -/
def subject (path : String) : String := if path = "" then "Value" else path

def Problem.message : Problem → String
  | .missing p => "Missing required field: " ++ p.text
  | .mismatch p expected found =>
    let place := if isItem p then "Array item at " ++ p.text else "Field " ++ p.text
    let seen := " (found " ++ found.text ++ ")"
    match expected with
    | .named type => place ++ " should be a " ++ type ++ seen
    | .array => place ++ " should be an array"
    | .object =>
      if isItem p then place ++ " should be an object" ++ seen
      else if found = .null || found = .undefined then subject p.text ++ " is null or undefined"
      else subject p.text ++ " is not an object" ++ seen

end Conform.Match
