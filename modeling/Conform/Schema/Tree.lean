import Conform.Assoc

/-!
The tree of a schema text: a definition is an ordered list of named properties, and a type
expression is a name, an array of a type, or a nested definition.
-/

namespace Conform.Schema

/-- What is expected under one name. An optional property may be absent. -/
structure Spec (τ : Type) where
  type : τ
  optional : Bool
deriving DecidableEq, Repr

inductive TypeExpr where
  | named (name : String)
  | array (item : TypeExpr)
  | object (properties : List (String × Spec TypeExpr))
deriving Repr

/-- Properties in order of first declaration, each name once. -/
abbrev Definition := List (String × Spec TypeExpr)

/-- What becomes of a type name that is neither built in nor known otherwise. -/
inductive UnknownPolicy where
  | accept
  | reject
deriving DecidableEq, Repr

def UnknownPolicy.name : UnknownPolicy → String
  | .accept => "accept"
  | .reject => "reject"

/-- The type names that have a meaning of their own. -/
def builtinNames : List String :=
  ["string", "number", "boolean", "Date", "object", "null", "any", "unknown"]

end Conform.Schema
