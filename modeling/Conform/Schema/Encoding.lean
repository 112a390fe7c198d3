import Conform.Schema.Tree
import Conform.Value

/-!
Trees as values: a definition is a map of its properties, and each type says its kind.
-/

namespace Conform.Schema

mutual

def TypeExpr.toValue : TypeExpr → Value
  | .named name => .ofFields [("kind", .text "primitive"), ("name", .text name)]
  | .array item => .ofFields [("kind", .text "array"), ("item_type", item.toValue)]
  | .object ps => .ofFields [("kind", .text "object"), ("properties", .map (propertiesToValues ps))]

def propertiesToValues : List (String × Spec TypeExpr) → List (Value × Value)
  | [] => []
  | (name, ⟨type, optional⟩) :: rest =>
    (.text name, .ofFields [("type", type.toValue), ("optional", .bool optional)]) ::
      propertiesToValues rest

end

def Definition.toValue (d : Definition) : Value := .map (propertiesToValues d)

end Conform.Schema
