import Conform.Match.Problem
import Conform.Registry
import Conform.Schema.Tree
import Conform.Time.Reading

/-!
Holding a value against a definition. The walk goes through the properties in order of declaration
and the items in order, and lists every place that fails.
-/

namespace Conform

/-- A text that stands for a moment. -/
def Value.isTimestamp : Value → Bool
  | .text s => (Moment.ofTimestamp? s).isSome
  | _ => false

/-- A number that is no truth value and no NaN; infinities count. -/
def Value.isJsonNumber : Value → Bool
  | .int _ | .namedInt .. => true
  | .float x => !x.isNan
  | _ => false

/-- Who decides about type names: the built-in ones have a meaning of their own, plugins decide
about theirs, and all others are accepted or rejected as one. -/
structure Matcher where
  registry : Option Registry := none
  unknown : Schema.UnknownPolicy := .accept
  coerceDates : Bool := false

namespace Matcher

open Schema Match Guard

/-- The meaning of a built-in type name. -/
def builtinCheck? : String → Option (Value → Bool)
  | "string" => some fun v => match v with | .text _ | .brokenText _ => true | _ => false
  | "number" => some Value.isJsonNumber
  | "boolean" => some fun v => match v with | .bool _ => true | _ => false
  | "Date" => some fun v => match v with | .moment _ => true | _ => false
  | "object" => some fun v => v.isObject && !v.isArray
  | "null" => some fun v => match v with | .null => true | _ => false
  | "any" => some fun _ => true
  | "unknown" => some fun _ => true
  | _ => none

/-- Every built-in name has a meaning of its own. -/
theorem builtinCheck?_isSome {name : String} (h : builtinNames.contains name = true) :
    ∃ ok, builtinCheck? name = some ok := by
  simp only [builtinNames, List.contains_cons, List.contains_nil, Bool.or_false, Bool.or_eq_true,
    beq_iff_eq] at h
  rcases h with rfl | rfl | rfl | rfl | rfl | rfl | rfl | rfl <;> exact ⟨_, rfl⟩

/-- Whether a value is of a named type. -/
def checkNamed (m : Matcher) (name : String) : Test := fun v =>
  if name = "Date" && m.coerceDates && v.isTimestamp then pure true
  else match builtinCheck? name with
    | some ok => pure (ok v)
    | none =>
      match m.registry.bind (·.get? name) with
      | some p => (p.validate.asGuard (some name)).test v
      | none => pure (m.unknown = .accept)

/-- The places that fail, in order; looking into a broken mapping ends the walk. -/
abbrev Walk := Journal Event Fault (List Problem)

/-- The value of a property, if the mapping has one. -/
def property (v : Value) (name : String) : Except Fault (Option Value) :=
  match v with
  | .brokenMap message => .error (.ordinary .recursion message)
  | v => .ok (v.entries?.bind fun es => Value.lookup (.text name) es)

/-- Walks through items from index `i` on. -/
def items (walk : Path → Value → Walk) (path : Path) : Nat → List Value → Walk
  | _, [] => pure []
  | i, x :: xs => do
    let here ← walk (path ++ [.item i]) x
    let rest ← items walk path (i + 1) xs
    pure (here ++ rest)

mutual

def walkType (m : Matcher) : TypeExpr → Path → Value → Walk
  | .named name, path, v => do
    if ← m.checkNamed name v then pure [] else pure [.mismatch path (.named name) v.shape]
  | .array item, path, v =>
    match v.items? with
    | some xs => items (walkType m item) path 0 xs
    | none => pure [.mismatch path .array v.shape]
  | .object ps, path, v =>
    if v.isMapping then walkProperties m ps path v
    else pure [.mismatch path .object v.shape]

def walkProperties (m : Matcher) : List (String × Spec TypeExpr) → Path → Value → Walk
  | [], _, _ => pure []
  | (name, ⟨type, optional⟩) :: rest, path, v => do
    let here ← match ← .ofExcept (property v name) with
      | some x => walkType m type (path ++ [.field name]) x
      | none => pure (if optional then [] else [.missing (path ++ [.field name])])
    let others ← walkProperties m rest path v
    pure (here ++ others)

end

/-- The problems of a value under a definition. -/
def problems (m : Matcher) (d : Definition) (v : Value) : Walk := m.walkType (.object d) [] v

end Matcher

end Conform
