import Conform.Schema.Tree
import Mathlib.Data.List.Basic

/-! What a type expression is made of: the names at its leaves, and how deep it is nested. -/

namespace Conform.Schema

/-- Induction on types, with all the types of an object at once. -/
theorem TypeExpr.induction {P : TypeExpr → Prop} (named : ∀ name, P (.named name))
    (array : ∀ item, P item → P (.array item))
    (object : ∀ ps, (∀ p ∈ ps, P p.2.type) → P (.object ps)) (τ : TypeExpr) : P τ := by
  refine @TypeExpr.rec P (fun ps => ∀ p ∈ ps, P p.2.type) (fun p => P p.2.type)
    (fun s => P s.type) named array object ?_ ?_ ?_ ?_ τ
  · simp
  · intro p ps hp hps
    simpa using ⟨hp, by simpa using hps⟩
  · intro name s hs
    exact hs
  · intro type optional htype
    exact htype

mutual

def TypeExpr.height : TypeExpr → Nat
  | .named _ => 1
  | .array item => item.height + 1
  | .object ps => propertiesHeight ps + 1

def propertiesHeight : List (String × Spec TypeExpr) → Nat
  | [] => 0
  | (_, ⟨type, _⟩) :: rest => max type.height (propertiesHeight rest)

end

mutual

def TypeExpr.names : TypeExpr → List String
  | .named name => [name]
  | .array item => item.names
  | .object ps => propertiesNames ps

def propertiesNames : List (String × Spec TypeExpr) → List String
  | [] => []
  | (_, ⟨type, _⟩) :: rest => type.names ++ propertiesNames rest

end

theorem mem_propertiesNames {ps : Definition} {name : String} :
    name ∈ propertiesNames ps ↔ ∃ p ∈ ps, name ∈ p.2.type.names := by
  induction ps with
  | nil => simp [propertiesNames]
  | cons p ps ih => simp [propertiesNames, ih]

end Conform.Schema
