import Conform.Match
import Conform.Proofs.Schema.Tree

/-! What it is for a value to violate a type. A path leads into the value as long as every step is
taken from a container that the type asks for; where it ends, something may be wrong. The places
are ordered by the declarations of the properties and the indexes of the items. -/

namespace Conform

def Value.field? (v : Value) (name : String) : Option Value :=
  v.entries?.bind (Value.lookup (.text name))

namespace Match

def Problem.under (outer : Path) : Problem → Problem
  | .missing p => .missing (outer ++ p)
  | .mismatch p expected found => .mismatch (outer ++ p) expected found

@[simp] theorem Problem.path_under (outer : Path) (p : Problem) :
    (p.under outer).path = outer ++ p.path := by
  cases p <;> rfl

@[simp] theorem Problem.under_nil (p : Problem) : p.under [] = p := by
  cases p <;> rfl

theorem Problem.under_append (outer inner : Path) (p : Problem) :
    p.under (outer ++ inner) = (p.under inner).under outer := by
  cases p <;> simp [Problem.under]

end Match

namespace Schema

open Match

/-- A path leads from a value of one type to a part of it of another type. -/
inductive Reaches : TypeExpr → Value → Path → TypeExpr → Value → Prop
  | here {τ : TypeExpr} {v : Value} : Reaches τ v [] τ v
  | field {ps : Definition} {v : Value} {name : String} {spec : Spec TypeExpr} {x : Value}
      {path : Path} {τ : TypeExpr} {w : Value} (hv : v.isMapping = true) (hp : (name, spec) ∈ ps)
      (hx : v.field? name = some x) (rest : Reaches spec.type x path τ w) :
      Reaches (.object ps) v (.field name :: path) τ w
  | item {item : TypeExpr} {v : Value} {xs : List Value} {i : Nat} {x : Value} {path : Path}
      {τ : TypeExpr} {w : Value} (hv : v.items? = some xs) (hx : xs[i]? = some x)
      (rest : Reaches item x path τ w) : Reaches (.array item) v (.item i :: path) τ w

/-- What is wrong with a value itself, its parts aside. -/
inductive Flaw (m : Matcher) : TypeExpr → Value → Problem → Prop
  | absent {ps : Definition} {v : Value} {name : String} {spec : Spec TypeExpr}
      (hv : v.isMapping = true) (hp : (name, spec) ∈ ps) (hx : v.field? name = none)
      (required : spec.optional = false) : Flaw m (.object ps) v (.missing [.field name])
  | notObject {ps : Definition} {v : Value} (hv : v.isMapping = false) :
      Flaw m (.object ps) v (.mismatch [] .object v.shape)
  | notArray {item : TypeExpr} {v : Value} (hv : v.items? = none) :
      Flaw m (.array item) v (.mismatch [] .array v.shape)
  | notNamed {name : String} {v : Value} (hv : (m.checkNamed name v).result = .ok false) :
      Flaw m (.named name) v (.mismatch [] (.named name) v.shape)

def Violation (m : Matcher) (τ : TypeExpr) (v : Value) (p : Problem) : Prop :=
  ∃ path σ w q, Reaches τ v path σ w ∧ Flaw m σ w q ∧ p = q.under path

/-- Where a path leads: the positions of the declarations of its properties, and the indexes of its
items. Places are in lexicographic order. -/
def place : TypeExpr → Path → List Nat
  | .object ps, .field name :: path =>
    (Assoc.keys ps).idxOf name ::
      match Assoc.get? name ps with
      | some spec => place spec.type path
      | none => []
  | .array item, .item i :: path => i :: place item path
  | _, _ => []

inductive Distinct : TypeExpr → Prop
  | named {name : String} : Distinct (.named name)
  | array {item : TypeExpr} (h : Distinct item) : Distinct (.array item)
  | object {ps : Definition} (names : (Assoc.keys ps).Nodup)
      (types : ∀ p ∈ ps, Distinct p.2.type) : Distinct (.object ps)

inductive Conforms (m : Matcher) : TypeExpr → Value → Prop
  | named {name : String} {v : Value} (h : (m.checkNamed name v).result = .ok true) :
      Conforms m (.named name) v
  | array {item : TypeExpr} {v : Value} {xs : List Value} (hv : v.items? = some xs)
      (all : ∀ x ∈ xs, Conforms m item x) : Conforms m (.array item) v
  | object {ps : Definition} {v : Value} (hv : v.isMapping = true)
      (present : ∀ p ∈ ps, ∀ x, v.field? p.1 = some x → Conforms m p.2.type x)
      (absent : ∀ p ∈ ps, v.field? p.1 = none → p.2.optional = true) : Conforms m (.object ps) v

section Cases

variable {m : Matcher} {v : Value} {p : Problem}

theorem violation_named_iff {name : String} :
    Violation m (.named name) v p ↔
      (m.checkNamed name v).result = .ok false ∧ p = .mismatch [] (.named name) v.shape := by
  constructor
  · rintro ⟨path, σ, w, q, hreach, hflaw, rfl⟩
    cases hreach
    cases hflaw with
    | notNamed hv => exact ⟨hv, rfl⟩
  · rintro ⟨hv, rfl⟩
    exact ⟨[], _, v, _, .here, .notNamed hv, rfl⟩

theorem violation_array_iff {item : TypeExpr} :
    Violation m (.array item) v p ↔
      (v.items? = none ∧ p = .mismatch [] .array v.shape) ∨
        ∃ xs i x q, v.items? = some xs ∧ xs[i]? = some x ∧ Violation m item x q ∧
          p = q.under [.item i] := by
  constructor
  · rintro ⟨path, σ, w, q, hreach, hflaw, rfl⟩
    cases hreach with
    | here =>
      cases hflaw with
      | notArray hv => exact .inl ⟨hv, rfl⟩
    | @item _ _ xs i x path _ _ hv hx rest =>
      refine .inr ⟨xs, i, x, q.under path, hv, hx, ⟨path, σ, w, q, rest, hflaw, rfl⟩, ?_⟩
      rw [← Problem.under_append]
      rfl
  · rintro (⟨hv, rfl⟩ | ⟨xs, i, x, q, hv, hx, ⟨path, σ, w, q, hreach, hflaw, rfl⟩, rfl⟩)
    · exact ⟨[], _, v, _, .here, .notArray hv, rfl⟩
    · refine ⟨.item i :: path, σ, w, q, .item hv hx hreach, hflaw, ?_⟩
      rw [← Problem.under_append]
      rfl

def PropertyViolation (m : Matcher) (v : Value) (name : String) (spec : Spec TypeExpr)
    (p : Problem) : Prop :=
  (v.field? name = none ∧ spec.optional = false ∧ p = .missing [.field name]) ∨
    ∃ x q, v.field? name = some x ∧ Violation m spec.type x q ∧ p = q.under [.field name]

theorem violation_object_iff {ps : Definition} :
    Violation m (.object ps) v p ↔
      (v.isMapping = false ∧ p = .mismatch [] .object v.shape) ∨
        (v.isMapping = true ∧ ∃ e ∈ ps, PropertyViolation m v e.1 e.2 p) := by
  constructor
  · rintro ⟨path, σ, w, q, hreach, hflaw, rfl⟩
    cases hreach with
    | here =>
      cases hflaw with
      | notObject hv => exact .inl ⟨hv, rfl⟩
      | absent hv hp hx required => exact .inr ⟨hv, _, hp, .inl ⟨hx, required, rfl⟩⟩
    | @field _ _ name spec x path _ _ hv hp hx rest =>
      refine .inr ⟨hv, _, hp, .inr ⟨x, q.under path, hx, ⟨path, σ, w, q, rest, hflaw, rfl⟩, ?_⟩⟩
      rw [← Problem.under_append]
      rfl
  · rintro (⟨hv, rfl⟩ | ⟨hv, e, hp, ⟨hx, required, rfl⟩ |
      ⟨x, q, hx, ⟨path, σ, w, q, hreach, hflaw, rfl⟩, rfl⟩⟩)
    · exact ⟨[], _, v, _, .here, .notObject hv, rfl⟩
    · exact ⟨[], _, v, _, .here, .absent hv hp hx required, rfl⟩
    · refine ⟨.field e.1 :: path, σ, w, q, .field hv hp hx hreach, hflaw, ?_⟩
      rw [← Problem.under_append]
      rfl

theorem PropertyViolation.exists_path {name : String} {spec : Spec TypeExpr}
    (h : PropertyViolation m v name spec p) : ∃ path, p.path = .field name :: path := by
  rcases h with ⟨-, -, rfl⟩ | ⟨x, q, -, -, rfl⟩
  · exact ⟨[], rfl⟩
  · exact ⟨q.path, Problem.path_under _ _⟩

end Cases

end Schema

end Conform
