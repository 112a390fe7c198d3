import Conform.Proofs.Guard.Acceptance
import Conform.Proofs.Value.Entries

/-! Fields that may be absent. A guard for them goes through the entries of a value and looks each one
up among the declared fields, where a guard for required fields goes through the declared fields and
looks each one up in the value. On a value that can be read like a table, the first is the second with
absence allowed to every field. -/

namespace Conform.Guard.Check

def optionalField (f : String × Check) : String × Check :=
  (f.1, union [primitive .undefined, f.2])

variable {c : Check} {fs : List (String × Check)} {v w : Value}

theorem accepts_undefined_iff : (primitive .undefined).Accepts w ↔ w = .undefined := by
  rw [Accepts, (decides_primitive .undefined w).accepts_iff]
  cases w <;> simp [Primitive.accepts]

theorem accepts_optional_iff {f : String × Check} :
    (optionalField f).2.Accepts w ↔ w = .undefined ∨ f.2.Accepts w := by
  rw [optionalField, accepts_either_iff (decides_primitive .undefined w).self, accepts_undefined_iff]

end Conform.Guard.Check
