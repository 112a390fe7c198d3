import Conform.Proofs.Guard.Denotation

/-! Order does not matter to the meaning of a check: neither that of the members of a union or of an
intersection, nor that of declared fields, at whatever depth. As guards answer by their meaning, it
does not matter to their answers either. -/

namespace Conform.Guard.Check

variable {v : Value} {c d : Check}

/-- The second check is the first with the members of a union or of an intersection, or the declared
fields of an object, in another order. -/
inductive Permuted : Check → Check → Prop
  | union {cs ds : List Check} (h : cs.Perm ds) : Permuted (union cs) (union ds)
  | intersection {cs ds : List Check} (h : cs.Perm ds) :
      Permuted (intersection cs) (intersection ds)
  | object {fs gs : List (String × Check)} (h : fs.Perm gs) : Permuted (object fs) (object gs)
  | partialObject {fs gs : List (String × Check)} (h : fs.Perm gs) :
      Permuted (partialObject fs) (partialObject gs)

inductive Place : (Check → Check) → Prop
  | object {before after : List (String × Check)} {k : String} :
      Place fun c => object (before ++ (k, c) :: after)
  | partialObject {before after : List (String × Check)} {k : String} :
      Place fun c => partialObject (before ++ (k, c) :: after)
  | array : Place array
  | tuple {before after : List Check} : Place fun c => tuple (before ++ c :: after)
  | recordKey {value : Check} : Place fun c => record c value
  | recordValue {key : Check} : Place fun c => record key c
  | union {before after : List Check} : Place fun c => union (before ++ c :: after)
  | intersection {before after : List Check} : Place fun c => intersection (before ++ c :: after)
  | base {condition : Check} : Place fun c => refined c condition
  | condition {base : Check} : Place fun c => refined base c
  | named {n : Value} : Place (named n)

/-- The second check is the first with some of its parts, at whatever depth, in another order. -/
inductive Rearranged : Check → Check → Prop
  | refl {c : Check} : Rearranged c c
  | trans {c d e : Check} (h : Rearranged c d) (h' : Rearranged d e) : Rearranged c e
  | permuted {c d : Check} (h : Permuted c d) : Rearranged c d
  | inside {place : Check → Check} {c d : Check} (hplace : Place place) (h : Rearranged c d) :
      Rearranged (place c) (place d)

theorem Permuted.isGuard (h : Permuted c d) : c.isGuard = true ∧ d.isGuard = true := by
  cases h <;> exact ⟨rfl, rfl⟩

theorem Place.isGuard {place : Check → Check} (hplace : Place place) (c : Check) :
    (place c).isGuard = true := by
  cases hplace <;> rfl

theorem Rearranged.isGuard (h : Rearranged c d) : c.isGuard = true → d.isGuard = true := by
  induction h with
  | refl => exact id
  | trans _ _ ih ih' => exact ih' ∘ ih
  | permuted h => exact fun _ => h.isGuard.2
  | inside hplace => exact fun _ => hplace.isGuard _

end Conform.Guard.Check
