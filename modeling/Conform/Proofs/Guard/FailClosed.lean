import Conform.Guard.Build
import Conform.Proofs.Value.Quiet

/-! What a guard makes of what goes wrong inside it. An ordinary fault becomes a rejection. A fault whose
text cannot be told gets out as what is raised in its place, and an interrupt gets out as it is. -/

namespace Conform.Guard

def settle : Except Fault Bool → Except Fault Bool
  | .error (.ordinary _ _) => .ok false
  | .error (.mute _ instead) => .error instead
  | r => r

theorem failClosed_result (name : Value) (t : Test) (v : Value) :
    (failClosed name t v).result = settle (t v).result := by
  unfold failClosed
  generalize t v = r
  obtain ⟨notes, (⟨kind, text⟩ | ⟨kind, instead⟩ | text) | b⟩ := r <;> rfl

@[simp] theorem settle_ok (b : Bool) : settle (.ok b) = .ok b := rfl

theorem settle_eq_true_iff {r : Except Fault Bool} : settle r = .ok true ↔ r = .ok true := by
  rcases r with (⟨kind, text⟩ | ⟨kind, instead⟩ | text) | b <;> simp [settle]

/-- What gets out of a guard is an interrupt, or what is raised where a text cannot be told. -/
theorem settle_eq_error_iff {r : Except Fault Bool} {fault : Fault} :
    settle r = .error fault ↔
      (∃ text, fault = .interrupt text ∧ r = .error fault) ∨ ∃ kind, r = .error (.mute kind fault) := by
  constructor
  · intro h
    rcases r with (⟨kind, text⟩ | ⟨kind, instead⟩ | text) | b
    · cases h
    · cases h
      exact .inr ⟨kind, rfl⟩
    · cases h
      exact .inl ⟨text, rfl, rfl⟩
    · cases h
  · rintro (⟨text, rfl, rfl⟩ | ⟨kind, rfl⟩) <;> rfl

theorem exists_settle_of_quiet {r : Except Fault Bool} (h : Quiet r) :
    ∃ b, settle r = .ok b := by
  rcases r with fault | b
  · obtain ⟨kind, text, rfl⟩ := h fault rfl
    exact ⟨false, rfl⟩
  · exact ⟨b, rfl⟩

theorem quiet_findPayload (v : Value) (ps : List Value) : Quiet (Test.findPayload v ps) := by
  induction ps with
  | nil => exact quiet_ok _
  | cons p ps ih =>
    refine Quiet.bind (p.quiet_equal v) fun b => ?_
    cases b with
    | true => exact quiet_ok _
    | false => exact ih

theorem quiet_ofEnumeration (name : String) (numbers : Bool) (payloads : List Value) (v : Value) :
    Quiet (Test.ofEnumeration name numbers payloads v) := by
  unfold Test.ofEnumeration
  refine .ite (quiet_ok _) (Quiet.bind (quiet_findPayload v payloads) fun p? => ?_)
  cases p? with
  | some p => exact quiet_ok _
  | none => exact Quiet.bind (v.quiet_shown .usual) fun text => quiet_ordinary _ _

theorem quiet_ofValue (x v : Value) : Quiet (Test.ofValue x v).result := by
  unfold Test.ofValue
  split
  · exact quiet_ofEnumeration _ _ _ v
  · split
    · exact quiet_ok true
    · exact quiet_ordinary _ _

namespace Check

theorem named_result (name : Value) (c : Check) (v : Value) :
    ((named name c).test v).result = settle (c.test v).result :=
  failClosed_result name c.test v

/-- A check that is made a guard answers as it would if it were asked inside one, if it is none. -/
theorem asGuard_result (name : Option String) (c : Check) (v : Value) :
    ((c.asGuard name).test v).result =
      if c.isGuard then (c.test v).result else settle (c.test v).result := by
  unfold asGuard
  split
  · rfl
  · exact named_result _ c v

end Check

end Conform.Guard
