import Conform.Value.Access
import Conform.Value.Display

/-! Looking at a value may fail, but a guard can tell of all that goes wrong: neither reading a field nor
going through the entries, neither holding the value against another one nor showing it ends in an
interrupt or in a fault without a text. -/

namespace Conform

def Quiet {α : Type} (r : Except Fault α) : Prop :=
  ∀ fault, r = .error fault → ∃ kind text, fault = .ordinary kind text

namespace Fault

variable {frame : Frame} {fault : Fault}

theorem leave_ordinary (frame : Frame) (kind : FaultKind) (text : String) :
    ∃ kind' text', leave frame (.ordinary kind text) = .ordinary kind' text' := by
  rw [leave]
  split
  · exact ⟨_, _, rfl⟩
  · exact ⟨kind, text, rfl⟩

/-- Only the end of an iteration is changed, and into an ordinary fault. -/
theorem leave_eq_or (frame : Frame) (fault : Fault) :
    leave frame fault = fault ∨ leave frame fault = stopped := by
  cases fault with
  | ordinary kind text => by_cases h : frame.catches kind <;> simp [leave, h]
  | mute kind instead => by_cases h : frame.catches kind <;> simp [leave, h]
  | interrupt text => exact .inl rfl

@[simp] theorem leave_function (fault : Fault) : leave .function fault = fault := by
  cases fault <;> simp [leave, Frame.catches]

end Fault

section

variable {α : Type} {r s : Except Fault α}

theorem quiet_ok (a : α) : Quiet (.ok a) := by
  intro fault h
  cases h

theorem quiet_ordinary (kind : FaultKind) (text : String) :
    Quiet (.error (.ordinary kind text) : Except Fault α) := by
  intro fault h
  exact ⟨kind, text, (Except.error.inj h).symm⟩

theorem Quiet.ite {c : Prop} [Decidable c] (hr : Quiet r) (hs : Quiet s) :
    Quiet (if c then r else s) := by
  split
  · exact hr
  · exact hs

theorem Quiet.of_error {β : Type} {fault : Fault} (h : Quiet (.error fault : Except Fault α)) :
    Quiet (.error fault : Except Fault β) :=
  fun fault' heq => h fault' (congrArg Except.error (Except.error.inj heq))

theorem Quiet.bind {β : Type} {f : α → Except Fault β} (hr : Quiet r) (hf : ∀ a, Quiet (f a)) :
    Quiet (r.bind f) := by
  cases r with
  | ok a => exact hf a
  | error fault => exact hr.of_error

theorem Quiet.map {β : Type} (hr : Quiet r) (f : α → β) : Quiet (r.map f) := by
  cases r with
  | ok a => exact quiet_ok _
  | error fault => exact hr.of_error

theorem Quiet.leave (hr : Quiet r) (frame : Frame) : Quiet (r.mapError (Fault.leave frame)) := by
  cases r with
  | ok a => exact quiet_ok a
  | error fault =>
    obtain ⟨kind, text, rfl⟩ := hr fault rfl
    obtain ⟨kind', text', hleave⟩ := Fault.leave_ordinary frame kind text
    intro fault' h
    exact ⟨kind', text', by rw [← hleave]; exact (Except.error.inj h).symm⟩

end

namespace Value

theorem quiet_andThen {r s : Except Fault Bool} (hr : Quiet r) (hs : Quiet s) :
    Quiet (andThen r s) := by
  unfold andThen
  split
  · exact hs
  · exact hr

theorem quiet_failIf (fails : Bool) (message : String) : Quiet (equal.failIf fails message) :=
  .ite (quiet_ordinary _ _) (quiet_ok _)

mutual

theorem quiet_equal (a b : Value) : Quiet (equal a b) := by
  unfold equal
  split
  any_goals exact quiet_ok _
  · exact .ite (quiet_equalAll _ _) (quiet_ok _)
  · exact quiet_equalAll _ _
  · exact quiet_failIf _ _
  · exact quiet_failIf _ _
  · split
    · exact .ite (quiet_includedIn _ _) (quiet_ok _)
    · exact quiet_ok _
  · split
    · exact .ite (quiet_includedIn _ _) (quiet_ok _)
    · exact quiet_ok _
  · exact .ite (quiet_fieldsIn _ _) (quiet_ok _)
  · split
    · exact quiet_ok _
    · exact quiet_ok _

theorem quiet_equalAll (xs ys : List Value) : Quiet (equalAll xs ys) := by
  unfold equalAll
  split
  · exact quiet_ok _
  · exact quiet_andThen (quiet_equal _ _) (quiet_equalAll _ _)
  · exact quiet_ok _

theorem quiet_includedIn (es fs : List (Value × Value)) : Quiet (includedIn es fs) := by
  unfold includedIn
  split
  · exact quiet_ok _
  split
  · exact quiet_andThen (quiet_equal _ _) (quiet_includedIn _ _)
  · exact quiet_ok _

theorem quiet_fieldsIn (fs gs : List (String × Value)) : Quiet (fieldsIn fs gs) := by
  unfold fieldsIn
  split
  · exact quiet_ok _
  split
  · exact quiet_andThen (quiet_equal _ _) (quiet_fieldsIn _ _)
  · exact quiet_ok _

end

theorem quiet_strictEqual (v expected : Value) : Quiet (v.strictEqual expected) := by
  unfold strictEqual
  split
  · exact quiet_ok _
  · exact quiet_ok _
  · exact .ite (quiet_equal v expected) (quiet_ok _)

theorem quiet_mappingGet (es : List (Value × Value)) (key : Value) :
    Quiet (mappingGet es key) := by
  unfold mappingGet requireKey
  split
  · exact quiet_ordinary _ _
  · exact quiet_ok _

theorem quiet_absent (c? : Option Complaint) : Quiet (absent c?) := by
  unfold absent
  split
  · exact .ite (quiet_ok _) (quiet_ordinary _ _)
  · exact quiet_ok _

theorem quiet_found (x? : Option Value) (c? : Option Complaint) :
    Quiet (x?.elim (absent c?) .ok) := by
  cases x? with
  | none => exact quiet_absent c?
  | some x => exact quiet_ok x

theorem quiet_getAttribute (v : Value) (name : String) : Quiet (v.getAttribute name) := by
  unfold getAttribute
  split
  · split
    · exact .ite (quiet_absent _) (quiet_ordinary _ _)
    · exact quiet_found _ _
  · exact quiet_found _ _

theorem quiet_getField (v key : Value) : Quiet (v.getField key) := by
  unfold getField
  split
  · exact (quiet_mappingGet _ key).map _
  · exact (quiet_mappingGet _ key).map _
  · exact quiet_ordinary _ _
  split
  · exact v.quiet_getAttribute _
  · exact quiet_ok _

theorem quiet_of_mem_listFields {fs : List (String × Value)} {t : Trouble} {e : Entry}
    (h : e ∈ listFields fs t) : Quiet e := by
  have hread := quiet_getAttribute (.trap fs t) "__dict__"
  unfold listFields at h
  split at h
  · rcases List.mem_append.1 h with h | h
    · obtain ⟨f, -, rfl⟩ := List.mem_map.1 h
      exact quiet_ok _
    · obtain ⟨c, -, rfl⟩ := List.mem_map.1 h
      exact quiet_ordinary _ _
  · cases h
  · cases h
  · next hfault =>
    obtain rfl := List.mem_singleton.1 h
    rw [hfault] at hread
    exact hread.of_error

theorem quiet_of_mem_ownEntries {v : Value} {e : Entry} (h : e ∈ v.ownEntries) : Quiet e := by
  unfold ownEntries at h
  split at h
  · obtain ⟨f, -, rfl⟩ := List.mem_map.1 h
    exact quiet_ok _
  · obtain ⟨f, -, rfl⟩ := List.mem_map.1 h
    exact quiet_ok _
  · obtain rfl := List.mem_singleton.1 h
    exact quiet_ordinary _ _
  · obtain ⟨e, he, rfl⟩ := List.mem_map.1 h
    exact (quiet_of_mem_listFields he).leave _
  · obtain ⟨f, -, rfl⟩ := List.mem_map.1 h
    exact quiet_ok _

theorem ordinary_unwritten {n : Int} {fault : Fault} (h : unwritten? n = some fault) :
    ∃ kind text, fault = .ordinary kind text := by
  unfold unwritten? at h
  split at h
  · cases h
  · exact ⟨_, _, (Option.some.inj h).symm⟩

mutual

theorem ordinary_unshown {d : Depth} {v : Value} {fault : Fault} (h : unshown? d v = some fault) :
    ∃ kind text, fault = .ordinary kind text := by
  unfold unshown? at h
  split at h
  · exact ⟨_, _, (Option.some.inj h).symm⟩
  · exact ordinary_unwritten h
  · exact ordinary_unwritten h
  · exact ordinary_unshownIn h
  · exact ordinary_unshownIn h
  · exact ordinary_unshownEntries h
  · exact ordinary_unshownEntries h
  · exact ordinary_unshownFields h
  · exact ordinary_unshown h
  · obtain ⟨c, -, rfl⟩ := Option.map_eq_some_iff.1 h
    exact ⟨c.kind, c.text, rfl⟩
  · cases h

theorem ordinary_unshownIn {d : Depth} {xs : List Value} {fault : Fault}
    (h : unshownIn? d xs = some fault) : ∃ kind text, fault = .ordinary kind text := by
  unfold unshownIn? at h
  split at h
  · cases h
  · rcases Option.or_eq_some_iff.1 h with h | ⟨-, h⟩
    · exact ordinary_unshown h
    · exact ordinary_unshownIn h

theorem ordinary_unshownEntries {d : Depth} {es : List (Value × Value)} {fault : Fault}
    (h : unshownEntries? d es = some fault) : ∃ kind text, fault = .ordinary kind text := by
  unfold unshownEntries? at h
  split at h
  · cases h
  · rcases Option.or_eq_some_iff.1 h with h | ⟨-, h⟩
    · rcases Option.or_eq_some_iff.1 h with h | ⟨-, h⟩
      · exact ordinary_unshown h
      · exact ordinary_unshown h
    · exact ordinary_unshownEntries h

theorem ordinary_unshownFields {d : Depth} {fs : List (String × Value)} {fault : Fault}
    (h : unshownFields? d fs = some fault) : ∃ kind text, fault = .ordinary kind text := by
  unfold unshownFields? at h
  split at h
  · cases h
  · rcases Option.or_eq_some_iff.1 h with h | ⟨-, h⟩
    · exact ordinary_unshown h
    · exact ordinary_unshownFields h

end

/-- A whole number with too many digits is not shown. -/
theorem shown_of_le_natAbs {n : Int} {inside : Value → Depth} (h : 10 ^ maxDigits ≤ n.natAbs) :
    shown (.free inside) (.int n) = .error tooLong := by
  rw [shown, unshown?, unwritten?, if_neg (Nat.not_lt.2 h)]

theorem quiet_shown (v : Value) (d : Depth) : Quiet (v.shown d) := by
  unfold shown
  split
  · next hfault =>
    obtain ⟨kind, text, rfl⟩ := ordinary_unshown hfault
    exact quiet_ordinary kind text
  · exact quiet_ok _

end Value

end Conform
