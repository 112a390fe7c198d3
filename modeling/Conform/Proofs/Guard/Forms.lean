import Conform.Proofs.Guard.Calls

/-! The three forms of asking a guard about a value: for an answer, for an outcome as data, and for
the value itself. The answer decides the other two, as far as the reason of a rejection can be told.
Besides that no form ends in anything but what gets out of a predicate that was called. -/

namespace Conform.Guard.Check

open Value (Depth)

variable {c : Check} {v : Value} {depth : Depth}

theorem examine_result (c : Check) (v : Value) (depth : Depth) :
    (c.examine v depth).result = (c.test v).result.bind fun b =>
      if b then .ok (.accepted v) else (c.rejection v depth).map .rejected := by
  unfold examine
  rw [Journal.bind_result]
  congr
  funext b
  cases b with
  | true => rfl
  | false => cases c.rejection v depth <;> rfl

theorem expect_result (c : Check) (v : Value) (depth : Depth) :
    (c.expect v depth).result =
      match (c.examine v depth).result with
      | .ok (.accepted w) => .ok w
      | .ok (.rejected message) => .error (.rejected c.label v message)
      | .error fault => .error (.failed fault) := by
  unfold expect
  rw [Journal.bind_result, Journal.mapError]
  rcases (c.examine v depth).result with fault | _ | _ <;> rfl

theorem rejection_eq_error_iff {fault : Fault} :
    c.rejection v depth = .error fault ↔ v.shown depth = .error fault ∨
      (∃ text, v.shown depth = .ok text) ∧ c.label.said depth = .error fault := by
  unfold rejection
  cases v.shown depth with
  | error fault' => simp [bind, Except.bind]
  | ok text => cases c.label.said depth <;> simp [bind, Except.bind, pure, Except.pure]

/-- How a guard answers a value, and what the other two forms make of the answer. -/
structure FailsClosed (c : Check) (v : Value) (depth : Depth) : Prop where
  /-- A guard gives an answer, or what gets out of it comes from a predicate that it calls: an
  interrupt, or a fault of which nothing can be told. -/
  answers : (∃ b, (c.test v).result = .ok b) ∨
    ∃ p x raised fault, Calls p x c v ∧ p.test x = .error raised ∧ raised.Escapes fault ∧
      (c.test v).result = .error fault
  interrupted : ∀ p x text, Calls p x c v → p.test x = .error (.interrupt text) →
    (c.test v).result = .error (.interrupt text)
  /-- The calls are those that the trace shows. -/
  traced : ∀ tag, .called tag ∈ (c.test v).notes ↔ ∃ p x, Calls p x c v ∧ p.tag = some tag
  accepted_iff : ∀ w, (c.examine v depth).result = .ok (.accepted w) ↔
    (c.test v).result = .ok true ∧ w = v
  rejected_iff : ∀ message, (c.examine v depth).result = .ok (.rejected message) ↔
    (c.test v).result = .ok false ∧ c.rejection v depth = .ok message
  /-- Besides what gets out of the guard itself, there is what keeps a rejection from being told. -/
  examine_error_iff : ∀ fault, (c.examine v depth).result = .error fault ↔
    (c.test v).result = .error fault ∨
      (c.test v).result = .ok false ∧ c.rejection v depth = .error fault
  expect_iff : ∀ w, (c.expect v depth).result = .ok w ↔ (c.test v).result = .ok true ∧ w = v
  /-- The refusal carries the value, the name of the guard, and why it rejects the value. -/
  refused_iff : ∀ name w message, (c.expect v depth).result = .error (.rejected name w message) ↔
    name = c.label ∧ w = v ∧ (c.examine v depth).result = .ok (.rejected message)
  expect_error_iff : ∀ fault, (c.expect v depth).result = .error (.failed fault) ↔
    (c.examine v depth).result = .error fault
  /-- A rejection cannot be told if the value cannot be shown, or else the guard's name not be
  written. -/
  untold_iff : ∀ fault, c.rejection v depth = .error fault ↔ v.shown depth = .error fault ∨
    (∃ text, v.shown depth = .ok text) ∧ c.label.said depth = .error fault

/-- Every guard fails closed, whatever it is asked about. -/
theorem failsClosed_of_isGuard (h : c.isGuard = true) (v : Value) (depth : Depth) :
    c.FailsClosed v depth where
  answers := by
    cases hr : (c.test v).result with
    | ok b => exact .inl ⟨b, rfl⟩
    | error fault =>
      obtain ⟨p, x, raised, hcalls, hraised, hescapes⟩ := escapes_of_test h hr
      exact .inr ⟨p, x, raised, fault, hcalls, hraised, hescapes, rfl⟩
  interrupted p x text hcalls hp := hcalls.interrupts hp
  traced := called_iff c v
  accepted_iff w := by
    rw [examine_result]
    rcases (c.test v).result with fault | _ | _
    · simp [Except.bind]
    · cases c.rejection v depth <;> simp [Except.bind, Except.map]
    · simp [Except.bind, eq_comm]
  rejected_iff message := by
    rw [examine_result]
    rcases (c.test v).result with fault | _ | _
    · simp [Except.bind]
    · cases c.rejection v depth <;> simp [Except.bind, Except.map]
    · simp [Except.bind]
  examine_error_iff fault := by
    rw [examine_result]
    rcases (c.test v).result with fault' | _ | _
    · simp [Except.bind]
    · cases c.rejection v depth <;> simp [Except.bind, Except.map]
    · simp [Except.bind]
  expect_iff w := by
    rw [expect_result, examine_result]
    rcases (c.test v).result with fault | _ | _
    · simp [Except.bind]
    · cases c.rejection v depth <;> simp [Except.bind, Except.map]
    · simp [Except.bind, eq_comm]
  refused_iff name w message := by
    rw [expect_result]
    rcases (c.examine v depth).result with fault | _ | _ <;> simp [eq_comm]
  expect_error_iff fault := by
    rw [expect_result]
    rcases (c.examine v depth).result with fault' | _ | _ <;> simp
  untold_iff _ := rejection_eq_error_iff

/-- An interrupt that comes from inside an array, where another predicate failed before; and a whole number
that is rejected and is too long to be shown, so that only the call has an answer. -/
theorem failsClosed_of_isGuard_unshown :
    let fails : Predicate := ⟨some "fails", "function", none, fun _ => .error (.ordinary .type "")⟩
    let stops : Predicate := ⟨some "stops", "function", none, fun _ => .error (.interrupt "stop")⟩
    let c := union [named (.text "fails") (predicate fails), array (predicate stops)]
    let n : Value := .int (10 ^ Value.maxDigits : Nat)
    c.isGuard = true ∧ (c.test (.list [.null])).result = .error (.interrupt "stop") ∧
      ((primitive .string).test n).result = .ok false ∧
      ((primitive .string).examine n).result = .error Value.tooLong ∧
      ((primitive .string).expect n).result = .error (.failed Value.tooLong) := by
  intro fails stops c n
  have hitem : Turn.part .generator (predicate stops) .null ∈
      asked true ((array (predicate stops)).turns (.list [.null])) := List.mem_singleton.2 rfl
  have hmember : Turn.part .generator (array (predicate stops)) (.list [.null]) ∈
      asked false (c.turns (.list [.null])) :=
    List.mem_cons_of_mem _ (List.mem_singleton.2 rfl)
  have hstops : Calls stops .null c (.list [.null]) :=
    .part rfl hmember (.part rfl hitem .predicate)
  have hlong : n.shown .usual = .error Value.tooLong := by
    exact Value.shown_of_le_natAbs (Nat.le_of_eq (Int.natAbs_natCast _).symm)
  have hforms := failsClosed_of_isGuard (c := primitive .string) rfl n .usual
  have hexamine : ((primitive .string).examine n).result = .error Value.tooLong :=
    (hforms.examine_error_iff _).2 (.inr ⟨rfl, (hforms.untold_iff _).2 (.inl hlong)⟩)
  have hclosed := failsClosed_of_isGuard (c := c) rfl (.list [.null]) .usual
  exact ⟨rfl, hclosed.interrupted stops .null "stop" hstops rfl, rfl, hexamine,
    (hforms.expect_error_iff _).2 hexamine⟩

end Conform.Guard.Check
