/-!
Computations that leave notes on their way and end in a value or in a fault. The notes made before
a fault stay.
-/

namespace Conform

structure Journal (ν ε α : Type) where
  notes : List ν
  result : Except ε α

theorem exists_of_map_eq_ok {ε α β : Type} {f : α → β} {r : Except ε α} {b : β}
    (h : r.map f = .ok b) : ∃ a, r = .ok a ∧ f a = b := by
  cases r with
  | error e => cases h
  | ok a => exact ⟨a, rfl, Except.ok.inj h⟩

namespace Journal

variable {ν ε α β : Type}

protected def pure (a : α) : Journal ν ε α := ⟨[], .ok a⟩

protected def bind (x : Journal ν ε α) (f : α → Journal ν ε β) : Journal ν ε β :=
  match x.result with
  | .error e => ⟨x.notes, .error e⟩
  | .ok a => ⟨x.notes ++ (f a).notes, (f a).result⟩

instance : Monad (Journal ν ε) where
  pure := Journal.pure
  bind := Journal.bind

/-- Ends in the fault `e`. -/
def fail (e : ε) : Journal ν ε α := ⟨[], .error e⟩

/-- Leaves the note `n`. -/
def note (n : ν) : Journal ν ε Unit := ⟨[n], .ok ()⟩

def ofExcept (r : Except ε α) : Journal ν ε α := ⟨[], r⟩

@[simp] theorem pure_eq (a : α) : (pure a : Journal ν ε α) = ⟨[], .ok a⟩ := rfl

@[simp] theorem bind_ok (ns : List ν) (a : α) (f : α → Journal ν ε β) :
    ((⟨ns, .ok a⟩ : Journal ν ε α) >>= f) = ⟨ns ++ (f a).notes, (f a).result⟩ := rfl

@[simp] theorem bind_error (ns : List ν) (e : ε) (f : α → Journal ν ε β) :
    ((⟨ns, .error e⟩ : Journal ν ε α) >>= f) = ⟨ns, .error e⟩ := rfl

instance : LawfulMonad (Journal ν ε) := LawfulMonad.mk' _
  (fun ⟨ns, r⟩ => by cases r <;> simp [Functor.map, Journal.bind, Journal.pure])
  (fun a f => by simp)
  (fun ⟨ns, r⟩ f g => by
    cases r with
    | error e => rfl
    | ok a => rcases h : f a with ⟨ms, s⟩; cases s <;> simp [h])

theorem bind_result (x : Journal ν ε α) (f : α → Journal ν ε β) :
    (x >>= f).result = x.result.bind fun a => (f a).result := by
  obtain ⟨ns, r⟩ := x
  cases r <;> rfl

/-- A computation ends in a value just if both of its parts do. -/
theorem bind_result_eq_ok {x : Journal ν ε α} {f : α → Journal ν ε β} {b : β} :
    (x >>= f).result = .ok b ↔ ∃ a, x.result = .ok a ∧ (f a).result = .ok b := by
  rw [bind_result]
  cases x.result <;> simp [Except.bind]

theorem map_result (f : α → β) (x : Journal ν ε α) : (f <$> x).result = x.result.map f := by
  rw [map_eq_pure_bind, bind_result]
  cases x.result <;> rfl

theorem map_result_eq_ok {f : α → β} {x : Journal ν ε α} {b : β} :
    (f <$> x).result = .ok b ↔ ∃ a, x.result = .ok a ∧ f a = b := by
  rw [map_result]
  cases x.result <;> simp [Except.map]

@[simp] theorem fail_bind (e : ε) (f : α → Journal ν ε β) : (fail e >>= f) = fail e := rfl

@[simp] theorem map_fail (f : α → β) (e : ε) : (f <$> (fail e : Journal ν ε α)) = fail e := rfl

@[simp] theorem ofExcept_ok (a : α) : (ofExcept (.ok a) : Journal ν ε α) = pure a := rfl

/-- Turns the fault of a computation into another; its notes stay. -/
def mapError {δ : Type} (f : ε → δ) (x : Journal ν ε α) : Journal ν δ α :=
  ⟨x.notes, x.result.mapError f⟩

theorem mapError_result_eq_ok {δ : Type} {f : ε → δ} {x : Journal ν ε α} {a : α} :
    (x.mapError f).result = .ok a ↔ x.result = .ok a := by
  rw [mapError]
  cases x.result with
  | error e => exact ⟨nofun, nofun⟩
  | ok b => exact ⟨fun h => congrArg Except.ok (Except.ok.inj h), fun h => by rw [h]; rfl⟩

end Journal

end Conform
