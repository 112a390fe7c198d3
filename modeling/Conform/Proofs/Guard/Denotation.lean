import Conform.Proofs.Guard.Meaning

/-! Guards denote what their combinators say. A check has a meaning, by recursion on its parts and
without a word about order, faults or names; and a check whose unions are made of guards accepts
just the values of which its meaning holds, however deep it is nested. -/

namespace Conform.Guard

/-- A verdict that accepts just if `P` holds. Where `P` does not hold it may be an ordinary fault, and
nothing worse. -/
structure Settles (r : Verdict) (P : Prop) : Prop where
  accepts_iff : r.result = .ok true ↔ P
  quiet : Quiet r.result

section Verdicts

variable {α : Type} {P Q : Prop} {r s : Verdict}

theorem Decides.settles (h : Decides r P) : Settles r P := by
  refine ⟨h.accepts_iff, ?_⟩
  obtain ⟨b, hb, -⟩ := h
  rw [hb]
  exact quiet_ok b

theorem Settles.congr (h : Settles r P) (hPQ : P ↔ Q) : Settles r Q :=
  ⟨h.accepts_iff.trans hPQ, h.quiet⟩

theorem settles_pure (b : Bool) : Settles (pure b) (b = true) := (decides_pure b).settles

theorem settles_ofExcept {r : Except Fault Bool} (hr : Quiet r) :
    Settles (.ofExcept r) (r = .ok true) :=
  ⟨Iff.rfl, hr⟩

theorem Settles.leave (h : Settles r P) (frame : Frame) :
    Settles (r.mapError (Fault.leave frame)) P := by
  exact ⟨Journal.mapError_result_eq_ok.trans h.accepts_iff, h.quiet.leave frame⟩

theorem Settles.failClosed {t : Test} {v : Value} (h : Settles (t v) P) (name : Value) :
    Decides (failClosed name t v) P := by
  obtain ⟨b, hb⟩ := exists_settle_of_quiet h.quiet
  refine ⟨b, (failClosed_result name t v).trans hb, ?_⟩
  rw [← h.accepts_iff, ← settle_eq_true_iff, hb, Except.ok.injEq]

theorem Settles.and (hr : Settles r P) (hs : Settles s Q) :
    Settles (do if ← r then s else pure false) (P ∧ Q) := by
  have hbind : (do if ← r then s else pure false : Verdict).result =
      r.result.bind fun b => if b then s.result else .ok false := by
    rw [Journal.bind_result]
    congr
    funext b
    cases b <;> rfl
  constructor
  · rw [hbind, ← hr.accepts_iff, ← hs.accepts_iff]
    rcases r.result with fault | _ | _ <;> simp [Except.bind]
  · rw [hbind]
    have hquiet := hr.quiet
    rcases hresult : r.result with fault | _ | _
    · rwa [hresult] at hquiet
    · exact quiet_ok false
    · exact hs.quiet

theorem settles_allM {f : α → Verdict} {A : α → Prop} {xs : List α}
    (h : ∀ x ∈ xs, Settles (f x) (A x)) : Settles (xs.allM f) (∀ x ∈ xs, A x) := by
  induction xs with
  | nil => exact (settles_pure true).congr (by simp)
  | cons x xs ih =>
    obtain ⟨hx, hxs⟩ := List.forall_mem_cons.1 h
    rw [allM_cons]
    exact (hx.and (ih hxs)).congr (by simp)

theorem settles_read {r : Except Fault α} (hr : Quiet r) {f : α → Verdict} {A : α → Prop}
    (h : ∀ a, r = .ok a → Settles (f a) (A a)) :
    Settles (Journal.ofExcept r >>= f) (∃ a, r = .ok a ∧ A a) := by
  cases r with
  | ok a => exact (h a rfl).congr (by simp)
  | error fault =>
    refine ⟨?_, hr.of_error⟩
    show (Except.error fault : Except Fault Bool) = .ok true ↔ _
    simp

theorem forall_mem_ok_iff {β : Type} {l : List (Except Fault β)} {A : β → Prop} :
    (∀ r ∈ l, ∃ a, r = .ok a ∧ A a) ↔ ∃ as : List β, l = as.map .ok ∧ ∀ a ∈ as, A a := by
  constructor
  · intro h
    induction l with
    | nil => exact ⟨[], rfl, by simp⟩
    | cons r l ih =>
      obtain ⟨⟨a, rfl, ha⟩, hl⟩ := List.forall_mem_cons.1 h
      obtain ⟨as, rfl, has⟩ := ih hl
      exact ⟨a :: as, rfl, List.forall_mem_cons.2 ⟨ha, has⟩⟩
  · rintro ⟨as, rfl, has⟩
    exact List.forall_mem_map.2 fun a ha => ⟨a, rfl, has a ha⟩

theorem settles_eachEntry {ask : Value × Value → Verdict} {A : Value × Value → Prop} {v : Value}
    (h : ∀ e, Settles (ask e) (A e)) :
    Settles (Test.eachEntry ask v) (∃ es, v.HasEntries es ∧ ∀ e ∈ es, A e) := by
  refine Settles.congr (settles_allM fun e he => ?_) forall_mem_ok_iff
  exact settles_read (Value.quiet_of_mem_ownEntries he) fun p _ => h p

end Verdicts

namespace Check

theorem sizeOf_field_lt {f : String × Check} {fs : List (String × Check)} (h : f ∈ fs) :
    sizeOf f.2 < sizeOf fs := by
  have hlt := List.sizeOf_lt_of_mem h
  obtain ⟨k, c⟩ := f
  simp only [Prod.mk.sizeOf_spec] at hlt
  show sizeOf c < sizeOf fs
  omega

def Meaning (c : Check) (v : Value) : Prop :=
  match c with
  | predicate p => p.test v = .ok true
  | constant x => (Test.ofValue x v).result = .ok true
  | primitive p => p.accepts v = true
  | object fs => v.isObject = true ∧
      ∀ f, f ∈ fs → ∃ w, v.getField (.text f.1) = .ok w ∧ Meaning f.2 w
  | partialObject fs => v.isObject = true ∧ ∃ es, v.HasEntries es ∧
      ∀ e ∈ es, ∀ f, f ∈ fs → e.1 = .text f.1 → Meaning f.2 e.2
  | array d => ∃ xs, v.items? = some xs ∧ ∀ x ∈ xs, Meaning d x
  | tuple ds => ∃ xs, v.items? = some xs ∧ xs.length = ds.length ∧
      ∀ q, q ∈ ds.zip xs → Meaning q.1 q.2
  | record key value => (v.isObject && !v.isArray) = true ∧
      ∃ es, v.HasEntries es ∧ ∀ e ∈ es, Meaning key e.1 ∧ Meaning value e.2
  | union ds => ∃ d, ∃ _ : d ∈ ds, Meaning d v
  | intersection ds => ∀ d, d ∈ ds → Meaning d v
  | literal x => v.strictEqual x = .ok true
  | refined base condition => Meaning base v ∧ Meaning condition v
  | named _ d => Meaning d v
termination_by c
decreasing_by
  all_goals simp_wf
  any_goals omega
  · have := sizeOf_field_lt (by assumption : f ∈ fs)
    omega
  · have := sizeOf_field_lt (by assumption : f ∈ fs)
    omega
  · have := List.sizeOf_lt_of_mem (List.of_mem_zip (by assumption : q ∈ ds.zip xs)).1
    omega
  · have := List.sizeOf_lt_of_mem (by assumption : d ∈ ds)
    omega
  · have := List.sizeOf_lt_of_mem (by assumption : d ∈ ds)
    omega

def parts : Check → List Check
  | object fs | partialObject fs => fs.map Prod.snd
  | array c | named _ c => [c]
  | tuple cs | union cs | intersection cs => cs
  | record key value => [key, value]
  | refined base condition => [base, condition]
  | _ => []

/-- What is asked of a check itself, its parts aside: a predicate never ends in anything worse than an
ordinary fault, fields that may be absent have different names, and the members of a union are guards. -/
def Regular : Check → Prop
  | predicate p => ∀ v, Quiet (p.test v)
  | partialObject fs => (Assoc.keys fs).Nodup
  | union cs => ∀ c ∈ cs, c.isGuard = true
  | _ => True

inductive Orderly : Check → Prop
  | intro {c : Check} (own : c.Regular) (parts : ∀ d ∈ c.parts, Orderly d) : Orderly c

theorem declared_eq_some_iff {fs : List (String × Check)} (hkeys : (Assoc.keys fs).Nodup)
    {k : Value} {c : Check} :
    declared fs k = some c ↔ ∃ f ∈ fs, k = .text f.1 ∧ f.2 = c := by
  constructor
  · intro h
    unfold declared at h
    split at h
    · next name => exact ⟨(name, c), Assoc.mem_of_get?_eq_some h, rfl, rfl⟩
    · cases h
  · rintro ⟨f, hf, rfl, rfl⟩
    exact Assoc.get?_eq_some_of_mem hkeys hf

section Combinators

variable {v : Value} {A : Check → Value → Prop} {c : Check} {cs : List Check}
  {fs : List (String × Check)}

theorem settled_object (h : ∀ f ∈ fs, ∀ w, Settles (f.2.test w) (A f.2 w)) :
    Decides ((object fs).test v) (v.isObject = true ∧
      ∀ f, f ∈ fs → ∃ w, v.getField (.text f.1) = .ok w ∧ A f.2 w) := by
  refine Settles.failClosed ?_ _
  unfold Test.object
  cases hv : v.isObject with
  | false => exact (settles_pure false).congr (by simp)
  | true =>
    rw [if_pos rfl, fieldTests_eq_map, allM_map, eq_self, true_and]
    refine settles_allM fun f hf => ?_
    exact (settles_read (v.quiet_getField (.text f.1)) fun w _ => h f hf w).leave .generator

theorem settled_partialObject (hkeys : (Assoc.keys fs).Nodup)
    (h : ∀ f ∈ fs, ∀ w, Settles (f.2.test w) (A f.2 w)) :
    Decides ((partialObject fs).test v) (v.isObject = true ∧ ∃ es, v.HasEntries es ∧
      ∀ e ∈ es, ∀ f, f ∈ fs → e.1 = .text f.1 → A f.2 e.2) := by
  refine Settles.failClosed ?_ _
  unfold Test.partialObject
  cases hv : v.isObject with
  | false => exact (settles_pure false).congr (by simp)
  | true =>
    rw [if_pos rfl, eq_self, true_and]
    refine settles_eachEntry (A := fun e => ∀ f ∈ fs, e.1 = .text f.1 → A f.2 e.2) fun e => ?_
    have hdeclared (c : Check) := declared_eq_some_iff hkeys (k := e.1) (c := c)
    dsimp only
    rw [declared_fieldTests]
    cases hc : declared fs e.1 with
    | none =>
      refine (settles_pure true).congr ⟨fun _ f hf hk => ?_, fun _ => rfl⟩
      have hsome := (hdeclared f.2).2 ⟨f, hf, hk, rfl⟩
      rw [hc] at hsome
      cases hsome
    | some c =>
      obtain ⟨f, hf, hk, rfl⟩ := (hdeclared c).1 hc
      refine (h f hf e.2).congr ⟨fun hA g hg hk' => ?_, fun hA => hA f hf hk⟩
      have hsome := (hdeclared g.2).2 ⟨g, hg, hk', rfl⟩
      rwa [Option.some.inj (hsome.symm.trans hc)]

theorem settled_array (h : ∀ w, Settles (c.test w) (A c w)) :
    Decides ((array c).test v) (∃ xs, v.items? = some xs ∧ ∀ x ∈ xs, A c x) := by
  refine Settles.failClosed ?_ _
  unfold Test.array
  cases hv : v.items? with
  | none => exact (settles_pure false).congr (by simp)
  | some xs => exact (settles_allM fun x _ => (h x).leave .generator).congr (by simp)

theorem settled_tuple (h : ∀ c ∈ cs, ∀ w, Settles (c.test w) (A c w)) :
    Decides ((tuple cs).test v) (∃ xs, v.items? = some xs ∧ xs.length = cs.length ∧
      ∀ q, q ∈ cs.zip xs → A q.1 q.2) := by
  refine Settles.failClosed ?_ _
  unfold Test.tuple
  cases hv : v.items? with
  | none => exact (settles_pure false).congr (by simp)
  | some xs =>
    by_cases hlength : xs.length = cs.length
    · simp only [length_tests, hlength, if_true, zip_tests, allM_map]
      refine (settles_allM (A := fun q => A q.1 q.2) fun q hq => ?_).congr (by simp [hlength])
      exact (h q.1 (List.of_mem_zip hq).1 q.2).leave .generator
    · simp only [length_tests, hlength, if_false]
      exact (settles_pure false).congr (by simp [hlength])

theorem settled_record {key value : Check} (hkey : ∀ w, Settles (key.test w) (A key w))
    (hvalue : ∀ w, Settles (value.test w) (A value w)) :
    Decides ((record key value).test v) ((v.isObject && !v.isArray) = true ∧
      ∃ es, v.HasEntries es ∧ ∀ e ∈ es, A key e.1 ∧ A value e.2) := by
  refine Settles.failClosed ?_ _
  unfold Test.record
  cases hv : v.isObject && !v.isArray with
  | false => exact (settles_pure false).congr (by simp)
  | true =>
    rw [if_pos rfl, eq_self, true_and]
    refine settles_eachEntry (A := fun e => A key e.1 ∧ A value e.2) fun e => ?_
    exact ((hkey e.1).leave .closed).and ((hvalue e.2).leave .generator)

theorem settled_intersection (h : ∀ c ∈ cs, ∀ w, Settles (c.test w) (A c w)) :
    Decides ((intersection cs).test v) (∀ c, c ∈ cs → A c v) := by
  refine Settles.failClosed ?_ _
  unfold Test.all
  rw [tests_eq_map, allM_map]
  exact settles_allM fun c hc => (h c hc v).leave .generator

end Combinators

/-- A guard answers whether its meaning holds of a value. A check that is none accepts if its meaning
holds, and may fail otherwise. -/
theorem Orderly.verdict {c : Check} (h : Orderly c) (v : Value) :
    (c.isGuard = true → Decides (c.test v) (c.Meaning v)) ∧ Settles (c.test v) (c.Meaning v) := by
  suffices hc : if c.isGuard then Decides (c.test v) (c.Meaning v)
      else Settles (c.test v) (c.Meaning v) by
    cases hguard : c.isGuard with
    | true =>
      rw [hguard] at hc
      exact ⟨fun _ => hc, Decides.settles hc⟩
    | false =>
      rw [hguard] at hc
      exact ⟨fun h => absurd h (by simp), hc⟩
  induction h generalizing v with
  | @intro c own parts ih =>
    have part {d : Check} (hd : d ∈ c.parts) (v : Value) : Settles (d.test v) (d.Meaning v) := by
      have hverdict := ih d hd v
      split at hverdict
      · exact hverdict.settles
      · exact hverdict
    cases c with
    | predicate p =>
      rw [Meaning]
      exact ⟨Iff.rfl, own v⟩
    | constant x =>
      rw [Meaning]
      exact ⟨Iff.rfl, quiet_ofValue x v⟩
    | primitive p =>
      rw [Meaning]
      exact decides_pure (p.accepts v)
    | literal x =>
      rw [Meaning]
      exact (settles_ofExcept (v.quiet_strictEqual x)).failClosed _
    | object fs =>
      rw [Meaning]
      exact settled_object fun f hf => part (List.mem_map_of_mem hf)
    | partialObject fs =>
      rw [Meaning]
      exact settled_partialObject own fun f hf => part (List.mem_map_of_mem hf)
    | array c =>
      rw [Meaning]
      exact settled_array (part (List.mem_singleton.2 rfl))
    | tuple cs =>
      rw [Meaning]
      exact settled_tuple fun c hc => part hc
    | record key value =>
      rw [Meaning]
      exact settled_record (part (by simp [Check.parts])) (part (by simp [Check.parts]))
    | union cs =>
      rw [Meaning]
      -- a union goes on after a rejection but not after a fault, so its members have to be guards
      have member : ∀ c ∈ cs, Decides (c.test v) (c.Meaning v) := by
        intro c hc
        have hverdict := ih c hc v
        rwa [own c hc] at hverdict
      exact (decides_union member).congr (by simp)
    | intersection cs =>
      rw [Meaning]
      exact settled_intersection fun c hc => part hc
    | refined base condition =>
      rw [Meaning]
      refine Settles.failClosed ?_ _
      exact (part (by simp [Check.parts]) v).and (part (by simp [Check.parts]) v)
    | named n c =>
      rw [Meaning]
      exact (part (List.mem_singleton.2 rfl) v).failClosed _

end Check

end Conform.Guard
