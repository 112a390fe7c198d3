import Conform.Proofs.Guard.FailClosed
import Conform.Proofs.Value.Entries

/-! What verdicts mean where nothing fails. A test decides a proposition about a value; a combinator
that looks at several tests decides what these propositions come to, and the guard around it changes
nothing. -/

namespace Conform.Guard

/-- A verdict without a fault that accepts just if `P` holds. -/
def Decides (r : Verdict) (P : Prop) : Prop := ∃ b, r.result = .ok b ∧ (b = true ↔ P)

section Verdicts

variable {α : Type} {P Q : Prop} {r : Verdict}

theorem decides_pure (b : Bool) : Decides (pure b) (b = true) := ⟨b, rfl, Iff.rfl⟩

theorem Decides.congr (h : Decides r P) (hPQ : P ↔ Q) : Decides r Q := by
  obtain ⟨b, hb, hP⟩ := h
  exact ⟨b, hb, hP.trans hPQ⟩

theorem Decides.accepts_iff (h : Decides r P) : r.result = .ok true ↔ P := by
  obtain ⟨b, hb, hP⟩ := h
  rw [hb, Except.ok.injEq, hP]

theorem Decides.self (h : Decides r P) : Decides r (r.result = .ok true) :=
  h.congr h.accepts_iff.symm

theorem Decides.failClosed {t : Test} {v : Value} (h : Decides (t v) P) (name : Value) :
    Decides (failClosed name t v) P := by
  obtain ⟨b, hb, hP⟩ := h
  refine ⟨b, ?_, hP⟩
  rw [failClosed_result, hb, settle_ok]

theorem Decides.inside {t : Test} {v : Value} (h : Decides (t v) P) (frame : Frame) :
    Decides (t.inside frame v) P := by
  obtain ⟨b, hb, hP⟩ := h
  exact ⟨b, Journal.mapError_result_eq_ok.2 hb, hP⟩

/-- The second verdict is only asked for if the first one accepts. -/
theorem Decides.and {s : Verdict} (hr : Decides r P) (hs : P → Decides s Q) :
    Decides (do if ← r then s else pure false) (P ∧ Q) := by
  obtain ⟨b, hb, hP⟩ := hr
  cases b with
  | false =>
    refine ⟨false, ?_, by simpa using fun h => absurd (hP.2 h) (by simp)⟩
    rw [Journal.bind_result, hb]
    rfl
  | true =>
    obtain ⟨b, hb', hQ⟩ := hs (hP.1 rfl)
    refine ⟨b, ?_, hQ.trans ⟨fun h => ⟨hP.1 rfl, h⟩, fun h => h.2⟩⟩
    rw [Journal.bind_result, hb]
    exact hb'

/-- The second verdict is only asked for if the first one rejects. -/
theorem Decides.or {s : Verdict} (hr : Decides r P) (hs : ¬ P → Decides s Q) :
    Decides (do if ← r then pure true else s) (P ∨ Q) := by
  obtain ⟨b, hb, hP⟩ := hr
  cases b with
  | true =>
    refine ⟨true, ?_, by simpa using .inl (hP.1 rfl)⟩
    rw [Journal.bind_result, hb]
    rfl
  | false =>
    have hnot : ¬ P := fun h => absurd (hP.2 h) (by simp)
    obtain ⟨b, hb', hQ⟩ := hs hnot
    refine ⟨b, ?_, hQ.trans ⟨.inr, fun h => h.resolve_left hnot⟩⟩
    rw [Journal.bind_result, hb]
    exact hb'

variable {f : α → Verdict} {A : α → Prop} {xs : List α}

theorem allM_map {β : Type} (g : β → α) (xs : List β) :
    (xs.map g).allM f = xs.allM fun x => f (g x) := by
  induction xs with
  | nil => rfl
  | cons x xs ih => rw [List.map_cons, List.allM, List.allM, ih]

theorem anyM_map {β : Type} (g : β → α) (xs : List β) :
    (xs.map g).anyM f = xs.anyM fun x => f (g x) := by
  induction xs with
  | nil => rfl
  | cons x xs ih => rw [List.map_cons, List.anyM, List.anyM, ih]

theorem allM_cons (x : α) (xs : List α) :
    (x :: xs).allM f = (do if ← f x then xs.allM f else pure false) := by
  rw [List.allM]
  congr
  funext b
  cases b <;> rfl

theorem anyM_cons (x : α) (xs : List α) :
    (x :: xs).anyM f = (do if ← f x then pure true else xs.anyM f) := by
  rw [List.anyM]
  congr
  funext b
  cases b <;> rfl

theorem decides_allM (h : ∀ x ∈ xs, Decides (f x) (A x)) :
    Decides (xs.allM f) (∀ x ∈ xs, A x) := by
  induction xs with
  | nil => exact (decides_pure true).congr (by simp)
  | cons x xs ih =>
    obtain ⟨hx, hxs⟩ := List.forall_mem_cons.1 h
    rw [allM_cons]
    exact (hx.and fun _ => ih hxs).congr (by simp)

theorem decides_anyM (h : ∀ x ∈ xs, Decides (f x) (A x)) :
    Decides (xs.anyM f) (∃ x ∈ xs, A x) := by
  induction xs with
  | nil => exact (decides_pure false).congr (by simp)
  | cons x xs ih =>
    obtain ⟨hx, hxs⟩ := List.forall_mem_cons.1 h
    rw [anyM_cons]
    exact (hx.or fun _ => ih hxs).congr (by simp)

end Verdicts

theorem decides_eachEntry {ask : Value × Value → Verdict} {A : Value × Value → Prop} {v : Value}
    {es : List (Value × Value)} (hv : v.HasEntries es)
    (h : ∀ e ∈ es, Decides (ask e) (A e)) : Decides (Test.eachEntry ask v) (∀ e ∈ es, A e) := by
  unfold Value.HasEntries at hv
  rw [Test.eachEntry, hv, allM_map]
  exact decides_allM h

namespace Check

variable {v : Value} {A : Check → Prop} {cs : List Check}

theorem tests_eq_map (cs : List Check) : tests cs = cs.map test := by
  induction cs with
  | nil => rfl
  | cons c cs ih => exact congrArg (test c :: ·) ih

theorem fieldTests_eq_map (fs : List (String × Check)) :
    fieldTests fs = fs.map fun f => (f.1, f.2.test) := by
  induction fs with
  | nil => rfl
  | cons f fs ih => exact congrArg ((f.1, test f.2) :: ·) ih

theorem zip_tests (cs : List Check) (xs : List Value) :
    (tests cs).zip xs = (cs.zip xs).map fun q => (q.1.test, q.2) := by
  rw [tests_eq_map, List.zip_map_left]
  rfl

def declared (fs : List (String × Check)) : Value → Option Check
  | .text k => Assoc.get? k fs
  | _ => none

theorem declared_fieldTests (fs : List (String × Check)) (k : Value) :
    Test.declared (fieldTests fs) k = (declared fs k).map Check.test := by
  cases k with
  | text name =>
    rw [fieldTests_eq_map]
    exact Assoc.get?_map name test fs
  | _ => rfl

theorem mem_of_declared {fs : List (String × Check)} {k : Value} {c : Check}
    (h : declared fs k = some c) : ∃ f ∈ fs, f.2 = c := by
  unfold declared at h
  split at h
  · exact ⟨_, Assoc.mem_of_get?_eq_some h, rfl⟩
  · cases h

theorem length_tests (cs : List Check) : (tests cs).length = cs.length := by
  rw [tests_eq_map, List.length_map]

theorem decides_primitive (p : Primitive) (v : Value) :
    Decides ((primitive p).test v) (p.accepts v = true) :=
  decides_pure (p.accepts v)

theorem decides_union (h : ∀ c ∈ cs, Decides (c.test v) (A c)) :
    Decides ((union cs).test v) (∃ c ∈ cs, A c) := by
  refine Decides.failClosed ?_ _
  unfold Test.any
  rw [tests_eq_map, anyM_map]
  exact decides_anyM fun c hc => (h c hc).inside .generator

theorem decides_union_primitive (ps : List Primitive) (v : Value) :
    Decides ((union (ps.map primitive)).test v) (∃ p ∈ ps, p.accepts v = true) := by
  have h : ∀ c ∈ ps.map primitive, Decides (c.test v) ((c.test v).result = .ok true) := by
    intro c hc
    obtain ⟨p, -, rfl⟩ := List.mem_map.1 hc
    exact (decides_primitive p v).self
  have hiff (p : Primitive) := (decides_primitive p v).accepts_iff
  refine (decides_union h).congr ⟨?_, ?_⟩
  · rintro ⟨c, hc, haccepts⟩
    obtain ⟨p, hp, rfl⟩ := List.mem_map.1 hc
    exact ⟨p, hp, (hiff p).1 haccepts⟩
  · rintro ⟨p, hp, haccepts⟩
    exact ⟨primitive p, List.mem_map_of_mem hp, (hiff p).2 haccepts⟩

theorem decides_either {c d : Check} {P Q : Prop} (hc : Decides (c.test v) P)
    (hd : Decides (d.test v) Q) : Decides ((union [c, d]).test v) (P ∨ Q) := by
  have h : ∀ e ∈ [c, d], Decides (e.test v) ((e.test v).result = .ok true) := by
    simpa using ⟨hc.self, hd.self⟩
  exact (decides_union h).congr (by simp [hc.accepts_iff, hd.accepts_iff])

theorem decides_both {c d : Check} {P Q : Prop} (hc : Decides (c.test v) P)
    (hd : P → Decides (d.test v) Q) : Decides ((intersection [c, d]).test v) (P ∧ Q) := by
  refine Decides.failClosed ?_ _
  show Decides ([c.test, d.test].allM fun t => t.inside .generator v) (P ∧ Q)
  rw [allM_cons]
  refine (hc.inside .generator).and fun hP => ?_
  exact (decides_allM (A := fun _ => Q) (by simpa using (hd hP).inside .generator)).congr (by simp)

theorem decides_array {c : Check} {B : Value → Prop}
    (h : ∀ xs, v.items? = some xs → ∀ x ∈ xs, Decides (c.test x) (B x)) :
    Decides ((array c).test v) (∃ xs, v.items? = some xs ∧ ∀ x ∈ xs, B x) := by
  refine Decides.failClosed ?_ _
  unfold Test.array
  cases hv : v.items? with
  | none => exact (decides_pure false).congr (by simp)
  | some xs => exact (decides_allM fun x hx => (h xs hv x hx).inside .generator).congr (by simp)

theorem decides_object_of_not {fs : List (String × Check)} (hv : v.isObject = false) :
    Decides ((object fs).test v) False := by
  refine Decides.failClosed ?_ _
  rw [Test.object, hv]
  exact (decides_pure false).congr (by simp)

theorem decides_object {fs : List (String × Check)} {x : String → Value}
    {B : String × Check → Prop} (hx : ∀ f ∈ fs, v.getField (.text f.1) = .ok (x f.1))
    (h : ∀ f ∈ fs, Decides (f.2.test (x f.1)) (B f)) :
    Decides ((object fs).test v) (v.isObject = true ∧ ∀ f ∈ fs, B f) := by
  refine Decides.failClosed ?_ _
  unfold Test.object
  cases hv : v.isObject with
  | false => exact (decides_pure false).congr (by simp)
  | true =>
    rw [if_pos rfl, fieldTests_eq_map, allM_map]
    refine Decides.congr (P := ∀ f ∈ fs, B f) (decides_allM fun f hf => ?_) (by simp)
    dsimp only
    rw [hx f hf, Journal.ofExcept_ok, pure_bind]
    exact (h f hf).inside .generator

theorem decides_record {key value : Check} {es : List (Value × Value)} {K W : Value → Prop}
    (hv : v.HasEntries es) (hkey : ∀ e ∈ es, Decides (key.test e.1) (K e.1))
    (hvalue : ∀ e ∈ es, Decides (value.test e.2) (W e.2)) :
    Decides ((record key value).test v)
      ((v.isObject && !v.isArray) = true ∧ ∀ e ∈ es, K e.1 ∧ W e.2) := by
  refine Decides.failClosed ?_ _
  unfold Test.record
  cases hobject : v.isObject && !v.isArray with
  | false => exact (decides_pure false).congr (by simp)
  | true =>
    rw [if_pos rfl]
    refine Decides.congr (P := ∀ e ∈ es, K e.1 ∧ W e.2) (decides_eachEntry hv fun e he => ?_) (by simp)
    exact ((hkey e he).inside .closed).and fun _ => (hvalue e he).inside .generator

end Check

end Conform.Guard
