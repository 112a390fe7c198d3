import Conform.Proofs.Guard.Denotation
import Conform.Proofs.Guard.Forms

/-! When a check accepts, whatever else its parts may do. A fault and a rejection come to the same here,
so all combinators but one ask no more of their parts than that they accept; a union asks in addition
how the members before the one that accepts answer. Where no predicate ends in anything worse than an
ordinary fault this is all that there is to the answer of a guard. -/

namespace Conform.Guard

section Verdicts

variable {α : Type}

/-- The turn comes to an element of a list: it has passed all before. -/
inductive Reached (passed : α → Prop) : List α → α → Prop
  | here {a : α} {as : List α} : Reached passed (a :: as) a
  | later {a b : α} {as : List α} (ha : passed a) (h : Reached passed as b) :
      Reached passed (a :: as) b

theorem Reached.mem {passed : α → Prop} {a : α} {as : List α} (h : Reached passed as a) :
    a ∈ as := by
  induction h with
  | here => exact List.mem_cons_self
  | later _ _ ih => exact List.mem_cons_of_mem _ ih

theorem failClosed_accepts_iff {name : Value} {t : Test} {v : Value} :
    (failClosed name t v).result = .ok true ↔ (t v).result = .ok true := by
  rw [failClosed_result, settle_eq_true_iff]

theorem inside_result_eq_ok_iff {t : Test} {frame : Frame} {v : Value} {b : Bool} :
    (t.inside frame v).result = .ok b ↔ (t v).result = .ok b :=
  Journal.mapError_result_eq_ok

variable {f : α → Verdict} {xs : List α}

theorem anyM_accepts_iff :
    (xs.anyM f).result = .ok true ↔
      ∃ x, Reached (fun x => (f x).result = .ok false) xs x ∧ (f x).result = .ok true := by
  induction xs with
  | nil =>
    refine iff_of_false (by simp) ?_
    rintro ⟨x, turn, -⟩
    cases turn
  | cons x xs ih =>
    rw [anyM_cons, Journal.bind_result_eq_ok]
    constructor
    · rintro ⟨b, hb, hrest⟩
      cases b with
      | true => exact ⟨x, .here, hb⟩
      | false =>
        obtain ⟨y, turn, hy⟩ := ih.1 hrest
        exact ⟨y, .later hb turn, hy⟩
    · rintro ⟨y, turn, hy⟩
      cases turn with
      | here => exact ⟨true, hy, rfl⟩
      | later passed turn => exact ⟨false, passed, ih.2 ⟨y, turn, hy⟩⟩

end Verdicts

namespace Check

def Accepts (c : Check) (v : Value) : Prop := (c.test v).result = .ok true

/-- What a combinator other than a union asks of its parts, if `A` says which values these accept. A
check without parts is asked itself. -/
def Demands (A : Check → Value → Prop) : Check → Value → Prop
  | object fs, v => v.isObject = true ∧ ∀ f ∈ fs, ∃ w, v.getField (.text f.1) = .ok w ∧ A f.2 w
  | partialObject fs, v => v.isObject = true ∧
      ∃ es, v.HasEntries es ∧ ∀ e ∈ es, ∀ c, declared fs e.1 = some c → A c e.2
  | array c, v => ∃ xs, v.items? = some xs ∧ ∀ x ∈ xs, A c x
  | tuple cs, v => ∃ xs, v.items? = some xs ∧ xs.length = cs.length ∧ ∀ q ∈ cs.zip xs, A q.1 q.2
  | record key value, v => (v.isObject && !v.isArray) = true ∧
      ∃ es, v.HasEntries es ∧ ∀ e ∈ es, A key e.1 ∧ A value e.2
  | intersection cs, v => ∀ c ∈ cs, A c v
  | refined base condition, v => A base v ∧ A condition v
  | named _ c, v => A c v
  | c, v => c.Accepts v

variable {c : Check} {cs : List Check} {fs : List (String × Check)} {v : Value}

/-- A union is decided by the first member that does not reject, and it is not asked further if that
one fails. -/
theorem accepts_union_iff :
    (union cs).Accepts v ↔
      ∃ c, Reached (fun c : Check => (c.test v).result = .ok false) cs c ∧ c.Accepts v := by
  show (failClosed _ (Test.any (tests cs)) v).result = .ok true ↔ _
  rw [failClosed_accepts_iff, Test.any, tests_eq_map, anyM_map, anyM_accepts_iff]
  simp only [inside_result_eq_ok_iff]
  rfl

theorem accepts_either_iff {d : Check} (h : Decides (c.test v) (c.Accepts v)) :
    (union [c, d]).Accepts v ↔ c.Accepts v ∨ d.Accepts v := by
  rw [accepts_union_iff]
  constructor
  · rintro ⟨e, turn, he⟩
    obtain rfl | rfl : e = c ∨ e = d := by simpa using turn.mem
    · exact .inl he
    · exact .inr he
  · rintro (hv | hv)
    · exact ⟨c, .here, hv⟩
    · obtain ⟨b, hb, hiff⟩ := h
      cases b with
      | true => exact ⟨c, .here, hiff.1 rfl⟩
      | false => exact ⟨d, .later hb .here, hv⟩

inductive Everywhere (P : Check → Prop) : Check → Prop
  | intro {c : Check} (own : P c) (parts : ∀ d ∈ c.parts, Everywhere P d) : Everywhere P c

theorem Everywhere.own {P : Check → Prop} (h : Everywhere P c) : P c := by
  cases h with | intro own parts => exact own

theorem Everywhere.of_mem_parts {P : Check → Prop} {d : Check} (h : Everywhere P c)
    (hd : d ∈ c.parts) : Everywhere P d := by
  cases h with | intro own parts => exact parts d hd

/-- A predicate that never ends in anything worse than an ordinary fault. -/
def Calm : Check → Prop
  | predicate p => ∀ v, Quiet (p.test v)
  | _ => True

theorem Calls.everywhere {P : Check → Prop} {p : Predicate} {x : Value} (h : Calls p x c v)
    (hc : Everywhere P c) : P (.predicate p) := by
  induction h with
  | predicate => exact hc.own
  | part hagenda turn _ ih => exact ih (hc.of_mem_parts (asked_mem_parts hagenda turn))

theorem Everywhere.quiet (h : Everywhere Calm c) (v : Value) : Quiet (c.test v).result := by
  intro fault hfault
  rcases arises_of_test hfault with hordinary | ⟨p, x, raised, hcalls, hraised, hleads⟩
  · exact hordinary
  · obtain ⟨kind, text, rfl⟩ := hcalls.everywhere h x raised hraised
    cases hleads
    exact ⟨kind, text, rfl⟩

/-- A guard whose predicates end in nothing worse than ordinary faults gives an answer. -/
theorem Everywhere.decides (h : Everywhere Calm c) (hc : c.isGuard = true) (v : Value) :
    Decides (c.test v) (c.Accepts v) := by
  cases hr : (c.test v).result with
  | ok b => exact ⟨b, hr, by simp [Accepts, hr]⟩
  | error fault =>
    obtain ⟨p, x, raised, hcalls, hraised, hescapes⟩ := escapes_of_test hc hr
    obtain ⟨kind, text, rfl⟩ := hcalls.everywhere h x raised hraised
    exact absurd hescapes Fault.not_escapes_ordinary

theorem Everywhere.exists_asGuard (h : Everywhere Calm c) (name : Option String)
    (v : Value) : ∃ b, ((c.asGuard name).test v).result = .ok b := by
  rw [asGuard_result]
  split
  · next hc =>
    obtain ⟨b, hb, -⟩ := h.decides hc v
    exact ⟨b, hb⟩
  · exact exists_settle_of_quiet (h.quiet v)

end Check

end Conform.Guard
