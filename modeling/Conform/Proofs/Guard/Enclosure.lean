import Conform.Proofs.Guard.Acceptance

/-! Guards put around the predicates in a check. A predicate that fails takes the check around it along,
where a guard around it would reject. To most combinators that is the same. Only a union goes on after
a rejection, so with guards it may accept more, and never less. -/

namespace Conform.Guard.Check

mutual

/-- The check with a guard put around every part of it that is none. -/
def enclosed : Check → Check
  | predicate p => named (label (predicate p)) (predicate p)
  | constant x => named (label (constant x)) (constant x)
  | primitive p => primitive p
  | object fs => object (enclosedFields fs)
  | partialObject fs => partialObject (enclosedFields fs)
  | array c => array (enclosed c)
  | tuple cs => tuple (enclosedAll cs)
  | record key value => record (enclosed key) (enclosed value)
  | union cs => union (enclosedAll cs)
  | intersection cs => intersection (enclosedAll cs)
  | literal x => literal x
  | refined base condition => refined (enclosed base) (enclosed condition)
  | named n c => named n (enclosed c)

def enclosedAll : List Check → List Check
  | [] => []
  | c :: cs => enclosed c :: enclosedAll cs

def enclosedFields : List (String × Check) → List (String × Check)
  | [] => []
  | (k, c) :: fs => (k, enclosed c) :: enclosedFields fs

end

variable {c d : Check} {cs : List Check} {fs : List (String × Check)} {v : Value}

theorem enclosedAll_eq_map (cs : List Check) : enclosedAll cs = cs.map enclosed := by
  induction cs with
  | nil => rfl
  | cons c cs ih => exact congrArg (enclosed c :: ·) ih

theorem enclosedFields_eq_map (fs : List (String × Check)) :
    enclosedFields fs = fs.map fun f => (f.1, f.2.enclosed) := by
  induction fs with
  | nil => rfl
  | cons f fs ih => exact congrArg ((f.1, enclosed f.2) :: ·) ih

theorem enclosed_of_not_isGuard (h : c.isGuard = false) : c.enclosed = named c.label c := by
  cases c with
  | predicate p => rfl
  | constant x => rfl
  | _ => cases h

theorem parts_enclosed (h : c.isGuard = true) : c.enclosed.parts = c.parts.map enclosed := by
  cases c with
  | predicate p | constant x => cases h
  | primitive p | array c | record key value | literal x | refined base condition | named n c => rfl
  | object fs | partialObject fs => simp [enclosed, parts, enclosedFields_eq_map]
  | tuple cs | union cs | intersection cs => exact enclosedAll_eq_map cs

theorem Everywhere.enclosed (h : Everywhere Calm c) : Everywhere Calm c.enclosed := by
  induction h with
  | @intro c own parts ih =>
    cases hguard : c.isGuard with
    | false =>
      rw [enclosed_of_not_isGuard hguard]
      exact .intro trivial (List.forall_mem_singleton.2 (.intro own parts))
    | true =>
      refine .intro ?_ ?_
      · cases c with
        | predicate p => cases hguard
        | _ => trivial
      · rw [parts_enclosed hguard]
        exact List.forall_mem_map.2 ih

theorem Demands.mono {A B : Check → Value → Prop} (h : ∀ d ∈ c.parts, ∀ w, A d w → B d w)
    (hA : c.Demands A v) : c.Demands B v := by
  cases c with
  | object fs =>
    obtain ⟨hv, hfields⟩ := hA
    refine ⟨hv, fun f hf => ?_⟩
    obtain ⟨w, hw, hf'⟩ := hfields f hf
    exact ⟨w, hw, h _ (List.mem_map_of_mem hf) w hf'⟩
  | partialObject fs =>
    obtain ⟨hv, es, hes, hentries⟩ := hA
    refine ⟨hv, es, hes, fun e he c hc => ?_⟩
    obtain ⟨f, hf, rfl⟩ := mem_of_declared hc
    exact h _ (List.mem_map_of_mem hf) _ (hentries e he _ hc)
  | array c =>
    obtain ⟨xs, hxs, hitems⟩ := hA
    exact ⟨xs, hxs, fun x hx => h c (List.mem_singleton.2 rfl) x (hitems x hx)⟩
  | tuple cs =>
    obtain ⟨xs, hxs, hlength, hitems⟩ := hA
    exact ⟨xs, hxs, hlength, fun q hq => h _ (List.of_mem_zip hq).1 _ (hitems q hq)⟩
  | record key value =>
    obtain ⟨hv, es, hes, hentries⟩ := hA
    refine ⟨hv, es, hes, fun e he => ?_⟩
    exact ⟨h key List.mem_cons_self _ (hentries e he).1,
      h value (List.mem_cons_of_mem _ (List.mem_singleton.2 rfl)) _ (hentries e he).2⟩
  | intersection cs => exact fun c hc => h c hc v (hA c hc)
  | refined base condition =>
    exact ⟨h base List.mem_cons_self v hA.1,
      h condition (List.mem_cons_of_mem _ (List.mem_singleton.2 rfl)) v hA.2⟩
  | named n c => exact h c (List.mem_singleton.2 rfl) v hA
  | union cs | predicate p | constant x | primitive p | literal x => exact hA

/-- Somewhere in the check is a union with a member that is no guard and fails, where a later member,
with guards in it, accepts. -/
inductive Overtaken : Check → Prop
  | here (before : List Check) {after : List Check} {c d : Check} {w : Value} {kind : FaultKind}
      {text : String} (plain : c.isGuard = false)
      (fault : (c.test w).result = .error (.ordinary kind text)) (later : d ∈ after)
      (accepts : d.enclosed.Accepts w) : Overtaken (union (before ++ c :: after))
  | inside {c d : Check} (hd : d ∈ c.parts) (h : Overtaken d) : Overtaken c

theorem Overtaken.cons (h : Overtaken (union cs)) : Overtaken (union (c :: cs)) := by
  cases h with
  | here before plain fault later accepts => exact .here (c :: before) plain fault later accepts
  | inside hd h => exact .inside (List.mem_cons_of_mem c hd) h

end Conform.Guard.Check
