import Conform.Guard.Build
import Mathlib.Data.List.Basic

/-! Guards can be put together without anything going wrong: what the combinators refuse are values
and names that are no texts, and keys that are none. -/

namespace Conform.Guard

structure Titled (c : Check) : Prop where
  guard : c.isGuard = true
  title : ∃ s, c.label = .text s

namespace Check

variable {c d : Check} {cs : List Check}

theorem requireName_of_isGuard (h : c.isGuard = true) : c.requireName = .ok () := by
  cases c with
  | constant v => cases h
  | _ => rfl

theorem isCallable_of_isGuard (h : c.isGuard = true) : c.isCallable = true := by
  cases c with
  | constant v => cases h
  | _ => rfl

theorem requireNames_of_forall (h : ∀ c ∈ cs, c.requireName = .ok ()) :
    requireNames cs = .ok () := by
  induction cs with
  | nil => rfl
  | cons c cs ih =>
    obtain ⟨hc, hcs⟩ := List.forall_mem_cons.1 h
    rw [requireNames, List.forM, hc]
    exact ih hcs

theorem requireTexts_of_forall (h : ∀ c ∈ cs, ∃ s, c.label = .text s) (i : Nat) :
    requireTexts i (cs.map label) = .ok () := by
  induction cs generalizing i with
  | nil => rfl
  | cons c cs ih =>
    obtain ⟨⟨s, hs⟩, hcs⟩ := List.forall_mem_cons.1 h
    rw [List.map_cons, hs, requireTexts]
    exact ih hcs (i + 1)

theorem requireJoined_of_titled (h : ∀ c ∈ cs, Titled c) : requireJoined cs = .ok () := by
  unfold requireJoined
  rw [requireNames_of_forall fun c hc => requireName_of_isGuard (h c hc).guard]
  exact requireTexts_of_forall (fun c hc => (h c hc).title) 0

theorem requireSaid_of_titled (h : Titled c) : c.requireSaid = .ok () := by
  obtain ⟨s, hs⟩ := h.title
  rw [requireSaid, requireName_of_isGuard h.guard, hs]
  rfl

theorem buildArray_of_titled (h : Titled c) : buildArray c = .ok (array c) := by
  unfold buildArray
  rw [requireSaid_of_titled h]
  rfl

theorem buildUnion_of_titled (h : ∀ e ∈ c :: d :: cs, Titled e) :
    buildUnion (c :: d :: cs) = .ok (union (c :: d :: cs)) := by
  unfold buildUnion
  dsimp only
  rw [requireJoined_of_titled h]
  rfl

theorem buildIntersection_of_titled (h : ∀ e ∈ c :: cs, Titled e) :
    buildIntersection (c :: cs) = .ok (intersection (c :: cs)) := by
  unfold buildIntersection
  rw [requireJoined_of_titled h]
  rfl

end Check

namespace FieldSource

variable {fs : List (String × Check)}

def keyed (f : String × Check) : Value × Check := (.text f.1, f.2)

theorem foldl_put_keyed {gs : List (String × Check)} (hkeys : (Assoc.keys (gs ++ fs)).Nodup) :
    (fs.map keyed).foldl entries.put (gs.map keyed) = (gs ++ fs).map keyed := by
  induction fs generalizing gs with
  | nil => simp
  | cons f fs ih =>
    have hnew : (gs.map keyed).any (fun x => x.1.sameKey (keyed f).1) = false := by
      simp only [Assoc.keys, List.map_append, List.map_cons, List.nodup_append] at hkeys
      simp only [List.any_map, List.any_eq_false, Function.comp_apply, keyed, Value.sameKey_text,
        beq_iff_eq]
      intro g hg
      exact hkeys.2.2 g.1 (List.mem_map_of_mem hg) f.1 List.mem_cons_self
    have hput : entries.put (gs.map keyed) (keyed f) = (gs ++ [f]).map keyed := by
      rw [entries.put, hnew]
      simp
    have hrest := @ih (gs ++ [f]) (by simpa using hkeys)
    rw [List.map_cons, List.foldl_cons, hput, hrest]
    simp

theorem named_keyed (fs : List (String × Check)) (i : Nat) : named i (fs.map keyed) = .ok fs := by
  induction fs generalizing i with
  | nil => rfl
  | cons f fs ih =>
    rw [List.map_cons, keyed, named, ih]
    rfl

theorem resolve_keyed (hkeys : (Assoc.keys fs).Nodup) (h : ∀ f ∈ fs, f.2.isGuard = true) :
    (fields (fs.map keyed)).resolve = .ok fs := by
  have hentries : (fields (fs.map keyed)).entries = .ok (fs.map keyed) :=
    congrArg Except.ok (@foldl_put_keyed fs [] hkeys)
  have hvalid : validate (fs.map keyed) = .ok () := by
    have hnone : (fs.map keyed).find? (fun e => !e.2.isCallable) = none := by
      refine List.find?_eq_none.2 fun e he => ?_
      obtain ⟨f, hf, rfl⟩ := List.mem_map.1 he
      simp [keyed, Check.isCallable_of_isGuard (h f hf)]
    rw [validate, hnone]
  unfold resolve
  rw [hentries]
  show (do validate (fs.map keyed); named 0 (fs.map keyed)) = _
  rw [hvalid]
  exact named_keyed fs 0

theorem buildObject_keyed (hkeys : (Assoc.keys fs).Nodup) (h : ∀ f ∈ fs, f.2.isGuard = true) :
    Check.buildObject (fields (fs.map keyed)) = .ok (.object fs) := by
  rw [Check.buildObject, resolve_keyed hkeys h]
  rfl

end FieldSource

end Conform.Guard
