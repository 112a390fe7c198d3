import Conform.Proofs.Match.Walk

/-! Matchers side by side. If one accepts every name where the other does, then of the same value it
lists some of the problems of the other, in the same order; and either both walks come to their end
or the same fault ends both. -/

namespace Conform

namespace Journal

variable {ν ε α β γ δ : Type}

inductive Related (P : α → β → Prop) (x : Journal ν ε α) (y : Journal ν ε β) : Prop
  | fault {e : ε} (hx : x.result = .error e) (hy : y.result = .error e) : Related P x y
  | value {a : α} {b : β} (hx : x.result = .ok a) (hy : y.result = .ok b) (h : P a b) :
      Related P x y

variable {P : α → β → Prop} {Q : γ → δ → Prop}

theorem Related.refl {P : α → α → Prop} (hP : ∀ a, P a a) (x : Journal ν ε α) : Related P x x := by
  cases hx : x.result with
  | error e => exact .fault hx hx
  | ok a => exact .value hx hx (hP a)

theorem Related.bind {x : Journal ν ε α} {y : Journal ν ε β} {f : α → Journal ν ε γ}
    {g : β → Journal ν ε δ} (h : Related P x y) (hfg : ∀ a b, P a b → Related Q (f a) (g b)) :
    Related Q (x >>= f) (y >>= g) := by
  cases h with
  | @fault e hx hy =>
    refine .fault (e := e) ?_ ?_
    · rw [bind_result, hx]
      rfl
    · rw [bind_result, hy]
      rfl
  | @value a b hx hy h =>
    have hx : (x >>= f).result = (f a).result := by
      rw [bind_result, hx]
      rfl
    have hy : (y >>= g).result = (g b).result := by
      rw [bind_result, hy]
      rfl
    cases hfg a b h with
    | fault hf hg => exact .fault (hx.trans hf) (hy.trans hg)
    | value hf hg hQ => exact .value (hx.trans hf) (hy.trans hg) hQ

end Journal

namespace Schema

open Match Journal

variable {same : Prop}

/-- The first answer is at least as favourable as the second, and the same one if `same` holds. -/
def Laxer (same : Prop) (b b' : Bool) : Prop := (b' = true → b = true) ∧ (same → b = b')

def Fewer (same : Prop) (ps qs : List Problem) : Prop := ps.Sublist qs ∧ (same → ps = qs)

theorem Laxer.refl (b : Bool) : Laxer same b b := ⟨id, fun _ => rfl⟩

theorem Fewer.refl (ps : List Problem) : Fewer same ps ps := ⟨List.Sublist.refl ps, fun _ => rfl⟩

theorem Fewer.append {ps qs ps' qs' : List Problem} (h : Fewer same ps qs)
    (h' : Fewer same ps' qs') : Fewer same (ps ++ ps') (qs ++ qs') := by
  refine ⟨h.1.append h'.1, fun hsame => ?_⟩
  rw [h.2 hsame, h'.2 hsame]

theorem Laxer.problem {b b' : Bool} (h : Laxer same b b') (p : Problem) :
    Fewer same (if b then [] else [p]) (if b' then [] else [p]) := by
  obtain ⟨hlax, hsame⟩ := h
  cases b' with
  | true =>
    rw [hlax rfl]
    exact .refl _
  | false =>
    cases b with
    | false => exact .refl _
    | true => exact ⟨List.nil_sublist _, fun h => absurd (hsame h) (by simp)⟩

theorem related_append {x y x' y' : Matcher.Walk} (h : Related (Fewer same) x y)
    (h' : Related (Fewer same) x' y') :
    Related (Fewer same) (do let ps ← x; let qs ← x'; pure (ps ++ qs))
      (do let ps ← y; let qs ← y'; pure (ps ++ qs)) := by
  refine h.bind fun ps qs hpq => h'.bind fun ps' qs' hpq' => ?_
  exact .value rfl rfl (hpq.append hpq')

theorem items_related {walk walk' : Path → Value → Matcher.Walk}
    (h : ∀ path x, Related (Fewer same) (walk path x) (walk' path x)) (path : Path) (i : Nat)
    (xs : List Value) :
    Related (Fewer same) (Matcher.items walk path i xs) (Matcher.items walk' path i xs) := by
  induction xs generalizing i with
  | nil => exact .refl Fewer.refl _
  | cons x xs ih => exact related_append (h _ x) (ih (i + 1))

variable {m m' : Matcher}

theorem properties_related {ps : Definition}
    (h : ∀ e ∈ ps, ∀ path x,
      Related (Fewer same) (m.walkType e.2.type path x) (m'.walkType e.2.type path x))
    (path : Path) (v : Value) :
    Related (Fewer same) (m.walkProperties ps path v) (m'.walkProperties ps path v) := by
  induction ps with
  | nil => exact .refl Fewer.refl _
  | cons e ps ih =>
    cases hx : Matcher.property v e.1 with
    | error fault =>
      refine .fault (e := fault) ?_ ?_
      · rw [Matcher.walkProperties, hx]
        rfl
      · rw [Matcher.walkProperties, hx]
        rfl
    | ok x =>
      have hrest := ih fun f hf => h f (List.mem_cons_of_mem _ hf)
      have hhere : Related (Fewer same) (propertyWalk m path e x) (propertyWalk m' path e x) := by
        cases x with
        | none => exact .refl Fewer.refl _
        | some x => exact h e List.mem_cons_self _ x
      rw [walkProperties_cons hx, walkProperties_cons hx]
      exact related_append hhere hrest

/-- A walk with laxer checks of the names of a type, beside the walk with the stricter ones. -/
theorem walkType_related {τ : TypeExpr}
    (h : ∀ name ∈ τ.names, ∀ v, Related (Laxer same) (m.checkNamed name v) (m'.checkNamed name v))
    (path : Path) (v : Value) :
    Related (Fewer same) (m.walkType τ path v) (m'.walkType τ path v) := by
  induction τ using TypeExpr.induction generalizing path v with
  | named name =>
    have hnamed (n : Matcher) : n.walkType (.named name) path v = (do
        let b ← n.checkNamed name v
        pure (if b then [] else [.mismatch path (.named name) v.shape])) := by
      rw [Matcher.walkType]
      congr
      funext b
      cases b <;> rfl
    rw [hnamed m, hnamed m']
    exact (h name List.mem_cons_self v).bind fun b b' hb => .value rfl rfl (hb.problem _)
  | array item ih =>
    rw [Matcher.walkType, Matcher.walkType]
    split
    · exact items_related (ih h) path 0 _
    · exact .refl Fewer.refl _
  | object ps ih =>
    rw [Matcher.walkType, Matcher.walkType]
    split
    · refine properties_related (fun e he => ih e he fun name hname => ?_) path v
      exact h name (mem_propertiesNames.2 ⟨e, he, hname⟩)
    · exact .refl Fewer.refl _

end Schema

end Conform
