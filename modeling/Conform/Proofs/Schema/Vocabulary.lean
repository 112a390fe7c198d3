import Conform.Proofs.Schema.Derivation

/-! What the vocabulary does to reading. Two readings that differ only in the type names they
permit are the same up to the first name that one of them does not permit: there the narrower one
ends. So a wider vocabulary changes nothing that is read, readings with one vocabulary agree in
everything, and whatever is read has only permitted names. -/

namespace Conform.Schema

/-- The first reading is the second, or ends at a type name of which `N` holds. -/
inductive StopsOr (N : String → Prop) {α : Type} (x' x : Reading α) : Prop
  | same (h : x' = x) : StopsOr N x' x
  | stops {name : String} {position : Nat} (hN : N name)
      (h : x'.result = .error (.malformed (.unknownType name) position)) : StopsOr N x' x

namespace StopsOr

variable {N : String → Prop} {α β : Type} {x' x : Reading α} {f' f : α → Reading β}

theorem rfl {x : Reading α} : StopsOr N x x := same (Eq.refl x)

theorem bind (hx : StopsOr N x' x) (hf : ∀ a, StopsOr N (f' a) (f a)) :
    StopsOr N (x' >>= f') (x >>= f) := by
  cases hx with
  | stops hN h => exact .stops hN (by rw [Journal.bind_result, h]; rfl)
  | same h =>
    subst h
    obtain ⟨notes, e | a⟩ := x'
    · exact .rfl
    · cases hf a with
      | same h => exact .same (by simp [h])
      | stops hN h => exact .stops hN (by simpa using h)

theorem map (g : α → β) (hx : StopsOr N x' x) : StopsOr N (g <$> x') (g <$> x) := by
  rw [map_eq_pure_bind, map_eq_pure_bind]
  exact hx.bind fun a => .rfl

theorem ite {c : Prop} [Decidable c] {y' y : Reading α} (hx : StopsOr N x' x)
    (hy : StopsOr N y' y) : StopsOr N (if c then x' else y') (if c then x else y) := by
  split
  · exact hx
  · exact hy

theorem eq_of_ok (hx : StopsOr N x' x) {a : α} (h : x'.result = .ok a) : x' = x := by
  cases hx with
  | same h => exact h
  | stops hN he =>
    rw [he] at h
    cases h

theorem eq_of_forall_not (hx : StopsOr N x' x) (h : ∀ name, ¬ N name) : x' = x := by
  cases hx with
  | same h => exact h
  | stops hN he => exact absurd hN (h _)

end StopsOr

namespace ParseOptions

theorem named_eq_refuse {o : ParseOptions} {chars : List Char} {position : Nat}
    (h : ¬ o.Permits (String.ofList chars)) :
    o.named chars position = refuse (.unknownType (String.ofList chars)) position := by
  have hreject : o.unknown = .reject := by
    cases hu : o.unknown with
    | reject => rfl
    | accept => exact absurd (.inl hu) h
  have hknown : o.isKnown (String.ofList chars) = false := by
    rw [← Bool.not_eq_true]
    exact fun hk => h (.inr hk)
  simp [named, hreject, hknown]

def Bars (o' o : ParseOptions) (name : String) : Prop := o.Permits name ∧ ¬ o'.Permits name

variable {o' o : ParseOptions} {source : List Char}

theorem named_stopsOr (hsub : ∀ name, o'.Permits name → o.Permits name) (chars : List Char)
    (position : Nat) : StopsOr (Bars o' o) (o'.named chars position) (o.named chars position) := by
  by_cases h' : o'.Permits (String.ofList chars)
  · rw [named_eq_pure h', named_eq_pure (hsub _ h')]
    exact .rfl
  · rw [named_eq_refuse h']
    by_cases h : o.Permits (String.ofList chars)
    · exact .stops ⟨h, h'⟩ rfl
    · rw [named_eq_refuse h]
      exact .rfl

section Lists

variable {N : String → Prop} {typeOf' typeOf : Segment → Reading TypeExpr}
  (hs : o'.strict = o.strict) (hT : ∀ s, StopsOr N (typeOf' s) (typeOf s))

include hs hT

theorem addProperty_stopsOr (sofar : Definition) (s : Segment) :
    StopsOr N (o'.addProperty source typeOf' sofar s) (o.addProperty source typeOf sofar s) := by
  unfold addProperty
  rw [hs]
  refine .ite .rfl ?_
  dsimp only
  split
  · exact .rfl
  · refine .ite (.bind .rfl fun _ => .ite (.bind .rfl fun _ => ?_) ?_) ?_
    all_goals exact .bind (hT _) fun _ => .rfl

theorem addProperties_stopsOr (sofar : Definition) (segments : List Segment) :
    StopsOr N (o'.addProperties source typeOf' sofar segments)
      (o.addProperties source typeOf sofar segments) := by
  induction segments generalizing sofar with
  | nil => exact .rfl
  | cons s rest ih => exact .bind (addProperty_stopsOr hs hT sofar s) ih

theorem properties_stopsOr (s : Segment) :
    StopsOr N (o'.properties source typeOf' s) (o.properties source typeOf s) := by
  unfold properties
  rw [hs]
  refine .bind (addProperties_stopsOr hs hT _ _) fun sofar => ?_
  exact .bind .rfl fun last => addProperty_stopsOr hs hT sofar last

end Lists

theorem typeExpr_stopsOr (hs : o'.strict = o.strict)
    (hsub : ∀ name, o'.Permits name → o.Permits name) (room : Room) (s : Segment) :
    StopsOr (Bars o' o) (o'.typeExpr source room s) (o.typeExpr source room s) := by
  induction room generalizing s with
  | spent => exact .rfl
  | free inside ih =>
    have hnamed := named_stopsOr hsub
    unfold typeExpr
    rw [hs]
    split
    · exact .ite .rfl (hnamed _ _)
    refine .ite (.map _ (ih .item _)) ?_
    dsimp only
    split
    · exact hnamed _ _
    split
    · exact .ite .rfl (hnamed _ _)
    · refine .ite (.bind .rfl fun _ => .ite ?_ ?_) (.ite ?_ ?_)
      any_goals refine .ite (.bind .rfl fun _ => ?_) (.bind .rfl fun _ => ?_)
      all_goals exact .map _ (properties_stopsOr hs (ih .property) _)

theorem parse_stopsOr (hs : o'.strict = o.strict) (hr : o'.room = o.room)
    (hsub : ∀ name, o'.Permits name → o.Permits name) (text : String) :
    StopsOr (Bars o' o) (o'.parse text) (o.parse text) := by
  have hbody : o'.body text.toList = o.body text.toList := by
    unfold body
    rw [hs]
  unfold parse
  dsimp only
  rw [hbody, hr, hs]
  exact .bind (properties_stopsOr hs (typeExpr_stopsOr hs hsub _) _) fun d => .rfl

/-- Reading depends on the vocabulary only through the names that it permits. -/
theorem parse_congr (hs : o'.strict = o.strict) (hr : o'.room = o.room)
    (hiff : ∀ name, o'.Permits name ↔ o.Permits name) (text : String) :
    o'.parse text = o.parse text :=
  (parse_stopsOr hs hr (fun name => (hiff name).1) text).eq_of_forall_not
    fun name hbar => hbar.2 ((hiff name).2 hbar.1)

theorem parse_mono (hs : o'.strict = o.strict) (hr : o'.room = o.room)
    (hsub : ∀ name, o'.Permits name → o.Permits name) {text : String} {d : Definition}
    (h : (o'.parse text).result = .ok d) : o'.parse text = o.parse text :=
  (parse_stopsOr hs hr hsub text).eq_of_ok h

section Read

variable {typeOf : Segment → Reading TypeExpr} {I : Definition → Prop}
  (hput : ∀ name optional sofar s τ, I sofar → (typeOf s).result = .ok τ →
    I (Assoc.upsert name ⟨τ, optional⟩ sofar))

include hput

theorem addProperty_induction {sofar d : Definition} {s : Segment} (hsofar : I sofar)
    (h : (o.addProperty source typeOf sofar s).result = .ok d) : I d := by
  rcases addProperty_eq_ok h with ⟨-, rfl⟩ | ⟨before, colon, us, τ, -, -, -, hτ, rfl⟩
  · exact hsofar
  · exact hput _ _ sofar _ τ hsofar hτ

/-- What putting one property after another keeps holds of what is read. -/
theorem properties_induction (hnil : I []) {s : Segment} {d : Definition}
    (h : (o.properties source typeOf s).result = .ok d) : I d := by
  have hall : ∀ (segments : List Segment) (sofar d : Definition), I sofar →
      (o.addProperties source typeOf sofar segments).result = .ok d → I d := by
    intro segments
    induction segments with
    | nil =>
      intro sofar d hsofar h
      cases h
      exact hsofar
    | cons s rest ih =>
      intro sofar d hsofar h
      obtain ⟨sofar', hfirst, h⟩ := Journal.bind_result_eq_ok.1 h
      exact ih sofar' d (addProperty_induction hput hsofar hfirst) h
  unfold properties at h
  obtain ⟨sofar, hsofar, h⟩ := Journal.bind_result_eq_ok.1 h
  obtain ⟨last, -, h⟩ := Journal.bind_result_eq_ok.1 h
  exact addProperty_induction hput (hall _ _ _ hnil hsofar) h

end Read

theorem nodup_of_properties {typeOf : Segment → Reading TypeExpr} {s : Segment} {d : Definition}
    (h : (o.properties source typeOf s).result = .ok d) : (Assoc.keys d).Nodup :=
  properties_induction (I := fun d => (Assoc.keys d).Nodup)
    (fun _ _ _ _ _ hsofar _ => Assoc.nodup_keys_upsert hsofar) List.nodup_nil h

/-- What holds of every type that is read holds of the types in a property list. -/
theorem properties_forall {typeOf : Segment → Reading TypeExpr} {Q : TypeExpr → Prop}
    (hQ : ∀ s τ, (typeOf s).result = .ok τ → Q τ) {s : Segment} {d : Definition}
    (h : (o.properties source typeOf s).result = .ok d) : ∀ p ∈ d, Q p.2.type := by
  refine properties_induction (I := fun d => ∀ p ∈ d, Q p.2.type) ?_ (by simp) h
  intro name optional sofar s τ hsofar hτ p hp
  rcases Assoc.mem_upsert hp with rfl | hp
  · exact hQ s τ hτ
  · exact hsofar p hp

theorem typeExpr_eq_ok {inside : Level → Room} {s : Segment} {τ : TypeExpr}
    (h : (o.typeExpr source (.free inside) s).result = .ok τ) :
    (∃ chars position, (o.named chars position).result = .ok τ) ∨
      (∃ us item, (o.typeExpr source (inside .item) us).result = .ok item ∧ τ = .array item) ∨
      ∃ us ps, (o.properties source (o.typeExpr source (inside .property)) us).result = .ok ps ∧
        τ = .object ps := by
  have hobject {us : Segment}
      (h : (TypeExpr.object <$>
        o.properties source (o.typeExpr source (inside .property)) us).result = .ok τ) :
      ∃ us ps, (o.properties source (o.typeExpr source (inside .property)) us).result = .ok ps ∧
        τ = .object ps := by
    obtain ⟨ps, hps, rfl⟩ := Journal.map_result_eq_ok.1 h
    exact ⟨us, ps, hps, rfl⟩
  unfold typeExpr at h
  split at h
  · split at h
    · cases h
    · exact .inl ⟨_, _, h⟩
  split at h
  · obtain ⟨item, hitem, rfl⟩ := Journal.map_result_eq_ok.1 h
    exact .inr (.inl ⟨_, item, hitem, rfl⟩)
  dsimp only at h
  split at h
  · exact .inl ⟨_, _, h⟩
  split at h
  · split at h
    · cases h
    · exact .inl ⟨_, _, h⟩
  split at h
  · cases h
  split at h
  · split at h
    · cases h
    · obtain ⟨⟨⟩, -, h⟩ := Journal.bind_result_eq_ok.1 h
      exact .inr (.inr (hobject h))
  · exact .inr (.inr (hobject h))

theorem permits_of_typeExpr {room : Room} {s : Segment} {τ : TypeExpr}
    (h : (o.typeExpr source room s).result = .ok τ) : ∀ name ∈ τ.names, o.Permits name := by
  induction room generalizing s τ with
  | spent => cases h
  | free inside ih =>
    rcases typeExpr_eq_ok h with ⟨chars, position, h⟩ | ⟨us, item, hitem, rfl⟩ | ⟨us, ps, hps, rfl⟩
    · obtain ⟨rfl, hpermits⟩ := named_eq_ok h
      simpa [TypeExpr.names] using hpermits
    · show ∀ name ∈ item.names, o.Permits name
      exact ih .item hitem
    · intro name hname
      obtain ⟨p, hp, hname⟩ := mem_propertiesNames.1 hname
      exact properties_forall (fun s τ hτ => ih .property hτ) hps p hp name hname

theorem properties_of_parse {text : String} {d : Definition} (h : (o.parse text).result = .ok d) :
    (o.properties text.toList (o.typeExpr text.toList o.room) (o.body text.toList)).result =
      .ok d :=
  (parse_eq_ok_iff.1 h).1

theorem permits_of_parse {text : String} {d : Definition} (h : (o.parse text).result = .ok d) :
    ∀ name ∈ propertiesNames d, o.Permits name := by
  intro name hname
  obtain ⟨p, hp, hname⟩ := mem_propertiesNames.1 hname
  exact properties_forall (fun s τ hτ => permits_of_typeExpr hτ) (properties_of_parse h) p hp name
    hname

end ParseOptions

end Conform.Schema
