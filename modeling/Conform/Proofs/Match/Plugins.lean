import Conform.Match
import Conform.Proofs.Schema.Tree

/-! Which plugins a walk depends on: those of the names in the definition that are not built in. No
other plugin is ever asked, at any depth, so none can take the place of a built-in meaning. -/

namespace Conform

theorem Registry.get?_register_of_ne {r : Registry} {name : String} {items : List Supplied}
    (h : ∀ p, .plugin p ∈ items → p.name ≠ name) :
    (r.register items).registry.get? name = r.get? name := by
  induction items generalizing r with
  | nil => rfl
  | cons item items ih =>
    cases item with
    | other typeName => rfl
    | plugin p =>
      have hput : (r.put p).get? name = r.get? name :=
        Assoc.get?_upsert_of_ne (h p List.mem_cons_self).symm
      have hrest := @ih (r.put p) fun p' hp' => h p' (List.mem_cons_of_mem _ hp')
      exact hrest.trans hput

namespace Schema

variable {m m' : Matcher}

theorem walkProperties_congr {ps : Definition}
    (h : ∀ e ∈ ps, m.walkType e.2.type = m'.walkType e.2.type) :
    m.walkProperties ps = m'.walkProperties ps := by
  induction ps with
  | nil =>
    funext path v
    rw [Matcher.walkProperties, Matcher.walkProperties]
  | cons e ps ih =>
    obtain ⟨name, type, optional⟩ := e
    have hhere : m.walkType type = m'.walkType type := h _ List.mem_cons_self
    have hrest := ih fun f hf => h f (List.mem_cons_of_mem _ hf)
    funext path v
    rw [Matcher.walkProperties, Matcher.walkProperties, hhere, hrest]

theorem walkType_congr {τ : TypeExpr}
    (h : ∀ name ∈ τ.names, m.checkNamed name = m'.checkNamed name) :
    m.walkType τ = m'.walkType τ := by
  induction τ using TypeExpr.induction with
  | named name =>
    funext path v
    rw [Matcher.walkType, Matcher.walkType, h name List.mem_cons_self]
  | array item ih =>
    funext path v
    rw [Matcher.walkType, Matcher.walkType, ih h]
  | object ps ih =>
    have hfields : ∀ e ∈ ps, m.walkType e.2.type = m'.walkType e.2.type := by
      intro e he
      apply ih e he
      intro name hname
      exact h name (mem_propertiesNames.2 ⟨e, he, hname⟩)
    funext path v
    rw [Matcher.walkType, Matcher.walkType, walkProperties_congr hfields]

theorem checkNamed_registry {r r' : Option Registry} {name : String}
    (h : name ∉ builtinNames → r.bind (·.get? name) = r'.bind (·.get? name)) :
    Matcher.checkNamed { m with registry := r } name =
      Matcher.checkNamed { m with registry := r' } name := by
  funext v
  unfold Matcher.checkNamed
  by_cases hname : name ∈ builtinNames
  · obtain ⟨ok, hok⟩ := Matcher.builtinCheck?_isSome (List.contains_iff_mem.2 hname)
    rw [hok]
  · dsimp only
    rw [h hname]

/-- Registries that give the same plugins to the names of a definition, the built-in ones aside, come
to the same problems of every value, with the same notes on the way. So registering a plugin of a
built-in name, or of a name that the definition does not use, changes nothing. -/
theorem problems_registry (m : Matcher) (d : Definition) :
    (∀ r r' : Option Registry,
      (∀ name ∈ propertiesNames d, name ∉ builtinNames →
        r.bind (·.get? name) = r'.bind (·.get? name)) →
      ∀ v, Matcher.problems { m with registry := r } d v =
        Matcher.problems { m with registry := r' } d v) ∧
    ∀ (r : Registry) (items : List Supplied),
      (∀ p, .plugin p ∈ items → p.name ∈ builtinNames ∨ p.name ∉ propertiesNames d) →
      ∀ v, Matcher.problems { m with registry := some (r.register items).registry } d v =
        Matcher.problems { m with registry := some r } d v := by
  have hframe (r r' : Option Registry)
      (h : ∀ name ∈ propertiesNames d, name ∉ builtinNames →
        r.bind (·.get? name) = r'.bind (·.get? name)) (v : Value) :
      Matcher.problems { m with registry := r } d v =
        Matcher.problems { m with registry := r' } d v := by
    have hwalk := @walkType_congr { m with registry := r } { m with registry := r' } (.object d)
      fun name hname => checkNamed_registry (h name hname)
    exact congrFun (congrFun hwalk []) v
  refine ⟨hframe, ?_⟩
  intro r items h v
  apply hframe
  intro name hname hnew
  apply Registry.get?_register_of_ne
  rintro p hp rfl
  rcases h p hp with hbuiltin | hunused
  · exact hnew hbuiltin
  · exact hunused hname

/-- A plugin that takes a built-in name and one that no one asks for, below items of an array. -/
theorem problems_registry_string :
    let d : Definition := [("a", ⟨.array (.object [("s", ⟨.named "string", false⟩)]), false⟩)]
    let v : Value := .map [(.text "a", .list [.map [(.text "s", .text "x")]])]
    let items : List Supplied :=
      [.plugin ⟨"string", .primitive .null, "", none⟩, .plugin ⟨"sku", .primitive .null, "", none⟩]
    (∀ p, .plugin p ∈ items → p.name ∈ builtinNames ∨ p.name ∉ propertiesNames d) ∧
      (Matcher.problems { registry := some (Registry.register {} items).registry } d v).result =
        .ok [] ∧
      Matcher.problems { registry := none } d v = Matcher.problems { registry := some {} } d v := by
  intro d v items
  have hitems : ∀ p, .plugin p ∈ items → p.name ∈ builtinNames ∨ p.name ∉ propertiesNames d := by
    intro p hp
    simp only [items, List.mem_cons, Supplied.plugin.injEq, List.not_mem_nil, or_false] at hp
    rcases hp with rfl | rfl <;> decide
  refine ⟨hitems, ?_, (problems_registry {} d).1 none (some {}) (fun _ _ _ => rfl) v⟩
  rw [(problems_registry {} d).2 {} items hitems v]
  simp [d, v, Matcher.problems, Matcher.walkType, Matcher.walkProperties, Matcher.property,
    Value.entries?, Value.lookup, Value.isMapping, Value.items?, Matcher.items,
    Matcher.checkNamed, Matcher.builtinCheck?]

end Schema

end Conform
