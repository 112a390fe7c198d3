import Conform.Proofs.Registry.Reference

/-!
A registry is its reference after every run of operations, those that fail among them. Only a new
implementer is asked for plugins; with the map's history this says what is found under a name.
-/

namespace Conform.Registry

structure Refines (r : Registry) (s : Reference) : Prop where
  names : r.names = s.map.order
  get : ∀ name, r.get? name = s.map.plugin name
  registered : ∀ id, r.isRegistered id = true ↔ id ∈ s.implementers

variable {r : Registry} {s : Reference}

theorem refines_empty : Refines {} .empty where
  names := rfl
  get _ := rfl
  registered id := by simp [isRegistered, Reference.empty]

/-! Putting plugins -/

theorem names_put (r : Registry) (p : Plugin) :
    (r.put p).names = if p.name ∈ r.names then r.names else r.names ++ [p.name] := by
  split
  · next hold => exact Assoc.keys_upsert_of_mem hold p
  · next hnew => simp [put, names, Assoc.upsert_of_not_mem hnew p, Assoc.keys]

theorem get?_put (r : Registry) (p : Plugin) (name : String) :
    (r.put p).get? name = Function.update r.get? p.name (some p) name := by
  by_cases h : name = p.name
  · subst h
    rw [Function.update_self]
    exact Assoc.get?_upsert_self
  · rw [Function.update_of_ne h]
    exact Assoc.get?_upsert_of_ne h

theorem Refines.put (h : r.Refines s) (p : Plugin) :
    (r.put p).Refines ⟨s.map.upsert p, s.implementers⟩ where
  names := by rw [names_put, h.names]; rfl
  get name := by rw [get?_put, funext h.get]; rfl
  registered := h.registered

theorem Refines.register (h : r.Refines s) (items : List Supplied) :
    (r.register items).registry.Refines ⟨s.map.puts (leading items), s.implementers⟩ := by
  induction items generalizing r s with
  | nil => exact h
  | cons item items ih =>
    cases item with
    | plugin p => exact ih (h.put p)
    | other typeName => exact h

theorem register_result (r : Registry) (items : List Supplied) :
    (r.register items).result = reply items := by
  induction items generalizing r with
  | nil => rfl
  | cons item items ih =>
    cases item with
    | other typeName => rfl
    | plugin p =>
      rw [Registry.register]
      simp only [ih, reply, stranger?, leading]
      cases stranger? items <;> rfl

/-! Asking implementers -/

theorem Refines.join (h : r.Refines s) (i : Implementer) :
    (r.join i).Refines ⟨s.map, s.implementers ∪ {i.id}⟩ where
  names := h.names
  get := h.get
  registered id := by
    have hjoin : (r.join i).isRegistered id = (r.isRegistered id || i.id == id) := by
      simp [isRegistered, Registry.join]
    simp [hjoin, h.registered id, @eq_comm _ id, or_comm]

/-- An implementer that has just joined is the only one that is asked. -/
theorem callHooks_join {i : Implementer} (hnew : ¬ r.isRegistered i.id) :
    (r.join i).callHooks (((r.join i).implementers.map (·.id)).filter fun id => !([i.id].contains id)) =
      i.supply.map fun items => [items] := by
  have hne : ∀ j ∈ r.implementers, j.id ≠ i.id := by simpa [isRegistered] using hnew
  have hothers : ((r.join i).implementers.map (·.id)).filter (fun id => !([i.id].contains id)) =
      r.implementers.map (·.id) := by
    simpa [join] using hne
  have hleft : (r.implementers.reverse.filter fun j =>
      !(r.implementers.map (·.id)).contains j.id) = [] := by
    simpa using fun j hj => ⟨j, hj, rfl⟩
  have hasked : ((r.join i).implementers.reverse.filter fun j =>
      !(r.implementers.map (·.id)).contains j.id) = [i] := by
    rw [join, List.reverse_concat, List.filter_cons_of_pos (by simpa using hne), hleft]
  rw [hothers, callHooks, hasked]
  cases hs : i.supply <;> simp [hs] <;> rfl

theorem registerHooks_of_registered {i : Implementer} (h : r.isRegistered i.id) :
    r.registerHooks i = ⟨r, [], .error .implementerTwice⟩ := if_pos h

theorem registerHooks_of_new {i : Implementer} (hnew : ¬ r.isRegistered i.id) :
    r.registerHooks i = match i.supply with
      | .error e => ⟨r.join i, [], .error e⟩
      | .ok items => (r.join i).register items := by
  rw [registerHooks, if_neg hnew, collectFrom, callHooks_join hnew]
  cases i.supply with
  | error e => rfl
  | ok items => simp [Except.map]

/-! One operation -/

theorem leading_plugins (ps : List Plugin) : leading (ps.map .plugin) = ps := by
  induction ps with
  | nil => rfl
  | cons p ps ih => rw [List.map_cons, leading, ih]

theorem stranger?_plugins (ps : List Plugin) : stranger? (ps.map .plugin) = none := by
  induction ps with
  | nil => rfl
  | cons p ps ih => exact ih

/-- What the reference says of an operation is what happens: its state, its answer, and nothing at
all if nobody joins and nothing is put. -/
structure Accords (r : Registry) (c : Change (List Plugin)) (s : Reference) (e : Effect) : Prop where
  refines : c.registry.Refines (s.apply e)
  result : c.result = e.answer
  idle : e.Idle → c.registry = r

theorem Refines.unchanged (h : r.Refines s) (answer : Except RegistryError (List Plugin)) :
    Accords r ⟨r, [], answer⟩ s ⟨∅, [], answer⟩ where
  refines := by rwa [s.apply_of_idle ⟨rfl, rfl⟩]
  result := rfl
  idle _ := rfl

theorem Refines.registerHooks (h : r.Refines s) (i : Implementer) :
    Accords r (r.registerHooks i) s (s.effect (.registerHooks i)) := by
  by_cases hold : i.id ∈ s.implementers
  · rw [registerHooks_of_registered ((h.registered i.id).2 hold), Reference.effect, if_pos hold]
    exact h.unchanged _
  · rw [registerHooks_of_new (mt (h.registered i.id).1 hold), Reference.effect, if_neg hold]
    cases i.supply with
    | error e => exact ⟨h.join i, rfl, fun hidle => absurd hidle.1 (Finset.singleton_ne_empty _)⟩
    | ok items =>
      exact ⟨(h.join i).register items, register_result _ items,
        fun hidle => absurd hidle.1 (Finset.singleton_ne_empty _)⟩

theorem Refines.registerBuiltin (h : r.Refines s) :
    Accords r r.registerBuiltin s (s.effect .registerBuiltin) := by
  by_cases hold : .builtin ∈ s.implementers
  · rw [Registry.registerBuiltin, if_pos ((h.registered .builtin).2 hold), Reference.effect,
      if_pos hold]
    exact h.unchanged _
  · have heffect : s.effect (.registerHooks builtinImplementer) = s.effect .registerBuiltin := by
      simp [Reference.effect, builtinImplementer, hold, reply, leading_plugins, stranger?_plugins]
    rw [Registry.registerBuiltin, if_neg (mt (h.registered .builtin).1 hold), ← heffect]
    exact h.registerHooks builtinImplementer

theorem Refines.perform (h : r.Refines s) (op : Operation) :
    Accords r (r.perform op) s (s.effect op) := by
  cases op with
  | register item =>
    cases item with
    | plugin p =>
      refine ⟨?_, rfl, fun hidle => absurd hidle.2 (List.cons_ne_nil p [])⟩
      rw [Reference.effect, Reference.apply, Finset.union_empty]
      exact h.put p
    | other typeName => exact h.unchanged _
  | registerHooks i => exact h.registerHooks i
  | registerBuiltin => exact h.registerBuiltin

/-! Runs -/

theorem after_append (ops later : List Operation) :
    after (ops ++ later) = later.foldl (fun r op => (r.perform op).registry) (after ops) :=
  List.foldl_append

theorem Refines.steps (h : r.Refines s) (ops : List Operation) :
    (ops.foldl (fun r op => (r.perform op).registry) r).Refines (s.steps ops) := by
  induction ops generalizing r s with
  | nil => exact h
  | cons op ops ih => exact ih (h.perform op).refines

theorem after_refines (ops : List Operation) : (after ops).Refines (Reference.empty.steps ops) :=
  refines_empty.steps ops

/-- All that a registry can be asked for tells of the same plugins. -/
structure Consistent (r : Registry) : Prop where
  nodup : r.names.Nodup
  get : ∀ name, (r.get? name).isSome ↔ name ∈ r.names
  own : ∀ name p, r.get? name = some p → p.name = name
  contains : ∀ name, r.containsKey (.text name) = .ok (decide (name ∈ r.names))
  plugins : r.plugins.map (fun e => some e.2) = r.names.map r.get?
  size : r.size = r.names.length

theorem Refines.consistent (h : r.Refines s) : r.Consistent where
  nodup := h.names ▸ s.map.nodup
  get name := by rw [h.get, h.names, s.map.mem_order]
  own name p hp := s.map.name_eq name p (h.get name ▸ hp)
  contains name := by
    have hmem : r.contains name = decide (name ∈ r.names) := by
      rw [Bool.eq_iff_iff, decide_eq_true_iff]
      exact Assoc.contains_eq_true_iff
    rw [← hmem]
    rfl
  plugins := by
    have hnodup : r.names.Nodup := h.names ▸ s.map.nodup
    rw [Registry.names, Assoc.keys, List.map_map]
    refine List.map_congr_left fun e he => ?_
    exact (Assoc.get?_eq_some_of_mem hnodup he).symm
  size := (List.length_map _).symm

structure Faithful (ops : List Operation) : Prop where
  refines : (after ops).Refines (Reference.empty.steps ops)
  answers : ∀ op, ((after ops).perform op).result = ((Reference.empty.steps ops).effect op).answer
  idle : ∀ op, ((Reference.empty.steps ops).effect op).Idle →
    ((after ops).perform op).registry = after ops
  registered : ∀ id, (after ops).isRegistered id = true ↔ ∃ op ∈ ops, op.implementer? = some id
  consistent : (after ops).Consistent
  names : (after ops).names = ((Reference.empty.history ops).map (·.name)).eraseDups
  kept : ∀ later, (after ops).names <+: (after (ops ++ later)).names
  get : ∀ name, (after ops).get? name =
    ((Reference.empty.history ops).filter (·.name == name)).getLast?

/-- Whatever is asked of it, in any order and with any failures, a registry is its reference: the
names stand in the order in which they were first put, and each holds what was put last. -/
theorem after_faithful (ops : List Operation) : Faithful ops where
  refines := after_refines ops
  answers op := ((after_refines ops).perform op).result
  idle op := ((after_refines ops).perform op).idle
  registered id := by
    rw [(after_refines ops).registered, Reference.mem_implementers_steps]
    simp [Reference.empty]
  consistent := (after_refines ops).consistent
  names := by
    rw [(after_refines ops).names, Reference.map_steps]
    exact PluginMap.order_puts_empty _
  kept later := by
    rw [after_append, (after_refines ops).names, ((after_refines ops).steps later).names,
      Reference.map_steps _ later]
    exact PluginMap.order_prefix_puts _ _
  get name := by
    rw [(after_refines ops).get, Reference.map_steps]
    exact PluginMap.plugin_puts_empty _ name

/-- A built-in name that was given to another check keeps it. -/
example (c : Guard.Check) : (after [.registerBuiltin, .register (.plugin ⟨"email", c, "", none⟩),
    .registerBuiltin]).get? "email" = some ⟨"email", c, "", none⟩ := by rfl

end Conform.Registry
