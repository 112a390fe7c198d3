import Conform.Registry
import Mathlib.Data.Finset.Lattice.Lemmas
import Mathlib.Data.List.Basic
import Mathlib.Logic.Function.Basic

/-!
The state of a registry as its users see it: an ordered map of plugins, and the set of the
implementers that are registered. An operation says which implementers join, which plugins are put
and what is answered; the map is the history of all that was put.
-/

namespace Conform.Registry

structure PluginMap where
  order : List String
  plugin : String → Option Plugin
  nodup : order.Nodup
  mem_order : ∀ name, name ∈ order ↔ (plugin name).isSome
  name_eq : ∀ name p, plugin name = some p → p.name = name

namespace PluginMap

def empty : PluginMap where
  order := []
  plugin _ := none
  nodup := .nil
  mem_order := by simp
  name_eq := by simp

/-- Puts a plugin under its name: a new name is appended, an old one keeps its place. -/
def upsert (m : PluginMap) (p : Plugin) : PluginMap where
  order := if p.name ∈ m.order then m.order else m.order ++ [p.name]
  plugin := Function.update m.plugin p.name (some p)
  nodup := by
    split
    · exact m.nodup
    · next hnew => exact List.concat_eq_append ▸ m.nodup.concat hnew
  mem_order name := by
    by_cases hname : name = p.name
    · subst hname
      split <;> simp [*]
    · split <;> simp [hname, m.mem_order]
  name_eq name q h := by
    by_cases hname : name = p.name
    · subst hname
      rw [Function.update_self] at h
      rw [Option.some.inj h]
    · rw [Function.update_of_ne hname] at h
      exact m.name_eq name q h

def puts (m : PluginMap) (ps : List Plugin) : PluginMap := ps.foldl upsert m

variable (m : PluginMap) (ps qs : List Plugin) (p : Plugin)

theorem puts_append : m.puts (ps ++ qs) = (m.puts ps).puts qs := List.foldl_append

/-- No name disappears, and none moves. -/
theorem order_prefix_puts : m.order <+: (m.puts ps).order := by
  induction ps generalizing m with
  | nil => exact List.prefix_refl _
  | cons p ps ih =>
    refine .trans ?_ (ih (m.upsert p))
    rw [upsert]
    split
    · exact List.prefix_refl _
    · exact List.prefix_append _ _

theorem eraseDups_concat (names : List String) (name : String) :
    (names ++ [name]).eraseDups =
      if name ∈ names then names.eraseDups else names.eraseDups ++ [name] := by
  rw [List.eraseDups_append]
  by_cases h : name ∈ names <;> simp [List.removeAll, h, List.eraseDups_cons]

/-- The names stand in the order in which they were first put. -/
theorem order_puts_empty : (empty.puts ps).order = (ps.map (·.name)).eraseDups := by
  induction ps using List.reverseRecOn with
  | nil => rfl
  | append_singleton ps p ih =>
    have hmem : p.name ∈ (empty.puts ps).order ↔ p.name ∈ ps.map (·.name) := by
      rw [ih, List.mem_eraseDups]
    have hput : (empty.puts (ps ++ [p])).order = if p.name ∈ (empty.puts ps).order
        then (empty.puts ps).order else (empty.puts ps).order ++ [p.name] := by
      rw [puts_append]
      rfl
    rw [hput, List.map_append, List.map_singleton, eraseDups_concat, ← ih]
    simp only [hmem]

theorem plugin_puts_empty (name : String) :
    (empty.puts ps).plugin name = (ps.filter (·.name == name)).getLast? := by
  induction ps using List.reverseRecOn with
  | nil => rfl
  | append_singleton ps p ih =>
    have hput : (empty.puts (ps ++ [p])).plugin name =
        Function.update (empty.puts ps).plugin p.name (some p) name := by
      rw [puts_append]
      rfl
    rw [hput, List.filter_append]
    by_cases hname : name = p.name
    · subst hname
      simp
    · have hne : ¬ p.name = name := fun he => hname he.symm
      simp [hname, hne, ih]

end PluginMap

inductive Operation where
  | register (item : Supplied)
  | registerHooks (i : Implementer)
  | registerBuiltin

def perform (r : Registry) : Operation → Change (List Plugin)
  | .register item => r.register [item]
  | .registerHooks i => r.registerHooks i
  | .registerBuiltin => r.registerBuiltin

def Operation.implementer? : Operation → Option ImplementerId
  | .register _ => none
  | .registerHooks i => some i.id
  | .registerBuiltin => some .builtin

def after (ops : List Operation) : Registry := ops.foldl (fun r op => (r.perform op).registry) {}

def leading : List Supplied → List Plugin
  | .plugin p :: rest => p :: leading rest
  | _ => []

def stranger? : List Supplied → Option String
  | [] => none
  | .plugin _ :: rest => stranger? rest
  | .other typeName :: _ => some typeName

def reply (items : List Supplied) : Except RegistryError (List Plugin) :=
  match stranger? items with
  | none => .ok (leading items)
  | some typeName => .error (.notPlugin typeName)

structure Reference where
  map : PluginMap
  implementers : Finset ImplementerId

structure Effect where
  joins : Finset ImplementerId
  puts : List Plugin
  answer : Except RegistryError (List Plugin)

def Effect.Idle (e : Effect) : Prop := e.joins = ∅ ∧ e.puts = []

namespace Reference

def empty : Reference := ⟨.empty, ∅⟩

def effect (s : Reference) : Operation → Effect
  | .register (.plugin p) => ⟨∅, [p], .ok [p]⟩
  | .register (.other typeName) => ⟨∅, [], .error (.notPlugin typeName)⟩
  | .registerHooks i =>
    if i.id ∈ s.implementers then ⟨∅, [], .error .implementerTwice⟩
    else match i.supply with
      | .error e => ⟨{i.id}, [], .error e⟩
      | .ok items => ⟨{i.id}, leading items, reply items⟩
  | .registerBuiltin =>
    if .builtin ∈ s.implementers then ⟨∅, [], .ok []⟩
    else ⟨{.builtin}, builtinPlugins, .ok builtinPlugins⟩

def apply (s : Reference) (e : Effect) : Reference :=
  ⟨s.map.puts e.puts, s.implementers ∪ e.joins⟩

theorem apply_of_idle (s : Reference) {e : Effect} (h : e.Idle) : s.apply e = s := by
  rw [apply, h.1, h.2, Finset.union_empty, PluginMap.puts, List.foldl_nil]

def step (s : Reference) (op : Operation) : Reference := s.apply (s.effect op)

def steps (s : Reference) (ops : List Operation) : Reference := ops.foldl step s

def history (s : Reference) : List Operation → List Plugin
  | [] => []
  | op :: ops => (s.effect op).puts ++ (s.step op).history ops

theorem mem_joins {s : Reference} {op : Operation} {id : ImplementerId} :
    id ∈ (s.effect op).joins ↔ op.implementer? = some id ∧ id ∉ s.implementers := by
  have hjoin (j : ImplementerId) (hj : j ∉ s.implementers) :
      id ∈ ({j} : Finset ImplementerId) ↔ some j = some id ∧ id ∉ s.implementers := by
    rw [Finset.mem_singleton, Option.some.injEq, eq_comm, iff_self_and]
    rintro rfl
    exact hj
  have hstay (j : ImplementerId) (hj : j ∈ s.implementers) :
      id ∈ (∅ : Finset ImplementerId) ↔ some j = some id ∧ id ∉ s.implementers := by
    simpa using fun he : j = id => he ▸ hj
  cases op with
  | register item => cases item <;> simp [effect, Operation.implementer?]
  | registerHooks i =>
    rw [effect, Operation.implementer?]
    split
    · next hold => exact hstay i.id hold
    · next hnew => cases i.supply <;> exact hjoin i.id hnew
  | registerBuiltin =>
    rw [effect, Operation.implementer?]
    split
    · next hold => exact hstay .builtin hold
    · next hnew => exact hjoin .builtin hnew

/-- An implementer is registered once an operation has asked for it, even if this failed. -/
theorem mem_implementers_steps {s : Reference} {ops : List Operation} {id : ImplementerId} :
    id ∈ (s.steps ops).implementers ↔
      id ∈ s.implementers ∨ ∃ op ∈ ops, op.implementer? = some id := by
  induction ops generalizing s with
  | nil => simp [steps]
  | cons op ops ih =>
    have hop : id ∈ (s.step op).implementers ↔
        id ∈ s.implementers ∨ op.implementer? = some id := by
      rw [step, apply, Finset.mem_union, mem_joins]
      tauto
    rw [steps, List.foldl_cons, ← steps, ih, hop, or_assoc, List.exists_mem_cons_iff]

theorem map_steps (s : Reference) (ops : List Operation) :
    (s.steps ops).map = s.map.puts (s.history ops) := by
  induction ops generalizing s with
  | nil => rfl
  | cons op ops ih =>
    rw [history, PluginMap.puts_append]
    exact ih (s.step op)

end Reference

end Conform.Registry
