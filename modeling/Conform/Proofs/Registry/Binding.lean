import Conform.Match
import Conform.Proofs.Guard.Calls
import Conform.Proofs.Registry.Refinement

/-!
Two ways of using the plugins of a registry. A guard is bound when it is built: it keeps the plugin
that stood under the name. The check of a type name is bound when it is made: it asks for the plugin
that stands there now. The two agree until the name is given to another plugin, about all values about
which the plugin can tell what goes wrong. The built guard is one around the plugin, while the check takes
a plugin that is a guard as it is; and two guards take more hold of what escapes than one.
-/

namespace Conform

open Guard Registry Schema

namespace Plugin

def verdict (p : Plugin) (v : Value) : Except Fault Bool := settle (p.validate.test v).result

/-- Of all predicates that a plugin calls about a value, none ends in a fault that cannot be told. -/
def Tells (p : Plugin) (v : Value) : Prop :=
  ∀ q x, Check.Calls q x p.validate v → ∀ kind instead, q.test x ≠ .error (.mute kind instead)

/-- A plugin that is a guard does not need another one around it. -/
theorem Tells.asGuard_result {p : Plugin} {v : Value} (h : p.Tells v) (name : Option String) :
    ((p.validate.asGuard name).test v).result = p.verdict v := by
  rw [Check.asGuard_result, verdict]
  split
  · next hguard =>
    cases hr : (p.validate.test v).result with
    | ok b => rfl
    | error fault =>
      obtain ⟨q, x, raised, hcalls, hraised, hescapes⟩ := Check.escapes_of_test hguard hr
      cases hescapes with
      | interrupt text => rfl
      | instead => exact absurd hraised (h q x hcalls _ _)
  · rfl

end Plugin

namespace Matcher

end Matcher

inductive Action where
  | change (op : Operation)
  | build (name : String)
  | call (guard : Nat) (v : Value)
  | check (name : String) (v : Value)

/-- A registry, and the guards that were built of its plugins, the oldest first. -/
structure Workshop where
  registry : Registry := {}
  guards : List Check := []

namespace Workshop

def step (s : Workshop) : Action → Workshop
  | .change op => { s with registry := (s.registry.perform op).registry }
  | .build name =>
    match Check.buildPlugin (some s.registry) name with
    | .ok guard => { s with guards := s.guards ++ [guard] }
    | .error _ => s
  | .call .. | .check .. => s

def steps (s : Workshop) (actions : List Action) : Workshop := actions.foldl step s

def after (actions : List Action) : Workshop := steps {} actions

def call? (s : Workshop) (guard : Nat) (v : Value) : Option (Except Fault Bool) :=
  s.guards[guard]?.map fun c => (c.test v).result

def check (s : Workshop) (m : Matcher) (name : String) (v : Value) : Except Fault Bool :=
  (({ m with registry := some s.registry } : Matcher).checkNamed name v).result

def changes (actions : List Action) : List Operation :=
  actions.filterMap fun
    | .change op => some op
    | _ => none

def puts (before later : List Action) : List Plugin :=
  (Reference.empty.steps (changes before)).history (changes later)

section Runs

variable (s : Workshop) (before later actions : List Action) (name : String)

theorem after_append : after (before ++ later) = (after before).steps later := List.foldl_append

theorem history_append (r : Reference) (ops later : List Operation) :
    r.history (ops ++ later) = r.history ops ++ (r.steps ops).history later := by
  induction ops generalizing r with
  | nil => rfl
  | cons op ops ih =>
    rw [List.cons_append, Reference.history, ih, Reference.history, List.append_assoc]
    rfl

theorem puts_append : puts [] (before ++ later) = puts [] before ++ puts before later := by
  have hsplit : changes (before ++ later) = changes before ++ changes later :=
    List.filterMap_append
  rw [puts, hsplit, history_append]
  rfl

end Runs

section Bound

variable (m : Matcher) (before later : List Action) (name : String) (v : Value)

end Bound

end Workshop

end Conform
