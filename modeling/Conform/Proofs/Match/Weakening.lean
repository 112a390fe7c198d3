import Conform.Proofs.Match.Walk
import Mathlib.Logic.Relation

/-! Weaker definitions. An edit after which a type asks for less takes problems off the list and adds
none. Those that stay keep their paths, their words and their order, whatever walk they now come
from. -/

namespace Conform.Schema

open Match

/-- One edit after which a type asks for less, at the type itself or anywhere inside. -/
inductive Eases : TypeExpr → TypeExpr → Prop
  | anything {τ : TypeExpr} {name : String} (h : name = "any" ∨ name = "unknown") :
      Eases τ (.named name)
  | optional {before after : Definition} {name : String} {spec : Spec TypeExpr} :
      Eases (.object (before ++ (name, spec) :: after))
        (.object (before ++ (name, { spec with optional := true }) :: after))
  | delete {before after : Definition} {e : String × Spec TypeExpr} :
      Eases (.object (before ++ e :: after)) (.object (before ++ after))
  | item {item item' : TypeExpr} (h : Eases item item') : Eases (.array item) (.array item')
  | field {before after : Definition} {name : String} {spec : Spec TypeExpr} {type : TypeExpr}
      (h : Eases spec.type type) :
      Eases (.object (before ++ (name, spec) :: after))
        (.object (before ++ (name, { spec with type }) :: after))

/-- Any number of edits lead from one definition to the other. None leads away from a name, so none
of them replaces the whole. -/
def Weaker (d d' : Definition) : Prop := Relation.ReflTransGen Eases (.object d) (.object d')

/-- If the first walk comes to its end then so does the second, and lists some of its problems. -/
def Trims (walk walk' : Matcher.Walk) : Prop :=
  ∀ ps, walk.result = .ok ps → ∃ qs, walk'.result = .ok qs ∧ qs.Sublist ps

section Walks

variable {x x' y y' : Matcher.Walk}

theorem Trims.refl (x : Matcher.Walk) : Trims x x := fun ps h => ⟨ps, h, List.Sublist.refl ps⟩

theorem Trims.trans {z : Matcher.Walk} (h : Trims x y) (h' : Trims y z) : Trims x z := by
  intro ps hps
  obtain ⟨qs, hqs, hsub⟩ := h ps hps
  obtain ⟨rs, hrs, hsub'⟩ := h' qs hqs
  exact ⟨rs, hrs, hsub'.trans hsub⟩

theorem Trims.append (h : Trims x x') (h' : Trims y y') :
    Trims (do let here ← x; let others ← y; pure (here ++ others))
      (do let here ← x'; let others ← y'; pure (here ++ others)) := by
  intro ps hps
  obtain ⟨here, others, hx, hy, rfl⟩ := append_result_eq_ok.1 hps
  obtain ⟨here', hx', hsub⟩ := h here hx
  obtain ⟨others', hy', hsub'⟩ := h' others hy
  exact ⟨here' ++ others', append_result_eq_ok.2 ⟨here', others', hx', hy', rfl⟩,
    hsub.append hsub'⟩

theorem Trims.skip (h : Trims y y') :
    Trims (do let here ← x; let others ← y; pure (here ++ others)) y' := by
  intro ps hps
  obtain ⟨here, others, -, hy, rfl⟩ := append_result_eq_ok.1 hps
  obtain ⟨others', hy', hsub⟩ := h others hy
  exact ⟨others', hy', hsub.trans (List.sublist_append_right here others)⟩

theorem items_trims {walk walk' : Path → Value → Matcher.Walk}
    (h : ∀ path v, Trims (walk path v) (walk' path v)) (path : Path) (i : Nat)
    (xs : List Value) :
    Trims (Matcher.items walk path i xs) (Matcher.items walk' path i xs) := by
  induction xs generalizing i with
  | nil => exact .refl _
  | cons x xs ih => exact (h _ x).append (ih (i + 1))

end Walks

variable {m : Matcher} {path : Path} {v : Value}

theorem properties_trims {e e' : String × Spec TypeExpr} {ps ps' : Definition}
    (name : e'.1 = e.1)
    (here : ∀ x, Trims (propertyWalk m path e x) (propertyWalk m path e' x))
    (rest : Trims (m.walkProperties ps path v) (m.walkProperties ps' path v)) :
    Trims (m.walkProperties (e :: ps) path v) (m.walkProperties (e' :: ps') path v) := by
  intro qs hqs
  obtain ⟨x, hx⟩ := exists_property_of_walk hqs
  rw [walkProperties_cons hx] at hqs
  rw [walkProperties_cons (name ▸ hx)]
  exact (here x).append rest qs hqs

theorem properties_trims_delete (e : String × Spec TypeExpr) (ps : Definition) :
    Trims (m.walkProperties (e :: ps) path v) (m.walkProperties ps path v) := by
  intro qs hqs
  obtain ⟨x, hx⟩ := exists_property_of_walk hqs
  rw [walkProperties_cons hx] at hqs
  exact (Trims.refl _).skip qs hqs

/-- Edits behind some properties leave the problems of these. -/
theorem properties_trims_before (before : Definition) {ps ps' : Definition}
    (h : Trims (m.walkProperties ps path v) (m.walkProperties ps' path v)) :
    Trims (m.walkProperties (before ++ ps) path v) (m.walkProperties (before ++ ps') path v) := by
  induction before with
  | nil => exact h
  | cons e before ih => exact properties_trims rfl (fun x => .refl _) ih

theorem object_trims {ps ps' : Definition}
    (h : Trims (m.walkProperties ps path v) (m.walkProperties ps' path v)) :
    Trims (m.walkType (.object ps) path v) (m.walkType (.object ps') path v) := by
  rw [Matcher.walkType, Matcher.walkType]
  split
  · exact h
  · exact .refl _

theorem walkType_anything {name : String} (h : name = "any" ∨ name = "unknown") (path : Path)
    (v : Value) : (m.walkType (.named name) path v).result = .ok [] := by
  have hcheck : m.checkNamed name v = pure true := by
    rcases h with rfl | rfl <;> simp [Matcher.checkNamed, Matcher.builtinCheck?]
  rw [Matcher.walkType, hcheck]
  rfl

theorem Eases.trims {τ τ' : TypeExpr} (h : Eases τ τ') (path : Path) (v : Value) :
    Trims (m.walkType τ path v) (m.walkType τ' path v) := by
  induction h generalizing path v with
  | anything h => exact fun ps _ => ⟨[], walkType_anything h path v, List.nil_sublist ps⟩
  | @optional before after name spec =>
    apply object_trims
    apply properties_trims_before
    refine properties_trims rfl (fun x => ?_) (.refl _)
    cases x with
    | some x => exact .refl _
    | none => exact fun ps _ => ⟨[], rfl, List.nil_sublist ps⟩
  | delete =>
    apply object_trims
    apply properties_trims_before
    exact properties_trims_delete _ _
  | item _ ih =>
    rw [Matcher.walkType, Matcher.walkType]
    split
    · exact items_trims ih path 0 _
    · exact .refl _
  | @field before after name spec type _ ih =>
    apply object_trims
    apply properties_trims_before
    refine properties_trims rfl (fun x => ?_) (.refl _)
    cases x with
    | some x => exact ih _ x
    | none => exact .refl _

theorem Weaker.trims {d d' : Definition} (h : Weaker d d') (m : Matcher) (v : Value) :
    Trims (m.problems d v) (m.problems d' v) := by
  suffices ∀ τ, Relation.ReflTransGen Eases (.object d) τ →
      Trims (m.walkType (.object d) [] v) (m.walkType τ [] v) from this _ h
  intro τ hτ
  induction hτ with
  | refl => exact .refl _
  | tail _ hstep ih => exact ih.trans (hstep.trims [] v)

/-- Under a weaker definition the errors are some of those before, word for word and in the same
order, and a value that was valid is valid. -/
theorem errors_sublist_of_weaker {d d' : Definition} (h : Weaker d d') (m : Matcher) (v : Value) :
    (∀ ps, (m.problems d v).result = .ok ps →
      ∃ qs, (m.problems d' v).result = .ok qs ∧ qs.Sublist ps ∧
        (qs.map Problem.message).Sublist (ps.map Problem.message) ∧
        (MatchResult.valid ⟨ps.map Problem.message⟩ = true →
          MatchResult.valid ⟨qs.map Problem.message⟩ = true)) ∧
      (Distinct (.object d) → Walkable m (.object d) v → ∃ ps, (m.problems d v).result = .ok ps) := by
  constructor
  · intro ps hps
    obtain ⟨qs, hqs, hsub⟩ := h.trims m v ps hps
    refine ⟨qs, hqs, hsub, hsub.map _, ?_⟩
    intro hvalid
    have hnil : ps = [] := by simpa [MatchResult.valid] using hvalid
    rw [hnil] at hsub
    simp [List.sublist_nil.1 hsub, MatchResult.valid]
  · intro distinct walkable
    obtain ⟨ps, hps, -⟩ := walkType_lists distinct walkable []
    exact ⟨_, hps⟩

/-- The type of a field of an item becomes anything, and a property optional; a third one is left. -/
theorem errors_sublist_of_weaker_items :
    let d (type : TypeExpr) (optional : Bool) : Definition :=
      [("a", ⟨.array (.object [("s", ⟨type, false⟩)]), false⟩), ("b", ⟨.named "number", optional⟩),
        ("c", ⟨.named "number", false⟩)]
    let v : Value :=
      .map [(.text "a", .list [.map [(.text "s", .int 1)]]), (.text "c", .text "x")]
    Weaker (d (.named "string") false) (d (.named "any") true) ∧
      ∃ ps qs, (Matcher.problems {} (d (.named "string") false) v).result = .ok ps ∧
        (Matcher.problems {} (d (.named "any") true) v).result = .ok qs ∧ qs.Sublist ps ∧
        ps = [.mismatch [.field "a", .item 0, .field "s"] (.named "string") .number,
          .missing [.field "b"], .mismatch [.field "c"] (.named "number") .string] := by
  intro d v
  have hfirst : Eases (.object (d (.named "string") false)) (.object (d (.named "any") false)) :=
    @Eases.field [] _ "a" _ _ (.item (@Eases.field [] [] "s" _ _ (.anything (.inl rfl))))
  have hsecond : Eases (.object (d (.named "any") false)) (.object (d (.named "any") true)) :=
    @Eases.optional [_] _ "b" _
  have hweaker : Weaker (d (.named "string") false) (d (.named "any") true) :=
    .tail (.single hfirst) hsecond
  have hps : (Matcher.problems {} (d (.named "string") false) v).result =
      .ok [.mismatch [.field "a", .item 0, .field "s"] (.named "string") .number,
        .missing [.field "b"], .mismatch [.field "c"] (.named "number") .string] := by
    simp [d, v, Matcher.problems, Matcher.walkType, Matcher.walkProperties, Matcher.property,
      Value.entries?, Value.lookup, Value.isMapping, Value.items?, Matcher.items,
      Matcher.checkNamed, Matcher.builtinCheck?, Value.shape, Value.isJsonNumber]
  obtain ⟨qs, hqs, hsub, -⟩ := (errors_sublist_of_weaker hweaker {} v).1 _ hps
  exact ⟨hweaker, _, qs, hps, hqs, hsub, rfl⟩

end Conform.Schema
