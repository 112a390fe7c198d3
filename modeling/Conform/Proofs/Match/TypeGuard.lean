import Conform.Proofs.Guard.Building
import Conform.Proofs.Guard.Meaning
import Conform.Proofs.Match.Walk

/-! Types as guards. Every type over built-in names can be put together from guards, and on plain
data the guard accepts what the walk finds no problem in. The two go about it differently: a walk
looks only at properties that are there, where a guard is asked about an absent value; so a guard
stands for a type if in addition it accepts an absent value just where the property may be absent.
-/

namespace Conform

/-- Plain data: what can be read from a document. -/
inductive Value.IsJson : Value → Prop
  | null : IsJson .null
  | bool {b : Bool} : IsJson (.bool b)
  | int {n : Int} : IsJson (.int n)
  | float {x : Binary64} (h : x.isFinite = true) : IsJson (.float x)
  | text {s : String} : IsJson (.text s)
  | brokenText {s : String} : IsJson (.brokenText s)
  | list {xs : List Value} (items : ∀ x ∈ xs, IsJson x) : IsJson (.list xs)
  | map {es : List (Value × Value)} (keys : ∀ e ∈ es, ∃ s, e.1 = .text s ∨ e.1 = .brokenText s)
      (values : ∀ e ∈ es, IsJson e.2) : IsJson (.map es)

namespace Value.IsJson

variable {v x : Value}

theorem item {xs : List Value} (h : v.IsJson) (hv : v.items? = some xs) (hx : x ∈ xs) :
    x.IsJson := by
  cases h with
  | list items =>
    cases hv
    exact items x hx
  | _ => cases hv

theorem field {name : String} (h : v.IsJson) (hx : v.field? name = some x) : x.IsJson := by
  cases h with
  | map keys values =>
    obtain ⟨e, he, rfl⟩ := Option.map_eq_some_iff.1 hx
    exact values e (List.mem_of_find?_eq_some he)
  | _ => cases hx

theorem getField (h : v.IsJson) (hv : v.isMapping = true) (name : String) :
    v.getField (.text name) = .ok ((v.field? name).getD .undefined) := by
  cases h with
  | map keys values => rfl
  | _ => cases hv

theorem property (h : v.IsJson) (name : String) :
    Matcher.property v name = .ok (v.field? name) := by
  cases h <;> rfl

theorem isMapping (h : v.IsJson) : v.isMapping = (v.isObject && !v.isArray) := by
  cases h <;> rfl

theorem exists_entries (h : v.IsJson) : ∃ es, v.HasEntries es := by
  cases h with
  | @map es => exact ⟨es, rfl⟩
  | _ => exact ⟨[], rfl⟩

end Value.IsJson

namespace Schema

open Match Guard

def TypeExpr.BuiltIn (τ : TypeExpr) : Prop := ∀ name ∈ τ.names, builtinNames.contains name = true

theorem TypeExpr.BuiltIn.field {ps : Definition} (h : (TypeExpr.object ps).BuiltIn)
    {p : String × Spec TypeExpr} (hp : p ∈ ps) : p.2.type.BuiltIn :=
  fun name hname => h name (mem_propertiesNames.2 ⟨p, hp, hname⟩)

/-- The parts of plain data that a type leads to are plain data, and their types use no other
names. -/
theorem Reaches.isJson {τ σ : TypeExpr} {v w : Value} {path : Path} (h : Reaches τ v path σ w)
    (hv : v.IsJson) (hτ : τ.BuiltIn) : w.IsJson ∧ σ.BuiltIn := by
  induction h with
  | here => exact ⟨hv, hτ⟩
  | field _ hp hx _ ih => exact ih (hv.field hx) (hτ.field hp)
  | item hxs hx _ ih => exact ih (hv.item hxs (List.mem_of_getElem? hx)) hτ

section Matching

variable {m : Matcher} {v : Value}

theorem checkNamed_of_builtin (undated : m.coerceDates = false) {name : String}
    {ok : Value → Bool} (h : Matcher.builtinCheck? name = some ok) (v : Value) :
    m.checkNamed name v = pure (ok v) := by
  simp [Matcher.checkNamed, undated, h]

theorem conforms_named_iff (undated : m.coerceDates = false) {name : String}
    {ok : Value → Bool} (h : Matcher.builtinCheck? name = some ok) :
    Conforms m (.named name) v ↔ ok v = true := by
  have hcheck : (m.checkNamed name v).result = .ok (ok v) := by
    rw [checkNamed_of_builtin undated h]
    rfl
  constructor
  · rintro ⟨hv⟩
    rw [hcheck] at hv
    exact Except.ok.inj hv
  · intro hv
    exact .named (by rw [hcheck, hv])

theorem conforms_array_iff {item : TypeExpr} :
    Conforms m (.array item) v ↔ ∃ xs, v.items? = some xs ∧ ∀ x ∈ xs, Conforms m item x := by
  constructor
  · rintro (_ | ⟨hv, all⟩)
    exact ⟨_, hv, all⟩
  · rintro ⟨xs, hv, all⟩
    exact .array hv all

def PropertyConforms (m : Matcher) (v : Value) (p : String × Spec TypeExpr) : Prop :=
  match v.field? p.1 with
  | some x => Conforms m p.2.type x
  | none => p.2.optional = true

theorem conforms_object_iff {ps : Definition} :
    Conforms m (.object ps) v ↔ v.isMapping = true ∧ ∀ p ∈ ps, PropertyConforms m v p := by
  constructor
  · rintro (_ | _ | ⟨hv, present, absent⟩)
    refine ⟨hv, fun p hp => ?_⟩
    unfold PropertyConforms
    split
    · next x hx => exact present p hp x hx
    · next hx => exact absent p hp hx
  · rintro ⟨hv, all⟩
    refine .object hv (fun p hp x hx => ?_) (fun p hp hx => ?_)
    · have h := all p hp
      rwa [PropertyConforms, hx] at h
    · have h := all p hp
      rwa [PropertyConforms, hx] at h

theorem walkable_of_isJson {τ : TypeExpr} (undated : m.coerceDates = false) (hv : v.IsJson)
    (hτ : τ.BuiltIn) : Walkable m τ v := by
  refine ⟨fun path ps w hreach e _ => ?_, fun path name w hreach fault => ?_⟩
  · exact ⟨_, (hreach.isJson hv hτ).1.property e.1⟩
  · have hname := (hreach.isJson hv hτ).2 name (by simp [TypeExpr.names])
    obtain ⟨ok, hok⟩ := Matcher.builtinCheck?_isSome hname
    rw [checkNamed_of_builtin undated hok]
    rintro ⟨⟩

theorem problems_eq_nil_iff {d : Definition} (distinct : Distinct (.object d))
    (walkable : Walkable m (.object d) v) :
    ∃ ps, (m.problems d v).result = .ok ps ∧ (ps = [] ↔ Conforms m (.object d) v) := by
  obtain ⟨ps, hps, hlists⟩ := walkType_lists distinct walkable []
  refine ⟨ps.map (Problem.under []), hps, ?_⟩
  rw [List.map_eq_nil_iff, conforms_iff walkable, List.eq_nil_iff_forall_not_mem]
  exact forall_congr' fun p => not_congr (hlists.mem_iff p)

end Matching

def always : Check :=
  .predicate { name := some "always", typeName := "function", test := fun _ => .ok true }

def shapes : List Primitive := [.null, .boolean, .number, .string, .object]

/-- The guard of a type name. Any name that is not built in would be the name of a plugin, and there
are none. -/
def namedGuard : String → Except BuildError Check
  | "string" => .ok (.primitive .string)
  | "boolean" => .ok (.primitive .boolean)
  | "null" => .ok (.primitive .null)
  | "number" => .ok (.primitive .number)
  | "Date" => .ok (.primitive .date)
  | "object" => Check.buildRecord always always
  | "any" | "unknown" => Check.buildUnion (shapes.map .primitive)
  | name => Check.buildPlugin none name

def fieldGuard (optional : Bool) (c : Check) : Except BuildError Check :=
  if optional then Check.buildUnion [.primitive .undefined, c] else .ok c

mutual

/-- The guard of a type. An object's fields are asked for whatever it is; that it is no array has to
be said beside them. -/
def TypeExpr.guard : TypeExpr → Except BuildError Check
  | .named name => namedGuard name
  | .array item => do Check.buildArray (← item.guard)
  | .object ps => do
    let fields ← fieldGuards ps
    let object ← Check.buildObject (.fields (fields.map FieldSource.keyed))
    Check.buildIntersection [← Check.buildRecord always always, object]

def fieldGuards : List (String × Spec TypeExpr) → Except BuildError (List (String × Check))
  | [] => .ok []
  | (name, ⟨type, optional⟩) :: rest => do
    let guard ← fieldGuard optional (← type.guard)
    let others ← fieldGuards rest
    pure ((name, guard) :: others)

end

/-- A guard stands for a type: on plain data it decides whether the value conforms, and of a value
that is absent whether it may be. -/
structure StandsFor (m : Matcher) (τ : TypeExpr) (absent : Prop) (c : Check) : Prop where
  titled : Titled c
  undefined : Decides (c.test .undefined) absent
  json : ∀ v, v.IsJson → Decides (c.test v) (Conforms m τ v)

section Guards

variable {m : Matcher}

theorem titled_primitive (p : Primitive) : Titled (.primitive p) := ⟨rfl, _, rfl⟩

theorem titled_record : Titled (.record always always) := ⟨rfl, _, rfl⟩

theorem titled_object (fs : List (String × Check)) : Titled (.object fs) := ⟨rfl, _, rfl⟩

theorem hasEntries_undefined : Value.undefined.HasEntries [] := rfl

theorem decides_record_always {v : Value} {es : List (Value × Value)}
    (h : v.HasEntries es) :
    Decides ((Check.record always always).test v) ((v.isObject && !v.isArray) = true) := by
  have hall (x : Value) : Decides (always.test x) True := ⟨true, rfl, by simp⟩
  have hrecord := @Check.decides_record v always always es (fun _ => True) (fun _ => True) h
    (fun e _ => hall e.1) fun e _ => hall e.2
  exact hrecord.congr (by simp)

/-- A primitive guard that tells plain data apart as a built-in name does. -/
theorem standsFor_primitive (undated : m.coerceDates = false) {name : String} {p : Primitive}
    {ok : Value → Bool} (hok : Matcher.builtinCheck? name = some ok)
    (hundefined : p.accepts .undefined = false) (h : ∀ v, v.IsJson → p.accepts v = ok v) :
    StandsFor m (.named name) False (.primitive p) where
  titled := titled_primitive p
  undefined := (Check.decides_primitive p _).congr (by simp [hundefined])
  json v hv := (Check.decides_primitive p v).congr (by rw [h v hv, conforms_named_iff undated hok])

theorem standsFor_record (undated : m.coerceDates = false) :
    StandsFor m (.named "object") False (.record always always) where
  titled := titled_record
  undefined := (decides_record_always hasEntries_undefined).congr (by decide)
  json v hv := by
    obtain ⟨es, hes⟩ := hv.exists_entries
    have hconforms := @conforms_named_iff m v undated "object" _ rfl
    exact (decides_record_always hes).congr hconforms.symm

theorem exists_shape {v : Value} (hv : v.IsJson) : ∃ p ∈ shapes, p.accepts v = true := by
  cases hv with
  | null => exact ⟨.null, by decide, rfl⟩
  | bool => exact ⟨.boolean, by decide, rfl⟩
  | int => exact ⟨.number, by decide, rfl⟩
  | float h => exact ⟨.number, by decide, h⟩
  | text => exact ⟨.string, by decide, rfl⟩
  | brokenText => exact ⟨.string, by decide, rfl⟩
  | list _ => exact ⟨.object, by decide, rfl⟩
  | map _ _ => exact ⟨.object, by decide, rfl⟩

theorem standsFor_union (undated : m.coerceDates = false) {name : String}
    (hname : Matcher.builtinCheck? name = some fun _ => true) :
    StandsFor m (.named name) False (.union (shapes.map .primitive)) where
  titled := ⟨rfl, _, rfl⟩
  undefined := (Check.decides_union_primitive shapes _).congr (by decide)
  json v hv := by
    refine (Check.decides_union_primitive shapes v).congr ?_
    exact iff_of_true (exists_shape hv) ((conforms_named_iff undated hname).2 rfl)

theorem namedGuard_standsFor (undated : m.coerceDates = false) {name : String}
    (h : builtinNames.contains name = true) :
    ∃ c, namedGuard name = .ok c ∧ StandsFor m (.named name) False c := by
  simp only [builtinNames, List.contains_cons, List.contains_nil, Bool.or_false, Bool.or_eq_true,
    beq_iff_eq] at h
  rcases h with rfl | rfl | rfl | rfl | rfl | rfl | rfl | rfl
  · exact ⟨_, rfl, standsFor_primitive undated rfl rfl fun v hv => by cases hv <;> rfl⟩
  · refine ⟨_, rfl, standsFor_primitive undated rfl rfl fun v hv => ?_⟩
    cases hv with
    | @float x h =>
      cases x with
      | finite | negativeZero => rfl
      | infinite | nan => cases h
    | _ => rfl
  · exact ⟨_, rfl, standsFor_primitive undated rfl rfl fun v hv => by cases hv <;> rfl⟩
  · exact ⟨_, rfl, standsFor_primitive undated rfl rfl fun v hv => by cases hv <;> rfl⟩
  · exact ⟨_, rfl, standsFor_record undated⟩
  · exact ⟨_, rfl, standsFor_primitive undated rfl rfl fun v hv => by cases hv <;> rfl⟩
  · exact ⟨_, rfl, standsFor_union undated rfl⟩
  · exact ⟨_, rfl, standsFor_union undated rfl⟩

def FieldStandsFor (m : Matcher) (p : String × Spec TypeExpr) (f : String × Check) : Prop :=
  f.1 = p.1 ∧ StandsFor m p.2.type (p.2.optional = true) f.2

theorem standsFor_optional {τ : TypeExpr} {c : Check} (h : StandsFor m τ False c) :
    StandsFor m τ True (.union [.primitive .undefined, c]) where
  titled := ⟨rfl, _, rfl⟩
  undefined := by
    have heither := Check.decides_either (Check.decides_primitive .undefined _) h.undefined
    exact heither.congr (iff_of_true (.inl rfl) trivial)
  json v hv := by
    have hnot : Primitive.undefined.accepts v = false := by cases hv <;> rfl
    exact (Check.decides_either (Check.decides_primitive _ _) (h.json v hv)).congr (by simp [hnot])

theorem fieldGuard_standsFor {τ : TypeExpr} {c : Check} (optional : Bool)
    (h : StandsFor m τ False c) :
    ∃ g, fieldGuard optional c = .ok g ∧ StandsFor m τ (optional = true) g := by
  cases optional with
  | false => exact ⟨c, rfl, by simpa using h⟩
  | true =>
    have titled : ∀ e ∈ [.primitive .undefined, c], Titled e := by
      simpa using ⟨titled_primitive .undefined, h.titled⟩
    exact ⟨_, Check.buildUnion_of_titled titled, by simpa using standsFor_optional h⟩

theorem fieldGuards_standsFor {ps : Definition}
    (h : ∀ p ∈ ps, ∃ c, p.2.type.guard = .ok c ∧ StandsFor m p.2.type False c) :
    ∃ fs, fieldGuards ps = .ok fs ∧ List.Forall₂ (FieldStandsFor m) ps fs := by
  induction ps with
  | nil => exact ⟨[], rfl, .nil⟩
  | cons p ps ih =>
    obtain ⟨hp, hps⟩ := List.forall_mem_cons.1 h
    obtain ⟨c, hguard, hc⟩ := hp
    obtain ⟨fs, hfields, hfs⟩ := ih hps
    obtain ⟨name, type, optional⟩ := p
    obtain ⟨g, hfield, hg⟩ := fieldGuard_standsFor optional hc
    refine ⟨(name, g) :: fs, ?_, .cons ⟨rfl, hg⟩ hfs⟩
    rw [fieldGuards, hguard, hfields]
    show (do let guard ← fieldGuard optional c; _) = _
    rw [hfield]
    rfl

theorem keys_eq_of_fieldStandsFor {ps : Definition} {fs : List (String × Check)}
    (h : List.Forall₂ (FieldStandsFor m) ps fs) : Assoc.keys fs = Assoc.keys ps := by
  induction h with
  | nil => rfl
  | cons hf _ ih => exact congrArg₂ List.cons hf.1 ih

theorem isGuard_of_fieldStandsFor {ps : Definition} {fs : List (String × Check)}
    (h : List.Forall₂ (FieldStandsFor m) ps fs) : ∀ f ∈ fs, f.2.isGuard = true := by
  induction h with
  | nil => simp
  | cons hf _ ih => exact List.forall_mem_cons.2 ⟨hf.2.titled.guard, ih⟩

def fieldValue (v : Value) (name : String) : Value := (v.field? name).getD .undefined

theorem FieldStandsFor.decides {p : String × Spec TypeExpr} {f : String × Check} {v : Value}
    (h : FieldStandsFor m p f) (hv : v.IsJson) :
    Decides (f.2.test (fieldValue v f.1)) (PropertyConforms m v p) := by
  unfold PropertyConforms fieldValue
  rw [h.1]
  cases hx : v.field? p.1 with
  | none => exact h.2.undefined
  | some x => exact h.2.json x (hv.field hx)

theorem decides_fields {ps : Definition} {fs : List (String × Check)} {v : Value}
    (h : List.Forall₂ (FieldStandsFor m) ps fs) (hv : v.IsJson) (hmapping : v.isMapping = true) :
    Decides ((Check.object fs).test v) (v.isObject = true ∧ ∀ p ∈ ps, PropertyConforms m v p) := by
  have hall : (∀ f ∈ fs, Decides (f.2.test (fieldValue v f.1))
      ((f.2.test (fieldValue v f.1)).result = .ok true)) ∧
      ((∀ f ∈ fs, (f.2.test (fieldValue v f.1)).result = .ok true) ↔
        ∀ p ∈ ps, PropertyConforms m v p) := by
    induction h with
    | nil => simp
    | @cons p f ps fs hf _ ih =>
      have hdecides := hf.decides hv
      simp only [List.forall_mem_cons]
      exact ⟨⟨hdecides.self, ih.1⟩, and_congr hdecides.accepts_iff ih.2⟩
  exact (Check.decides_object (fun f _ => hv.getField hmapping f.1) hall.1).congr
    (and_congr_right' hall.2)

theorem standsFor_object {ps : Definition} {fs : List (String × Check)}
    (h : List.Forall₂ (FieldStandsFor m) ps fs) :
    StandsFor m (.object ps) False (.intersection [.record always always, .object fs]) where
  titled := ⟨rfl, _, rfl⟩
  undefined := by
    have hobject := @Check.decides_object_of_not .undefined fs rfl
    exact (Check.decides_both (decides_record_always hasEntries_undefined) fun _ => hobject).congr (by simp)
  json v hv := by
    obtain ⟨es, hes⟩ := hv.exists_entries
    -- a list is not asked for fields: it has others, of its own
    refine (Check.decides_both (decides_record_always hes) fun hobject =>
      decides_fields h hv (hv.isMapping.trans hobject)).congr ?_
    rw [conforms_object_iff, hv.isMapping]
    simp only [Bool.and_eq_true]
    tauto

theorem standsFor_array {item : TypeExpr} {c : Check} (h : StandsFor m item False c) :
    StandsFor m (.array item) False (.array c) where
  titled := ⟨rfl, _, rfl⟩
  undefined := by
    have harray := @Check.decides_array .undefined c (fun _ => True) (by rintro xs ⟨⟩)
    exact harray.congr (by simp [Value.items?])
  json v hv := by
    refine (Check.decides_array fun xs hxs x hx => ?_).congr conforms_array_iff.symm
    exact h.json x (hv.item hxs hx)

/-- Every type over built-in names has a guard that stands for it. -/
theorem guard_standsFor (undated : m.coerceDates = false) {τ : TypeExpr} (distinct : Distinct τ)
    (hτ : τ.BuiltIn) : ∃ c, τ.guard = .ok c ∧ StandsFor m τ False c := by
  induction τ using TypeExpr.induction with
  | named name => exact namedGuard_standsFor undated (hτ name (by simp [TypeExpr.names]))
  | array item ih =>
    cases distinct with | array hitem =>
    obtain ⟨c, hguard, hc⟩ := ih hitem hτ
    refine ⟨.array c, ?_, standsFor_array hc⟩
    rw [TypeExpr.guard, hguard]
    exact Check.buildArray_of_titled hc.titled
  | object ps ih =>
    cases distinct with | object names types =>
    obtain ⟨fs, hfields, hfs⟩ :=
      fieldGuards_standsFor fun p hp => ih p hp (types p hp) (hτ.field hp)
    have hobject := FieldSource.buildObject_keyed (keys_eq_of_fieldStandsFor hfs ▸ names)
      (isGuard_of_fieldStandsFor hfs)
    refine ⟨_, ?_, standsFor_object hfs⟩
    rw [TypeExpr.guard, hfields]
    show (do let object ← Check.buildObject (.fields (fs.map FieldSource.keyed)); _) = _
    rw [hobject]
    exact @Check.buildIntersection_of_titled (.record always always) [.object fs]
      (by simpa using ⟨titled_record, titled_object fs⟩)

/-- The walk and the guard agree: for a definition over built-in names, where no text stands for a
moment, the guard can be built, and of plain data it accepts just what is a valid match. -/
theorem valid_iff_guard_accepts (undated : m.coerceDates = false) {d : Definition}
    (distinct : Distinct (.object d))
    (builtin : ∀ name ∈ propertiesNames d, builtinNames.contains name = true) {v : Value}
    (hv : v.IsJson) :
    ∃ c ps, (TypeExpr.object d).guard = .ok c ∧ (m.problems d v).result = .ok ps ∧
      (c.test v).result = .ok (MatchResult.valid ⟨ps.map Problem.message⟩) := by
  obtain ⟨c, hguard, hc⟩ := guard_standsFor undated distinct builtin
  obtain ⟨ps, hps, hnil⟩ := problems_eq_nil_iff distinct (walkable_of_isJson undated hv builtin)
  obtain ⟨b, hb, hconforms⟩ := hc.json v hv
  refine ⟨c, ps, hguard, hps, hb.trans (congrArg Except.ok ?_)⟩
  rw [Bool.eq_iff_iff, hconforms, ← hnil]
  simp [MatchResult.valid]

/-- A truth value among numbers, and an optional property that is absent. -/
theorem valid_iff_guard_accepts_numbers :
    ∃ c, (TypeExpr.object
        [("a", ⟨.array (.named "number"), false⟩), ("b", ⟨.named "any", true⟩)]).guard = .ok c ∧
      (c.test (.map [(.text "a", .list [.int 1, .bool true])])).result = .ok false := by
  have distinct : Distinct (.object
      [("a", ⟨.array (.named "number"), false⟩), ("b", ⟨.named "any", true⟩)]) := by
    refine .object (by decide) fun e he => ?_
    simp only [List.mem_cons, List.not_mem_nil, or_false] at he
    rcases he with rfl | rfl
    · exact .array .named
    · exact .named
  have json : Value.IsJson (.map [(.text "a", .list [.int 1, .bool true])]) := by
    refine .map (by simp) ?_
    simpa using .list (by simpa using ⟨.int, .bool⟩)
  have ha : Matcher.property (.map [(.text "a", .list [.int 1, .bool true])]) "a" =
      .ok (some (.list [.int 1, .bool true])) := by
    simp [Matcher.property, Value.entries?, Value.lookup]
  have hb : Matcher.property (.map [(.text "a", .list [.int 1, .bool true])]) "b" = .ok none := by
    simp [Matcher.property, Value.entries?, Value.lookup]
  obtain ⟨c, ps, hguard, hps, hc⟩ := @valid_iff_guard_accepts {} rfl _ distinct (by decide) _ json
  rw [Matcher.problems, Matcher.walkType, Matcher.walkProperties, Matcher.walkProperties, ha, hb]
    at hps
  obtain rfl : [Problem.mismatch [.field "a", .item 1] (.named "number") .boolean] = ps :=
    Except.ok.inj hps
  exact ⟨c, hguard, hc⟩

end Guards

end Schema

end Conform
