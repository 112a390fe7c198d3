import Conform.Proofs.Value.Equality

/-! Strict equality of containers. It tells types apart at the top only: what stands in the same place of
two strictly equal containers is equal, but there a truth value may face a number. -/

namespace Conform.Value

/-- What two values hold in the same place: at one index of two lists or of two tuples, under equal keys
of two mappings, under one name in two records. -/
inductive Faces : Value → Value → Value → Value → Prop
  | list {as bs : List Value} {x y : Value} {i : Nat} (left : as[i]? = some x)
      (right : bs[i]? = some y) : Faces (.list as) (.list bs) x y
  | tuple {as bs : List Value} {x y : Value} {i : Nat} (left : as[i]? = some x)
      (right : bs[i]? = some y) : Faces (.tuple as) (.tuple bs) x y
  | mapping {a b k l x y : Value} {es fs : List (Value × Value)} (left : a.entries? = some es)
      (right : b.entries? = some fs) (he : (k, x) ∈ es) (hf : (l, y) ∈ fs) (key : Same k l) :
      Faces a b x y
  | record {fs gs : List (String × Value)} {name : String} {x y : Value} (left : (name, x) ∈ fs)
      (right : (name, y) ∈ gs) : Faces (.record fs) (.record gs) x y

/-- What two values hold in the same place at any depth; at the top these are they themselves. -/
inductive Facing (a b : Value) : Value → Value → Prop
  | top : Facing a b a b
  | inner {x y x' y' : Value} (outer : Facing a b x y) (h : Faces x y x' y') : Facing a b x' y'

def isContainer : Value → Bool
  | list _ | tuple _ | map _ => true
  | _ => false

inductive SameShape : Value → Value → Prop
  | list {as bs : List Value} (length : as.length = bs.length) : SameShape (.list as) (.list bs)
  | tuple {as bs : List Value} (length : as.length = bs.length) : SameShape (.tuple as) (.tuple bs)
  | map {es fs : List (Value × Value)} (length : es.length = fs.length)
      (left : ∀ e ∈ es, ∃ f ∈ fs, Same e.1 f.1) (right : ∀ f ∈ fs, ∃ e ∈ es, Same e.1 f.1) :
      SameShape (.map es) (.map fs)

/-- The types that count as another one in a comparison: just one of the two values is a truth value, or
a complex number, or a mapping that cannot be changed. -/
def Coerced (x y : Value) : Prop :=
  ∃ k ∈ [Kind.bool, .complex, .frozenMap], ¬ (x.kind = k ↔ y.kind = k)

variable {a b x y : Value}

/-- Types are told apart at the top. -/
theorem strictEqual_eq_ite (x y : Value) :
    x.strictEqual y = if x.isReal && y.isReal || x.kind == y.kind then equal x y else .ok false := by
  cases y with
  | null | undefined => cases x <;> simp [strictEqual, kind, isReal, equal]
  | _ => rfl

theorem strictEqual_eq_true_iff : x.strictEqual y = .ok true ↔
    Same x y ∧ (x.isReal = true ∧ y.isReal = true ∨ x.kind = y.kind) := by
  rw [strictEqual_eq_ite, Same]
  split <;> simp_all

/-- Equal values are strictly equal but where one type counts as another. -/
theorem strictEqual_iff_not_coerced (h : Same x y) : x.strictEqual y = .ok true ↔ ¬ Coerced x y := by
  rw [strictEqual_eq_true_iff, and_iff_right h]
  cases same_iff_step.1 h with
  | mapping left right =>
    cases x with
    | map es | frozenMap es =>
      cases y with
      | map fs | frozenMap fs => simp [Coerced, kind, isReal]
      | _ => cases right
    | _ => cases left
  | number left right =>
    cases x with
    | bool | int | float | complex | namedInt =>
      cases y with
      | bool | int | float | complex | namedInt => simp [Coerced, kind, isReal]
      | _ => cases right
    | _ => cases left
  | _ => simp [Coerced, kind]

theorem Faces.mem_inside (h : Faces a b x y) : x ∈ a.inside ∧ y ∈ b.inside := by
  cases h with
  | list left right | tuple left right =>
    exact ⟨List.mem_of_getElem? left, List.mem_of_getElem? right⟩
  | mapping left right he hf => exact ⟨mem_inside_of_entry left he, mem_inside_of_entry right hf⟩
  | record left right => exact ⟨List.mem_map_of_mem left, List.mem_map_of_mem right⟩

/-- Equal values hold equal values in the same places. -/
theorem Faces.same (h : Faces a b x y) (ha : a.Apart) (hb : b.Apart) (hab : Same a b) : Same x y := by
  cases h with
  | list left right => exact (same_lists_iff.1 hab).2 _ _ _ left right
  | tuple left right => exact (same_tuples_iff.1 hab).2 _ _ _ left right
  | mapping left right he hf key =>
    have hvalues := ((same_mappings_iff left right (ha.keysApart left) (hb.keysApart right)).1 hab).2
    exact hvalues _ he _ hf key
  | record left right => exact same_of_fields hab hb left right

/-- So it is at any depth. -/
theorem Facing.same (h : Facing a b x y) (ha : WellKeyed a) (hb : WellKeyed b) (hab : Same a b) :
    Same x y ∧ WellKeyed x ∧ WellKeyed y := by
  induction h with
  | top => exact ⟨hab, ha, hb⟩
  | inner _ h ih =>
    obtain ⟨hsame, ⟨hx, insideX⟩, ⟨hy, insideY⟩⟩ := ih
    exact ⟨h.same hx hy hsame, insideX _ h.mem_inside.1, insideY _ h.mem_inside.2⟩

theorem eq_map_of_isContainer {es : List (Value × Value)} (h : a.isContainer = true)
    (ha : a.entries? = some es) : a = .map es := by
  cases a with
  | map es' => rw [Option.some.inj ha]
  | list | tuple => cases ha
  | _ => cases h

theorem sameShape_of_same (hab : Same a b) (ha : a.isContainer = true) (hb : b.isContainer = true)
    (apartA : a.Apart) (apartB : b.Apart) : SameShape a b := by
  cases same_iff_step.1 hab with
  | list items => exact .list items.length_eq
  | tuple items => exact .tuple items.length_eq
  | mapping left right =>
    obtain rfl := eq_map_of_isContainer ha left
    obtain rfl := eq_map_of_isContainer hb right
    obtain ⟨length, keys⟩ := ((same_mappings_iff left right apartA apartB).1 hab).1
    exact .map length keys (apartA.exists_entry length keys)
  | number left right =>
    cases a with
    | list | tuple | map => cases left
    | _ => cases ha
  | _ => cases ha

theorem strictEqual_of_sameShape (shape : SameShape a b) (faces : ∀ x y, Faces a b x y → Same x y)
    (apartA : a.Apart) (apartB : b.Apart) : a.strictEqual b = .ok true := by
  rw [strictEqual_eq_true_iff]
  cases shape with
  | list length =>
    exact ⟨same_lists_iff.2 ⟨length, fun i x y hx hy => faces x y (.list hx hy)⟩, .inr rfl⟩
  | tuple length =>
    exact ⟨same_tuples_iff.2 ⟨length, fun i x y hx hy => faces x y (.tuple hx hy)⟩, .inr rfl⟩
  | map length left right =>
    refine ⟨(same_mappings_iff rfl rfl apartA apartB).2 ⟨⟨length, left⟩, ?_⟩, .inr rfl⟩
    exact fun e he f hf key => faces e.2 f.2 (.mapping rfl rfl he hf key)

structure Compared (a b : Value) : Prop where
  /-- Strictly equal are containers of one shape that hold equal values in the same places. -/
  level : a.strictEqual b = .ok true ↔ SameShape a b ∧ ∀ x y, Faces a b x y → Same x y
  /-- Then what stands in the same place is equal at any depth, and strictly equal unless a type counts
  as another there. -/
  deep : a.strictEqual b = .ok true → ∀ x y, Facing a b x y →
    Same x y ∧ (x.strictEqual y = .ok true ↔ ¬ Coerced x y)
  /-- All that stands in the same place is strictly equal just if the containers are and no type counts
  as another anywhere. -/
  strict_iff : (∀ x y, Facing a b x y → x.strictEqual y = .ok true) ↔
    a.strictEqual b = .ok true ∧ ∀ x y, Facing a b x y → ¬ Coerced x y

/-- Strict equality of lists, tuples and maps tells types apart at the top, and below it only where
equality does. The two share no objects: one and the same object is taken for equal to itself inside
a container, be it a NaN, and here there are none but equal ones. -/
theorem strictEqual_containers (ha : a.isContainer = true) (hb : b.isContainer = true)
    (wa : WellKeyed a) (wb : WellKeyed b) : Compared a b := by
  have deep (h : a.strictEqual b = .ok true) (x y : Value) (hxy : Facing a b x y) :
      Same x y ∧ (x.strictEqual y = .ok true ↔ ¬ Coerced x y) := by
    have hsame := (hxy.same wa wb (strictEqual_eq_true_iff.1 h).1).1
    exact ⟨hsame, strictEqual_iff_not_coerced hsame⟩
  obtain ⟨apartA, -⟩ := wa
  obtain ⟨apartB, -⟩ := wb
  constructor
  · constructor
    · intro h
      have hsame := (strictEqual_eq_true_iff.1 h).1
      refine ⟨sameShape_of_same hsame ha hb apartA apartB, fun x y hxy => ?_⟩
      exact hxy.same apartA apartB hsame
    · rintro ⟨shape, faces⟩
      exact strictEqual_of_sameShape shape faces apartA apartB
  · exact deep
  · constructor
    · intro h
      have htop := h a b .top
      exact ⟨htop, fun x y hxy => (deep htop x y hxy).2.1 (h x y hxy)⟩
    · rintro ⟨htop, hnone⟩ x y hxy
      exact (deep htop x y hxy).2.2 (hnone x y hxy)

/-- Two lists of a map each, one with a truth value and one with a number. -/
theorem strictEqual_containers_flag :
    let a := Value.list [.map [(.text "flag", .bool true)]]
    let b := Value.list [.map [(.text "flag", .int 1)]]
    (WellKeyed a ∧ WellKeyed b) ∧ SameShape a b ∧ Facing a b (.bool true) (.int 1) ∧
      Coerced (.bool true) (.int 1) := by
  intro a b
  have entry (v : Value) (hv : WellKeyed v) : WellKeyed (.list [.map [(.text "flag", v)]]) := by
    have apart : KeysApart [(.text "flag", v)] := ⟨by simp [IsKey, unhashable?], by simp⟩
    have map : WellKeyed (.map [(.text "flag", v)]) := .intro apart (by simpa [inside] using hv)
    exact .intro trivial (by simpa [inside] using map)
  have wa : WellKeyed a := entry _ (.intro trivial (by simp [inside]))
  have wb : WellKeyed b := entry _ (.intro trivial (by simp [inside]))
  have hab : a.strictEqual b = .ok true := by decide +kernel
  have hlists : Faces a b (.map [(.text "flag", .bool true)]) (.map [(.text "flag", .int 1)]) :=
    .list (i := 0) rfl rfl
  have hmaps : Faces (.map [(.text "flag", .bool true)]) (.map [(.text "flag", .int 1)]) (.bool true)
      (.int 1) := .mapping rfl rfl List.mem_cons_self List.mem_cons_self (same_iff_step.2 (.text "flag"))
  have hfacing : Facing a b (.bool true) (.int 1) := .inner (.inner .top hlists) hmaps
  have hcompared := strictEqual_containers (a := a) (b := b) rfl rfl wa wb
  refine ⟨⟨wa, wb⟩, (hcompared.level.1 hab).1, hfacing, ?_⟩
  by_contra hnot
  have hstrict := (hcompared.deep hab _ _ hfacing).2.2 hnot
  cases hstrict

/-- A truth value in a list faces an equal number, though by themselves they are not strictly equal. -/
theorem strictEqual_list_bool_int :
    (Value.list [.bool true]).strictEqual (.list [.int 1]) = .ok true ∧
      Faces (.list [.bool true]) (.list [.int 1]) (.bool true) (.int 1) ∧
      (Value.bool true).strictEqual (.int 1) = .ok false :=
  ⟨by decide +kernel, .list (i := 0) rfl rfl, rfl⟩

end Conform.Value
