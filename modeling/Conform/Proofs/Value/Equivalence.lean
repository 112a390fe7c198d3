import Conform.Proofs.Value.Coercion

/-! Equality is symmetric and transitive on all values in which no key stands twice, and strict
equality with it. Data equals itself if there is no NaN in it. -/

namespace Conform.Value

/-! ### Equality of values with each key once -/

theorem same_records_iff {fs gs : List (String × Value)} (hgs : (Assoc.keys gs).Nodup) :
    Same (.record fs) (.record gs) ↔ fs.length = gs.length ∧
      ∀ f ∈ fs, ∃ g ∈ gs, f.1 = g.1 ∧ Same f.2 g.2 := by
  rw [same_iff_step]
  constructor
  · intro h
    cases h with
    | mapping left | number left => cases left
    | record length found =>
      refine ⟨length, fun f hf => ?_⟩
      obtain ⟨g, hfind, hsame⟩ := found f hf
      have hname := List.find?_some hfind
      exact ⟨g, List.mem_of_find?_eq_some hfind, eq_of_beq hname, hsame⟩
  · rintro ⟨length, found⟩
    refine .record length fun f hf => ?_
    obtain ⟨⟨name, y⟩, hg, hname, hsame⟩ := found f hf
    cases hfind : gs.find? fun g => f.1 == g.1 with
    | none => exact absurd (beq_iff_eq.2 hname) (List.find?_eq_none.1 hfind _ hg)
    | some g =>
      obtain ⟨name', y'⟩ := g
      have hfound := List.find?_some hfind
      obtain rfl : name' = name := (eq_of_beq hfound).symm.trans hname
      have hy := Assoc.get?_eq_some_of_mem hgs hg
      rw [Assoc.get?_eq_some_of_mem hgs (List.mem_of_find?_eq_some hfind)] at hy
      obtain rfl := Option.some.inj hy
      exact ⟨_, rfl, hsame⟩

variable {a b c : Value}

theorem forall₂_of_mem {R S : Value → Value → Prop} {as bs : List Value}
    (h : ∀ x ∈ as, ∀ y ∈ bs, R x y → S x y) (items : List.Forall₂ R as bs) : List.Forall₂ S as bs := by
  rw [forall₂_iff_getElem?] at items ⊢
  refine ⟨items.1, fun i x y hx hy => ?_⟩
  exact h x (List.mem_of_getElem? hx) y (List.mem_of_getElem? hy) (items.2 i x y hx hy)

/-- What two mappings hold under equal keys is held against each other in either order. -/
theorem same_mappings_symm {es fs : List (Value × Value)} (ha : a.entries? = some es)
    (hb : b.entries? = some fs) (hes : KeysApart es) (hfs : KeysApart fs)
    (values : ∀ e ∈ es, ∀ f ∈ fs, Same e.2 f.2 → Same f.2 e.2) (h : Same a b) : Same b a := by
  obtain ⟨⟨length, partners⟩, held⟩ := (same_mappings_iff ha hb hes hfs).1 h
  refine (same_mappings_iff hb ha hfs hes).2 ⟨⟨length.symm, fun f hf => ?_⟩, fun f hf e he hkey => ?_⟩
  · obtain ⟨e, he, hkey⟩ := hes.exists_entry length partners f hf
    exact ⟨e, he, (hes.keys e he).symm hkey⟩
  · exact values e he f hf (held e he f hf ((hfs.keys f hf).symm hkey))

theorem same_mappings_trans {es fs gs : List (Value × Value)} (ha : a.entries? = some es)
    (hb : b.entries? = some fs) (hc : c.entries? = some gs) (hes : KeysApart es) (hfs : KeysApart fs)
    (hgs : KeysApart gs)
    (values : ∀ e ∈ es, ∀ f ∈ fs, ∀ g ∈ gs, Same e.2 f.2 → Same f.2 g.2 → Same e.2 g.2)
    (hab : Same a b) (hbc : Same b c) : Same a c := by
  obtain ⟨⟨length, partners⟩, held⟩ := (same_mappings_iff ha hb hes hfs).1 hab
  obtain ⟨⟨length', partners'⟩, held'⟩ := (same_mappings_iff hb hc hfs hgs).1 hbc
  refine (same_mappings_iff ha hc hes hgs).2
    ⟨⟨length.trans length', fun e he => ?_⟩, fun e he g hg hkey => ?_⟩
  · obtain ⟨f, hf, hef⟩ := partners e he
    obtain ⟨g, hg, hfg⟩ := partners' f hf
    exact ⟨g, hg, (hes.keys e he).trans hef hfg⟩
  · obtain ⟨f, hf, hef⟩ := partners e he
    have hfg : Same f.1 g.1 := (hfs.keys f hf).trans ((hes.keys e he).symm hef) hkey
    exact values e he f hf g hg (held e he f hf hef) (held' f hf g hg hfg)

theorem same_records_symm {fs gs : List (String × Value)} (hfs : (Assoc.keys fs).Nodup)
    (hgs : (Assoc.keys gs).Nodup) (values : ∀ f ∈ fs, ∀ g ∈ gs, Same f.2 g.2 → Same g.2 f.2)
    (h : Same (.record fs) (.record gs)) : Same (.record gs) (.record fs) := by
  obtain ⟨length, found⟩ := (same_records_iff hgs).1 h
  refine (same_records_iff hfs).2 ⟨length.symm, fun g hg => ?_⟩
  have names : fs.Pairwise fun f f' => f.1 ≠ f'.1 := List.pairwise_map.1 hfs
  have apart : fs.Pairwise fun f f' => ∀ g : String × Value,
      f.1 = g.1 ∧ Same f.2 g.2 → ¬ (f'.1 = g.1 ∧ Same f'.2 g.2) :=
    names.imp fun hne g hf hf' => hne (hf.1.trans hf'.1.symm)
  obtain ⟨f, hf, hname, hsame⟩ := exists_partner apart found (Nat.le_of_eq length.symm) g hg
  exact ⟨f, hf, hname.symm, values f hf g hg hsame⟩

/-- Equality is symmetric where no key stands twice. -/
theorem Same.symm (wa : WellKeyed a) (wb : WellKeyed b) (h : Same a b) : Same b a := by
  induction wa generalizing b with
  | @intro a apartA _ ih =>
    obtain ⟨apartB, insideB⟩ := wb
    have held : ∀ x ∈ a.inside, ∀ y ∈ b.inside, Same x y → Same y x :=
      fun x hx y hy => ih x hx (insideB y hy)
    rw [same_iff_step]
    cases same_iff_step.1 h with
    | null => exact .null
    | undefined => exact .undefined
    | text s => exact .text s
    | bytes bs => exact .bytes bs
    | list items => exact .list (forall₂_of_mem held items).flip
    | tuple items => exact .tuple (forall₂_of_mem held items).flip
    | mapping left right =>
      refine same_iff_step.1 (same_mappings_symm left right (apartA.keysApart left)
        (apartB.keysApart right) (fun e he f hf => ?_) h)
      exact held e.2 (mem_inside_of_entry left he) f.2 (mem_inside_of_entry right hf)
    | record =>
      refine same_iff_step.1 (same_records_symm apartA apartB (fun f hf g hg => ?_) h)
      exact held f.2 (List.mem_map_of_mem hf) g.2 (List.mem_map_of_mem hg)
    | moment h => exact .moment (by rwa [moment_same_comm])
    | date d => exact .date d
    | symbol type name => exact .symbol type name
    | enumeration name => exact .enumeration name
    | number left right h => exact .number right left (numericEqual_symm h)

/-- Equality is transitive where no key stands twice. -/
theorem Same.trans (wa : WellKeyed a) (wb : WellKeyed b) (wc : WellKeyed c) (hab : Same a b)
    (hbc : Same b c) : Same a c := by
  induction wa generalizing b c with
  | @intro a apartA _ ih =>
    obtain ⟨apartB, insideB⟩ := wb
    obtain ⟨apartC, insideC⟩ := wc
    have held : ∀ x ∈ a.inside, ∀ y z, y ∈ b.inside ∧ Same x y → z ∈ c.inside ∧ Same y z → Same x z :=
      fun x hx y z hy hz => ih x hx (insideB y hy.1) (insideC z hz.1) hy.2 hz.2
    have both {as bs : List Value} (items : List.Forall₂ Same as bs) :
        List.Forall₂ (fun x y => y ∈ bs ∧ Same x y) as bs :=
      forall₂_of_mem (fun _ _ y hy hxy => ⟨hy, hxy⟩) items
    cases same_iff_step.1 hab with
    | null | undefined | text | bytes | date => exact hbc
    | list items =>
      cases same_iff_step.1 hbc with
      | list items' => exact same_iff_step.2 (.list (forall₂_comp held (both items) (both items')))
      | mapping left | number left => cases left
    | tuple items =>
      cases same_iff_step.1 hbc with
      | tuple items' => exact same_iff_step.2 (.tuple (forall₂_comp held (both items) (both items')))
      | mapping left | number left => cases left
    | mapping left right =>
      cases same_iff_step.1 hbc with
      | mapping left' right' =>
        refine same_mappings_trans left left' right' (apartA.keysApart left)
          (apartB.keysApart left') (apartC.keysApart right') (fun e he f hf g hg hef hfg => ?_) hab hbc
        exact held e.2 (mem_inside_of_entry left he) f.2 g.2
          ⟨mem_inside_of_entry left' hf, hef⟩ ⟨mem_inside_of_entry right' hg, hfg⟩
      | number left' => simp [entries?_eq_none_of_numeric left'] at right
      | _ => cases right
    | record =>
      cases same_iff_step.1 hbc with
      | record =>
        obtain ⟨length, found⟩ := (same_records_iff apartB).1 hab
        obtain ⟨length', found'⟩ := (same_records_iff apartC).1 hbc
        refine (same_records_iff apartC).2 ⟨length.trans length', fun f hf => ?_⟩
        obtain ⟨g, hg, hfg, hsame⟩ := found f hf
        obtain ⟨h, hh, hgh, hsame'⟩ := found' g hg
        exact ⟨h, hh, hfg.trans hgh, held f.2 (List.mem_map_of_mem hf) g.2 h.2
          ⟨List.mem_map_of_mem hg, hsame⟩ ⟨List.mem_map_of_mem hh, hsame'⟩⟩
      | mapping left | number left => cases left
    | moment h =>
      cases same_iff_step.1 hbc with
      | moment h' => exact same_iff_step.2 (.moment (moment_same_trans h h'))
      | mapping left | number left => cases left
    | symbol type name =>
      cases same_iff_step.1 hbc with
      | symbol => exact same_iff_step.2 (.symbol type name)
      | mapping left | number left => cases left
    | enumeration name =>
      cases same_iff_step.1 hbc with
      | enumeration => exact same_iff_step.2 (.enumeration name)
      | mapping left | number left => cases left
    | number left right h =>
      cases same_iff_step.1 hbc with
      | number left' right' h' =>
        obtain rfl := Option.some.inj (right.symm.trans left')
        exact same_iff_step.2 (.number left right' (numericEqual_trans h h'))
      | mapping left' => simp [entries?_eq_none_of_numeric right] at left'
      | _ => cases right

/-! ### Data -/

/-- Data without parts. A text with lone halves of characters is none: it is kept only in part. -/
def isScalar : Value → Bool
  | null | undefined | bool _ | int _ | float _ | complex .. | text _ | bytes _ | moment _ | date _
    | symbol .. | namedInt .. => true
  | _ => false

/-- Scalars of which `P` holds, and lists, tuples and maps of such data. The keys of a map can be
keys, and none stands in it twice. -/
inductive DataOf (P : Value → Prop) : Value → Prop
  | scalar {a : Value} (h : a.isScalar = true) (holds : P a) : DataOf P a
  | list {xs : List Value} (items : ∀ x ∈ xs, DataOf P x) : DataOf P (.list xs)
  | tuple {xs : List Value} (items : ∀ x ∈ xs, DataOf P x) : DataOf P (.tuple xs)
  | map {es : List (Value × Value)} (apart : KeysApart es) (keys : ∀ e ∈ es, DataOf P e.1)
      (values : ∀ e ∈ es, DataOf P e.2) : DataOf P (.map es)

def IsData (a : Value) : Prop := DataOf (fun _ => True) a

def isNan : Value → Bool
  | float x => x.isNan
  | complex re im => re.isNan || im.isNan
  | _ => false

variable {P : Value → Prop}

theorem DataOf.wellKeyed (h : DataOf P a) : WellKeyed a := by
  induction h with
  | @scalar a h _ =>
    cases a with
    | list | tuple | map | frozenMap | record => cases h
    | _ => exact .intro trivial (by simp [inside])
  | list _ ih => exact .intro trivial ih
  | tuple _ ih => exact .intro trivial ih
  | map apart _ _ _ ih =>
    refine .intro apart fun x hx => ?_
    obtain ⟨e, he, rfl⟩ := List.mem_map.1 hx
    exact ih e he

theorem binary64_equal_self {x : Binary64} (h : x.isNan = false) : x.equal x = true := by
  rw [binary64_equal_iff]
  cases x with
  | nan => cases h
  | _ => simp [rank?, Binary64.value?]

theorem numericEqual_self {x : Binary64 × Binary64} (hre : x.1.isNan = false)
    (him : x.2.isNan = false) : numericEqual x x = true := by
  rw [numericEqual, binary64_equal_self hre, binary64_equal_self him]
  rfl

theorem same_scalar_self (h : a.isScalar = true) (hnan : a.isNan = false) : Same a a := by
  rw [same_iff_step]
  cases a with
  | null => exact .null
  | undefined => exact .undefined
  | text s => exact .text s
  | bytes bs => exact .bytes bs
  | date d => exact .date d
  | symbol type name => exact .symbol type name
  | moment m => exact .moment (by cases h : m.offset <;> simp [Moment.same, h])
  | bool | int | namedInt => exact .number rfl rfl (numericEqual_self rfl rfl)
  | float x => exact .number rfl rfl (numericEqual_self hnan rfl)
  | complex re im =>
    obtain ⟨hre, him⟩ := Bool.or_eq_false_iff.1 hnan
    exact .number rfl rfl (numericEqual_self hre him)
  | _ => cases h

/-- Data equals itself if there is no NaN in it, keys included. -/
theorem same_self (h : DataOf (fun x => x.isNan = false) a) : Same a a := by
  induction h with
  | scalar h holds => exact same_scalar_self h holds
  | list _ ih => exact same_iff_step.2 (.list (List.forall₂_same.2 ih))
  | tuple _ ih => exact same_iff_step.2 (.tuple (List.forall₂_same.2 ih))
  | map apart _ _ ihkeys ihvalues =>
    refine (same_mappings_iff rfl rfl apart apart).2 ⟨⟨rfl, fun e he => ⟨e, he, ihkeys e he⟩⟩, ?_⟩
    intro e he f hf hkey
    rw [← apart.eq_of_same he hf hkey]
    exact ihvalues e he

/-! ### Strict equality -/

theorem shape_eq_of_strictEqual (h : a.strictEqual b = .ok true) : a.shape = b.shape := by
  obtain ⟨hsame, hkind⟩ := strictEqual_eq_true_iff.1 h
  cases same_iff_step.1 hsame with
  | mapping left right =>
    cases a with
    | map | frozenMap =>
      cases b with
      | map | frozenMap => rfl
      | _ => cases right
    | _ => cases left
  | number left right =>
    cases a with
    | bool | int | float | complex | namedInt =>
      cases b with
      | bool | int | float | complex | namedInt => simp_all [shape, kind, isReal]
      | _ => cases right
    | _ => cases left
  | _ => rfl

theorem strictEqual_symm (wa : WellKeyed a) (wb : WellKeyed b) (h : a.strictEqual b = .ok true) :
    b.strictEqual a = .ok true := by
  obtain ⟨hsame, hkind⟩ := strictEqual_eq_true_iff.1 h
  exact strictEqual_eq_true_iff.2 ⟨hsame.symm wa wb, hkind.imp And.symm Eq.symm⟩

theorem isReal_iff_shape : a.isReal = true ↔ a.shape = .number := by
  cases a <;> simp [isReal, shape]

theorem strictEqual_trans (wa : WellKeyed a) (wb : WellKeyed b) (wc : WellKeyed c)
    (hab : a.strictEqual b = .ok true) (hbc : b.strictEqual c = .ok true) :
    a.strictEqual c = .ok true := by
  obtain ⟨hsame, hkind⟩ := strictEqual_eq_true_iff.1 hab
  obtain ⟨hsame', hkind'⟩ := strictEqual_eq_true_iff.1 hbc
  have hshape : a.shape = c.shape := (shape_eq_of_strictEqual hab).trans (shape_eq_of_strictEqual hbc)
  refine strictEqual_eq_true_iff.2 ⟨hsame.trans wa wb wc hsame', ?_⟩
  rcases hkind with ⟨ha, -⟩ | hkind
  · exact .inl ⟨ha, isReal_iff_shape.2 (hshape ▸ isReal_iff_shape.1 ha)⟩
  rcases hkind' with ⟨-, hc⟩ | hkind'
  · exact .inl ⟨isReal_iff_shape.2 (hshape ▸ isReal_iff_shape.1 hc), hc⟩
  · exact .inr (hkind.trans hkind')

/-- Strict equality is a partial equivalence on data. All data without NaN equals itself, and what is
equal has one shape. -/
theorem strictEqual_partial_equivalence :
    (∀ a b, IsData a → IsData b → a.strictEqual b = .ok true → b.strictEqual a = .ok true) ∧
      (∀ a b c, IsData a → IsData b → IsData c → a.strictEqual b = .ok true →
        b.strictEqual c = .ok true → a.strictEqual c = .ok true) ∧
      (∀ a, DataOf (fun x => x.isNan = false) a → a.strictEqual a = .ok true) ∧
      ∀ a b, IsData a → IsData b → a.strictEqual b = .ok true → a.shape.text = b.shape.text := by
  refine ⟨fun a b ha hb => ?_, fun a b c ha hb hc => ?_, fun a ha => ?_, fun a b _ _ h => ?_⟩
  · exact strictEqual_symm ha.wellKeyed hb.wellKeyed
  · exact strictEqual_trans ha.wellKeyed hb.wellKeyed hc.wellKeyed
  · exact strictEqual_eq_true_iff.2 ⟨same_self ha, .inr rfl⟩
  · rw [shape_eq_of_strictEqual h]

/-- Maps whose keys and values are equal across types: one and 1.0 and true, and a constant of an
enumeration of whole numbers for two. -/
theorem strictEqual_partial_equivalence_keys :
    let a := Value.map [(.int 1, .list [.float (.finite 2)])]
    let b := Value.map [(.float (.finite 1), .list [.namedInt "Level" "HIGH" 2 1 [1, 2]])]
    let c := Value.map [(.bool true, .list [.int 2])]
    (IsData a ∧ IsData b ∧ IsData c) ∧ a.strictEqual b = .ok true ∧ b.strictEqual c = .ok true ∧
      b.strictEqual a = .ok true ∧ a.strictEqual c = .ok true ∧ a.strictEqual a = .ok true ∧
      a.shape.text = c.shape.text := by
  intro a b c
  obtain ⟨hsymm, htrans, hself, hshape⟩ := strictEqual_partial_equivalence
  have entry {P : Value → Prop} {k x : Value} (hk : k.isScalar = true) (key : IsKey k) (hPk : P k)
      (hx : x.isScalar = true) (hPx : P x) : DataOf P (.map [(k, .list [x])]) :=
    .map ⟨by simpa using key, by simp⟩ (by simpa using .scalar hk hPk)
      (by simpa using .list (by simpa using .scalar hx hPx))
  have ha : IsData a := entry rfl rfl trivial rfl trivial
  have hb : IsData b := entry rfl rfl trivial rfl trivial
  have hc : IsData c := entry rfl rfl trivial rfl trivial
  have hab : a.strictEqual b = .ok true := by decide +kernel
  have hbc : b.strictEqual c = .ok true := by decide +kernel
  have hac := htrans a b c ha hb hc hab hbc
  exact ⟨⟨ha, hb, hc⟩, hab, hbc, hsymm a b ha hb hab, hac, hself a (entry rfl rfl rfl rfl rfl),
    hshape a c ha hc hac⟩

end Conform.Value
