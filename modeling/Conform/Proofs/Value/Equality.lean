import Conform.Value.Access
import Mathlib.Data.List.Forall2
import Mathlib.Data.List.Pairwise

/-! Equality of values, one step at a time: how two values are equal if what they hold is
(`same_iff_step`). On values that can be keys it is symmetric and transitive. -/

namespace Conform.Value

def Same (a b : Value) : Prop := equal a b = .ok true

theorem sameKey_iff {a b : Value} : sameKey a b = true ↔ Same a b := by
  unfold sameKey Same
  cases equal a b <;> simp [holds]

/-- One step of a comparison: the ways in which two values are equal if what is held against each other
in them is related. -/
inductive Step (R : Value → Value → Prop) : Value → Value → Prop
  | null : Step R .null .null
  | undefined : Step R .undefined .undefined
  | text (s : String) : Step R (.text s) (.text s)
  | bytes (bs : List UInt8) : Step R (.bytes bs) (.bytes bs)
  | list {as bs : List Value} (items : List.Forall₂ R as bs) : Step R (.list as) (.list bs)
  | tuple {as bs : List Value} (items : List.Forall₂ R as bs) : Step R (.tuple as) (.tuple bs)
  | mapping {a b : Value} {es fs : List (Value × Value)} (left : a.entries? = some es)
      (right : b.entries? = some fs) (length : es.length = fs.length)
      (found : ∀ e ∈ es, ∃ f, (fs.find? fun f => sameKey e.1 f.1) = some f ∧ R e.2 f.2) : Step R a b
  | record {fs gs : List (String × Value)} (length : fs.length = gs.length)
      (found : ∀ f ∈ fs, ∃ g, (gs.find? fun g => f.1 == g.1) = some g ∧ R f.2 g.2) :
      Step R (.record fs) (.record gs)
  | moment {m n : Moment} (h : m.same n = true) : Step R (.moment m) (.moment n)
  | date (d : Date) : Step R (.date d) (.date d)
  | symbol (type name : String) {payload payload' : Value} {place place' : Nat}
      {payloads payloads' : List Value} :
      Step R (.symbol type name payload place payloads) (.symbol type name payload' place' payloads')
  | enumeration (name : String) {numbers numbers' : Bool} {payloads payloads' : List Value} :
      Step R (.enumeration name numbers payloads) (.enumeration name numbers' payloads')
  | number {a b : Value} {x y : Binary64 × Binary64} (left : a.numeric? = some x)
      (right : b.numeric? = some y) (h : numericEqual x y = true) : Step R a b

theorem andThen_eq_true_iff {r s : Except Fault Bool} :
    andThen r s = .ok true ↔ r = .ok true ∧ s = .ok true := by
  rcases r with fault | b
  · simp [andThen]
  · cases b <;> simp [andThen]

theorem equalAll_eq_true_iff {as bs : List Value} :
    equalAll as bs = .ok true ↔ List.Forall₂ Same as bs := by
  induction as generalizing bs with
  | nil => cases bs <;> simp [equalAll]
  | cons a as ih =>
    cases bs with
    | nil => simp [equalAll]
    | cons b bs => rw [equalAll, andThen_eq_true_iff, ih, List.forall₂_cons, Same]

theorem includedIn_eq_true_iff {es fs : List (Value × Value)} :
    includedIn es fs = .ok true ↔
      ∀ e ∈ es, ∃ f, (fs.find? fun f => sameKey e.1 f.1) = some f ∧ Same e.2 f.2 := by
  induction es with
  | nil => simp [includedIn]
  | cons e es ih =>
    obtain ⟨k, v⟩ := e
    rw [includedIn, List.forall_mem_cons, ← ih]
    simp only [sameKey]
    cases fs.find? fun f => holds (equal k f.1) with
    | none => simp
    | some f => simp [andThen_eq_true_iff, Same]

theorem fieldsIn_eq_true_iff {fs gs : List (String × Value)} :
    fieldsIn fs gs = .ok true ↔
      ∀ f ∈ fs, ∃ g, (gs.find? fun g => f.1 == g.1) = some g ∧ Same f.2 g.2 := by
  induction fs with
  | nil => simp [fieldsIn]
  | cons f fs ih =>
    obtain ⟨k, v⟩ := f
    rw [fieldsIn, List.forall_mem_cons, ← ih]
    cases hg : gs.find? fun g => k == g.1 with
    | none => simp
    | some g => simp [andThen_eq_true_iff, Same]

theorem equal_mappings {a b : Value} {es fs : List (Value × Value)} (ha : a.entries? = some es)
    (hb : b.entries? = some fs) :
    equal a b = if es.length = fs.length then includedIn es fs else .ok false := by
  cases a with
  | map es' | frozenMap es' =>
    obtain rfl := Option.some.inj ha
    cases b with
    | map fs' | frozenMap fs' =>
      obtain rfl := Option.some.inj hb
      simp [equal, entries?]
    | _ => cases hb
  | _ => cases ha

theorem equal_numbers {a b : Value} {x y : Binary64 × Binary64} (ha : a.numeric? = some x)
    (hb : b.numeric? = some y) : equal a b = .ok (numericEqual x y) := by
  cases a with
  | bool | int | float | complex | namedInt =>
    cases b with
    | bool | int | float | complex | namedInt => simp [equal, ha, hb]
    | _ => cases hb
  | _ => cases ha

theorem same_iff_step {a b : Value} : Same a b ↔ Step Same a b := by
  constructor
  · intro h
    unfold Same equal at h
    split at h
    · exact .null
    · exact .undefined
    · obtain rfl := eq_of_beq (Except.ok.inj h)
      exact .text _
    · obtain rfl := eq_of_beq (Except.ok.inj h)
      exact .bytes _
    · split at h
      · exact .list (equalAll_eq_true_iff.1 h)
      · cases h
    · exact .tuple (equalAll_eq_true_iff.1 h)
    · unfold equal.failIf at h
      split at h <;> cases h
    · unfold equal.failIf at h
      split at h <;> cases h
    · split at h
      · next fs hfs =>
        split at h
        · next length => exact .mapping rfl hfs length (includedIn_eq_true_iff.1 h)
        · cases h
      · cases h
    · split at h
      · next fs hfs =>
        split at h
        · next length => exact .mapping rfl hfs length (includedIn_eq_true_iff.1 h)
        · cases h
      · cases h
    · split at h
      · next length => exact .record length (fieldsIn_eq_true_iff.1 h)
      · cases h
    · exact .moment (Except.ok.inj h)
    · obtain rfl := eq_of_beq (Except.ok.inj h)
      exact .date _
    · obtain ⟨rfl, rfl⟩ : _ = _ ∧ _ = _ := by simpa using Except.ok.inj h
      exact .symbol ..
    · obtain rfl := eq_of_beq (Except.ok.inj h)
      exact .enumeration _
    · split at h
      · next x y hx hy => exact .number hx hy (Except.ok.inj h)
      · cases h
  · intro h
    unfold Same
    cases h with
    | null | undefined | text | bytes | date | symbol | enumeration => simp [equal]
    | list items =>
      rw [equal, if_pos items.length_eq]
      exact equalAll_eq_true_iff.2 items
    | tuple items =>
      rw [equal]
      exact equalAll_eq_true_iff.2 items
    | record length found =>
      rw [equal, if_pos length]
      exact fieldsIn_eq_true_iff.2 found
    | moment h => rw [equal, h]
    | mapping left right length found =>
      rw [equal_mappings left right, if_pos length]
      exact includedIn_eq_true_iff.2 found
    | number left right h => rw [equal_numbers left right, h]

theorem forall₂_iff_getElem? {R : Value → Value → Prop} {as bs : List Value} :
    List.Forall₂ R as bs ↔ as.length = bs.length ∧
      ∀ (i : Nat) (x y : Value), as[i]? = some x → bs[i]? = some y → R x y := by
  rw [List.forall₂_iff_get]
  simp only [List.getElem?_eq_some_iff, List.get_eq_getElem]
  refine and_congr_right fun _ => ⟨?_, fun h i hi hj => h i _ _ ⟨hi, rfl⟩ ⟨hj, rfl⟩⟩
  rintro h i x y ⟨hi, rfl⟩ ⟨hj, rfl⟩
  exact h i hi hj

theorem same_lists_iff {as bs : List Value} : Same (.list as) (.list bs) ↔
    as.length = bs.length ∧
      ∀ (i : Nat) (x y : Value), as[i]? = some x → bs[i]? = some y → Same x y := by
  rw [same_iff_step, ← forall₂_iff_getElem?]
  constructor
  · intro h
    cases h with
    | list items => exact items
    | mapping left | number left => cases left
  · exact .list

theorem same_tuples_iff {as bs : List Value} : Same (.tuple as) (.tuple bs) ↔
    as.length = bs.length ∧
      ∀ (i : Nat) (x y : Value), as[i]? = some x → bs[i]? = some y → Same x y := by
  rw [same_iff_step, ← forall₂_iff_getElem?]
  constructor
  · intro h
    cases h with
    | tuple items => exact items
    | mapping left | number left => cases left
  · exact .tuple

/-! ### What is held inside -/

def inside : Value → List Value
  | list xs | tuple xs => xs
  | map es | frozenMap es => es.map Prod.snd
  | record fs => fs.map Prod.snd
  | _ => []

theorem sizeOf_snd_lt {α : Type} [SizeOf α] {e : α × Value} {es : List (α × Value)} (h : e ∈ es) :
    sizeOf e.2 < sizeOf es := by
  have hlt := List.sizeOf_lt_of_mem h
  obtain ⟨a, v⟩ := e
  rw [Prod.mk.sizeOf_spec] at hlt
  show sizeOf v < sizeOf es
  omega

theorem sizeOf_lt_of_mem_inside {a x : Value} (h : x ∈ a.inside) : sizeOf x < sizeOf a := by
  cases a with
  | list xs | tuple xs =>
    have hlt : sizeOf x < sizeOf xs := List.sizeOf_lt_of_mem h
    simp only [list.sizeOf_spec, tuple.sizeOf_spec]
    omega
  | map es | frozenMap es | record es =>
    obtain ⟨e, he, rfl⟩ := List.mem_map.1 h
    have hlt := sizeOf_snd_lt he
    simp only [map.sizeOf_spec, frozenMap.sizeOf_spec, record.sizeOf_spec]
    omega
  | _ => cases h

theorem inside_induction {P : Value → Prop} (h : ∀ a, (∀ x ∈ a.inside, P x) → P a) (a : Value) : P a :=
  h a fun x hx =>
    have := sizeOf_lt_of_mem_inside hx
    inside_induction h x
termination_by sizeOf a

/-! ### Keys -/

def IsKey (a : Value) : Prop := a.unhashable? = none

theorem IsKey.of_mem_tuple {xs : List Value} {x : Value} (h : IsKey (.tuple xs)) (hx : x ∈ xs) :
    IsKey x := by
  have all : ∀ ys, unhashableIn? ys = none → ∀ y ∈ ys, IsKey y := by
    intro ys
    induction ys with
    | nil => simp
    | cons y ys ih =>
      intro h
      rw [unhashableIn?] at h
      cases hy : y.unhashable? with
      | none =>
        rw [hy] at h
        exact List.forall_mem_cons.2 ⟨hy, ih h⟩
      | some t =>
        rw [hy] at h
        cases h
  exact all xs (by rwa [IsKey, unhashable?] at h) x hx

theorem IsKey.entries?_eq_none {a : Value} (h : IsKey a) : a.entries? = none := by
  cases a with
  | map es | frozenMap es => simp [IsKey, unhashable?] at h
  | _ => rfl

/-- The place of a number among all numbers, the infinite ones included: the same for both zeros, and
none for what is no number. -/
def rank? : Binary64 → Option (Bool ⊕ Dyadic)
  | .infinite negative => some (.inl negative)
  | x => x.value?.map .inr

theorem binary64_equal_iff {x y : Binary64} :
    x.equal y = true ↔ rank? x ≠ none ∧ rank? x = rank? y := by
  cases x <;> cases y <;> simp [Binary64.equal, Binary64.value?, rank?]

theorem numericEqual_iff {x y : Binary64 × Binary64} :
    numericEqual x y = true ↔ (rank? x.1 ≠ none ∧ rank? x.2 ≠ none) ∧
      rank? x.1 = rank? y.1 ∧ rank? x.2 = rank? y.2 := by
  rw [numericEqual, Bool.and_eq_true, binary64_equal_iff, binary64_equal_iff, and_and_and_comm]

theorem numericEqual_symm {x y : Binary64 × Binary64} (h : numericEqual x y = true) :
    numericEqual y x = true := by
  rw [numericEqual_iff] at h ⊢
  obtain ⟨hnumber, hre, him⟩ := h
  rw [← hre, ← him]
  exact ⟨hnumber, rfl, rfl⟩

theorem numericEqual_trans {x y z : Binary64 × Binary64} (hxy : numericEqual x y = true)
    (hyz : numericEqual y z = true) : numericEqual x z = true := by
  rw [numericEqual_iff] at hxy hyz ⊢
  exact ⟨hxy.1, hxy.2.1.trans hyz.2.1, hxy.2.2.trans hyz.2.2⟩

theorem moment_same_comm (m n : Moment) : m.same n = n.same m := by
  unfold Moment.same
  cases m.offset <;> cases n.offset <;> simp [BEq.comm]

theorem moment_same_trans {l m n : Moment} (hlm : l.same m = true) (hmn : m.same n = true) :
    l.same n = true := by
  unfold Moment.same at *
  cases hl : l.offset <;> cases hm : m.offset <;> cases hn : n.offset <;> simp_all

theorem forall₂_comp {R S T : Value → Value → Prop} {as bs cs : List Value}
    (h : ∀ a ∈ as, ∀ b c, R a b → S b c → T a c) (hab : List.Forall₂ R as bs)
    (hbc : List.Forall₂ S bs cs) : List.Forall₂ T as cs := by
  induction hab generalizing cs with
  | nil =>
    cases hbc
    exact .nil
  | cons hab _ ih =>
    cases hbc with
    | cons hbc hrest =>
      obtain ⟨ha, h⟩ := List.forall_mem_cons.1 h
      exact .cons (ha _ _ hab hbc) (ih h hrest)

theorem entries?_eq_none_of_numeric {a : Value} {x : Binary64 × Binary64} (h : a.numeric? = some x) :
    a.entries? = none := by
  cases a with
  | map es | frozenMap es => cases h
  | _ => rfl

theorem IsKey.symm {a b : Value} (ha : IsKey a) (h : Same a b) : Same b a := by
  induction a using inside_induction generalizing b with
  | h a ih =>
    rw [same_iff_step]
    cases same_iff_step.1 h with
    | null => exact .null
    | undefined => exact .undefined
    | text s => exact .text s
    | bytes bs => exact .bytes bs
    | list items | record length found => simp [IsKey, unhashable?] at ha
    | @tuple as bs items =>
      have hsymm : ∀ x ∈ as, ∀ y, Same x y → Same y x := fun x hx y =>
        ih x hx (ha.of_mem_tuple hx)
      have hboth := (List.forall₂_and_left as bs).2 ⟨hsymm, items⟩
      exact .tuple (List.Forall₂.flip (hboth.imp fun x y hxy => hxy.1 y hxy.2))
    | mapping left => simp [ha.entries?_eq_none] at left
    | moment h => exact .moment (by rwa [moment_same_comm])
    | date d => exact .date d
    | symbol type name => exact .symbol type name
    | enumeration name => exact .enumeration name
    | number left right h => exact .number right left (numericEqual_symm h)

theorem IsKey.trans {a b c : Value} (ha : IsKey a) (hab : Same a b) (hbc : Same b c) : Same a c := by
  induction a using inside_induction generalizing b c with
  | h a ih =>
    rw [same_iff_step] at hab hbc ⊢
    cases hab with
    | null | undefined | text | bytes | date => exact hbc
    | list items | record length found => simp [IsKey, unhashable?] at ha
    | mapping left => simp [ha.entries?_eq_none] at left
    | @tuple as bs items =>
      cases hbc with
      | tuple items' =>
        refine .tuple (forall₂_comp (fun x hx y z => ?_) items items')
        exact ih x hx (ha.of_mem_tuple hx)
      | mapping left | number left => cases left
    | moment h =>
      cases hbc with
      | moment h' => exact .moment (moment_same_trans h h')
      | mapping left | number left => cases left
    | symbol type name =>
      cases hbc with
      | symbol => exact .symbol type name
      | mapping left | number left => cases left
    | enumeration name =>
      cases hbc with
      | enumeration => exact .enumeration name
      | mapping left | number left => cases left
    | number left right h =>
      cases hbc with
      | number left' right' h' =>
        obtain rfl := Option.some.inj (right.symm.trans left')
        exact .number left right' (numericEqual_trans h h')
      | mapping left' => simp [entries?_eq_none_of_numeric right] at left'
      | _ => cases right

/-! ### Mappings and records with each key once -/

structure KeysApart (es : List (Value × Value)) : Prop where
  keys : ∀ e ∈ es, IsKey e.1
  apart : es.Pairwise fun e f => ¬ Same e.1 f.1

/-- No key stands twice in a value, and no name. -/
def Apart : Value → Prop
  | map es | frozenMap es => KeysApart es
  | record fs => (Assoc.keys fs).Nodup
  | _ => True

inductive WellKeyed : Value → Prop
  | intro {a : Value} (here : a.Apart) (inside : ∀ x ∈ a.inside, WellKeyed x) : WellKeyed a

theorem Apart.keysApart {a : Value} {es : List (Value × Value)} (h : a.Apart)
    (ha : a.entries? = some es) : KeysApart es := by
  cases a with
  | map es' | frozenMap es' =>
    obtain rfl := Option.some.inj ha
    exact h
  | _ => cases ha

theorem mem_inside_of_entry {a : Value} {es : List (Value × Value)} {e : Value × Value}
    (ha : a.entries? = some es) (he : e ∈ es) : e.2 ∈ a.inside := by
  cases a with
  | map es' | frozenMap es' =>
    obtain rfl := Option.some.inj ha
    exact List.mem_map_of_mem he
  | _ => cases ha

theorem KeysApart.eq_of_same {es : List (Value × Value)} {e f : Value × Value} (h : KeysApart es)
    (he : e ∈ es) (hf : f ∈ es) (hkey : Same e.1 f.1) : e = f := by
  have hsymm : Std.Symm fun e f : Value × Value => IsKey e.1 → IsKey f.1 → ¬ Same e.1 f.1 :=
    ⟨fun e f h hf he hfe => h he hf (hf.symm hfe)⟩
  have hpairs : es.Pairwise fun e f => IsKey e.1 → IsKey f.1 → ¬ Same e.1 f.1 :=
    h.apart.imp fun hne _ _ => hne
  by_contra hne
  exact hpairs.forall he hf hne (h.keys e he) (h.keys f hf) hkey

theorem same_of_find? {fs : List (Value × Value)} {k : Value} {f : Value × Value}
    (h : (fs.find? fun f => sameKey k f.1) = some f) : Same k f.1 := by
  have hkey := List.find?_some h
  exact sameKey_iff.1 hkey

/-- A look-up finds the one entry that there is under a key. -/
theorem KeysApart.find?_eq_some_iff {fs : List (Value × Value)} {k : Value} {f : Value × Value}
    (h : KeysApart fs) (hk : IsKey k) :
    (fs.find? fun f => sameKey k f.1) = some f ↔ f ∈ fs ∧ Same k f.1 := by
  constructor
  · intro hfind
    exact ⟨List.mem_of_find?_eq_some hfind, same_of_find? hfind⟩
  · rintro ⟨hf, hkey⟩
    cases hfind : fs.find? fun f => sameKey k f.1 with
    | none => exact absurd (sameKey_iff.2 hkey) (List.find?_eq_none.1 hfind f hf)
    | some g =>
      have hg := List.mem_of_find?_eq_some hfind
      have hgf : Same g.1 f.1 := (h.keys g hg).trans (hk.symm (same_of_find? hfind)) hkey
      rw [h.eq_of_same hg hf hgf]

/-- If each of some elements has a partner, no two the same, and there are no more partners than
elements, then each partner is taken. -/
theorem exists_partner {α β : Type} {P : α → β → Prop} {es : List α} {fs : List β}
    (apart : es.Pairwise fun e e' => ∀ f, P e f → ¬ P e' f) (partners : ∀ e ∈ es, ∃ f ∈ fs, P e f)
    (length : fs.length ≤ es.length) : ∀ f ∈ fs, ∃ e ∈ es, P e f := by
  induction es generalizing fs with
  | nil =>
    obtain rfl := List.length_eq_zero_iff.1 (Nat.le_zero.1 length)
    simp
  | cons e es ih =>
    obtain ⟨hfirst, apart⟩ := List.pairwise_cons.1 apart
    obtain ⟨⟨f, hf, hef⟩, partners⟩ := List.forall_mem_cons.1 partners
    obtain ⟨before, after, rfl⟩ := List.append_of_mem hf
    have hothers : ∀ e' ∈ es, ∃ g ∈ before ++ after, P e' g := by
      intro e' he'
      obtain ⟨g, hg, heg⟩ := partners e' he'
      have hne : g ≠ f := fun h => hfirst e' he' f hef (h ▸ heg)
      refine ⟨g, ?_, heg⟩
      simpa [hne] using hg
    have hrest := ih apart hothers (by simp at length ⊢; omega)
    intro g hg
    by_cases hgf : g = f
    · exact ⟨e, List.mem_cons_self, hgf ▸ hef⟩
    · obtain ⟨e', he', heg⟩ := hrest g (by simpa [hgf] using hg)
      exact ⟨e', List.mem_cons_of_mem e he', heg⟩

/-- Mappings are equal if they have equal keys, and equal values under equal keys. -/
theorem same_mappings_iff {a b : Value} {es fs : List (Value × Value)} (ha : a.entries? = some es)
    (hb : b.entries? = some fs) (hes : KeysApart es) (hfs : KeysApart fs) :
    Same a b ↔ (es.length = fs.length ∧ ∀ e ∈ es, ∃ f ∈ fs, Same e.1 f.1) ∧
      ∀ e ∈ es, ∀ f ∈ fs, Same e.1 f.1 → Same e.2 f.2 := by
  have hfind : ∀ e ∈ es, ((∃ f, (fs.find? fun f => sameKey e.1 f.1) = some f ∧ Same e.2 f.2) ↔
      ∃ f ∈ fs, Same e.1 f.1 ∧ Same e.2 f.2) := by
    intro e he
    simp only [hfs.find?_eq_some_iff (hes.keys e he), and_assoc]
  rw [Same, equal_mappings ha hb]
  constructor
  · intro h
    split at h
    · next length =>
      have hfound := includedIn_eq_true_iff.1 h
      refine ⟨⟨length, fun e he => ?_⟩, fun e he f hf hkey => ?_⟩
      · obtain ⟨f, hf, hkey, -⟩ := (hfind e he).1 (hfound e he)
        exact ⟨f, hf, hkey⟩
      · obtain ⟨g, hg, hkey', hvalue⟩ := (hfind e he).1 (hfound e he)
        have hgf := (hfs.keys g hg).trans ((hes.keys e he).symm hkey') hkey
        rwa [← hfs.eq_of_same hg hf hgf]
    · cases h
  · rintro ⟨⟨length, partners⟩, values⟩
    rw [if_pos length, includedIn_eq_true_iff]
    intro e he
    obtain ⟨f, hf, hkey⟩ := partners e he
    exact (hfind e he).2 ⟨f, hf, hkey, values e he f hf hkey⟩

/-- If the keys of one are among those of the other and there are as many, then it is the other way
round, too. -/
theorem KeysApart.exists_entry {es fs : List (Value × Value)} (hes : KeysApart es)
    (length : es.length = fs.length) (partners : ∀ e ∈ es, ∃ f ∈ fs, Same e.1 f.1) :
    ∀ f ∈ fs, ∃ e ∈ es, Same e.1 f.1 := by
  refine exists_partner ?_ partners (Nat.le_of_eq length.symm)
  refine hes.apart.imp_of_mem fun {e e'} he he' hne f hf hf' => hne ?_
  exact (hes.keys e he).trans hf ((hes.keys e' he').symm hf')

theorem same_of_fields {fs gs : List (String × Value)} {name : String} {x y : Value}
    (h : Same (.record fs) (.record gs)) (hgs : (Assoc.keys gs).Nodup) (hx : (name, x) ∈ fs)
    (hy : (name, y) ∈ gs) : Same x y := by
  cases same_iff_step.1 h with
  | mapping left | number left => cases left
  | record length found =>
    obtain ⟨⟨name', y'⟩, hfind, hsame⟩ := found _ hx
    have hname := List.find?_some hfind
    obtain rfl : name = name' := eq_of_beq hname
    have hy' := Assoc.get?_eq_some_of_mem hgs (List.mem_of_find?_eq_some hfind)
    rw [Assoc.get?_eq_some_of_mem hgs hy] at hy'
    obtain rfl := Option.some.inj hy'
    exact hsame

end Conform.Value
