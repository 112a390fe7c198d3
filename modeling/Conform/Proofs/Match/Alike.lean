import Conform.Proofs.Match.Stop
import Conform.Proofs.Value.Entries
import Mathlib.Data.List.Forall2
import Mathlib.Logic.Relation

/-! What a walk looks at. Values that look alike to a definition come to the same problems. What else
is in them, and in what order and what kind of container, is overlooked at every depth. -/

namespace Conform

namespace Schema

open Match

inductive SameField (P : Value → Value → Prop) :
    Except Fault (Option Value) → Except Fault (Option Value) → Prop
  | fault (e : Fault) : SameField P (.error e) (.error e)
  | found {x y : Option Value} (h : Option.Rel P x y) : SameField P (.ok x) (.ok y)

mutual

def Alike (m : Matcher) : TypeExpr → Value → Value → Prop
  | .named name, v, w =>
    (m.checkNamed name v).result = (m.checkNamed name w).result ∧
      ((m.checkNamed name v).result = .ok false → v.shape = w.shape)
  | .array item, v, w =>
    match v.items?, w.items? with
    | some xs, some ys => List.Forall₂ (Alike m item) xs ys
    | none, none => v.shape = w.shape
    | _, _ => False
  | .object ps, v, w =>
    v.isMapping = w.isMapping ∧ if v.isMapping then AlikeIn m ps v w else v.shape = w.shape

def AlikeIn (m : Matcher) : List (String × Spec TypeExpr) → Value → Value → Prop
  | [], _, _ => True
  | (name, ⟨type, _⟩) :: rest, v, w =>
    SameField (Alike m type) (Matcher.property v name) (Matcher.property w name) ∧
      AlikeIn m rest v w

end

variable {m : Matcher} {v w : Value}

theorem alikeIn_iff {ps : Definition} :
    AlikeIn m ps v w ↔ ∀ e ∈ ps,
      SameField (Alike m e.2.type) (Matcher.property v e.1) (Matcher.property w e.1) := by
  induction ps with
  | nil => simp [AlikeIn]
  | cons e ps ih =>
    obtain ⟨name, type, optional⟩ := e
    simp [AlikeIn, ih]

theorem rel_refl {P : Value → Value → Prop} (h : ∀ x, P x x) (x : Option Value) :
    Option.Rel P x x := by
  cases x with
  | none => exact .none
  | some x => exact .some (h x)

theorem SameField.refl {P : Value → Value → Prop} (h : ∀ x, P x x)
    (r : Except Fault (Option Value)) : SameField P r r := by
  cases r with
  | error e => exact .fault e
  | ok x => exact .found (rel_refl h x)

theorem Alike.refl (m : Matcher) (τ : TypeExpr) (v : Value) : Alike m τ v v := by
  induction τ using TypeExpr.induction generalizing v with
  | named name => simp [Alike]
  | array item ih =>
    rw [Alike]
    split
    · next xs ys hxs hys =>
      obtain rfl := Option.some.inj (hxs.symm.trans hys)
      exact List.forall₂_same.2 fun x _ => ih x
    · rfl
    · next hsome hnone =>
      cases hv : v.items? with
      | none => exact hnone hv hv
      | some xs => exact hsome xs xs hv hv
  | object ps ih =>
    rw [Alike]
    refine ⟨rfl, ?_⟩
    split
    · exact alikeIn_iff.2 fun e he => .refl (ih e he) _
    · rfl

theorem append_result_congr {x x' y y' : Matcher.Walk} (hx : x.result = x'.result)
    (hy : y.result = y'.result) :
    (do let here ← x; let others ← y; pure (here ++ others)).result =
      (do let here ← x'; let others ← y'; pure (here ++ others)).result := by
  simp only [Journal.bind_result, hx, hy]

theorem items_alike {walk : Path → Value → Matcher.Walk} {P : Value → Value → Prop}
    (h : ∀ path x y, P x y → (walk path x).result = (walk path y).result) {xs ys : List Value}
    (hxs : List.Forall₂ P xs ys) (path : Path) (i : Nat) :
    (Matcher.items walk path i xs).result = (Matcher.items walk path i ys).result := by
  induction hxs generalizing i with
  | nil => rfl
  | cons hxy _ ih => exact append_result_congr (h _ _ _ hxy) (ih (i + 1))

theorem property_alike {e : String × Spec TypeExpr} {ps : Definition} {path : Path}
    (here : ∀ path x y, Alike m e.2.type x y →
      (m.walkType e.2.type path x).result = (m.walkType e.2.type path y).result)
    (rest : (m.walkProperties ps path v).result = (m.walkProperties ps path w).result)
    (h : SameField (Alike m e.2.type) (Matcher.property v e.1) (Matcher.property w e.1)) :
    (m.walkProperties (e :: ps) path v).result = (m.walkProperties (e :: ps) path w).result := by
  generalize hv : Matcher.property v e.1 = x at h
  generalize hw : Matcher.property w e.1 = y at h
  cases h with
  | fault fault =>
    obtain ⟨name, type, optional⟩ := e
    rw [Matcher.walkProperties, Matcher.walkProperties, hv, hw]
    rfl
  | @found x y hxy =>
    have hwalk : (propertyWalk m path e x).result = (propertyWalk m path e y).result := by
      cases hxy with
      | none => rfl
      | some hxy => exact here _ _ _ hxy
    rw [walkProperties_cons hv, walkProperties_cons hw]
    exact append_result_congr hwalk rest

theorem properties_alike {ps : Definition}
    (h : ∀ e ∈ ps, ∀ path x y, Alike m e.2.type x y →
      (m.walkType e.2.type path x).result = (m.walkType e.2.type path y).result)
    (hps : AlikeIn m ps v w) (path : Path) :
    (m.walkProperties ps path v).result = (m.walkProperties ps path w).result := by
  induction ps with
  | nil => rw [Matcher.walkProperties, Matcher.walkProperties]
  | cons e ps ih =>
    have hrest := ih (fun f hf => h f (List.mem_cons_of_mem _ hf)) hps.2
    exact property_alike (h e List.mem_cons_self) hrest hps.1

theorem walkType_alike {τ : TypeExpr} (h : Alike m τ v w) (path : Path) :
    (m.walkType τ path v).result = (m.walkType τ path w).result := by
  induction τ using TypeExpr.induction generalizing path v w with
  | named name =>
    obtain ⟨hcheck, hshape⟩ := h
    rw [Matcher.walkType, Matcher.walkType, Journal.bind_result, Journal.bind_result, ← hcheck]
    rcases hresult : (m.checkNamed name v).result with e | b
    · rfl
    · cases b with
      | true => rfl
      | false => simp [Except.bind, hshape hresult]
  | array item ih =>
    rw [Alike] at h
    rw [Matcher.walkType, Matcher.walkType]
    split at h
    · next xs ys hv hw =>
      rw [hv, hw]
      exact items_alike (P := Alike m item) (fun path x y hxy => ih hxy path) h path 0
    · next hv hw => rw [hv, hw, h]
    · cases h
  | object ps ih =>
    obtain ⟨hmapping, h⟩ := h
    rw [Matcher.walkType, Matcher.walkType, ← hmapping]
    split at h
    · next hv =>
      rw [if_pos hv, if_pos hv]
      exact properties_alike (fun e he path x y hxy => ih e he hxy path) h path
    · next hv => rw [if_neg hv, if_neg hv, h]

/-- No plugin is asked about the value as a whole. -/
def Unplugged (m : Matcher) (τ : TypeExpr) : Prop :=
  ∀ name, τ = .named name → name ∈ builtinNames ∨ m.registry.bind (·.get? name) = none

inductive SameContainer : Value → Value → Prop
  | sequence {v w : Value} {xs ys : List Value} (hv : v.items? = some xs) (hw : w.items? = some ys) :
      SameContainer v w
  | mapping {v w : Value} {es fs : List (Value × Value)} (hv : v.entries? = some es)
      (hw : w.entries? = some fs) : SameContainer v w

theorem SameContainer.shape_eq (h : SameContainer v w) : v.shape = w.shape := by
  cases h with
  | sequence hv hw => cases v <;> cases hv <;> cases w <;> cases hw <;> rfl
  | mapping hv hw => cases v <;> cases hv <;> cases w <;> cases hw <;> rfl

theorem SameContainer.isTimestamp_eq (h : SameContainer v w) : v.isTimestamp = w.isTimestamp := by
  cases h with
  | sequence hv hw => cases v <;> cases hv <;> cases w <;> cases hw <;> rfl
  | mapping hv hw => cases v <;> cases hv <;> cases w <;> cases hw <;> rfl

theorem SameContainer.builtin_eq {name : String} {ok : Value → Bool}
    (hok : Matcher.builtinCheck? name = some ok) (h : SameContainer v w) : ok v = ok w := by
  unfold Matcher.builtinCheck? at hok
  cases h with
  | sequence hv hw =>
    cases v <;> cases hv <;> cases w <;> cases hw <;> split at hok <;> cases hok <;> rfl
  | mapping hv hw =>
    cases v <;> cases hv <;> cases w <;> cases hw <;> split at hok <;> cases hok <;> rfl

theorem SameContainer.checkNamed_eq {name : String} (h : SameContainer v w)
    (hname : Unplugged m (.named name)) : m.checkNamed name v = m.checkNamed name w := by
  unfold Matcher.checkNamed
  rw [h.isTimestamp_eq]
  split
  · rfl
  cases hok : Matcher.builtinCheck? name with
  | some ok => simp only [h.builtin_eq hok]
  | none =>
    rcases hname name rfl with hbuiltin | hplugin
    · obtain ⟨ok, hsome⟩ := Matcher.builtinCheck?_isSome (List.contains_iff_mem.2 hbuiltin)
      rw [hok] at hsome
      cases hsome
    · rw [hplugin]

theorem SameContainer.alike_named {name : String} (h : SameContainer v w)
    (hname : Unplugged m (.named name)) : Alike m (.named name) v w :=
  ⟨congrArg Journal.result (h.checkNamed_eq hname), fun _ => h.shape_eq⟩

/-- One change to a value, at the value itself or anywhere inside, that a type overlooks. -/
inductive Overlooks (m : Matcher) : TypeExpr → Value → Value → Prop
  /-- Whatever is below an accepted leaf. -/
  | accepted {name : String} {v w : Value} (hv : (m.checkNamed name v).result = .ok true)
      (hw : (m.checkNamed name w).result = .ok true) : Overlooks m (.named name) v w
  /-- Lists and tuples. -/
  | sequence {τ : TypeExpr} {v w : Value} {xs : List Value} (hτ : Unplugged m τ)
      (hv : v.items? = some xs) (hw : w.items? = some xs) : Overlooks m τ v w
  /-- The order of keys, and the kind of mapping. -/
  | reordered {τ : TypeExpr} {v w : Value} {es fs : List (Value × Value)} (hτ : Unplugged m τ)
      (hv : v.entries? = some es) (hw : w.entries? = some fs) (once : Value.TextsOnce es)
      (hperm : es.Perm fs) : Overlooks m τ v w
  | undeclared {τ : TypeExpr} {v w : Value} {es fs : List (Value × Value)} {k x : Value}
      (hτ : Unplugged m τ) (hk : ∀ ps, τ = .object ps → ∀ e ∈ ps, k ≠ .text e.1)
      (hv : v.entries? = some (es ++ fs)) (hw : w.entries? = some (es ++ (k, x) :: fs)) :
      Overlooks m τ v w
  | item {item : TypeExpr} {v w : Value} {xs ys : List Value} {x y : Value}
      (hv : v.items? = some (xs ++ x :: ys)) (hw : w.items? = some (xs ++ y :: ys))
      (h : Overlooks m item x y) : Overlooks m (.array item) v w
  | field {ps : Definition} {v w : Value} {es fs : List (Value × Value)} {k x y : Value}
      (hv : v.entries? = some (es ++ (k, x) :: fs)) (hw : w.entries? = some (es ++ (k, y) :: fs))
      (h : ∀ e ∈ ps, k = .text e.1 → Overlooks m e.2.type x y) : Overlooks m (.object ps) v w

theorem isMapping_of_entries {es : List (Value × Value)} (h : v.entries? = some es) :
    v.isMapping = true := by
  cases v <;> cases h <;> rfl

theorem isMapping_of_items {xs : List Value} (h : v.items? = some xs) : v.isMapping = false := by
  cases v <;> cases h <;> rfl

theorem items?_of_entries {es : List (Value × Value)} (h : v.entries? = some es) :
    v.items? = none := by
  cases v <;> cases h <;> rfl

theorem field?_of_entries {es : List (Value × Value)} (h : v.entries? = some es) (name : String) :
    v.field? name = Value.lookup (.text name) es := by
  rw [Value.field?, h, Option.bind_some]

section Mappings

variable {es fs : List (Value × Value)}

theorem alike_object {ps : Definition} (hv : v.entries? = some es) (hw : w.entries? = some fs)
    (h : ∀ e ∈ ps, Option.Rel (Alike m e.2.type) (Value.lookup (.text e.1) es)
      (Value.lookup (.text e.1) fs)) : Alike m (.object ps) v w := by
  have hmapping : v.isMapping = true := isMapping_of_entries hv
  refine ⟨hmapping.trans (isMapping_of_entries hw).symm, ?_⟩
  rw [if_pos hmapping, alikeIn_iff]
  intro e he
  rw [property_eq_ok_of_entries hv, property_eq_ok_of_entries hw, field?_of_entries hv,
    field?_of_entries hw]
  exact .found (h e he)

theorem alike_of_lookup {τ : TypeExpr} (hτ : Unplugged m τ) (hv : v.entries? = some es)
    (hw : w.entries? = some fs)
    (h : ∀ ps, τ = .object ps → ∀ e ∈ ps,
      Value.lookup (.text e.1) es = Value.lookup (.text e.1) fs) : Alike m τ v w := by
  have hkind : SameContainer v w := .mapping hv hw
  cases τ with
  | named name => exact hkind.alike_named hτ
  | array item =>
    rw [Alike, items?_of_entries hv, items?_of_entries hw]
    exact hkind.shape_eq
  | object ps =>
    refine alike_object hv hw fun e he => ?_
    rw [h ps rfl e he]
    exact rel_refl (.refl m e.2.type) _

end Mappings

theorem Overlooks.alike {τ : TypeExpr} (h : Overlooks m τ v w) : Alike m τ v w := by
  induction h with
  | accepted hv hw =>
    refine ⟨hv.trans hw.symm, fun hfalse => ?_⟩
    rw [hv] at hfalse
    cases hfalse
  | @sequence τ v w xs hτ hv hw =>
    have hkind : SameContainer v w := .sequence hv hw
    cases τ with
    | named name => exact hkind.alike_named hτ
    | array item =>
      rw [Alike, hv, hw]
      exact List.forall₂_same.2 fun x _ => .refl m item x
    | object ps =>
      have hmapping : v.isMapping = false := isMapping_of_items hv
      refine ⟨hmapping.trans (isMapping_of_items hw).symm, ?_⟩
      rw [if_neg (by rw [hmapping]; exact Bool.false_ne_true)]
      exact hkind.shape_eq
  | reordered hτ hv hw once hperm =>
    exact alike_of_lookup hτ hv hw fun _ _ e _ => Value.lookup_text_perm once hperm e.1
  | undeclared hτ hk hv hw =>
    refine alike_of_lookup hτ hv hw fun ps hps e he => ?_
    have hne : ¬ Value.sameKey (.text e.1) _ = true :=
      fun h => hk ps hps e he (Value.sameKey_text_iff.1 h)
    rw [Value.lookup_append, Value.lookup_append, Value.lookup_cons, if_neg hne]
  | @item item v w xs ys x y hv hw _ ih =>
    have hsame (zs : List Value) : List.Forall₂ (Alike m item) zs zs :=
      List.forall₂_same.2 fun z _ => .refl m item z
    rw [Alike, hv, hw]
    exact List.rel_append (hsame xs) (.cons ih (hsame ys))
  | @field ps v w es fs k x y hv hw _ ih =>
    refine alike_object hv hw fun e he => ?_
    have hsame := rel_refl (Alike.refl m e.2.type)
    rw [Value.lookup_append, Value.lookup_append, Value.lookup_cons, Value.lookup_cons]
    -- an entry further to the front hides the one that is changed
    cases Value.lookup (.text e.1) es with
    | some z => exact hsame _
    | none =>
      by_cases hk : Value.sameKey (.text e.1) k = true
      · rw [if_pos hk, if_pos hk]
        exact .some (ih e he (Value.sameKey_text_iff.1 hk))
      · rw [if_neg hk, if_neg hk]
        exact hsame _

/-- The problems of a value depend on what a definition looks at. Undeclared keys, the order of keys,
the kind of a sequence and what is below an accepted leaf may change any number of times, at any
depth. -/
theorem problems_alike {d : Definition}
    (h : Alike m (.object d) v w ∨ Relation.EqvGen (Overlooks m (.object d)) v w) :
    (m.problems d v).result = (m.problems d w).result ∧
      (Session.conclude (m.problems d v)).result = (Session.conclude (m.problems d w)).result := by
  have hproblems : (m.problems d v).result = (m.problems d w).result := by
    rcases h with h | h
    · exact walkType_alike h []
    · -- the problems stay through each change, so through any number, forth and back
      induction h with
      | rel v w h => exact walkType_alike h.alike []
      | refl v => rfl
      | symm v w _ ih => exact ih.symm
      | trans u v w _ _ ih ih' => exact ih.trans ih'
  refine ⟨hproblems, ?_⟩
  cases hw : (m.problems d w).result with
  | ok ps =>
    rw [Session.conclude_result_of_ok hw, Session.conclude_result_of_ok (hproblems.trans hw)]
  | error fault =>
    rw [Session.conclude_result_of_error hw, Session.conclude_result_of_error (hproblems.trans hw)]

/-- An undeclared key in an item, a tuple for a list and another order of keys are overlooked; one
text may stand for another where none is wanted. -/
theorem problems_alike_items :
    let d : Definition :=
      [("a", ⟨.array (.object [("s", ⟨.named "string", false⟩)]), false⟩),
        ("b", ⟨.named "number", false⟩)]
    let u : Value := .map [(.text "a", .list [.map [(.text "s", .null)]]), (.text "b", .text "x")]
    let v : Value :=
      .frozenMap [(.text "b", .text "x"),
        (.text "a", .tuple [.map [(.text "s", .null), (.text "t", .int 1)]])]
    let w : Value := .map [(.text "a", .list [.map [(.text "s", .null)]]), (.text "b", .text "y")]
    Relation.EqvGen (Overlooks {} (.object d)) u v ∧ Alike {} (.object d) u w ∧
      (Matcher.problems {} d u).result = .ok [
        .mismatch [.field "a", .item 0, .field "s"] (.named "string") .null,
        .mismatch [.field "b"] (.named "number") .string] ∧
      (Matcher.problems {} d v).result = (Matcher.problems {} d u).result ∧
      (Matcher.problems {} d w).result = (Matcher.problems {} d u).result := by
  intro d u v w
  have hplain (ps : Definition) : Unplugged {} (.object ps) := fun _ h => nomatch h
  let item : Value := .map [(.text "s", .null)]
  let item' : Value := .map [(.text "s", .null), (.text "t", .int 1)]
  let holding (x : Value) : Value := .map [(.text "a", x), (.text "b", .text "x")]
  have hfield {x y : Value}
      (h : Overlooks {} (.array (.object [("s", ⟨.named "string", false⟩)])) x y) :
      Overlooks {} (.object d) (holding x) (holding y) := by
    refine @Overlooks.field _ d _ _ [] [(.text "b", .text "x")] (.text "a") x y rfl rfl ?_
    intro e he hk
    simp only [d, List.mem_cons, List.not_mem_nil, or_false] at he
    rcases he with rfl | rfl
    · exact h
    · simp at hk
  have hitem : Overlooks {} (.object d) u (holding (.list [item'])) := by
    refine hfield (@Overlooks.item _ _ _ _ [] [] item item' rfl rfl ?_)
    exact @Overlooks.undeclared _ _ _ _ [_] [] (.text "t") (.int 1) (hplain _) (by simp) rfl rfl
  have hsequence : Overlooks {} (.object d) (holding (.list [item'])) (holding (.tuple [item'])) :=
    hfield (.sequence (fun _ h => nomatch h) rfl rfl)
  have horder : Overlooks {} (.object d) (holding (.tuple [item'])) v :=
    .reordered (hplain d) rfl rfl (by simp [Value.TextsOnce]) (.swap _ _ [])
  have hv : Relation.EqvGen (Overlooks {} (.object d)) u v :=
    .trans _ _ _ (.rel _ _ hitem) (.trans _ _ _ (.rel _ _ hsequence) (.rel _ _ horder))
  have hw : Alike {} (.object d) u w := by
    refine alike_object rfl rfl fun e he => ?_
    simp only [d, List.mem_cons, List.not_mem_nil, or_false] at he
    rcases he with rfl | rfl
    · simpa [Value.lookup] using Alike.refl _ _ _
    · simp [Value.lookup, Alike, Matcher.checkNamed, Matcher.builtinCheck?, Value.isJsonNumber,
        Value.shape]
  refine ⟨hv, hw, ?_, (problems_alike (.inr hv)).1.symm, (problems_alike (.inl hw)).1.symm⟩
  simp [d, u, Matcher.problems, Matcher.walkType, Matcher.walkProperties, Matcher.property,
    Value.entries?, Value.lookup, Value.isMapping, Value.items?, Matcher.items,
    Matcher.checkNamed, Matcher.builtinCheck?, Value.shape, Value.isJsonNumber]

end Schema

end Conform
