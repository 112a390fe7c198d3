import Conform.Value.Access

/-! What a value holds, and what is read from it. A look-up under a text finds the entry that is there,
in whatever order the entries come; and but for a few objects that answer for themselves, what can be
read by name is what is held. -/

namespace Conform.Value

theorem sameKey_text_iff {name : String} {k : Value} :
    sameKey (.text name) k = true ↔ k = .text name := by
  cases k with
  | text other => rw [sameKey_text, beq_iff_eq, Value.text.injEq, eq_comm]
  | _ => simp [sameKey, holds, equal, equal.failIf, isMapping, numeric?]

theorem lookup_cons (k : Value) (e : Value × Value) (es : List (Value × Value)) :
    lookup k (e :: es) = if sameKey k e.1 then some e.2 else lookup k es := by
  unfold lookup
  rw [List.find?_cons]
  cases sameKey k e.1 <;> rfl

theorem lookup_append (k : Value) (es fs : List (Value × Value)) :
    lookup k (es ++ fs) = (lookup k es).or (lookup k fs) := by
  unfold lookup
  rw [List.find?_append]
  cases es.find? fun e => sameKey k e.1 <;> rfl

def TextsOnce (es : List (Value × Value)) : Prop :=
  es.Pairwise fun e f => ∀ name, e.1 = .text name → f.1 ≠ .text name

theorem lookup_text_eq_some_iff {es : List (Value × Value)} (once : TextsOnce es) {name : String}
    {x : Value} : lookup (.text name) es = some x ↔ (.text name, x) ∈ es := by
  induction es with
  | nil => simp [lookup]
  | cons e es ih =>
    obtain ⟨hfirst, once⟩ := List.pairwise_cons.1 once
    rw [lookup_cons, List.mem_cons]
    by_cases hk : e.1 = .text name
    · have hrest : (.text name, x) ∉ es := fun hmem => hfirst _ hmem name hk rfl
      rw [if_pos (sameKey_text_iff.2 hk)]
      obtain ⟨k, y⟩ := e
      simp only at hk
      simp [hk, hrest, eq_comm]
    · have hne : ¬ sameKey (.text name) e.1 = true := fun h => hk (sameKey_text_iff.1 h)
      rw [if_neg hne, ih once]
      constructor
      · exact .inr
      · rintro (rfl | hmem)
        · exact absurd rfl hk
        · exact hmem

/-- The order of entries does not matter to what is found under a text. -/
theorem lookup_text_perm {es fs : List (Value × Value)} (once : TextsOnce es) (h : es.Perm fs)
    (name : String) : lookup (.text name) es = lookup (.text name) fs := by
  have honce : TextsOnce fs := h.pairwise once fun {e f} hne n hf he => hne n he hf
  ext x
  rw [lookup_text_eq_some_iff once, lookup_text_eq_some_iff honce, h.mem_iff]

def HasEntries (v : Value) (es : List (Value × Value)) : Prop := v.ownEntries = es.map .ok

def Holds (v : Value) (name : String) (x : Value) : Prop := .ok (.text name, x) ∈ v.ownEntries

/-- What a value has from its class stands under a name. -/
def Inherits (v : Value) (name : String) : Prop := name ∈ Assoc.keys (v.fixedFields ++ v.inherited)

/-- A value that can be read like a table: a mapping that can be looked into, or an object that has
nothing under some names but fields of its own. No name is in it twice. -/
def Frank (names : List String) : Value → Prop
  | .map es | .frozenMap es => TextsOnce es
  | .record fs => (Assoc.keys fs).Nodup ∧ ∀ name ∈ names, ¬ Inherits (.record fs) name
  | _ => False

theorem textsOnce_fields {fs : List (String × Value)} (h : (Assoc.keys fs).Nodup) :
    TextsOnce (fs.map fun f => (.text f.1, f.2)) := by
  rw [TextsOnce, List.pairwise_map]
  refine (List.pairwise_map.1 h).imp fun {f g} hne name hf hg => hne ?_
  rw [text.inj hf, text.inj hg]

theorem lookup_text_fields (name : String) (fs : List (String × Value)) :
    lookup (.text name) (fs.map fun f => (.text f.1, f.2)) = Assoc.get? name fs := by
  induction fs with
  | nil => rfl
  | cons f fs ih =>
    rw [List.map_cons, lookup_cons, ih, sameKey_text, Assoc.get?, BEq.comm]

/-- Under a name that the class has nothing for, a record is read by its fields. -/
theorem getField_record {fs : List (String × Value)} {name : String}
    (h : ¬ Inherits (.record fs) name) :
    getField (.record fs) (.text name) = .ok ((Assoc.get? name fs).getD .undefined) := by
  rw [Inherits, Assoc.keys, List.map_append, List.mem_append, not_or] at h
  show (Assoc.get? name (fixedFields (.record fs) ++ fs ++ [] ++ inherited (.record fs))).elim
    (absent none) .ok = _
  rw [List.append_nil, Assoc.get?_append, Assoc.get?_append, Assoc.get?_eq_none_iff.2 h.1,
    Assoc.get?_eq_none_iff.2 h.2]
  cases Assoc.get? name fs <;> rfl

variable {names : List String} {v x : Value} {name : String}

theorem Frank.exists_entries (h : v.Frank names) :
    ∃ es, v.HasEntries es ∧ TextsOnce es ∧
      ∀ name ∈ names, v.getField (.text name) = .ok ((lookup (.text name) es).getD .undefined) := by
  cases v with
  | map es | frozenMap es => exact ⟨es, rfl, h, fun name _ => rfl⟩
  | record fs =>
    refine ⟨fs.map fun f => (.text f.1, f.2), ?_, textsOnce_fields h.1, fun name hname => ?_⟩
    · rw [HasEntries, List.map_map]
      rfl
    · rw [getField_record (h.2 name hname), lookup_text_fields]
  | _ => cases h

end Conform.Value
