/-!
Ordered maps as lists of pairs: an entry keeps the place where its key first appeared, and holds
the value that was put last.
-/

namespace Conform.Assoc

variable {κ α : Type} [BEq κ]

/-- Puts `a` under `k`: in place if the key is there, at the end if it is new. -/
def upsert (k : κ) (a : α) : List (κ × α) → List (κ × α)
  | [] => [(k, a)]
  | (k', a') :: rest => if k' == k then (k', a) :: rest else (k', a') :: upsert k a rest

def get? (k : κ) : List (κ × α) → Option α
  | [] => none
  | (k', a) :: rest => if k' == k then some a else get? k rest

def contains (k : κ) (es : List (κ × α)) : Bool := (get? k es).isSome

def keys (es : List (κ × α)) : List κ := es.map Prod.fst

/-- The map that results from putting the entries in one after another. -/
def ofList (es : List (κ × α)) : List (κ × α) := es.foldl (fun m e => upsert e.1 e.2 m) []

/-- No key is lost. -/
theorem mem_keys_upsert {k k' : κ} {a : α} {es : List (κ × α)} (h : k' ∈ keys es) :
    k' ∈ keys (upsert k a es) := by
  induction es with
  | nil => cases h
  | cons e es ih =>
    rw [upsert]
    split
    · exact h
    · rcases List.mem_cons.1 h with rfl | h
      · exact List.mem_cons_self
      · exact List.mem_cons_of_mem _ (ih h)

/-- Looking up commutes with a change of what the entries hold. -/
theorem get?_map {β : Type} (k : κ) (f : α → β) (es : List (κ × α)) :
    get? k (es.map fun e => (e.1, f e.2)) = (get? k es).map f := by
  induction es with
  | nil => rfl
  | cons e es ih =>
    rw [List.map_cons, get?, get?, ih]
    split <;> rfl

theorem get?_append (k : κ) (es fs : List (κ × α)) :
    get? k (es ++ fs) = (get? k es).or (get? k fs) := by
  induction es with
  | nil => rfl
  | cons e es ih =>
    rw [List.cons_append, get?, get?, ih]
    split <;> rfl

variable [LawfulBEq κ]

theorem contains_eq_true_iff {k : κ} {es : List (κ × α)} : contains k es = true ↔ k ∈ keys es := by
  induction es with
  | nil => simp [contains, get?, keys]
  | cons e es ih =>
    rw [contains, keys] at ih
    by_cases h : e.1 = k
    · simp [contains, get?, keys, h]
    · have hne : ¬ k = e.1 := fun he => h he.symm
      simp [contains, get?, keys, h, hne, ih]

theorem get?_eq_none_iff {k : κ} {es : List (κ × α)} : get? k es = none ↔ k ∉ keys es := by
  rw [← contains_eq_true_iff, contains, Bool.not_eq_true, Option.isSome_eq_false_iff,
    Option.isNone_iff_eq_none]

theorem mem_upsert {k : κ} {a : α} {es : List (κ × α)} {e : κ × α} (h : e ∈ upsert k a es) :
    e = (k, a) ∨ e ∈ es := by
  induction es with
  | nil => exact .inl (List.mem_singleton.1 h)
  | cons e' es ih =>
    rw [upsert] at h
    split at h
    · next hk =>
      obtain rfl : e'.1 = k := by simpa using hk
      rcases List.mem_cons.1 h with rfl | h
      · exact .inl rfl
      · exact .inr (List.mem_cons_of_mem _ h)
    · rcases List.mem_cons.1 h with rfl | h
      · exact .inr List.mem_cons_self
      · exact (ih h).imp_right (List.mem_cons_of_mem _)

/-- A new key goes to the end. -/
theorem upsert_of_not_mem {k : κ} {es : List (κ × α)} (h : k ∉ keys es) (a : α) :
    upsert k a es = es ++ [(k, a)] := by
  induction es with
  | nil => rfl
  | cons e es ih =>
    have hne : ¬ e.1 = k := fun he => h (by simp [keys, he])
    have hes : k ∉ keys es := fun hk => h (by simpa [keys] using .inr (by simpa [keys] using hk))
    simp [upsert, hne, ih hes]

/-- An old key keeps its place. -/
theorem keys_upsert_of_mem {k : κ} {es : List (κ × α)} (h : k ∈ keys es) (a : α) :
    keys (upsert k a es) = keys es := by
  induction es with
  | nil => cases h
  | cons e es ih =>
    by_cases hk : e.1 = k
    · simp [upsert, keys, hk]
    · have hes : k ∈ keys es := (List.mem_cons.1 h).resolve_left fun he => hk he.symm
      simpa [upsert, keys, hk] using ih hes

/-- No key occurs twice. -/
theorem nodup_keys_upsert {k : κ} {a : α} {es : List (κ × α)} (h : (keys es).Nodup) :
    (keys (upsert k a es)).Nodup := by
  by_cases hk : k ∈ keys es
  · rwa [keys_upsert_of_mem hk]
  · have hnew : ∀ k' ∈ keys es, k' ≠ k := fun k' hk' heq => hk (heq ▸ hk')
    rw [upsert_of_not_mem hk, keys, List.map_append, ← keys]
    exact List.nodup_append.2 ⟨h, by simp, by simpa using hnew⟩

theorem get?_upsert_self {k : κ} {a : α} {es : List (κ × α)} : get? k (upsert k a es) = some a := by
  induction es with
  | nil => simp [upsert, get?]
  | cons e es ih => by_cases hk : e.1 = k <;> simp [upsert, get?, hk, ih]

theorem get?_upsert_of_ne {k k' : κ} (h : k' ≠ k) {a : α} {es : List (κ × α)} :
    get? k' (upsert k a es) = get? k' es := by
  induction es with
  | nil => simp [upsert, get?, h.symm]
  | cons e es ih =>
    by_cases hk : e.1 = k
    · simp [upsert, get?, hk, h.symm]
    · by_cases hk' : e.1 = k' <;> simp [upsert, get?, hk, hk', h, ih]

theorem mem_of_get?_eq_some {k : κ} {a : α} {es : List (κ × α)} (h : get? k es = some a) :
    (k, a) ∈ es := by
  induction es with
  | nil => cases h
  | cons e es ih =>
    rw [get?] at h
    split at h
    · next hk =>
      obtain rfl : e.1 = k := by simpa using hk
      obtain rfl := Option.some.inj h
      exact List.mem_cons_self
    · exact List.mem_cons_of_mem _ (ih h)

theorem get?_eq_some_of_mem {k : κ} {a : α} {es : List (κ × α)} (hes : (keys es).Nodup)
    (h : (k, a) ∈ es) : get? k es = some a := by
  induction es with
  | nil => cases h
  | cons e es ih =>
    obtain ⟨hnew, hes⟩ := List.nodup_cons.1 hes
    rcases List.mem_cons.1 h with rfl | h
    · simp [get?]
    · have hne : ¬ e.1 = k := by
        rintro rfl
        exact hnew (List.mem_map.2 ⟨_, h, rfl⟩)
      simp [get?, hne, ih hes h]

end Conform.Assoc
