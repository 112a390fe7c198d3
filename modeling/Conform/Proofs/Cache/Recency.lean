import Conform.Assoc
import Conform.Cache
import Mathlib.Data.Finset.Card

/-! What a cache holds, told by the uses of its keys alone: the keys that were used last, as many as
it has room for. So a key that was used is found again if fewer others were used since. -/

namespace Conform.Cache

variable {κ α : Type} [DecidableEq κ]

/-- The first use of each key. If the latest use comes first, these are in the order in which the
keys were last used. -/
def recent : List (κ × α) → List (κ × α)
  | [] => []
  | u :: us => u :: (recent us).filter fun e => !(e.1 == u.1)

/-- How many other keys were used since the last use of a key. -/
def distance (k : κ) (ks : List κ) : Nat := (ks.takeWhile fun k' => !(k' == k)).toFinset.card

section Lists

variable {k : κ} {es us : List (κ × α)}

omit [DecidableEq κ] in
theorem keys_cons (e : κ × α) (es : List (κ × α)) :
    Assoc.keys (e :: es) = e.1 :: Assoc.keys es := rfl

theorem mem_keys_filter {k' : κ} :
    k' ∈ Assoc.keys (es.filter fun e => !(e.1 == k)) ↔ k' ∈ Assoc.keys es ∧ k' ≠ k := by
  simp only [Assoc.keys, List.mem_map, List.mem_filter, Bool.not_eq_true', beq_eq_false_iff_ne]
  constructor
  · rintro ⟨e, ⟨he, hne⟩, rfl⟩
    exact ⟨⟨e, he, rfl⟩, hne⟩
  · rintro ⟨⟨e, he, rfl⟩, hne⟩
    exact ⟨e, ⟨he, hne⟩, rfl⟩

theorem mem_keys_recent : k ∈ Assoc.keys (recent us) ↔ k ∈ Assoc.keys us := by
  induction us with
  | nil => rfl
  | cons u us ih =>
    rw [recent, keys_cons, keys_cons, List.mem_cons, List.mem_cons, mem_keys_filter, ih]
    tauto

theorem nodup_keys_recent : (Assoc.keys (recent us)).Nodup := by
  induction us with
  | nil => exact .nil
  | cons u us ih =>
    refine List.nodup_cons.2 ⟨fun h => (mem_keys_filter.1 h).2 rfl, ?_⟩
    exact ih.sublist (List.filter_sublist.map _)

theorem length_recent : (recent us).length = (Assoc.keys us).toFinset.card := by
  have hkeys : (Assoc.keys us).toFinset = (Assoc.keys (recent us)).toFinset := by
    ext k
    simp [mem_keys_recent]
  rw [hkeys, List.toFinset_card_of_nodup nodup_keys_recent]
  exact (List.length_map _).symm

theorem find?_recent : (recent us).find? (·.1 == k) = us.find? (·.1 == k) := by
  induction us with
  | nil => rfl
  | cons u us ih =>
    by_cases hk : u.1 = k
    · simp [recent, hk]
    · have hne : (u.1 == k) = false := by simpa using hk
      simp only [recent, List.find?_cons, hne, List.find?_filter, ← ih]
      congr 1
      funext e
      by_cases he : e.1 = k <;> simp [he, Ne.symm hk]

theorem takeWhile_recent :
    (recent us).takeWhile (fun e => !(e.1 == k)) = recent (us.takeWhile fun e => !(e.1 == k)) := by
  induction us with
  | nil => rfl
  | cons u us ih =>
    by_cases hk : u.1 = k
    · simp [recent, hk]
    · have hsame : (fun e : κ × α => !(!(e.1 == u.1)) || !(e.1 == k)) = fun e => !(e.1 == k) := by
        funext e
        by_cases he : e.1 = u.1
        · simp [he, hk]
        · simp [he]
      have hne : (u.1 == k) = false := by simpa using hk
      simp only [recent, List.takeWhile_cons, hne, Bool.not_false, if_true, List.takeWhile_filter,
        hsame, ih]

theorem length_takeWhile_recent :
    ((recent us).takeWhile fun e => !(e.1 == k)).length = distance k (Assoc.keys us) := by
  rw [takeWhile_recent, length_recent, distance, Assoc.keys, Assoc.keys, List.takeWhile_map]
  rfl

theorem mem_keys_take_iff {n : Nat} :
    k ∈ Assoc.keys (es.take n) ↔
      k ∈ Assoc.keys es ∧ (es.takeWhile fun e => !(e.1 == k)).length < n := by
  induction es generalizing n with
  | nil => simp [Assoc.keys]
  | cons e es ih =>
    cases n with
    | zero => simp [Assoc.keys]
    | succ n =>
      by_cases hk : e.1 = k
      · simp [keys_cons, hk]
      · simp [keys_cons, hk, Ne.symm hk, ih]

/-- Taking out a key that is among the first makes room for one more. -/
theorem filter_take_succ {n : Nat} (nodup : (Assoc.keys es).Nodup)
    (hk : k ∈ Assoc.keys (es.take (n + 1))) :
    (es.take (n + 1)).filter (fun e => !(e.1 == k)) =
      (es.filter fun e => !(e.1 == k)).take n := by
  induction es generalizing n with
  | nil => cases hk
  | cons e es ih =>
    obtain ⟨hnew, nodup⟩ := List.nodup_cons.1 nodup
    by_cases he : e.1 = k
    · have hother : ∀ f ∈ es, !(f.1 == k) := by
        intro f hf
        have hne : f.1 ≠ k := fun heq => hnew (List.mem_map.2 ⟨f, hf, heq.trans he.symm⟩)
        simp [hne]
      have htake : (es.take n).filter (fun f => !(f.1 == k)) = es.take n :=
        List.filter_eq_self.2 fun f hf => hother f (List.mem_of_mem_take hf)
      simp [he, htake, List.filter_eq_self.2 hother]
    · have hk : k ∈ Assoc.keys (es.take n) := by
        simpa [Assoc.keys, Ne.symm he] using hk
      cases n with
      | zero => simp [Assoc.keys] at hk
      | succ n => simpa [he] using ih nodup hk

/-- Taking out a key that is not among the first does not change what comes before the last of
these. -/
theorem take_filter_of_not_mem {n : Nat} (hk : k ∉ Assoc.keys (es.take (n + 1))) :
    (es.filter fun e => !(e.1 == k)).take n = es.take n := by
  induction es generalizing n with
  | nil => rfl
  | cons e es ih =>
    have hk : ¬ k = e.1 ∧ k ∉ Assoc.keys (es.take n) := by
      simpa [Assoc.keys] using hk
    cases n with
    | zero => rfl
    | succ n => simpa [Ne.symm hk.1] using ih hk.2

end Lists

/-- The entries are the keys that were used last, in this order and each with what its last use
gave. -/
def Holds (c : Cache κ α) (us : List (κ × α)) : Prop := c.entries = (recent us).take c.capacity

variable {c c' : Cache κ α} {us : List (κ × α)} {k : κ} {a : α}

theorem touch?_eq_some_iff :
    c.touch? k = some (a, c') ↔ c.entries.find? (·.1 == k) = some (k, a) ∧
      c' = { c with
        entries := (k, a) :: c.entries.filter fun e => !(e.1 == k), hits := c.hits + 1 } := by
  unfold touch?
  split
  · next k' a' hfind =>
    obtain rfl : k' = k := by simpa using List.find?_some hfind
    simp only [hfind, Option.some.injEq, Prod.mk.injEq, true_and]
    constructor
    · rintro ⟨rfl, rfl⟩
      exact ⟨rfl, rfl⟩
    · rintro ⟨rfl, rfl⟩
      exact ⟨rfl, rfl⟩
  · next hfind => simp [hfind]

theorem touch?_isSome_iff : (c.touch? k).isSome = true ↔ k ∈ Assoc.keys c.entries := by
  have hfind : (c.touch? k).isSome = (c.entries.find? (·.1 == k)).isSome := by
    unfold touch?
    split <;> simp [*]
  rw [hfind, List.find?_isSome]
  simp [Assoc.keys]

/-- A key is found if it was used, and fewer others since than there is room for. -/
theorem Holds.touch?_isSome_iff (h : c.Holds us) :
    (c.touch? k).isSome = true ↔
      k ∈ Assoc.keys us ∧ distance k (Assoc.keys us) < c.capacity := by
  rw [Cache.touch?_isSome_iff, show c.entries = _ from h, mem_keys_take_iff, mem_keys_recent,
    length_takeWhile_recent]

theorem Holds.length (h : c.Holds us) :
    c.entries.length = min c.capacity (Assoc.keys us).toFinset.card := by
  rw [show c.entries = _ from h, List.length_take, length_recent]

theorem Holds.find? (h : c.Holds us) (ht : c.touch? k = some (a, c')) :
    us.find? (·.1 == k) = some (k, a) := by
  have hfind := (touch?_eq_some_iff.1 ht).1
  rw [show c.entries = _ from h] at hfind
  rw [← find?_recent]
  exact (List.take_prefix _ _).find?_eq_some hfind

theorem Holds.touch (h : c.Holds us) (ht : c.touch? k = some (a, c')) :
    c'.Holds ((k, a) :: us) := by
  have hmem : k ∈ Assoc.keys c.entries := Cache.touch?_isSome_iff.1 (by rw [ht]; rfl)
  obtain ⟨-, rfl⟩ := touch?_eq_some_iff.1 ht
  unfold Holds at h ⊢
  dsimp only
  rw [h] at hmem ⊢
  cases hn : c.capacity with
  | zero => simp [hn, Assoc.keys] at hmem
  | succ n =>
    rw [hn] at hmem
    rw [filter_take_succ nodup_keys_recent hmem, recent, List.take_succ_cons]

theorem Holds.store (h : c.Holds us) (ht : c.touch? k = none) :
    (c.miss.store k a).Holds ((k, a) :: us) := by
  have hmem : k ∉ Assoc.keys c.entries := fun hk => by
    simpa [ht] using Cache.touch?_isSome_iff.2 hk
  unfold Holds at h
  show ((k, a) :: c.entries).take c.capacity = (recent ((k, a) :: us)).take c.capacity
  rw [h] at hmem ⊢
  cases hn : c.capacity with
  | zero => rfl
  | succ n =>
    rw [hn] at hmem
    rw [recent, List.take_succ_cons, List.take_succ_cons, take_filter_of_not_mem hmem,
      List.take_take, Nat.min_eq_left (Nat.le_succ n)]

end Conform.Cache
