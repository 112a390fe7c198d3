import Conform.Proofs.Schema.Matching
import Conform.Proofs.Schema.Partner

/-! Words in balance and the braces around them. The search for a closing brace keeps a running depth
only, but it ends at the one brace before which everything is in balance; and what is in balance
closes every brace that it opens, so pairs of braces are nested. -/

namespace Conform.Schema

section Words

variable {α : Type} {brace : α → Brace}

variable (brace) in
/-- Nowhere were more braces closed than opened, and in all as many. -/
structure InBalance (xs : List α) : Prop where
  prefixes : ∀ ys, ys <+: xs → 0 ≤ balance brace ys
  total : balance brace xs = 0

theorem balance_of_level {d e : Nat} {xs : List α} (h : level brace d xs = some e) :
    (e : Int) = d + balance brace xs := by
  fun_induction level brace d xs with
  | case1 d => cases h; simp
  | case2 d x xs hx ih =>
    have := ih h
    simp only [balance_cons, hx, Brace.weight]
    omega
  | case3 x xs hx => cases h
  | case4 x xs d hx ih =>
    have := ih h
    simp only [balance_cons, hx, Brace.weight]
    omega
  | case5 d x xs hx ih =>
    have := ih h
    simp only [balance_cons, hx, Brace.weight]
    omega

theorem inBalance_iff_level {xs : List α} : InBalance brace xs ↔ level brace 0 xs = some 0 := by
  constructor
  · intro h
    obtain ⟨e, hlevel, he⟩ := @exists_level_of_balance α brace 0 xs fun ys hys => by
      simpa using h.prefixes ys hys
    rw [h.total] at he
    obtain rfl : e = 0 := by omega
    exact hlevel
  · intro h
    refine ⟨?_, ?_⟩
    · rintro ys ⟨zs, rfl⟩
      rw [level_append] at h
      obtain ⟨e, hys, -⟩ := Option.bind_eq_some_iff.1 h
      have := balance_of_level hys
      omega
    · have := balance_of_level h
      omega

/-- The search ends at a closing brace with a word in balance before it, and at no other. -/
theorem closeIndex?_eq_some_iff {xs : List α} {i : Nat} :
    closeIndex? brace 0 xs = some i ↔
      ∃ ys x zs, xs = ys ++ x :: zs ∧ ys.length = i ∧ brace x = .closing ∧ InBalance brace ys := by
  constructor
  · intro h
    obtain ⟨ys, x, zs, hxs, hi, hx, hlevel⟩ := closeIndex?_eq_some h
    exact ⟨ys, x, zs, hxs, hi, hx, inBalance_iff_level.2 hlevel⟩
  · rintro ⟨ys, x, zs, rfl, rfl, hx, hys⟩
    rw [closeIndex?_append (inBalance_iff_level.1 hys)]
    simp [closeIndex?, hx]

theorem closeIndex?_append_of_some {xs : List α} {i : Nat} (h : closeIndex? brace 0 xs = some i)
    (more : List α) : closeIndex? brace 0 (xs ++ more) = some i := by
  obtain ⟨ys, x, zs, rfl, hi, hx, hys⟩ := closeIndex?_eq_some_iff.1 h
  refine closeIndex?_eq_some_iff.2 ⟨ys, x, zs ++ more, ?_, hi, hx, hys⟩
  simp

/-- What is in balance closes every brace that it opens. -/
theorem InBalance.exists_closeIndex? {xs ys : List α} {x : α} (h : InBalance brace (xs ++ x :: ys))
    (hx : brace x = .opening) : ∃ i, closeIndex? brace 0 ys = some i ∧ i < ys.length := by
  cases hclose : closeIndex? brace 0 ys with
  | some i =>
    obtain ⟨us, y, vs, rfl, rfl, -, -⟩ := closeIndex?_eq_some hclose
    exact ⟨us.length, rfl, by simp⟩
  | none =>
    -- whatever is open after `x` would stay open to the end
    obtain ⟨e, he⟩ := exists_level_of_closeIndex? hclose
    have hlevel := inBalance_iff_level.1 h
    rw [level_append] at hlevel
    obtain ⟨d, -, hlevel⟩ := Option.bind_eq_some_iff.1 hlevel
    have hopen : level brace d (x :: ys) = level brace (0 + (d + 1)) ys := by
      simp [level, hx]
    rw [hopen, level_add he (d + 1)] at hlevel
    simp at hlevel

end Words

/-- The closing brace at `r` is the partner of what stands at `p`. -/
structure Partner (text : List Char) (p r : Nat) : Prop where
  behind : p < r
  closing : text[r]? = some '}'
  between : InBalance charBrace ((text.take r).drop (p + 1))

theorem charBrace_eq_closing {c : Char} : charBrace c = .closing ↔ c = '}' := by
  unfold charBrace
  split <;> simp_all

variable {text : List Char} {p r : Nat}

theorem partner_iff : Partner text p r ↔
    ∃ ys zs, text.drop (p + 1) = ys ++ '}' :: zs ∧ InBalance charBrace ys ∧
      r = p + 1 + ys.length := by
  constructor
  · rintro ⟨hlt, hclosing, hbetween⟩
    obtain ⟨hr, hget⟩ := List.getElem?_eq_some_iff.1 hclosing
    refine ⟨_, text.drop (r + 1), ?_, hbetween, ?_⟩
    · have hsplit := List.take_append_drop (r - (p + 1)) (text.drop (p + 1))
      rw [List.drop_drop, show p + 1 + (r - (p + 1)) = r by omega,
        List.drop_eq_getElem_cons hr, hget] at hsplit
      rw [List.drop_take]
      exact hsplit.symm
    · simp
      omega
  · rintro ⟨ys, zs, hdrop, hys, rfl⟩
    have hget : text[p + 1 + ys.length]? = some '}' := by
      rw [← List.getElem?_drop, hdrop]
      simp
    refine ⟨by omega, hget, ?_⟩
    rw [List.drop_take, hdrop, show p + 1 + ys.length - (p + 1) = ys.length by omega, List.take_left]
    exact hys

theorem partner_iff_closeIndex? {i : Nat} :
    Partner text p (p + 1 + i) ↔ closeIndex? charBrace 0 (text.drop (p + 1)) = some i := by
  rw [partner_iff, closeIndex?_eq_some_iff]
  constructor
  · rintro ⟨ys, zs, hdrop, hys, hi⟩
    exact ⟨ys, '}', zs, hdrop, by omega, rfl, hys⟩
  · rintro ⟨ys, c, zs, hdrop, rfl, hc, hys⟩
    rw [charBrace_eq_closing.1 hc] at hdrop
    exact ⟨ys, zs, hdrop, hys, rfl⟩

theorem matchingBrace_eq_some_iff :
    matchingBrace text p = .ok (some r) ↔ Partner text p r := by
  rw [matchingBrace_of_nonneg]
  constructor
  · intro h
    obtain ⟨i, hi, hr⟩ := Option.map_eq_some_iff.1 (Except.ok.inj h)
    obtain rfl : p + 1 + i = r := by omega
    exact partner_iff_closeIndex?.2 hi
  · intro h
    obtain ⟨i, rfl⟩ := Nat.exists_eq_add_of_le (show p + 1 ≤ r from h.behind)
    rw [partner_iff_closeIndex?.1 h]
    rfl

/-- A brace that is opened between two partners is closed between them. -/
theorem Partner.nested (h : Partner text p r) {q : Nat} (hpq : p < q) (hqr : q < r)
    (hq : text[q]? = some '{') : ∃ s, Partner text q s ∧ s < r := by
  obtain ⟨ys, zs, hdrop, hys, rfl⟩ := partner_iff.1 h
  obtain ⟨j, rfl⟩ := Nat.exists_eq_add_of_le (show p + 1 ≤ q from hpq)
  have hj : j < ys.length := by omega
  have hget : ys[j] = '{' := by
    rw [← List.getElem?_drop, hdrop, List.getElem?_append_left hj, List.getElem?_eq_getElem hj] at hq
    exact Option.some.inj hq
  have hsplit := List.take_append_drop j ys
  rw [List.drop_eq_getElem_cons hj, hget] at hsplit
  rw [← hsplit] at hys
  obtain ⟨i, hi, hlt⟩ := hys.exists_closeIndex? rfl
  rw [List.length_drop] at hlt
  refine ⟨p + 1 + j + 1 + i, partner_iff_closeIndex?.2 ?_, by omega⟩
  have hrest : text.drop (p + 1 + j + 1) = ys.drop (j + 1) ++ '}' :: zs := by
    rw [Nat.add_assoc (p + 1), ← List.drop_drop, hdrop, List.drop_append_of_le_length hj]
  rw [hrest]
  exact closeIndex?_append_of_some hi _

/-- The search for the brace that closes a position ends: at the one closing brace with a word in
balance between the two, or without a brace if there is none such. Between the two every brace that
is opened has a partner of its own, which the search finds too. -/
theorem matchingBrace_finds_partner (text : List Char) (p : Nat) :
    (∃ r : Nat, matchingBrace text p = .ok (some r) ∧ Partner text p r ∧
        (∀ r', Partner text p r' → r' = r) ∧
        ∀ q, p < q → q < r → text[q]? = some '{' →
          ∃ s : Nat, matchingBrace text q = .ok (some s) ∧ q < s ∧ s < r) ∨
      matchingBrace text p = .ok none ∧ ∀ r, ¬ Partner text p r := by
  by_cases h : ∃ r, Partner text p r
  · obtain ⟨r, hr⟩ := h
    have hfound := matchingBrace_eq_some_iff.2 hr
    refine .inl ⟨r, hfound, hr, fun r' hr' => ?_, fun q hpq hqr hq => ?_⟩
    · have hfound' := matchingBrace_eq_some_iff.2 hr'
      rw [hfound] at hfound'
      exact Int.ofNat.inj (Option.some.inj (Except.ok.inj hfound')).symm
    · obtain ⟨s, hs, hsr⟩ := hr.nested hpq hqr hq
      exact ⟨s, matchingBrace_eq_some_iff.2 hs, hs.behind, hsr⟩
  · have hnone : ∀ r, ¬ Partner text p r := fun r hr => h ⟨r, hr⟩
    refine .inr ⟨?_, hnone⟩
    rw [matchingBrace_of_nonneg]
    cases hclose : closeIndex? charBrace 0 (text.drop (p + 1)) with
    | none => rfl
    | some i => exact absurd (partner_iff_closeIndex?.2 hclose) (hnone _)

example : matchingBrace "a\x7bb\x7bc\x7dd\x7de\x7d".toList 1 = .ok (some 7) ∧
    matchingBrace "a\x7bb\x7bc\x7dd\x7de\x7d".toList 0 = .ok (some 9) := by decide

end Conform.Schema
