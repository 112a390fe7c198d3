import Conform.Guard.Verdict
import Mathlib.Data.List.Basic

/-! Addresses. The pattern may take the dot wherever a dot stands, so which texts match is said without
it: by the one at sign, by the blanks that are nowhere, and by a dot inside of what follows the at
sign. -/

namespace Conform

def mailbox (cs : List Char) : List Char := cs.takeWhile (· ≠ '@')

def mailHost (cs : List Char) : List Char := (cs.dropWhile (· ≠ '@')).tail

/-- A text with one at sign and no blanks, with something before the sign, and behind it a dot that is
neither the first character there nor the last. -/
structure IsAddress (cs : List Char) : Prop where
  sign : cs.count '@' = 1
  unblank : ∀ c ∈ cs, isBlank c = false
  mailbox : mailbox cs ≠ []
  dot : ∃ i, (mailHost cs)[i]? = some '.' ∧ 0 < i ∧ i + 1 < (mailHost cs).length

theorem isAddressChar_iff {c : Char} : isAddressChar c = true ↔ isBlank c = false ∧ c ≠ '@' := by
  simp [isAddressChar]

section Sides

variable {before after : List Char}

theorem ne_sign_of_mem (h : '@' ∉ before) : ∀ c ∈ before, decide (c ≠ '@') = true := by
  intro c hc
  simpa using ne_of_mem_of_not_mem hc h

theorem mailbox_append (h : '@' ∉ before) : mailbox (before ++ '@' :: after) = before := by
  rw [mailbox, List.takeWhile_append_of_pos (ne_sign_of_mem h)]
  simp

theorem mailHost_append (h : '@' ∉ before) : mailHost (before ++ '@' :: after) = after := by
  rw [mailHost, List.dropWhile_append_of_pos (ne_sign_of_mem h)]
  simp

end Sides

/-- The pattern takes a text apart at the at sign and at some dot behind it. -/
theorem accepts_emailPattern_iff {cs : List Char} : emailPattern.accepts cs = true ↔
    ∃ before host top, cs = before ++ '@' :: (host ++ '.' :: top) ∧
      before ≠ [] ∧ host ≠ [] ∧ top ≠ [] ∧
        ∀ c ∈ before ++ (host ++ top), isAddressChar c = true := by
  simp only [emailPattern, Pattern.accepts_chain_cons_iff, Pattern.accepts_chain_nil_iff,
    Pattern.accepts_some_iff, Pattern.accepts_char_iff]
  constructor
  · rintro ⟨before, _, rfl, ⟨hbefore, hb⟩, _, _, rfl, rfl, host, _, rfl, ⟨hhost, hh⟩, _, top, rfl, rfl,
      htop, ht⟩
    refine ⟨before, host, top, rfl, hbefore, hhost, htop, ?_⟩
    intro c hc
    rcases List.mem_append.1 hc with hc | hc
    · exact hb c hc
    · exact (List.mem_append.1 hc).elim (hh c) (ht c)
  · rintro ⟨before, host, top, rfl, hbefore, hhost, htop, hall⟩
    simp only [List.forall_mem_append] at hall
    obtain ⟨hb, hh, ht⟩ := hall
    exact ⟨before, _, rfl, ⟨hbefore, hb⟩, ['@'], _, rfl, rfl, host, _, rfl, ⟨hhost, hh⟩, ['.'], top, rfl,
      rfl, htop, ht⟩

theorem isAddress_of_split {before host top : List Char} (hbefore : before ≠ []) (hhost : host ≠ [])
    (htop : top ≠ []) (hall : ∀ c ∈ before ++ (host ++ top), isAddressChar c = true) :
    IsAddress (before ++ '@' :: (host ++ '.' :: top)) := by
  have hsign : ∀ cs ⊆ before ++ (host ++ top), '@' ∉ cs := fun cs hcs hmem =>
    (isAddressChar_iff.1 (hall _ (hcs hmem))).2 rfl
  have hb : '@' ∉ before := hsign before (by simp)
  have hh : '@' ∉ host := hsign host (by simp)
  have ht : '@' ∉ top := hsign top (by simp)
  refine ⟨?_, fun c hc => ?_, ?_, host.length, ?_⟩
  · simp [List.count_append, List.count_eq_zero_of_not_mem, hb, hh, ht]
  · have hcases : c ∈ before ++ (host ++ top) ∨ c = '@' ∨ c = '.' := by
      simp only [List.mem_append, List.mem_cons] at hc ⊢
      tauto
    rcases hcases with hc | rfl | rfl
    · exact (isAddressChar_iff.1 (hall c hc)).1
    · rfl
    · rfl
  · rw [mailbox_append hb]
    exact hbefore
  · have hpos := List.length_pos_iff.2 hhost
    have hpos' := List.length_pos_iff.2 htop
    rw [mailHost_append hb]
    refine ⟨by simp, hpos, ?_⟩
    rw [List.length_append, List.length_cons]
    omega

theorem IsAddress.exists_split {cs : List Char} (h : IsAddress cs) :
    ∃ before host top, cs = before ++ '@' :: (host ++ '.' :: top) ∧
      before ≠ [] ∧ host ≠ [] ∧ top ≠ [] ∧
        ∀ c ∈ before ++ (host ++ top), isAddressChar c = true := by
  have hmem : '@' ∈ cs := List.count_pos_iff.1 (by rw [h.sign]; omega)
  obtain ⟨before, after, rfl, hb⟩ := List.eq_append_cons_of_mem hmem
  have ha : '@' ∉ after := by
    have hcount := h.sign
    rw [List.count_append, List.count_cons_self] at hcount
    exact List.count_eq_zero.1 (by omega)
  have hbefore := h.mailbox
  obtain ⟨i, hdot, hpos, hlt⟩ := h.dot
  rw [mailbox_append hb] at hbefore
  rw [mailHost_append hb] at hdot hlt
  obtain ⟨hi, hget⟩ := List.getElem?_eq_some_iff.1 hdot
  have hsplit : after = after.take i ++ '.' :: after.drop (i + 1) := by
    rw [← hget, ← List.drop_eq_getElem_cons hi, List.take_append_drop]
  refine ⟨before, after.take i, after.drop (i + 1), by rw [← hsplit], hbefore, ?_, ?_, ?_⟩
  · rw [← List.length_pos_iff, List.length_take]
    omega
  · rw [← List.length_pos_iff, List.length_drop]
    omega
  · intro c hc
    have hcs : c ∈ before ∨ c ∈ after := by
      rcases List.mem_append.1 hc with hc | hc
      · exact .inl hc
      · exact .inr ((List.mem_append.1 hc).elim List.mem_of_mem_take List.mem_of_mem_drop)
    refine isAddressChar_iff.2 ⟨h.unblank c (by simpa using hcs.imp_right .inr), ?_⟩
    rintro rfl
    exact hcs.elim hb ha

/-- However the dots stand, one way to take a text apart is enough. -/
theorem isEmail_iff {s : String} : isEmail s = true ↔ IsAddress s.toList := by
  rw [isEmail, accepts_emailPattern_iff]
  constructor
  · rintro ⟨before, host, top, hs, hbefore, hhost, htop, hall⟩
    rw [hs]
    exact isAddress_of_split hbefore hhost htop hall
  · exact IsAddress.exists_split

namespace Guard

def AddressValue (v : Value) : Prop :=
  ∃ s, (v = .text s ∨ v = .brokenText s) ∧ IsAddress s.toList

theorem accepts_email_iff {v : Value} : Primitive.email.accepts v = true ↔ AddressValue v := by
  unfold AddressValue
  cases v with
  | text s => simp [Primitive.accepts, Primitive.isText, isEmail_iff]
  | brokenText s => simp [Primitive.accepts, Primitive.isText, isEmail_iff]
  | _ => simp [Primitive.accepts, Primitive.isText]

/-- The guard for addresses has an answer for every value, without a fault and without a trace: it
accepts the addresses and rejects everything else. -/
theorem email_verdict (v : Value) :
    ((Check.primitive .email).test v = pure true ↔ AddressValue v) ∧
      ((Check.primitive .email).test v = pure false ↔ ¬ AddressValue v) := by
  have htest : (Check.primitive .email).test v = pure (Primitive.email.accepts v) := rfl
  rw [← accepts_email_iff, htest]
  generalize Primitive.email.accepts v = b
  cases b <;> simp

/-- Dots may stand at the ends if another one stands between them. -/
example : AddressValue (.text "a@.b.c.") ∧ ¬ AddressValue (.text "a@.b") := by
  rw [← accepts_email_iff, ← accepts_email_iff]
  decide

end Guard

end Conform
