import Conform.Schema.Segment
import Mathlib.Data.List.Basic
import Mathlib.Data.List.Chain
import Mathlib.Data.List.TakeWhile

/-! Where the tokens of a text stand. A token's characters are the ones that the text has at its
offset, nothing but blanks lies between two neighbours, and so the span of a run of tokens can be
cut at any token. -/

namespace Conform.Schema

/-- The text has the right form for the kind: one structural character, the array suffix, or a run
of characters that are neither structural nor blank. The end marker has no form. -/
inductive Token.Formed : Token → Prop
  | structural {c : Char} {k : TokenKind} {start : Nat} (h : structural? c = some k) :
      Token.Formed ⟨k, [c], start⟩
  | arraySuffix {start : Nat} : Token.Formed ⟨.arraySuffix, ['[', ']'], start⟩
  | text {cs : List Char} {start : Nat} (hne : cs ≠ [])
      (h : ∀ x ∈ cs, isBlank x = false ∧ structural? x = none) : Token.Formed ⟨.text, cs, start⟩

/-- The tokens are spelled out, in order and with blanks around them, by a text that begins at the
given offset. -/
inductive Spelled : Nat → List Char → List Token → Prop
  | nil {n : Nat} : Spelled n [] []
  | blank {n : Nat} {c : Char} {cs : List Char} {ts : List Token} (hc : isBlank c = true)
      (rest : Spelled (n + 1) cs ts) : Spelled n (c :: cs) ts
  | token {n : Nat} {t : Token} {cs : List Char} {ts : List Token} (hn : t.start = n)
      (formed : t.Formed) (rest : Spelled t.stop cs ts) : Spelled n (t.text ++ cs) (t :: ts)

theorem structural?_text {c : Char} {k : TokenKind} (h : structural? c = some k) :
    isBlank c = false ∧ k ≠ .text := by
  unfold structural? at h
  split at h <;> cases h <;> exact ⟨rfl, by simp⟩

theorem structural?_injective {c d : Char} {k : TokenKind} (hc : structural? c = some k)
    (hd : structural? d = some k) : c = d := by
  unfold structural? at hc hd
  split at hc <;> cases hc <;> split at hd <;> cases hd <;> rfl

theorem Token.Formed.text_of_structural {t : Token} {c : Char} {k : TokenKind} (h : t.Formed)
    (hc : structural? c = some k) (hk : t.kind = k) : t.text = [c] := by
  cases h with
  | structural hd =>
    subst hk
    rw [structural?_injective hc hd]
  | arraySuffix =>
    subst hk
    unfold structural? at hc
    split at hc <;> cases hc
  | text => exact absurd hk.symm (structural?_text hc).2

/-- A structural character stands in no other token than its own. -/
theorem Token.Formed.kind_of_mem {t : Token} {c : Char} {k : TokenKind} (h : t.Formed)
    (hc : structural? c = some k) (hmem : c ∈ t.text) : t.kind = k := by
  cases h with
  | structural h =>
    obtain rfl := List.mem_singleton.1 hmem
    rw [hc] at h
    cases h
    rfl
  | arraySuffix =>
    rcases List.mem_pair.1 hmem with rfl | rfl <;> cases hc
  | text hne h =>
    rw [(h c hmem).2] at hc
    cases hc

theorem Token.Formed.chars {t : Token} (h : t.Formed) (hk : t.kind = .text) :
    t.text ≠ [] ∧ ∀ x ∈ t.text, isBlank x = false ∧ structural? x = none := by
  cases h with
  | structural h => exact absurd hk (structural?_text h).2
  | arraySuffix => cases hk
  | text hne h => exact ⟨hne, h⟩

theorem Token.Formed.not_blank {t : Token} (h : t.Formed) :
    t.text ≠ [] ∧ ∀ x ∈ t.text, isBlank x = false := by
  cases h with
  | structural h => simpa using (structural?_text h).1
  | arraySuffix => simp; decide
  | text hne h => exact ⟨hne, fun x hx => (h x hx).1⟩

/-- Blanks come first, then the first token, then the text that spells the others. -/
theorem Spelled.cons_inv {n : Nat} {cs : List Char} {t : Token} {ts : List Token}
    (h : Spelled n cs (t :: ts)) :
    ∃ gap rest, (∀ x ∈ gap, isBlank x = true) ∧ cs = gap ++ (t.text ++ rest) ∧
      t.start = n + gap.length ∧ t.Formed ∧ Spelled t.stop rest ts := by
  generalize hus : t :: ts = us at h
  induction h with
  | nil => cases hus
  | @blank n c cs us hc rest ih =>
    obtain ⟨gap, tail, hgap, rfl, hstart, formed, htail⟩ := ih hus
    refine ⟨c :: gap, tail, ?_, rfl, ?_, formed, htail⟩
    · simpa using ⟨hc, hgap⟩
    · rw [hstart, List.length_cons]; omega
  | token hn formed rest =>
    cases hus
    exact ⟨[], _, by simp, rfl, hn, formed, rest⟩

/-- A character of a text token joins the token right after it, if that is a text token too. -/
theorem Spelled.glue {n : Nat} {c : Char} {cs : List Char} {ts : List Token}
    (hc : isBlank c = false ∧ structural? c = none) (h : Spelled (n + 1) cs ts) :
    Spelled n (c :: cs) (glue c n ts) := by
  have alone : Spelled n (c :: cs) (⟨.text, [c], n⟩ :: ts) :=
    .token (t := ⟨.text, [c], n⟩) rfl (.text (by simp) (by simpa using hc)) h
  unfold Schema.glue
  split
  · next xs start rest =>
    split
    · next hs =>
      subst hs
      obtain ⟨gap, tail, -, rfl, hgap, formed, hrest⟩ := h.cons_inv
      obtain rfl : gap = [] := List.length_eq_zero_iff.1 (by simpa using hgap)
      have joined : Token.Formed ⟨.text, c :: xs, n⟩ :=
        .text (by simp) (by simpa using ⟨hc, (formed.chars rfl).2⟩)
      refine .token (t := ⟨.text, c :: xs, n⟩) rfl joined ?_
      simpa [Token.stop, Nat.add_assoc, Nat.add_comm, Nat.add_left_comm] using hrest
    · exact alone
  · exact alone

theorem spelled_lexemes (n : Nat) (cs : List Char) : Spelled n cs (lexemes n cs) := by
  fun_induction lexemes n cs with
  | case1 n => exact .nil
  | case2 n rest ih => exact .token (t := ⟨.arraySuffix, ['[', ']'], n⟩) rfl .arraySuffix ih
  | case3 n c rest _ hc ih => exact .blank hc ih
  | case4 n c rest _ hc k hk ih => exact .token (t := ⟨k, [c], n⟩) rfl (.structural hk) ih
  | case5 n c rest _ hc hk ih => exact ih.glue ⟨by simpa using hc, hk⟩

def slice (cs : List Char) (i j : Nat) : List Char := (cs.drop i).take (j - i)

theorem slice_append (cs : List Char) {i j k : Nat} (hij : i ≤ j) (hjk : j ≤ k) :
    slice cs i j ++ slice cs j k = slice cs i k := by
  unfold slice
  rw [show k - i = (j - i) + (k - j) by omega, List.take_add, List.drop_drop,
    show i + (j - i) = j by omega]

theorem slice_middle (pre mid post : List Char) :
    slice (pre ++ (mid ++ post)) pre.length (pre.length + mid.length) = mid := by
  simp [slice]

def Gap (source : List Char) (a b : Token) : Prop :=
  a.stop ≤ b.start ∧ ∀ x ∈ slice source a.stop b.start, isBlank x = true

structure Run (source : List Char) (ts : List Token) : Prop where
  formed : ∀ t ∈ ts, t.Formed
  spelled : ∀ t ∈ ts, slice source t.start t.stop = t.text
  gaps : ts.IsChain (Gap source)

theorem Spelled.run {pre cs : List Char} {ts : List Token} (h : Spelled pre.length cs ts) :
    Run (pre ++ cs) ts := by
  induction ts generalizing pre cs with
  | nil => exact ⟨by simp, by simp, .nil⟩
  | cons t ts ih =>
    obtain ⟨gap, rest, hgap, rfl, hstart, formed, hrest⟩ := h.cons_inv
    have hstop : t.stop = (pre ++ (gap ++ t.text)).length := by
      simp [Token.stop, hstart, Nat.add_assoc]
    have hsource : pre ++ (gap ++ (t.text ++ rest)) = pre ++ (gap ++ t.text) ++ rest := by simp
    have others : Run (pre ++ (gap ++ (t.text ++ rest))) ts := by
      rw [hsource]
      exact ih (hstop ▸ hrest)
    refine ⟨?_, ?_, ?_⟩
    · simpa using ⟨formed, others.formed⟩
    · refine List.forall_mem_cons.2 ⟨?_, others.spelled⟩
      have := slice_middle (pre ++ gap) t.text rest
      rwa [List.length_append, ← hstart, List.append_assoc] at this
    · cases ts with
      | nil => exact .singleton t
      | cons u us =>
        obtain ⟨between, tail, hblank, rfl, hu, -, -⟩ := hrest.cons_inv
        refine .cons_cons ⟨by omega, ?_⟩ others.gaps
        have := slice_middle (pre ++ (gap ++ t.text)) between (u.text ++ tail)
        rw [← hstop, ← hu, ← hsource] at this
        rwa [this]

theorem run_lexemes (source : List Char) : Run source (lexemes 0 source) :=
  Spelled.run (show Spelled ([] : List Char).length source _ from spelled_lexemes 0 source)

theorem suffix_behind {α : Type} (before : List α) (a : α) (after : List α) :
    after <:+ before ++ a :: after :=
  (List.suffix_cons a after).trans (List.suffix_append before (a :: after))

theorem Run.subrun {source : List Char} {ts us : List Token} (h : Run source us) (hi : ts <:+: us) :
    Run source ts :=
  ⟨fun t ht => h.formed t (hi.subset ht), fun t ht => h.spelled t (hi.subset ht),
    List.IsChain.infix h.gaps hi⟩

theorem Token.start_le_stop (t : Token) : t.start ≤ t.stop := Nat.le_add_right _ _

theorem Run.head_le_last {source : List Char} {ts : List Token} {a z : Token}
    (h : Run source ts) (ha : ts.head? = some a) (hz : ts.getLast? = some z) :
    a.start ≤ z.start := by
  induction ts generalizing a with
  | nil => cases ha
  | cons t ts ih =>
    obtain rfl : t = a := by simpa using ha
    cases ts with
    | nil => simp_all
    | cons u us =>
      have hu : u.start ≤ z.start :=
        ih (h.subrun (List.suffix_cons t _).isInfix) rfl (by simpa using hz)
      have hgap := (List.isChain_cons_cons.1 h.gaps).1.1
      have := t.start_le_stop
      omega

theorem spanText_eq_slice {source : List Char} {ts : List Token} {a z : Token}
    (ha : ts.head? = some a) (hz : ts.getLast? = some z) :
    spanText source ts = slice source a.start z.stop := by
  simp [spanText, ha, hz, slice]

theorem Run.spanText_singleton {source : List Char} {t : Token} (h : Run source [t]) :
    spanText source [t] = t.text := by
  rw [spanText_eq_slice rfl rfl]
  exact h.spelled t (by simp)

/-- The span of a run with one token more: blanks lie between. -/
theorem Run.spanText_concat {source : List Char} {ts : List Token} {t : Token}
    (h : Run source (ts ++ [t])) (hne : ts ≠ []) :
    ∃ gap, (∀ x ∈ gap, isBlank x = true) ∧
      spanText source (ts ++ [t]) = spanText source ts ++ gap ++ t.text := by
  obtain ⟨z, hz⟩ : ∃ z, ts.getLast? = some z := ⟨_, List.getLast?_eq_some_getLast hne⟩
  obtain ⟨a, ha⟩ : ∃ a, ts.head? = some a := ⟨_, List.head?_eq_some_head hne⟩
  have hts : Run source ts := h.subrun (List.prefix_append ts [t]).isInfix
  have hgap : Gap source z t := by
    have := (List.isChain_append.1 h.gaps).2.2
    exact this z (by simp [hz]) t (by simp)
  have h1 := hts.head_le_last ha hz
  have h2 := z.start_le_stop
  refine ⟨slice source z.stop t.start, hgap.2, ?_⟩
  rw [spanText_eq_slice (a := a) (z := t) (by simp [ha]) (by simp), spanText_eq_slice ha hz,
    slice_append source (by omega) hgap.1, ← h.spelled t (by simp),
    slice_append source (by have := hgap.1; omega) t.start_le_stop]

theorem Run.getLast?_spanText {source : List Char} {ts : List Token} {t : Token}
    (h : Run source (ts ++ [t])) :
    (spanText source (ts ++ [t])).getLast? = t.text.getLast? := by
  have hne := (h.formed t (by simp)).not_blank.1
  by_cases hts : ts = []
  · subst hts
    rw [List.nil_append] at h ⊢
    rw [h.spanText_singleton]
  · obtain ⟨gap, -, hspan⟩ := h.spanText_concat hts
    rw [hspan, List.getLast?_append_of_ne_nil _ hne]

theorem Run.head?_spanText {source : List Char} {t : Token} {ts : List Token}
    (h : Run source (t :: ts)) : (spanText source (t :: ts)).head? = t.text.head? := by
  have hne := (h.formed t (by simp)).not_blank.1
  obtain ⟨z, hz⟩ : ∃ z, (t :: ts).getLast? = some z := ⟨_, List.getLast?_eq_some_getLast (by simp)⟩
  have hle : t.stop ≤ z.stop := by
    cases ts with
    | nil => simp_all
    | cons u us =>
      have hu := (h.subrun (List.suffix_cons t _).isInfix).head_le_last rfl (by simpa using hz)
      have hgap := (List.isChain_cons_cons.1 h.gaps).1.1
      have := z.start_le_stop
      omega
  rw [spanText_eq_slice rfl hz, ← slice_append source t.start_le_stop hle, h.spelled t (by simp)]
  exact List.head?_append_of_ne_nil _ hne

theorem trim_append_blanks {cs gap : List Char} (hhead : ∀ c ∈ cs.head?, isBlank c = false)
    (hlast : ∀ c ∈ cs.getLast?, isBlank c = false) (hgap : ∀ c ∈ gap, isBlank c = true) :
    trim (cs ++ gap) = cs := by
  cases cs with
  | nil =>
    have hnil : gap.dropWhile isBlank = [] := List.dropWhile_eq_nil_iff.2 hgap
    simp [trim, hnil]
  | cons c cs =>
    have hc : isBlank c = false := hhead c (by simp)
    obtain ⟨init, z, hz⟩ := List.eq_nil_or_concat' (c :: cs) |>.resolve_left (by simp)
    have hblank : isBlank z = false := hlast z (by simp [hz])
    have hdrop : gap.reverse.dropWhile isBlank = [] :=
      List.dropWhile_eq_nil_iff.2 (by simpa using hgap)
    rw [trim, List.cons_append, List.dropWhile_cons_of_neg (by simp [hc]), ← List.cons_append, hz,
      List.reverse_append, List.dropWhile_append, hdrop]
    simp [hblank]

/-- A span of tokens has nothing to trim, and blanks behind it are trimmed. -/
theorem Run.trim_spanText {source gap : List Char} {ts : List Token} (h : Run source ts)
    (hgap : ∀ c ∈ gap, isBlank c = true) :
    trim (spanText source ts ++ gap) = spanText source ts := by
  by_cases hts : ts = []
  · subst hts
    exact trim_append_blanks (by simp [spanText]) (by simp [spanText]) hgap
  refine trim_append_blanks ?_ ?_ hgap
  · obtain ⟨t, ts, rfl⟩ := List.exists_cons_of_ne_nil hts
    intro c hc
    rw [h.head?_spanText] at hc
    exact (h.formed t (by simp)).not_blank.2 c (List.mem_of_head? hc)
  · obtain ⟨ts, t, rfl⟩ := List.eq_nil_or_concat' ts |>.resolve_left hts
    intro c hc
    rw [h.getLast?_spanText] at hc
    exact (h.formed t (by simp)).not_blank.2 c (List.mem_of_getLast? hc)

end Conform.Schema
