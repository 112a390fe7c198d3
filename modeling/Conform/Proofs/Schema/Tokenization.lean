import Conform.Proofs.Schema.Maximal

/-! Tokens told by their spans. Which characters they cover, what they have as text and which forms
they may have leaves one list of tokens for every text, and tokenizing finds it. -/

namespace Conform.Schema

def Covered (ts : List Token) (i : Nat) : Prop := ∃ t ∈ ts, t.start ≤ i ∧ i < t.stop

theorem covered_cons {t : Token} {ts : List Token} {i : Nat} :
    Covered (t :: ts) i ↔ t.start ≤ i ∧ i < t.stop ∨ Covered ts i := by
  simp [Covered]

/-- The tokens of a text, before its end: in order and without overlap, with the characters of their
spans as text, over everything but the blanks. Structural characters and array suffixes are tokens
of their own wherever they stand, and the other tokens are text and as long as they can be. -/
structure Covers (source : List Char) (ts : List Token) : Prop where
  formed : ∀ t ∈ ts, t.Formed
  unended : ∀ t ∈ ts, t.kind ≠ .eof
  spelled : ∀ t ∈ ts, slice source t.start t.stop = t.text
  ordered : ts.Pairwise fun t u => t.stop ≤ u.start
  covered : ∀ i c, source[i]? = some c → (Covered ts i ↔ isBlank c = false)
  structural : ∀ i c k, source[i]? = some c → structural? c = some k → ⟨k, [c], i⟩ ∈ ts
  suffixes : ∀ i, ['[', ']'] <+: source.drop i → ⟨.arraySuffix, ['[', ']'], i⟩ ∈ ts
  maximal : Maximal ts

def IsTokenization (source : List Char) (all : List Token) : Prop :=
  ∃ ts, all = ts ++ [⟨.eof, [], source.length⟩] ∧ Covers source ts

section Spelled

variable {n : Nat} {cs : List Char} {ts : List Token}

theorem Spelled.le_start (h : Spelled n cs ts) : ∀ t ∈ ts, n ≤ t.start := by
  induction h with
  | nil => simp
  | blank hc _ ih =>
    intro t ht
    have := ih t ht
    omega
  | @token n t cs ts hn formed _ ih =>
    intro u hu
    rcases List.mem_cons.1 hu with rfl | hu
    · omega
    · have := ih u hu
      have := t.start_le_stop
      omega

theorem Spelled.ordered (h : Spelled n cs ts) : ts.Pairwise fun t u => t.stop ≤ u.start := by
  induction h with
  | nil => exact .nil
  | blank hc _ ih => exact ih
  | token hn formed rest ih => exact .cons rest.le_start ih

theorem Spelled.covered_iff (h : Spelled n cs ts) {i : Nat} {c : Char} (hi : cs[i]? = some c) :
    Covered ts (n + i) ↔ isBlank c = false := by
  induction h generalizing i with
  | nil => simp at hi
  | @blank n d cs ts hd rest ih =>
    cases i with
    | zero =>
      obtain rfl : d = c := by simpa using hi
      have hnone : ¬ Covered ts n := by
        rintro ⟨t, ht, hstart, -⟩
        have := rest.le_start t ht
        omega
      simp [hd, hnone]
    | succ i =>
      have := ih (by simpa using hi)
      rwa [Nat.add_right_comm] at this
  | @token n t cs ts hn formed rest ih =>
    rw [covered_cons]
    by_cases hlt : i < t.text.length
    · rw [List.getElem?_append_left hlt] at hi
      have hover : t.start ≤ n + i ∧ n + i < t.stop := by
        rw [Token.stop]
        omega
      have hc : isBlank c = false := formed.not_blank.2 c (List.mem_of_getElem? hi)
      simp [hover, hc]
    · rw [List.getElem?_append_right (by omega)] at hi
      have hbehind : t.stop + (i - t.text.length) = n + i := by
        rw [Token.stop]
        omega
      have hover : ¬ (t.start ≤ n + i ∧ n + i < t.stop) := by omega
      rw [← ih hi, hbehind]
      simp [hover]

end Spelled

theorem Token.Formed.kind_ne_eof {t : Token} (h : t.Formed) : t.kind ≠ .eof := by
  cases h with
  | structural h =>
    unfold structural? at h
    split at h <;> cases h <;> simp
  | arraySuffix => simp
  | text => simp

theorem covers_lexemes (source : List Char) : Covers source (lexemes 0 source) := by
  have hrun := run_lexemes source
  have hspelled := spelled_lexemes 0 source
  refine ⟨hrun.formed, fun t ht => (hrun.formed t ht).kind_ne_eof, hrun.spelled, hspelled.ordered,
    ?_, ?_, ?_, maximal_lexemes 0 source⟩
  · intro i c hi
    have := hspelled.covered_iff hi
    rwa [Nat.zero_add] at this
  · intro i c k hi hk
    obtain ⟨hlt, hc⟩ := List.getElem?_eq_some_iff.1 hi
    have hsplit : source = source.take i ++ c :: source.drop (i + 1) := by
      rw [← hc, ← List.drop_eq_getElem_cons hlt, List.take_append_drop]
    have hlength : (source.take i).length = i := List.length_take_of_le (by omega)
    rw [hsplit, lexemes_structural hk, hlength]
    simp
  · rintro i ⟨rest, hrest⟩
    have hlt : i < source.length := by
      have := congrArg List.length hrest
      simp at this
      omega
    have hsplit : source = source.take i ++ '[' :: ']' :: rest := by
      conv_lhs => rw [← List.take_append_drop i source, ← hrest]
      rfl
    have hlength : (source.take i).length = i := List.length_take_of_le (by omega)
    rw [hsplit, lexemes_suffix, hlength]
    simp

theorem slice_append_drop (cs : List Char) {i j : Nat} (h : i ≤ j) :
    slice cs i j ++ cs.drop j = cs.drop i := by
  have hdrop : cs.drop j = (cs.drop i).drop (j - i) := by
    rw [List.drop_drop, show i + (j - i) = j by omega]
  rw [slice, hdrop, List.take_append_drop]

/-- From an offset on, tokens with only blanks around them are spelled out by the text. -/
theorem spelled_drop {source : List Char} {n : Nat} {ts : List Token}
    (formed : ∀ t ∈ ts, t.Formed) (spelled : ∀ t ∈ ts, slice source t.start t.stop = t.text)
    (ordered : ts.Pairwise fun t u => t.stop ≤ u.start) (start : ∀ t ∈ ts, n ≤ t.start)
    (blank : ∀ i c, n ≤ i → source[i]? = some c → ¬ Covered ts i → isBlank c = true) :
    Spelled n (source.drop n) ts := by
  induction ts generalizing n with
  | nil =>
    have hblank : ∀ c ∈ source.drop n, isBlank c = true := by
      intro c hc
      obtain ⟨i, hi⟩ := List.mem_iff_getElem?.1 hc
      rw [List.getElem?_drop] at hi
      exact blank (n + i) c (Nat.le_add_right n i) hi (by simp [Covered])
    have := Spelled.blanks hblank (.nil (n := n + (source.drop n).length))
    rwa [List.append_nil] at this
  | cons t ts ih =>
    obtain ⟨hformed, formed⟩ := List.forall_mem_cons.1 formed
    obtain ⟨hspelled, spelled⟩ := List.forall_mem_cons.1 spelled
    obtain ⟨hstart, -⟩ := List.forall_mem_cons.1 start
    obtain ⟨hbehind, ordered⟩ := List.pairwise_cons.1 ordered
    have hle := t.start_le_stop
    have hstop : t.stop ≤ source.length := hformed.stop_le_length hspelled
    have hgap : ∀ c ∈ slice source n t.start, isBlank c = true := by
      intro c hc
      obtain ⟨i, hi⟩ := List.mem_iff_getElem?.1 hc
      rw [slice, List.getElem?_take] at hi
      split at hi
      · next hlt =>
        rw [List.getElem?_drop] at hi
        refine blank (n + i) c (Nat.le_add_right n i) hi ?_
        rw [covered_cons]
        rintro (hover | ⟨u, hu, hover⟩)
        · omega
        · have := hbehind u hu
          omega
      · cases hi
    have hlength : n + (slice source n t.start).length = t.start := by
      rw [slice, List.length_take, List.length_drop]
      omega
    have hsplit : slice source n t.start ++ (t.text ++ source.drop t.stop) = source.drop n := by
      rw [← hspelled, slice_append_drop source hle, slice_append_drop source hstart]
    rw [← hsplit]
    refine .blanks hgap (.token hlength.symm hformed ?_)
    refine ih formed spelled ordered hbehind fun i c hi hc hnot => ?_
    refine blank i c (by omega) hc ?_
    rw [covered_cons]
    rintro (hover | hover)
    · omega
    · exact hnot hover

/-- Only the tokens of a text cover it. -/
theorem Covers.eq_lexemes {source : List Char} {ts : List Token} (h : Covers source ts) :
    ts = lexemes 0 source := by
  have hspelled : Spelled 0 (source.drop 0) ts := by
    refine spelled_drop h.formed h.spelled h.ordered (fun t _ => Nat.zero_le _) ?_
    intro i c _ hi hnot
    rwa [h.covered i c hi, Bool.not_eq_false] at hnot
  exact (hspelled.eq_lexemes h.maximal).symm

/-- For every text there is one list of tokens that cover it with an end marker behind them, and
this is the one that tokenizing gives. -/
theorem isTokenization_iff (source : List Char) (all : List Token) :
    IsTokenization source all ↔ all = tokenize source := by
  constructor
  · rintro ⟨ts, rfl, h⟩
    rw [h.eq_lexemes, tokenize]
  · rintro rfl
    exact ⟨lexemes 0 source, rfl, covers_lexemes source⟩

example : tokenize "[[]] [".toList =
    [⟨.text, ['['], 0⟩, ⟨.arraySuffix, ['[', ']'], 1⟩, ⟨.text, [']'], 3⟩, ⟨.text, ['['], 5⟩,
      ⟨.eof, [], 6⟩] := by decide

end Conform.Schema
