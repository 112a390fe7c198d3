import Conform.Proofs.Schema.Lexeme

/-! The tokens of a text are the only maximal ones that it spells out. So a text that is put
together has the tokens of its parts, as long as no two text tokens meet; and what some tokens of a
text span has just these tokens. -/

namespace Conform.Schema

/-- No text token has an array suffix in it, and no two of them touch. -/
structure Maximal (ts : List Token) : Prop where
  unsplit : ∀ t ∈ ts, t.kind = .text → ¬ ['[', ']'] <:+: t.text
  apart : ts.IsChain fun t u => t.kind = .text → u.kind = .text → t.stop ≠ u.start

theorem Maximal.subrun {ts us : List Token} (h : Maximal us) (hi : ts <:+: us) : Maximal ts :=
  ⟨fun t ht => h.unsplit t (hi.subset ht), List.IsChain.infix h.apart hi⟩

theorem Maximal.cons {t : Token} {ts : List Token} (h : Maximal ts)
    (ht : t.kind = .text → ¬ ['[', ']'] <:+: t.text)
    (hts : ∀ u ∈ ts.head?, t.kind = .text → u.kind = .text → t.stop ≠ u.start) :
    Maximal (t :: ts) := by
  refine ⟨List.forall_mem_cons.2 ⟨ht, h.unsplit⟩, ?_⟩
  cases ts with
  | nil => exact .singleton t
  | cons u us => exact .cons_cons (hts u (by simp)) h.apart

theorem Maximal.append {ts us : List Token} (hts : Maximal ts) (hus : Maximal us)
    (h : ∀ t ∈ ts.getLast?, ∀ u ∈ us.head?, t.kind = .text → u.kind = .text → t.stop ≠ u.start) :
    Maximal (ts ++ us) := by
  refine ⟨fun t ht => ?_, List.isChain_append.2 ⟨hts.apart, hus.apart, h⟩⟩
  rcases List.mem_append.1 ht with ht | ht
  · exact hts.unsplit t ht
  · exact hus.unsplit t ht

theorem Spelled.cons_cases {n : Nat} {c : Char} {cs : List Char} {ts : List Token}
    (h : Spelled n (c :: cs) ts) :
    (isBlank c = true ∧ Spelled (n + 1) cs ts) ∨
      isBlank c = false ∧ ∃ t us rest, ts = t :: us ∧ t.start = n ∧ t.Formed ∧
        c :: cs = t.text ++ rest ∧ Spelled t.stop rest us := by
  generalize hxs : c :: cs = xs at h
  cases h with
  | nil => cases hxs
  | blank hc rest =>
    cases hxs
    exact .inl ⟨hc, rest⟩
  | @token _ t rest us hn formed hrest =>
    refine .inr ⟨?_, t, us, rest, rfl, hn, formed, rfl, hrest⟩
    obtain ⟨hne, hblank⟩ := formed.not_blank
    obtain ⟨x, text, htext⟩ := List.exists_cons_of_ne_nil hne
    rw [htext] at hxs hblank
    obtain ⟨rfl, -⟩ := List.cons.inj hxs
    exact hblank c List.mem_cons_self

theorem Spelled.nil_inv {n : Nat} {ts : List Token} (h : Spelled n [] ts) : ts = [] := by
  cases ts with
  | nil => rfl
  | cons t ts =>
    obtain ⟨gap, rest, -, hcs, -, formed, -⟩ := h.cons_inv
    simp [formed.not_blank.1] at hcs

theorem Spelled.first {n : Nat} {c : Char} {cs : List Char} {ts : List Token}
    (h : Spelled n (c :: cs) ts) (hc : isBlank c = false) :
    ∃ t us rest, ts = t :: us ∧ t.start = n ∧ t.Formed ∧ c :: cs = t.text ++ rest ∧
      Spelled t.stop rest us := by
  rcases h.cons_cases with ⟨hblank, -⟩ | ⟨-, hfirst⟩
  · rw [hc] at hblank
    cases hblank
  · exact hfirst

theorem Spelled.append {n : Nat} {xs ys : List Char} {ts us : List Token} (hxs : Spelled n xs ts)
    (hys : Spelled (n + xs.length) ys us) : Spelled n (xs ++ ys) (ts ++ us) := by
  induction hxs with
  | nil => exact hys
  | blank hc _ ih =>
    refine .blank hc (ih ?_)
    rwa [Nat.add_right_comm]
  | @token n t cs ts hn formed _ ih =>
    rw [List.append_assoc]
    refine .token hn formed (ih ?_)
    rwa [Token.stop, hn, Nat.add_assoc, ← List.length_append]

theorem Spelled.blanks {n : Nat} {gap cs : List Char} {ts : List Token}
    (hgap : ∀ c ∈ gap, isBlank c = true) (h : Spelled (n + gap.length) cs ts) :
    Spelled n (gap ++ cs) ts := by
  induction gap generalizing n with
  | nil => exact h
  | cons c gap ih =>
    obtain ⟨hc, hgap⟩ := List.forall_mem_cons.1 hgap
    refine .blank hc (ih hgap ?_)
    rwa [Nat.add_assoc, Nat.add_comm 1, ← List.length_cons]

/-- A token's kind is told by its first two characters, but for text tokens. -/
theorem Token.Formed.of_structural {t : Token} {c : Char} {k : TokenKind} {cs rest : List Char}
    (h : t.Formed) (hc : structural? c = some k) (htext : c :: cs = t.text ++ rest) :
    t = ⟨k, [c], t.start⟩ ∧ rest = cs := by
  cases h with
  | structural h =>
    obtain ⟨rfl, rfl⟩ := List.cons.inj htext
    rw [hc] at h
    cases h
    exact ⟨rfl, rfl⟩
  | arraySuffix =>
    obtain ⟨rfl, -⟩ := List.cons.inj htext
    cases hc
  | @text xs _ hne h =>
    obtain ⟨x, xs, rfl⟩ := List.exists_cons_of_ne_nil hne
    obtain ⟨rfl, -⟩ := List.cons.inj htext
    rw [(h c List.mem_cons_self).2] at hc
    cases hc

theorem Token.Formed.of_text {t : Token} {c : Char} {cs rest : List Char} (h : t.Formed)
    (hc : structural? c = none) (hcs : ∀ ds, c = '[' → cs ≠ ']' :: ds)
    (htext : c :: cs = t.text ++ rest) :
    ∃ xs, t = ⟨.text, c :: xs, t.start⟩ ∧ cs = xs ++ rest := by
  cases h with
  | structural h =>
    obtain ⟨rfl, -⟩ := List.cons.inj htext
    rw [hc] at h
    cases h
  | arraySuffix =>
    obtain ⟨rfl, rfl⟩ := List.cons.inj htext
    exact absurd rfl (hcs rest rfl)
  | @text xs _ hne h =>
    obtain ⟨x, xs, rfl⟩ := List.exists_cons_of_ne_nil hne
    obtain ⟨rfl, rfl⟩ := List.cons.inj htext
    exact ⟨xs, rfl, rfl⟩

theorem Maximal.glue {n : Nat} {c : Char} {cs : List Char} {ts : List Token} (h : Maximal ts)
    (hspelled : Spelled (n + 1) cs ts) (hcs : ∀ ds, c = '[' → cs ≠ ']' :: ds) :
    Maximal (glue c n ts) := by
  have alone : ¬ ['[', ']'] <:+: [c] := fun hin => by simpa using hin.length_le
  unfold Schema.glue
  split
  · next xs start rest =>
    split
    · next hstart =>
      subst hstart
      obtain ⟨gap, tail, -, rfl, hgap, -, -⟩ := hspelled.cons_inv
      obtain rfl : gap = [] := List.length_eq_zero_iff.1 (by simpa using hgap)
      refine Maximal.cons (h.subrun (List.suffix_cons _ _).isInfix) (fun _ hin => ?_) ?_
      · rcases List.infix_cons_iff.1 hin with ⟨ds, hds⟩ | hin
        · obtain ⟨rfl, rfl⟩ := List.cons.inj hds
          exact hcs (ds ++ tail) rfl rfl
        · exact h.unsplit _ List.mem_cons_self rfl hin
      · intro u hu _ huk
        obtain ⟨us, rfl⟩ := List.head?_eq_some_iff.1 hu
        have := (List.isChain_cons_cons.1 h.apart).1 rfl huk
        simp only [Token.stop, List.length_cons] at this ⊢
        omega
    · next hstart =>
      refine h.cons (fun _ => alone) fun u hu _ _ heq => hstart ?_
      cases hu
      exact heq.symm
  · next hne =>
    refine h.cons (fun _ => alone) fun u hu _ huk => ?_
    obtain ⟨us, rfl⟩ := List.head?_eq_some_iff.1 hu
    obtain ⟨kind, text, start⟩ := u
    cases huk
    exact absurd rfl (hne text start us)

theorem maximal_lexemes (n : Nat) (cs : List Char) : Maximal (lexemes n cs) := by
  fun_induction lexemes n cs with
  | case1 n => exact ⟨by simp, .nil⟩
  | case2 n rest ih => exact ih.cons (by simp) (by simp)
  | case3 n c rest _ hc ih => exact ih
  | case4 n c rest _ hc k hk ih =>
    have hne := (structural?_text hk).2
    exact ih.cons (fun h => absurd h hne) fun u _ h => absurd h hne
  | case5 n c rest hrest hc hk ih =>
    exact ih.glue (spelled_lexemes (n + 1) rest) fun ds hds heq => hrest ds hds heq

/-- Maximal tokens that a text spells out are its tokens. -/
theorem Spelled.eq_lexemes {n : Nat} {cs : List Char} {ts : List Token} (h : Spelled n cs ts)
    (hmax : Maximal ts) : lexemes n cs = ts := by
  fun_induction lexemes n cs generalizing ts with
  | case1 n => exact h.nil_inv.symm
  | case2 n rest ih =>
    obtain ⟨t, us, tail, rfl, rfl, formed, htext, hrest⟩ := h.first rfl
    cases formed with
    | structural hk =>
      obtain ⟨rfl, -⟩ := List.cons.inj htext
      cases hk
    | arraySuffix =>
      obtain rfl : rest = tail := by simpa using htext
      rw [ih hrest (hmax.subrun (List.suffix_cons _ _).isInfix)]
    | @text xs _ hne _ =>
      -- a text token that begins here ends within the suffix, and another one goes on
      obtain ⟨x, xs, rfl⟩ := List.exists_cons_of_ne_nil hne
      obtain ⟨rfl, htail⟩ := List.cons.inj htext
      cases xs with
      | cons y ys =>
        obtain ⟨rfl, -⟩ := List.cons.inj htail
        have hin : ['[', ']'] <:+: '[' :: ']' :: ys := (List.prefix_append ['[', ']'] ys).isInfix
        exact absurd hin (hmax.unsplit _ List.mem_cons_self rfl)
      | nil =>
        obtain rfl : ']' :: rest = tail := htail
        obtain ⟨u, vs, tail, rfl, hu, formed, htext, -⟩ := hrest.first rfl
        obtain ⟨ys, hys, -⟩ := formed.of_text rfl (by simp) htext
        have hkind : u.kind = .text := by rw [hys]
        exact absurd hu.symm ((List.isChain_cons_cons.1 hmax.apart).1 rfl hkind)
  | case3 n c rest _ hc ih =>
    rcases h.cons_cases with ⟨-, hrest⟩ | ⟨hblank, -⟩
    · exact ih hrest hmax
    · rw [hc] at hblank
      cases hblank
  | case4 n c rest _ hc k hk ih =>
    obtain ⟨t, us, tail, rfl, rfl, formed, htext, hrest⟩ := h.first (structural?_text hk).1
    obtain ⟨ht, rfl⟩ := formed.of_structural hk htext
    rw [ht] at hrest ⊢
    rw [ih hrest (hmax.subrun (List.suffix_cons _ _).isInfix)]
  | case5 n c rest hcs hc hk ih =>
    obtain ⟨t, us, tail, rfl, rfl, formed, htext, hrest⟩ := h.first (by simpa using hc)
    obtain ⟨xs, ht, rfl⟩ := formed.of_text hk (fun ds hds heq => hcs ds hds heq) htext
    generalize hstart : t.start = start at *
    subst ht
    have hmaxUs : Maximal us := hmax.subrun (List.suffix_cons _ _).isInfix
    cases xs with
    | nil =>
      rw [List.nil_append] at ih ⊢
      rw [ih hrest hmaxUs]
      unfold Schema.glue
      split
      · next ys k vs =>
        have hapart := (List.isChain_cons_cons.1 hmax.apart).1 rfl rfl
        rw [if_neg fun heq => hapart heq.symm]
      · rfl
    | cons x xs =>
      -- the same token begins one character later, and takes the first character in again
      have formed' : Token.Formed ⟨.text, x :: xs, start + 1⟩ :=
        .text (by simp) fun y hy => (formed.chars rfl).2 y (List.mem_cons_of_mem c hy)
      have hstop : Token.stop ⟨.text, x :: xs, start + 1⟩ =
          Token.stop ⟨.text, c :: x :: xs, start⟩ := by
        simp only [Token.stop, List.length_cons]
        omega
      have hspelled : Spelled (start + 1) (x :: xs ++ tail) (⟨.text, x :: xs, start + 1⟩ :: us) :=
        .token (t := ⟨.text, x :: xs, start + 1⟩) rfl formed' (hstop ▸ hrest)
      have hmax' : Maximal (⟨.text, x :: xs, start + 1⟩ :: us) := by
        refine hmaxUs.cons (fun _ hin => ?_) fun u hu _ huk => ?_
        · exact hmax.unsplit _ List.mem_cons_self rfl (List.infix_cons hin)
        · obtain ⟨vs, rfl⟩ := List.head?_eq_some_iff.1 hu
          rw [hstop]
          exact (List.isChain_cons_cons.1 hmax.apart).1 rfl huk
      rw [ih hspelled hmax']
      simp [Schema.glue]

/-- A text in two parts has the tokens of both, unless two text tokens touch between them. -/
theorem lexemes_append {n : Nat} {xs ys : List Char}
    (h : ∀ t ∈ (lexemes n xs).getLast?, ∀ u ∈ (lexemes (n + xs.length) ys).head?,
      t.kind = .text → u.kind = .text → t.stop ≠ u.start) :
    lexemes n (xs ++ ys) = lexemes n xs ++ lexemes (n + xs.length) ys :=
  ((spelled_lexemes n xs).append (spelled_lexemes _ ys)).eq_lexemes
    ((maximal_lexemes n xs).append (maximal_lexemes _ ys) h)

@[simp] theorem lexemes_nil (n : Nat) : lexemes n [] = [] := rfl

theorem lexemes_cons_suffix (n : Nat) (cs : List Char) :
    lexemes n ('[' :: ']' :: cs) = ⟨.arraySuffix, ['[', ']'], n⟩ :: lexemes (n + 2) cs := rfl

theorem lexemes_cons {c : Char} {cs : List Char} (hcs : ∀ ds, c = '[' → cs ≠ ']' :: ds) (n : Nat) :
    lexemes n (c :: cs) =
      if isBlank c then lexemes (n + 1) cs
      else match structural? c with
        | some k => ⟨k, [c], n⟩ :: lexemes (n + 1) cs
        | none => glue c n (lexemes (n + 1) cs) := by
  conv_lhs => unfold lexemes
  split
  · next h => cases h
  · next ds h =>
    cases h
    exact absurd rfl (hcs _ rfl)
  · next h =>
    cases h
    rfl

theorem lexemes_cons_blank {c : Char} (hc : isBlank c = true) (n : Nat) (cs : List Char) :
    lexemes n (c :: cs) = lexemes (n + 1) cs := by
  rw [lexemes_cons, if_pos hc]
  rintro ds rfl -
  cases hc

theorem lexemes_cons_structural {c : Char} {k : TokenKind} (hk : structural? c = some k) (n : Nat)
    (cs : List Char) : lexemes n (c :: cs) = ⟨k, [c], n⟩ :: lexemes (n + 1) cs := by
  rw [lexemes_cons, if_neg (by simp [(structural?_text hk).1]), hk]
  rintro ds rfl -
  cases hk

theorem lexemes_structural {c : Char} {k : TokenKind} (hk : structural? c = some k) (n : Nat)
    (xs ys : List Char) :
    lexemes n (xs ++ c :: ys) =
      lexemes n xs ++ ⟨k, [c], n + xs.length⟩ :: lexemes (n + xs.length + 1) ys := by
  rw [lexemes_append, lexemes_cons_structural hk]
  rw [lexemes_cons_structural hk]
  rintro t - u hu - huk
  cases hu
  exact absurd huk (structural?_text hk).2

theorem lexemes_suffix (n : Nat) (xs ys : List Char) :
    lexemes n (xs ++ '[' :: ']' :: ys) =
      lexemes n xs ++ ⟨.arraySuffix, ['[', ']'], n + xs.length⟩ ::
        lexemes (n + xs.length + 2) ys := by
  rw [lexemes_append, lexemes_cons_suffix]
  rw [lexemes_cons_suffix]
  rintro t - u hu - huk
  cases hu
  cases huk

theorem lexemes_enclosed (n : Nat) (cs : List Char) :
    lexemes n ('{' :: (cs ++ ['}'])) =
      ⟨.openBrace, ['{'], n⟩ ::
        (lexemes (n + 1) cs ++ [⟨.closeBrace, ['}'], n + 1 + cs.length⟩]) := by
  rw [lexemes_cons_structural rfl, lexemes_structural rfl, lexemes_nil]

def Token.shift (k : Nat) (t : Token) : Token := { t with start := t.start + k }

theorem glue_shift (c : Char) (n k : Nat) (ts : List Token) :
    glue c (n + k) (ts.map (Token.shift k)) = (glue c n ts).map (Token.shift k) := by
  cases ts with
  | nil => rfl
  | cons t ts =>
    obtain ⟨kind, text, start⟩ := t
    cases kind with
    | text =>
      by_cases h : start = n + 1
      · simp [glue, Token.shift, h, Nat.add_right_comm]
      · have h' : ¬ start + k = n + k + 1 := by omega
        simp [glue, Token.shift, h, h']
    | _ => rfl

/-- Where a text begins matters to the offsets of its tokens, and to nothing else. -/
theorem lexemes_shift (n k : Nat) (cs : List Char) :
    lexemes (n + k) cs = (lexemes n cs).map (Token.shift k) := by
  fun_induction lexemes n cs with
  | case1 n => simp
  | case2 n rest ih => rw [lexemes_cons_suffix, Nat.add_right_comm, ih]; rfl
  | case3 n c rest _ hc ih => rw [lexemes_cons_blank hc, Nat.add_right_comm, ih]
  | case4 n c rest _ hc k' hk ih =>
    rw [lexemes_cons_structural hk, Nat.add_right_comm, ih]
    rfl
  | case5 n c rest hcs hc hk ih =>
    rw [← glue_shift, ← ih, Nat.add_right_comm, lexemes_cons fun ds hds heq => hcs ds hds heq,
      if_neg hc, hk]

theorem lexemes_eq_shift (k : Nat) (cs : List Char) :
    lexemes k cs = (lexemes 0 cs).map (Token.shift k) := by
  rw [← lexemes_shift, Nat.zero_add]

theorem Token.Formed.stop_le_length {source : List Char} {t : Token} (h : t.Formed)
    (hspelled : slice source t.start t.stop = t.text) : t.stop ≤ source.length := by
  have hlength := congrArg List.length hspelled
  have hpos := List.length_pos_iff.2 h.not_blank.1
  simp only [slice, List.length_take, List.length_drop, Token.stop] at hlength ⊢
  omega

theorem Run.stop_le_length {source : List Char} {ts : List Token} (h : Run source ts) {t : Token}
    (ht : t ∈ ts) : t.stop ≤ source.length :=
  (h.formed t ht).stop_le_length (h.spelled t ht)

/-- What some tokens span spells out these tokens. -/
theorem Run.spelled_spanText {source : List Char} {ts : List Token} {a : Token}
    (h : Run source ts) (ha : ts.head? = some a) : Spelled a.start (spanText source ts) ts := by
  induction ts generalizing a with
  | nil => cases ha
  | cons t ts ih =>
    obtain rfl : t = a := by simpa using ha
    have formed := h.formed t (by simp)
    cases ts with
    | nil =>
      have hspelled := Spelled.token rfl formed (.nil (n := t.stop))
      rwa [List.append_nil, ← h.spanText_singleton] at hspelled
    | cons u us =>
      have hrest : Run source (u :: us) := h.subrun (List.suffix_cons _ _).isInfix
      have hgap := (List.isChain_cons_cons.1 h.gaps).1
      obtain ⟨z, hz⟩ : ∃ z, (u :: us).getLast? = some z :=
        ⟨_, List.getLast?_eq_some_getLast (by simp)⟩
      have huz := hrest.head_le_last rfl hz
      have hspan : spanText source (t :: u :: us) =
          t.text ++ (slice source t.stop u.start ++ spanText source (u :: us)) := by
        have hle := t.start_le_stop
        have hstop := z.start_le_stop
        have hspelled := h.spelled t (by simp)
        rw [spanText_eq_slice (a := t) (z := z) rfl (by simpa using hz), spanText_eq_slice rfl hz,
          slice_append source hgap.1 (by omega), ← hspelled]
        exact (slice_append source hle (by have := hgap.1; omega)).symm
      have hlength : t.stop + (slice source t.stop u.start).length = u.start := by
        have hle := hgap.1
        have hu := u.start_le_stop
        have hsource := hrest.stop_le_length (t := u) (by simp)
        simp only [slice, List.length_take, List.length_drop]
        omega
      rw [hspan]
      refine .token rfl formed (.blanks hgap.2 ?_)
      rw [hlength]
      exact ih hrest rfl

/-- What some tokens of a text span has just these tokens. -/
theorem lexemes_spanText {source : List Char} {ts : List Token} {a : Token} (n : Nat)
    (h : ts <:+: lexemes n source) (hrun : Run source ts) (ha : ts.head? = some a) :
    lexemes a.start (spanText source ts) = ts :=
  (hrun.spelled_spanText ha).eq_lexemes ((maximal_lexemes n source).subrun h)

end Conform.Schema
