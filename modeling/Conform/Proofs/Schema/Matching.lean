import Conform.Proofs.Schema.Depth

/-! Matching braces on characters and on tokens. A text and its tokens go up and down together, so the
search for a partner ends at the same brace on both, and on neither if there is none; and a text that
ends where a token begins is spelled out by the tokens before it. -/

namespace Conform.Schema

/-- The index of the brace that closes the one at index `i`, if it stands before index `hi`: what the
parser looks for behind an opening brace, counted from the first token of the text. -/
def closeBefore? (ts : List Token) (i hi : Nat) : Option Nat :=
  (closeIndex? tokenBrace 0 ((ts.take hi).drop (i + 1))).map (i + 1 + ·)

variable {n : Nat} {cs source : List Char} {ts us : List Token}

/-- A token opens and closes as many braces as its characters. -/
theorem Token.Formed.level_text {t : Token} (h : t.Formed) (d : Nat) :
    level charBrace d t.text = level tokenBrace d [t] := by
  cases h with
  | structural h =>
    unfold structural? at h
    split at h <;> cases h <;> cases d <;> rfl
  | arraySuffix => rfl
  | text hne h => exact level_of_neither (fun c hc => charBrace_of_plain (h c hc).2) d

theorem Token.Formed.closing_of_level {t : Token} {d : Nat} (h : t.Formed)
    (hlevel : level tokenBrace d [t] = none) : d = 0 ∧ t.text = ['}'] ∧ tokenBrace t = .closing := by
  cases hbrace : tokenBrace t with
  | opening => simp [level, hbrace] at hlevel
  | neither => simp [level, hbrace] at hlevel
  | closing =>
    cases d with
    | succ d => simp [level, hbrace] at hlevel
    | zero => exact ⟨rfl, h.text_of_structural (k := .closeBrace) rfl (tokenBrace_eq_closing.1 hbrace), rfl⟩

/-- The search for a partner among the characters ends where the token begins that it ends at among
the tokens. -/
theorem Spelled.closeIndex?_eq (h : Spelled n cs ts) (d : Nat) :
    (closeIndex? charBrace d cs).map (n + ·) =
      (closeIndex? tokenBrace d ts).bind fun j => ts[j]?.map Token.start := by
  induction h generalizing d with
  | nil => rfl
  | @blank n c cs ts hc _ ih =>
    rw [← ih]
    simp only [closeIndex?, charBrace_of_blank hc, Option.map_map]
    refine congrArg (Option.map · _) (funext fun k => ?_)
    rw [Function.comp_apply]
    omega
  | @token n t cs ts hn formed _ ih =>
    cases hlevel : level tokenBrace d [t] with
    | some e =>
      have htext : level charBrace d t.text = some e := (formed.level_text d).trans hlevel
      have htokens := closeIndex?_append hlevel ts
      rw [List.singleton_append] at htokens
      rw [closeIndex?_append htext, htokens, Option.map_map, Option.bind_map]
      refine Eq.trans ?_ (ih e)
      refine congrArg (Option.map · _) (funext fun k => ?_)
      rw [Function.comp_apply, Token.stop, hn]
      omega
    | none =>
      obtain ⟨rfl, htext, hclose⟩ := formed.closing_of_level hlevel
      simp [closeIndex?, htext, hclose, charBrace, hn]

theorem Spelled.before_token {u : Token} (h : Spelled 0 source (ts ++ u :: us)) :
    Spelled 0 (source.take u.start) ts := by
  obtain ⟨xs, ys, rfl, hxs, hys⟩ := h.append_inv
  obtain ⟨gap, rest, hgap, rfl, hstart, -, -⟩ := hys.cons_inv
  have hgaps : Spelled (0 + xs.length) gap [] := by
    simpa using Spelled.blanks hgap .nil
  have hlength : u.start = (xs ++ gap).length := by simp [hstart]
  rw [← List.append_assoc, hlength, List.take_left]
  simpa using hxs.append hgaps

theorem Spelled.behind_token {u : Token} (h : Spelled 0 source (ts ++ u :: us)) :
    u.Formed ∧ Spelled u.stop (source.drop u.stop) us := by
  obtain ⟨xs, ys, rfl, hxs, hys⟩ := h.append_inv
  obtain ⟨gap, rest, hgap, rfl, hstart, formed, hrest⟩ := hys.cons_inv
  refine ⟨formed, ?_⟩
  have hlength : u.stop = (xs ++ (gap ++ u.text)).length := by
    simp [Token.stop, hstart, Nat.add_assoc]
  have hsplit : xs ++ (gap ++ (u.text ++ rest)) = xs ++ (gap ++ u.text) ++ rest := by simp
  rw [hsplit]
  nth_rewrite 2 [hlength]
  rwa [List.drop_left]

theorem spelled_take {hi : Nat} {bound : Token} (h : (tokenize source)[hi]? = some bound) :
    Spelled 0 (source.take bound.start) ((tokenize source).take hi) := by
  have hspelled := spelled_lexemes 0 source
  rcases Nat.lt_trichotomy hi (lexemes 0 source).length with hlt | heq | hgt
  · rw [tokenize, List.getElem?_append_left hlt] at h
    obtain ⟨_, hbound⟩ := List.getElem?_eq_some_iff.1 h
    rw [tokenize, List.take_append_of_le_length hlt.le]
    rw [← List.take_append_drop hi (lexemes 0 source), List.drop_eq_getElem_cons hlt, hbound] at hspelled
    exact hspelled.before_token
  · subst heq
    rw [tokenize, List.getElem?_append_right (Nat.le_refl _), Nat.sub_self] at h
    obtain rfl := Option.some.inj h
    rwa [tokenize, List.take_left, List.take_length]
  · rw [List.getElem?_eq_none (by simp [tokenize]; omega)] at h
    cases h

theorem closeBefore?_eq_some {i hi j : Nat} (h : closeBefore? ts i hi = some j) :
    ∃ k closing, closeIndex? tokenBrace 0 ((ts.take hi).drop (i + 1)) = some k ∧
      ((ts.take hi).drop (i + 1))[k]? = some closing ∧ ts[j]? = some closing ∧
      closing.kind = .closeBrace := by
  obtain ⟨k, hk, rfl⟩ := Option.map_eq_some_iff.1 h
  obtain ⟨before, closing, after, hsplit, rfl, hclosing, -⟩ := closeIndex?_eq_some hk
  have hget : ((ts.take hi).drop (i + 1))[before.length]? = some closing := by simp [hsplit]
  refine ⟨_, closing, hk, hget, ?_, tokenBrace_eq_closing.1 hclosing⟩
  rw [List.getElem?_drop, List.getElem?_take] at hget
  split at hget
  · exact hget
  · cases hget

theorem matchingBrace_of_nonneg (text : List Char) (p : Nat) :
    matchingBrace text p =
      .ok ((closeIndex? charBrace 0 (text.drop (p + 1))).map fun k => ((p + 1 + k : Nat) : Int)) := by
  have hfirst : ((p : Int) + 1).toNat = p + 1 := by omega
  unfold matchingBrace
  rw [if_pos (by omega), hfirst]
  dsimp only
  cases closeIndex? charBrace 0 (text.drop (p + 1)) <;> rfl

/-- Searched for in a text that ends where a token begins, the partner of a brace is the one that is
found among the tokens before it. -/
theorem matchingBrace_eq {i hi : Nat} {opening bound : Token}
    (hopening : (tokenize source)[i]? = some opening) (kind : opening.kind = .openBrace) (lt : i < hi)
    (hbound : (tokenize source)[hi]? = some bound) :
    matchingBrace (source.take bound.start) opening.start =
      .ok ((closeBefore? (tokenize source) i hi).bind fun j =>
        (tokenize source)[j]?.map fun t => (t.start : Int)) := by
  have hspelled := spelled_take hbound
  obtain ⟨hlt, hget⟩ := List.getElem?_eq_some_iff.1 ((List.getElem?_take_of_lt lt).trans hopening)
  have hsplit := List.take_append_drop i ((tokenize source).take hi)
  rw [List.drop_eq_getElem_cons hlt, hget] at hsplit
  rw [← hsplit] at hspelled
  obtain ⟨formed, hbehind⟩ := hspelled.behind_token
  have hstop : opening.stop = opening.start + 1 := by
    rw [Token.stop, formed.text_of_structural (c := '{') rfl kind]
    rfl
  have hsearch := hbehind.closeIndex?_eq 0
  rw [matchingBrace_of_nonneg, ← hstop]
  cases hclose : closeBefore? (tokenize source) i hi with
  | none =>
    rw [Option.map_eq_none_iff.1 hclose] at hsearch
    rw [Option.map_eq_none_iff.1 hsearch]
    rfl
  | some j =>
    obtain ⟨k, closing, hk, hclosing, hj, -⟩ := closeBefore?_eq_some hclose
    rw [hk, Option.bind_some, hclosing] at hsearch
    obtain ⟨l, hl, hstart⟩ := Option.map_eq_some_iff.1 hsearch
    rw [hl, Option.bind_some, hj, Option.map_some, Option.map_some, hstart]

/-- The search for the brace that closes another one fails on the tokens before `hi` just if it fails
on the characters before the token at `hi`; otherwise both end at the same closing brace. -/
theorem closeBefore?_agrees {i hi : Nat} {opening bound : Token}
    (hopening : (tokenize source)[i]? = some opening) (kind : opening.kind = .openBrace) (lt : i < hi)
    (hbound : (tokenize source)[hi]? = some bound) :
    (closeBefore? (tokenize source) i hi = none ↔
        matchingBrace (source.take bound.start) opening.start = .ok none) ∧
      ∀ j, closeBefore? (tokenize source) i hi = some j →
        ∃ closing, (tokenize source)[j]? = some closing ∧ closing.kind = .closeBrace ∧
          matchingBrace (source.take bound.start) opening.start = .ok (some closing.start) := by
  rw [matchingBrace_eq hopening kind lt hbound]
  refine ⟨⟨fun hclose => by rw [hclose]; rfl, fun hfound => ?_⟩, fun j hclose => ?_⟩
  · cases hclose : closeBefore? (tokenize source) i hi with
    | none => rfl
    | some j =>
      obtain ⟨k, closing, -, -, hj, -⟩ := closeBefore?_eq_some hclose
      simp [hclose, hj] at hfound
  · obtain ⟨k, closing, -, -, hj, hclosing⟩ := closeBefore?_eq_some hclose
    exact ⟨closing, hj, hclosing, by rw [hclose, Option.bind_some, hj]; rfl⟩

/-- A brace whose partner stands at the bound, and so not before it, and then before the end marker. -/
theorem closeBefore?_agrees_bounds :
    let source := "a: { b: { c } [] } d".toList
    matchingBrace (source.take 17) 3 = .ok none ∧ closeBefore? (tokenize source) 2 11 = some 9 ∧
      matchingBrace (source.take 20) 3 = .ok (some 17) := by
  intro source
  have hclose : closeBefore? (tokenize source) 2 11 = some 9 := by decide
  have hbefore := @closeBefore?_agrees source 2 9 _ _ rfl rfl (by decide) rfl
  have hend := @closeBefore?_agrees source 2 11 _ _ rfl rfl (by decide) rfl
  refine ⟨hbefore.1.1 (by decide), hclose, ?_⟩
  obtain ⟨closing, hclosing, -, hfound⟩ := hend.2 9 hclose
  obtain rfl := Option.some.inj ((show (tokenize source)[9]? = some ⟨.closeBrace, ['}'], 17⟩ by decide).symm.trans
    hclosing)
  exact hfound

end Conform.Schema
