import Conform.Schema.Segment
import Mathlib.Data.List.Basic

/-! Braces in balance. `level` counts the braces that are open after a list, and is undefined where
a closing brace has no partner; the search for a partner and the cutting of a property list are
both described by it. -/

namespace Conform.Schema

section Level

variable {α : Type} (brace : α → Brace)

/-- The number of open braces after `xs`, if `depth` are open before it and every closing brace has
a partner. -/
def level : Nat → List α → Option Nat
  | depth, [] => some depth
  | depth, x :: xs =>
    match brace x, depth with
    | .opening, _ => level (depth + 1) xs
    | .closing, 0 => none
    | .closing, d + 1 => level d xs
    | .neither, _ => level depth xs

variable {brace}

theorem level_append (d : Nat) (xs ys : List α) :
    level brace d (xs ++ ys) = (level brace d xs).bind fun e => level brace e ys := by
  fun_induction level brace d xs with
  | case1 d => rfl
  | case2 d x xs hx ih => simpa only [List.cons_append, level, hx] using ih
  | case3 x xs hx => simp [level, hx]
  | case4 x xs d hx ih => simpa only [List.cons_append, level, hx] using ih
  | case5 d x xs hx ih => simpa only [List.cons_append, level, hx] using ih

theorem level_of_neither {xs : List α} (h : ∀ x ∈ xs, brace x = .neither) (d : Nat) :
    level brace d xs = some d := by
  induction xs with
  | nil => rfl
  | cons x xs ih =>
    obtain ⟨hx, hxs⟩ := List.forall_mem_cons.1 h
    simpa [level, hx] using ih hxs

/-- The search for a partner passes over what has every partner in itself or among the braces
before it. -/
theorem closeIndex?_append {d e : Nat} {xs : List α} (h : level brace d xs = some e)
    (ys : List α) :
    closeIndex? brace d (xs ++ ys) = (closeIndex? brace e ys).map (· + xs.length) := by
  fun_induction level brace d xs with
  | case1 d => cases h; simp
  | case2 d x xs hx ih =>
    simp [closeIndex?, hx, ih h, Function.comp_def, Nat.add_assoc]
  | case3 x xs hx => cases h
  | case4 x xs d hx ih =>
    simp [closeIndex?, hx, ih h, Function.comp_def, Nat.add_assoc]
  | case5 d x xs hx ih =>
    simp [closeIndex?, hx, ih h, Function.comp_def, Nat.add_assoc]

theorem closeIndex?_eq_some {d i : Nat} {xs : List α} (h : closeIndex? brace d xs = some i) :
    ∃ ys x zs, xs = ys ++ x :: zs ∧ ys.length = i ∧ brace x = .closing ∧
      level brace d ys = some 0 := by
  fun_induction closeIndex? brace d xs generalizing i with
  | case1 d => cases h
  | case2 d x xs hx ih =>
    obtain ⟨j, hj, rfl⟩ := Option.map_eq_some_iff.1 h
    obtain ⟨ys, y, zs, rfl, rfl, hy, hl⟩ := ih hj
    exact ⟨x :: ys, y, zs, rfl, rfl, hy, by simpa [level, hx] using hl⟩
  | case3 x xs hx => cases h; exact ⟨[], x, xs, rfl, rfl, hx, rfl⟩
  | case4 x xs d hx ih =>
    obtain ⟨j, hj, rfl⟩ := Option.map_eq_some_iff.1 h
    obtain ⟨ys, y, zs, rfl, rfl, hy, hl⟩ := ih hj
    exact ⟨x :: ys, y, zs, rfl, rfl, hy, by simpa [level, hx] using hl⟩
  | case5 d x xs hx ih =>
    obtain ⟨j, hj, rfl⟩ := Option.map_eq_some_iff.1 h
    obtain ⟨ys, y, zs, rfl, rfl, hy, hl⟩ := ih hj
    exact ⟨x :: ys, y, zs, rfl, rfl, hy, by simpa [level, hx] using hl⟩

end Level

theorem closeIndex?_concat_iff {inner : List Token} {closing : Token}
    (hc : closing.kind = .closeBrace) :
    closeIndex? tokenBrace 0 (inner ++ [closing]) = some inner.length ↔
      level tokenBrace 0 inner = some 0 := by
  constructor
  · intro h
    obtain ⟨ys, x, zs, hsplit, hlength, -, hlevel⟩ := closeIndex?_eq_some h
    obtain ⟨rfl, -⟩ := List.append_inj hsplit hlength.symm
    exact hlevel
  · intro h
    rw [closeIndex?_append h]
    simp [closeIndex?, tokenBrace, hc]

/-- The number of open braces after some tokens of one segment: no semicolon stands outside all
braces. -/
def segmentLevel : Nat → List Token → Option Nat
  | depth, [] => some depth
  | depth, t :: ts =>
    match t.kind with
    | .openBrace => segmentLevel (depth + 1) ts
    | .closeBrace => if depth = 0 then none else segmentLevel (depth - 1) ts
    | .semicolon => if depth = 0 then none else segmentLevel depth ts
    | _ => segmentLevel depth ts

def Token.Plain (t : Token) : Prop :=
  t.kind ≠ .openBrace ∧ t.kind ≠ .closeBrace ∧ t.kind ≠ .semicolon

theorem tokenBrace_eq_opening {t : Token} : tokenBrace t = .opening ↔ t.kind = .openBrace := by
  unfold tokenBrace
  split <;> simp_all

theorem tokenBrace_eq_closing {t : Token} : tokenBrace t = .closing ↔ t.kind = .closeBrace := by
  unfold tokenBrace
  split <;> simp_all

theorem tokenBrace_plain {t : Token} (h : t.Plain) : tokenBrace t = .neither := by
  obtain ⟨h1, h2, h3⟩ := h
  unfold tokenBrace
  split <;> simp_all

theorem level_plain {ts : List Token} (h : ∀ t ∈ ts, t.Plain) (d : Nat) :
    level tokenBrace d ts = some d :=
  level_of_neither (fun t ht => tokenBrace_plain (h t ht)) d

theorem segmentLevel_plain {ts : List Token} (h : ∀ t ∈ ts, t.Plain) (d : Nat) :
    segmentLevel d ts = some d := by
  induction ts with
  | nil => rfl
  | cons t ts ih =>
    obtain ⟨h1, h2, h3⟩ := h t (by simp)
    rw [segmentLevel]
    split <;> first | contradiction | exact ih fun u hu => h u (by simp [hu])

/-- Without an opening brace a segment has neither a closing one nor a semicolon. -/
theorem plain_of_segmentLevel {e : Nat} {ts : List Token} (ho : ∀ t ∈ ts, t.kind ≠ .openBrace)
    (h : segmentLevel 0 ts = some e) : ∀ t ∈ ts, t.Plain := by
  induction ts with
  | nil => simp
  | cons t ts ih =>
    obtain ⟨ht, hts⟩ := List.forall_mem_cons.1 ho
    rw [segmentLevel] at h
    split at h
    · next hk => exact absurd hk ht
    · cases h
    · cases h
    · next h1 h2 h3 =>
      exact List.forall_mem_cons.2 ⟨⟨h1, h2, h3⟩, ih hts h⟩

theorem segmentLevel_append (d : Nat) (ts us : List Token) :
    segmentLevel d (ts ++ us) = (segmentLevel d ts).bind fun e => segmentLevel e us := by
  fun_induction segmentLevel d ts with
  | case1 d => rfl
  | case2 d t ts ht ih => simpa only [List.cons_append, segmentLevel, ht] using ih
  | case3 t ts ht => simp [segmentLevel, ht]
  | case4 d t ts ht hd ih => simpa [segmentLevel, ht, hd] using ih
  | case5 t ts ht => simp [segmentLevel, ht]
  | case6 d t ts ht hd ih => simpa [segmentLevel, ht, hd] using ih
  | case7 d t ts h1 h2 h3 ih =>
    rw [List.cons_append, segmentLevel]
    split <;> first | contradiction | exact ih

/-- Inside a pair of braces semicolons do not matter. -/
theorem segmentLevel_succ {d e : Nat} {ts : List Token} (h : level tokenBrace d ts = some e) :
    segmentLevel (d + 1) ts = some (e + 1) := by
  fun_induction level tokenBrace d ts with
  | case1 d => cases h; rfl
  | case2 d t ts ht ih =>
    simpa [segmentLevel, tokenBrace_eq_opening.1 ht] using ih h
  | case3 t ts ht => cases h
  | case4 t ts d ht ih =>
    simpa [segmentLevel, tokenBrace_eq_closing.1 ht] using ih h
  | case5 d t ts ht ih =>
    have hopen : t.kind ≠ .openBrace := by simp [← tokenBrace_eq_opening, ht]
    have hclose : t.kind ≠ .closeBrace := by simp [← tokenBrace_eq_closing, ht]
    rw [segmentLevel]
    split <;> simp_all

/-- A pair of braces and what is in balance between them is one segment. -/
theorem segmentLevel_enclosed {opening closing : Token} {d : Nat} {ts : List Token}
    (ho : opening.kind = .openBrace) (hc : closing.kind = .closeBrace)
    (h : level tokenBrace d ts = some d) :
    segmentLevel d (opening :: (ts ++ [closing])) = some d := by
  rw [segmentLevel, ho]
  show segmentLevel (d + 1) (ts ++ [closing]) = some d
  rw [segmentLevel_append, segmentLevel_succ h]
  simp [segmentLevel, hc]

theorem level_of_segmentLevel {d e : Nat} {ts : List Token} (h : segmentLevel d ts = some e) :
    level tokenBrace d ts = some e := by
  fun_induction segmentLevel d ts with
  | case1 d => exact h
  | case2 d t ts ht ih => simpa [level, tokenBrace, ht] using ih h
  | case3 t ts ht => cases h
  | case4 d t ts ht hd ih =>
    obtain ⟨d, rfl⟩ := Nat.exists_eq_succ_of_ne_zero hd
    simpa [level, tokenBrace, ht] using ih h
  | case5 t ts ht => cases h
  | case6 d t ts ht hd ih => simpa [level, tokenBrace, ht] using ih h
  | case7 d t ts h1 h2 h3 ih =>
    have hb : tokenBrace t = .neither := tokenBrace_plain ⟨h1, h2, h3⟩
    simpa [level, hb] using ih h

def Cut.pushAll (ts : List Token) (c : Cut) : Cut := ts.foldr Cut.push c

@[simp] theorem Cut.pushAll_cons (ts : List Token) (s : Segment) (rest : List Segment)
    (last : Except ParseError Segment) :
    Cut.pushAll ts (s :: rest, last) = ({ s with tokens := ts ++ s.tokens } :: rest, last) := by
  induction ts with
  | nil => rfl
  | cons t ts ih =>
    rw [Cut.pushAll] at ih
    rw [Cut.pushAll, List.foldr_cons, ih]
    rfl

@[simp] theorem Cut.pushAll_nil (ts : List Token) (s : Segment) :
    Cut.pushAll ts ([], .ok s) = ([], .ok { s with tokens := ts ++ s.tokens }) := by
  induction ts with
  | nil => rfl
  | cons t ts ih =>
    rw [Cut.pushAll] at ih
    rw [Cut.pushAll, List.foldr_cons, ih]
    rfl

/-- Cutting passes over one segment, whether unmatched braces are refused or not. -/
theorem cut_append {strict : Bool} {stop d : Nat} {opened : List Nat} {ts : List Token}
    (hd : opened.length = d) (h : segmentLevel d ts = some 0) (us : List Token) :
    cut strict stop d opened (ts ++ us) = (cut strict stop 0 [] us).pushAll ts := by
  fun_induction segmentLevel d ts generalizing opened with
  | case1 d =>
    cases h
    obtain rfl := List.length_eq_zero_iff.1 hd
    rfl
  | case2 d t ts ht ih =>
    have hpushed : (t.start :: opened).length = d + 1 := by rw [List.length_cons, hd]
    have := ih hpushed h
    rw [List.cons_append, cut, ht, Cut.pushAll, List.foldr_cons]
    exact congrArg (Cut.push t) this
  | case3 t ts ht => cases h
  | case4 d t ts ht hne ih =>
    have hopen : opened.isEmpty = false := by cases opened <;> simp_all
    have hpopped : opened.tail.length = d - 1 := by rw [List.length_tail, hd]
    have := ih hpopped h
    rw [show ((d - 1 : Nat) : Int) = d - 1 by omega] at this
    rw [List.cons_append, cut, ht, Cut.pushAll, List.foldr_cons]
    simp only [hopen, Bool.false_and, Bool.false_eq_true, if_false]
    exact congrArg (Cut.push t) this
  | case5 t ts ht => cases h
  | case6 d t ts ht hne ih =>
    rw [List.cons_append, cut, ht, Cut.pushAll, List.foldr_cons]
    simp only [Int.natCast_eq_zero, hne, if_false]
    exact congrArg (Cut.push t) (ih hd h)
  | case7 d t ts h1 h2 h3 ih =>
    have := congrArg (Cut.push t) (ih hd h)
    rw [List.cons_append, cut, Cut.pushAll, List.foldr_cons]
    split <;> first | contradiction | exact this

theorem cut_semicolon {strict : Bool} {stop : Nat} {t : Token} (ht : t.kind = .semicolon)
    (us : List Token) :
    cut strict stop 0 [] (t :: us) =
      (⟨[], t.start⟩ :: (cut strict stop 0 [] us).1, (cut strict stop 0 [] us).2) := by
  rw [cut, ht]
  rfl

theorem cut_segment {strict : Bool} {stop : Nat} {ts : List Token} {t : Token}
    (h : segmentLevel 0 ts = some 0) (ht : t.kind = .semicolon) (us : List Token) :
    cut strict stop 0 [] (ts ++ t :: us) =
      (⟨ts, t.start⟩ :: (cut strict stop 0 [] us).1, (cut strict stop 0 [] us).2) := by
  have := @cut_append strict stop 0 [] ts rfl h (t :: us)
  rw [Int.natCast_zero, cut_semicolon ht, Cut.pushAll_cons] at this
  simpa using this

theorem cut_last {strict : Bool} {stop : Nat} {ts : List Token} (h : segmentLevel 0 ts = some 0) :
    cut strict stop 0 [] ts = ([], .ok ⟨ts, stop⟩) := by
  have := @cut_append strict stop 0 [] ts rfl h []
  have hnil : cut strict stop 0 [] [] = ([], .ok ⟨[], stop⟩) := by cases strict <;> rfl
  rw [Int.natCast_zero, hnil, Cut.pushAll_nil] at this
  simpa using this

theorem Cut.push_eq_ok {t : Token} {c : Cut} {segments : List Segment} {last : Segment}
    (h : c.push t = (segments, .ok last)) :
    (∃ s rest, c = (s :: rest, .ok last) ∧ segments = { s with tokens := t :: s.tokens } :: rest) ∨
      ∃ s, c = ([], .ok s) ∧ segments = [] ∧ last = { s with tokens := t :: s.tokens } := by
  obtain ⟨ss, r⟩ := c
  cases ss with
  | cons s rest => cases h; exact .inl ⟨s, rest, rfl, rfl⟩
  | nil =>
    cases r with
    | ok s => cases h; exact .inr ⟨s, rfl, rfl, rfl⟩
    | error e => cases h

/-- A cut that has not failed: either the whole list is one segment, or a semicolon ends the first
one and the rest is cut anew. -/
inductive FirstCut (stop d : Nat) (ts : List Token) (segments : List Segment) (last : Segment) :
    Prop
  | whole (hs : segments = []) (hl : last = ⟨ts, stop⟩) (h : segmentLevel d ts = some 0)
  | semicolon (first us : List Token) (t : Token) (rest : List Segment)
      (hs : segments = ⟨first, t.start⟩ :: rest) (hts : ts = first ++ t :: us)
      (ht : t.kind = .semicolon) (h : segmentLevel d first = some 0)
      (hrest : cut true stop 0 [] us = (rest, .ok last))

theorem FirstCut.push {stop d e : Nat} {ts : List Token} {t : Token} {segments : List Segment}
    {last : Segment} {c : Cut} (hc : c.push t = (segments, .ok last))
    (h : ∀ segments' last', c = (segments', .ok last') → FirstCut stop e ts segments' last')
    (hlevel : ∀ us, segmentLevel e us = some 0 → segmentLevel d (t :: us) = some 0) :
    FirstCut stop d (t :: ts) segments last := by
  rcases Cut.push_eq_ok hc with ⟨s, rest, rfl, rfl⟩ | ⟨s, rfl, rfl, rfl⟩
  · cases h _ _ rfl with
    | whole hs => cases hs
    | semicolon first us u rest' hs hts hu hl hrest =>
      cases hs
      exact .semicolon (t :: first) us u rest rfl (by rw [hts]; rfl) hu (hlevel _ hl) hrest
  · cases h _ _ rfl with
    | whole _ hl hlev => cases hl; exact .whole rfl rfl (hlevel _ hlev)
    | semicolon first us u rest' hs => cases hs

/-- Where unmatched braces are refused, every segment of a cut is in balance. -/
theorem cut_strict_eq_ok {stop d : Nat} {opened : List Nat} {ts : List Token}
    {segments : List Segment} {last : Segment} (hd : opened.length = d)
    (h : cut true stop d opened ts = (segments, .ok last)) : FirstCut stop d ts segments last := by
  induction ts generalizing d opened segments last with
  | nil =>
    cases opened with
    | nil => cases hd; cases h; exact .whole rfl rfl rfl
    | cons p ps =>
      obtain ⟨q, hq⟩ : ∃ q, (p :: ps).getLast? = some q :=
        ⟨_, List.getLast?_eq_some_getLast (by simp)⟩
      simp [cut, hq] at h
  | cons t ts ih =>
    rw [cut] at h
    split at h
    · next ht =>
      refine FirstCut.push (e := d + 1) h (fun _ _ => ih (by simp [hd])) ?_
      intro us hus
      simpa [segmentLevel, ht] using hus
    · next ht =>
      split at h
      · cases h
      · next hopen =>
        have hne : d ≠ 0 := by
          rintro rfl
          simp [List.length_eq_zero_iff.1 hd] at hopen
        rw [show (d : Int) - 1 = (d - 1 : Nat) by omega] at h
        refine FirstCut.push (e := d - 1) h (fun _ _ => ih (by simp [hd])) ?_
        intro us hus
        simpa [segmentLevel, ht, hne] using hus
    · next ht =>
      split at h
      · next h0 =>
        obtain rfl : d = 0 := by omega
        obtain rfl := List.length_eq_zero_iff.1 hd
        injection h with hs hl
        exact .semicolon [] ts t _ hs.symm rfl ht rfl (Prod.ext rfl hl)
      · next h0 =>
        refine FirstCut.push (e := d) h (fun _ _ => ih hd) ?_
        intro us hus
        have hne : d ≠ 0 := by omega
        simpa [segmentLevel, ht, hne] using hus
    · next h1 h2 h3 =>
      refine FirstCut.push (e := d) h (fun _ _ => ih hd) ?_
      intro us hus
      rw [segmentLevel]
      split <;> first | contradiction | exact hus

theorem firstCut {stop : Nat} {ts : List Token} {segments : List Segment} {last : Segment}
    (h : cut true stop 0 [] ts = (segments, .ok last)) : FirstCut stop 0 ts segments last :=
  @cut_strict_eq_ok stop 0 [] ts segments last rfl h

end Conform.Schema
