import Conform.Proofs.Schema.Grammar

/-! The pieces of a cut, and the braces that keep a list from being cut. Read strictly, every piece
is in balance; and where the list itself is not, the brace that is reported has no partner in it. -/

namespace Conform.Schema

section Level

variable {α : Type} {brace : α → Brace}

theorem level_add {d e : Nat} {xs : List α} (h : level brace d xs = some e) (k : Nat) :
    level brace (d + k) xs = some (e + k) := by
  fun_induction level brace d xs with
  | case1 d => cases h; rfl
  | case2 d x xs hx ih => simpa [level, hx, Nat.add_right_comm] using ih h
  | case3 x xs hx => cases h
  | case4 x xs d hx ih => simpa [level, hx, Nat.add_right_comm] using ih h
  | case5 d x xs hx ih => simpa [level, hx] using ih h

/-- Where the search for a partner fails, no brace closes more than was opened. -/
theorem exists_level_of_closeIndex? {d : Nat} {xs : List α}
    (h : closeIndex? brace d xs = none) : ∃ e, level brace d xs = some e := by
  fun_induction closeIndex? brace d xs with
  | case1 d => exact ⟨d, rfl⟩
  | case2 d x xs hx ih => simpa [level, hx] using ih (Option.map_eq_none_iff.1 h)
  | case3 x xs hx => cases h
  | case4 x xs d hx ih => simpa [level, hx] using ih (Option.map_eq_none_iff.1 h)
  | case5 d x xs hx ih => simpa [level, hx] using ih (Option.map_eq_none_iff.1 h)

end Level

theorem level_cons_opening {t : Token} (ht : t.kind = .openBrace) (d : Nat) (ts : List Token) :
    level tokenBrace d (t :: ts) = level tokenBrace (d + 1) ts := by
  simp [level, tokenBrace, ht]

/-- A brace that begins at the offset has no partner: no pair of braces begins with it, or ends with
it. -/
def Unpartnered (ts : List Token) (p : Nat) : Prop :=
  ∃ before t after, ts = before ++ t :: after ∧ t.start = p ∧
    (t.kind = .openBrace ∧ (∀ pair inner, pair <+: t :: after → ¬ Enclosed pair inner) ∨
      t.kind = .closeBrace ∧ ∀ pair inner, pair <:+ before ++ [t] → ¬ Enclosed pair inner)

structure Open (ts : List Token) (t : Token) (before after : List Token) : Prop where
  split : ts = before ++ t :: after
  kind : t.kind = .openBrace
  unclosed : closeIndex? tokenBrace 0 after = none

/-- A closing brace before which nothing is open, if `depth` braces are open before the list. -/
structure Stray (depth : Nat) (ts : List Token) (t : Token) (before after : List Token) : Prop where
  split : ts = before ++ t :: after
  kind : t.kind = .closeBrace
  matched : level tokenBrace depth before = some 0

section Braces

variable {ts before after : List Token} {t : Token}

theorem Open.unpartnered (h : Open ts t before after) : Unpartnered ts t.start := by
  refine ⟨before, t, after, h.split, rfl, .inl ⟨h.kind, ?_⟩⟩
  rintro pair inner ⟨rest, hrest⟩ ⟨opening, closing, rfl, -, hc, hlevel⟩
  obtain ⟨-, rfl⟩ : opening = t ∧ inner ++ closing :: rest = after := by simpa using hrest
  have hclose := h.unclosed
  rw [closeIndex?_append hlevel] at hclose
  simp [closeIndex?, tokenBrace, hc] at hclose

theorem Open.level_ne (h : Open ts t before after) : level tokenBrace 0 ts ≠ some 0 := by
  intro hlevel
  obtain ⟨e, he⟩ := exists_level_of_closeIndex? h.unclosed
  rw [h.split, level_append] at hlevel
  obtain ⟨d, -, hlevel⟩ := Option.bind_eq_some_iff.1 hlevel
  have hafter : level tokenBrace (0 + (d + 1)) after = some (e + (d + 1)) := level_add he (d + 1)
  rw [level_cons_opening h.kind, ← Nat.zero_add (d + 1), hafter] at hlevel
  simp at hlevel

theorem Stray.unpartnered (h : Stray 0 ts t before after) : Unpartnered ts t.start := by
  refine ⟨before, t, after, h.split, rfl, .inr ⟨h.kind, ?_⟩⟩
  rintro pair inner ⟨xs, hxs⟩ ⟨opening, closing, rfl, ho, -, hlevel⟩
  have hbefore : xs ++ opening :: inner = before := by
    have hsplit : xs ++ opening :: inner ++ [closing] = before ++ [t] := by simpa using hxs
    exact (List.append_inj' hsplit rfl).1
  have hmatched := h.matched
  rw [← hbefore, level_append] at hmatched
  obtain ⟨e, -, hmatched⟩ := Option.bind_eq_some_iff.1 hmatched
  have hinner : level tokenBrace (0 + (e + 1)) inner = some (0 + (e + 1)) := level_add hlevel _
  rw [level_cons_opening ho, ← Nat.zero_add (e + 1), hinner] at hmatched
  simp at hmatched

theorem Stray.level_eq (h : Stray 0 ts t before after) : level tokenBrace 0 ts = none := by
  rw [h.split, level_append, h.matched]
  simp [level, tokenBrace, h.kind]

end Braces

/-- Why a list is not cut: a closing brace is stray, or an opening one stays open, of the list or of
those before it. -/
inductive Uncut (opened : List Nat) (ts : List Token) : ParseError → Prop
  | stray {t : Token} {before after : List Token} (h : Stray opened.length ts t before after) :
      Uncut opened ts (.malformed .unmatchedClose t.start)
  | opens {t : Token} {before after : List Token} (h : Open ts t before after) :
      Uncut opened ts (.malformed .unclosedOpen t.start)
  | stays {p : Nat} (hp : opened.getLast? = some p)
      (h : closeIndex? tokenBrace (opened.length - 1) ts = none) :
      Uncut opened ts (.malformed .unclosedOpen p)

theorem Uncut.cons {opened opened' : List Nat} {t : Token} {ts : List Token} {e : ParseError}
    (h : Uncut opened' ts e)
    (hlevel : ∀ us, level tokenBrace opened.length (t :: us) = level tokenBrace opened'.length us)
    (hstays : ∀ p, opened'.getLast? = some p →
      closeIndex? tokenBrace (opened'.length - 1) ts = none →
        Uncut opened (t :: ts) (.malformed .unclosedOpen p)) : Uncut opened (t :: ts) e := by
  cases h with
  | @stray u before after hu =>
    have hmatched : level tokenBrace opened.length (t :: before) = some 0 := by
      rw [hlevel]
      exact hu.matched
    exact .stray ⟨congrArg (t :: ·) hu.split, hu.kind, hmatched⟩
  | @opens u before after hu =>
    have hopen : Open (t :: ts) u (t :: before) after :=
      ⟨congrArg (t :: ·) hu.split, hu.kind, hu.unclosed⟩
    exact .opens hopen
  | stays hp hclose => exact hstays _ hp hclose

theorem Cut.push_snd_eq_error {t : Token} {c : Cut} {e : ParseError} :
    (c.push t).2 = .error e ↔ c.2 = .error e := by
  obtain ⟨_ | ⟨s, rest⟩, _ | last⟩ := c <;> simp [Cut.push]

theorem cut_lenient_ne_error (stop : Nat) (depth : Int) (opened : List Nat) (ts : List Token)
    (e : ParseError) : (cut false stop depth opened ts).2 ≠ .error e := by
  induction ts generalizing depth opened with
  | nil => simp [cut]
  | cons t ts ih =>
    rw [cut]
    split
    · rw [ne_eq, Cut.push_snd_eq_error]
      exact ih _ _
    · simp only [Bool.and_false, Bool.false_eq_true, if_false]
      rw [ne_eq, Cut.push_snd_eq_error]
      exact ih _ _
    · split
      · exact ih _ _
      · rw [ne_eq, Cut.push_snd_eq_error]
        exact ih _ _
    · rw [ne_eq, Cut.push_snd_eq_error]
      exact ih _ _

theorem uncut_of_cut {stop : Nat} {opened : List Nat} {ts : List Token} {e : ParseError}
    (h : (cut true stop opened.length opened ts).2 = .error e) : Uncut opened ts e := by
  induction ts generalizing opened with
  | nil =>
    cases hp : opened.getLast? with
    | none => simp [cut, hp] at h
    | some p =>
      simp only [cut, hp] at h
      cases h
      exact .stays hp rfl
  | cons t ts ih =>
    rw [cut] at h
    split at h
    · next ht =>
      have huncut : Uncut (t.start :: opened) ts e := ih (Cut.push_snd_eq_error.1 h)
      refine huncut.cons (fun us => level_cons_opening ht _ us) fun p hp hclose => ?_
      -- the brace that stays open is this one if no other was open before it
      cases opened with
      | nil =>
        cases hp
        have hopen : Open (t :: ts) t [] ts := ⟨rfl, ht, hclose⟩
        exact .opens hopen
      | cons q opened =>
        refine .stays (by simpa using hp) ?_
        simpa [closeIndex?, tokenBrace, ht] using hclose
    · next ht =>
      cases opened with
      | nil =>
        cases h
        have hstray : Stray 0 (t :: ts) t [] ts := ⟨rfl, ht, rfl⟩
        exact .stray hstray
      | cons q opened =>
        have huncut : Uncut opened ts e := ih (by
          have hdepth : ((q :: opened).length : Int) - 1 = opened.length := by simp
          rw [hdepth] at h
          exact Cut.push_snd_eq_error.1 h)
        refine huncut.cons (fun us => by simp [level, tokenBrace, ht]) fun p hp hclose => ?_
        cases opened with
        | nil => cases hp
        | cons r opened =>
          refine .stays (by simpa using hp) ?_
          simpa [closeIndex?, tokenBrace, ht] using hclose
    · next ht =>
      have huncut : Uncut opened ts e := by
        split at h
        · exact ih h
        · exact ih (Cut.push_snd_eq_error.1 h)
      refine huncut.cons (fun us => by simp [level, tokenBrace, ht]) fun p hp hclose => ?_
      exact .stays hp (by simpa [closeIndex?, tokenBrace, ht] using hclose)
    · next h1 h2 h3 =>
      have hb : tokenBrace t = .neither := tokenBrace_plain ⟨h1, h2, h3⟩
      refine (ih (Cut.push_snd_eq_error.1 h)).cons (fun us => by simp [level, hb]) fun p hp hclose => ?_
      exact .stays hp (by simpa [closeIndex?, hb] using hclose)

def Cut.Each (first others : Segment → Prop) : Cut → Prop
  | (s :: rest, last) => first s ∧ (∀ s ∈ rest, others s) ∧ ∀ s, last = .ok s → others s
  | ([], last) => ∀ s, last = .ok s → first s

section Each

variable {first first' others others' : Segment → Prop} {c : Cut}

theorem Cut.Each.push {t : Token} (h : c.Each first' others')
    (hfirst : ∀ s, first' s → first { s with tokens := t :: s.tokens })
    (hothers : ∀ s, others' s → others s) : (c.push t).Each first others := by
  obtain ⟨_ | ⟨s, rest⟩, _ | last⟩ := c
  · intro s hs
    cases hs
  · intro s hs
    cases hs
    exact hfirst last (h last rfl)
  · exact ⟨hfirst s h.1, fun u hu => hothers u (h.2.1 u hu), fun u hu => by cases hu⟩
  · exact ⟨hfirst s h.1, fun u hu => hothers u (h.2.1 u hu), fun u hu => hothers u (h.2.2 u hu)⟩

theorem Cut.Each.cons {p : Nat} (h : c.Each first' others') (hempty : first ⟨[], p⟩)
    (hfirst : ∀ s, first' s → others s) (hothers : ∀ s, others' s → others s) :
    Cut.Each first others (⟨[], p⟩ :: c.1, c.2) := by
  obtain ⟨_ | ⟨s, rest⟩, last⟩ := c
  · exact ⟨hempty, by simp, fun u hu => hfirst u (h u hu)⟩
  · refine ⟨hempty, ?_, fun u hu => hothers u (h.2.2 u hu)⟩
    exact List.forall_mem_cons.2 ⟨hfirst s h.1, fun u hu => hothers u (h.2.1 u hu)⟩

theorem Cut.Each.forall (h : c.Each first others) (hfirst : ∀ s, first s → others s) :
    (∀ s ∈ c.1, others s) ∧ ∀ s, c.2 = .ok s → others s := by
  obtain ⟨_ | ⟨s, rest⟩, last⟩ := c
  · exact ⟨by simp, fun u hu => hfirst u (h u hu)⟩
  · exact ⟨List.forall_mem_cons.2 ⟨hfirst s h.1, h.2.1⟩, h.2.2⟩

/-- A piece of a list that ends at offset `stop`: it ends at a token of the list, or with it. -/
structure IsPiece (stop : Nat) (ts : List Token) (s : Segment) : Prop where
  tokens : s.tokens <:+: ts
  ends : s.stop = stop ∨ ∃ t ∈ ts, t.start = s.stop

theorem IsPiece.cons {stop : Nat} {ts : List Token} {s : Segment} (h : IsPiece stop ts s)
    (t : Token) : IsPiece stop (t :: ts) s := by
  refine ⟨h.tokens.trans (List.suffix_cons t ts).isInfix, h.ends.imp_right ?_⟩
  rintro ⟨u, hu, hstop⟩
  exact ⟨u, List.mem_cons_of_mem t hu, hstop⟩

theorem cut_each_isPiece (strict : Bool) (stop : Nat) (depth : Int) (opened : List Nat)
    (ts : List Token) :
    (cut strict stop depth opened ts).Each (fun s => IsPiece stop ts s ∧ s.tokens <+: ts)
      (IsPiece stop ts) := by
  induction ts generalizing depth opened with
  | nil =>
    unfold cut
    split
    · intro s hs
      cases hs
    · intro s hs
      cases hs
      exact ⟨⟨List.infix_rfl, .inl rfl⟩, List.prefix_rfl⟩
  | cons t ts ih =>
    have pushed (depth : Int) (opened : List Nat) :
        ((cut strict stop depth opened ts).push t).Each
          (fun s => IsPiece stop (t :: ts) s ∧ s.tokens <+: t :: ts) (IsPiece stop (t :: ts)) := by
      refine (ih depth opened).push (fun s hs => ?_) fun s hs => hs.cons t
      have hpushed : t :: s.tokens <+: t :: ts := List.cons_prefix_cons.2 ⟨rfl, hs.2⟩
      exact ⟨⟨hpushed.isInfix, (hs.1.cons t).ends⟩, hpushed⟩
    rw [cut]
    split
    · exact pushed _ _
    · split
      · intro s hs
        cases hs
      · exact pushed _ _
    · split
      · refine (ih depth opened).cons ⟨⟨List.nil_infix, .inr ⟨t, by simp, rfl⟩⟩, List.nil_prefix⟩ ?_ ?_
        · exact fun s hs => hs.1.cons t
        · exact fun s hs => hs.cons t
      · exact pushed _ _
    · exact pushed _ _

/-- Strictly read, every piece is in balance; the first one closes what was open before it. -/
theorem cut_each_level (stop : Nat) (opened : List Nat) (ts : List Token) :
    (cut true stop opened.length opened ts).Each
      (fun s => level tokenBrace opened.length s.tokens = some 0)
      (fun s => level tokenBrace 0 s.tokens = some 0) := by
  induction ts generalizing opened with
  | nil =>
    cases opened with
    | nil =>
      intro s hs
      cases hs
      rfl
    | cons p opened =>
      intro s hs
      simp at hs
  | cons t ts ih =>
    rw [cut]
    split
    · next ht =>
      refine (ih (t.start :: opened)).push (fun s hs => ?_) fun s => id
      rw [level_cons_opening ht]
      exact hs
    · next ht =>
      cases opened with
      | nil =>
        intro s hs
        cases hs
      | cons p opened =>
        have hdepth : ((p :: opened).length : Int) - 1 = opened.length := by simp
        rw [hdepth]
        refine (ih opened).push (fun s hs => ?_) fun s => id
        simpa [level, tokenBrace, ht] using hs
    · next ht =>
      split
      · next hdepth =>
        obtain rfl : opened = [] := by simpa using hdepth
        exact (ih []).cons rfl (fun s => id) fun s => id
      · refine (ih opened).push (fun s hs => ?_) fun s => id
        simpa [level, tokenBrace, ht] using hs
    · next h1 h2 h3 =>
      have hb : tokenBrace t = .neither := tokenBrace_plain ⟨h1, h2, h3⟩
      refine (ih opened).push (fun s hs => ?_) fun s => id
      simpa [level, hb] using hs

end Each

end Conform.Schema
