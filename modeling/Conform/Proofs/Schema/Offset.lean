import Conform.Proofs.Schema.Shift

/-! A piece of a text is read as if it were the whole, in either mode and with any vocabulary: with
the same events and the same tree, and if it fails, then with the same fault as many characters
further on as the piece is. -/

namespace Conform.Schema

def ParseError.shift (k : Nat) : ParseError → ParseError
  | .malformed issue p => .malformed issue (p + k)
  | .nestedTooDeeply => .nestedTooDeeply

def Segment.shift (k : Nat) (s : Segment) : Segment := ⟨s.tokens.map (Token.shift k), s.stop + k⟩

def Cut.shift (k : Nat) (c : Cut) : Cut :=
  (c.1.map (Segment.shift k), (c.2.map (Segment.shift k)).mapError (ParseError.shift k))

theorem Segment.start_shift (k : Nat) (s : Segment) : (s.shift k).start = s.start + k := by
  obtain ⟨_ | ⟨t, ts⟩, stop⟩ := s <;> rfl

theorem Cut.push_shift (k : Nat) (t : Token) (c : Cut) :
    (c.push t).shift k = (c.shift k).push (t.shift k) := by
  obtain ⟨_ | ⟨s, rest⟩, _ | last⟩ := c <;> rfl

theorem cut_shift (strict : Bool) (k stop : Nat) (depth : Int) (opened : List Nat)
    (ts : List Token) :
    cut strict (stop + k) depth (opened.map (· + k)) (ts.map (Token.shift k)) =
      (cut strict stop depth opened ts).shift k := by
  induction ts generalizing depth opened with
  | nil =>
    have hlast : (opened.map (· + k)).getLast? = opened.getLast?.map (· + k) := List.getLast?_map
    rw [List.map_nil]
    unfold cut
    rw [hlast]
    cases strict <;> cases opened.getLast? <;> rfl
  | cons t ts ih =>
    rw [List.map_cons, cut, cut, Token.kind_shift]
    split
    · rw [Cut.push_shift, ← ih, List.map_cons]
      rfl
    · rw [List.isEmpty_map]
      split
      · rfl
      · rw [Cut.push_shift, ← ih, List.map_tail]
    · split
      · rw [ih]
        rfl
      · rw [Cut.push_shift, ← ih]
    · rw [Cut.push_shift, ← ih]

/-- The first reading is the second with its fault, if there is one, `k` characters further on. -/
def Later (k : Nat) {α : Type} (x' x : Reading α) : Prop := x' = x.mapError (ParseError.shift k)

namespace Later

variable {k : Nat} {α β : Type} {x' x : Reading α} {f' f : α → Reading β}

theorem pure (a : α) : Later k (pure a) (pure a) := rfl

theorem note (e : Event) : Later k (.note e) (.note e) := rfl

theorem refuse (issue : Issue) (p : Nat) :
    Later k (ParseOptions.refuse issue (p + k) : Reading α) (ParseOptions.refuse issue p) := rfl

theorem bind (hx : Later k x' x) (hf : ∀ a, Later k (f' a) (f a)) :
    Later k (x' >>= f') (x >>= f) := by
  unfold Later at hx
  subst hx
  obtain ⟨notes, e | a⟩ := x
  · rfl
  · have ha : f' a = (f a).mapError (ParseError.shift k) := hf a
    show (⟨notes, .ok a⟩ : Reading α) >>= f' = _
    rw [Journal.bind_ok, ha]
    rfl

theorem map (g : α → β) (hx : Later k x' x) : Later k (g <$> x') (g <$> x) := by
  rw [map_eq_pure_bind, map_eq_pure_bind]
  exact hx.bind fun a => .pure (g a)

theorem ite {c : Prop} [Decidable c] {y' y : Reading α} (hx : Later k x' x) (hy : Later k y' y) :
    Later k (if c then x' else y') (if c then x else y) := by
  split
  · exact hx
  · exact hy

theorem result_eq_ok (hx : Later k x' x) {a : α} : x'.result = .ok a ↔ x.result = .ok a := by
  unfold Later at hx
  subst hx
  obtain ⟨notes, e | b⟩ := x <;> simp [Journal.mapError, Except.mapError]

end Later

namespace ParseOptions

variable {o : ParseOptions} {source piece : List Char} {k : Nat}

theorem named_later (chars : List Char) (p : Nat) :
    Later k (o.named chars (p + k)) (o.named chars p) := by
  unfold named
  exact .ite (.refuse _ _) (.pure _)

theorem checkName_later (p : Nat) (chars : List Char) (ts : List Token) :
    Later k (checkName (p + k) chars (ts.map (Token.shift k))) (checkName p chars ts) := by
  have hbare : bareTokens (ts.map (Token.shift k)) = (bareTokens ts).map (Token.shift k) := by
    rcases List.eq_nil_or_concat' ts with rfl | ⟨us, t, rfl⟩
    · rfl
    · rw [List.map_append, List.map_singleton, bareTokens_concat, bareTokens_concat,
        Token.kind_shift]
      split <;> simp
  rw [checkName_eq, checkName_eq, hbare, List.find?_map]
  refine .ite (.refuse _ _) ?_
  have hkind : ((fun t : Token => decide (t.kind ≠ .text)) ∘ Token.shift k) =
      fun t => decide (t.kind ≠ .text) := rfl
  rw [hkind]
  cases (bareTokens ts).find? (·.kind ≠ .text) with
  | none => exact .pure ()
  | some t => exact .refuse (.unexpectedInName (String.ofList t.text)) t.start

section Lists

variable {typeOf' typeOf : Segment → Reading TypeExpr} (hp : Piece source k piece)
  (htype : ∀ s : Segment, s.tokens <:+: lexemes 0 piece → Later k (typeOf' (s.shift k)) (typeOf s))

include hp htype

theorem addProperty_later {s : Segment} (h : s.tokens <:+: lexemes 0 piece) (sofar : Definition) :
    Later k (o.addProperty source typeOf' sofar (s.shift k))
      (o.addProperty piece typeOf sofar s) := by
  obtain ⟨ts, stop⟩ := s
  have hstart := Segment.start_shift k ⟨ts, stop⟩
  rw [Segment.shift] at hstart ⊢
  cases propertyForm ts with
  | empty => exact .pure sofar
  | bare hne hcolon =>
    have hne' : ts.map (Token.shift k) ≠ [] := by simpa using hne
    rw [addProperty_no_colon hne' (List.forall_mem_map.2 hcolon), addProperty_no_colon hne hcolon,
      hp.spanText_shift h, hstart]
    exact .ite (.refuse _ _) (.bind (.note _) fun _ => .pure sofar)
  | @colon before us colon hb hc =>
    have hbefore : before <:+: lexemes 0 piece := (List.prefix_append _ _).isInfix.trans h
    have hus : us <:+: lexemes 0 piece :=
      (suffix_behind before colon us).isInfix.trans h
    have hread := (htype ⟨us, stop⟩ hus).bind fun τ => Later.pure (Assoc.upsert
      (String.ofList (bareName (spanText piece before)))
        ⟨τ, (spanText piece before).getLast? = some '?'⟩ sofar)
    have hcolon := @addProperty_colon o source typeOf' sofar (before.map (Token.shift k))
      (us.map (Token.shift k)) (colon.shift k) (stop + k) (List.forall_mem_map.2 hb) hc
    rw [List.map_append, List.map_cons] at hstart ⊢
    rw [hcolon, addProperty_colon hb hc, hp.spanText_shift hbefore, hstart]
    refine .ite (.bind (checkName_later _ _ _) fun _ => .ite ?_ hread) hread
    exact .bind (.refuse _ _) fun _ => hread

theorem addProperties_later {segments : List Segment}
    (h : ∀ s ∈ segments, s.tokens <:+: lexemes 0 piece) (sofar : Definition) :
    Later k (o.addProperties source typeOf' sofar (segments.map (Segment.shift k)))
      (o.addProperties piece typeOf sofar segments) := by
  induction segments generalizing sofar with
  | nil => exact .pure sofar
  | cons s rest ih =>
    obtain ⟨hs, hrest⟩ := List.forall_mem_cons.1 h
    exact (addProperty_later hp htype hs sofar).bind fun d => ih hrest d

theorem properties_later {s : Segment} (h : s.tokens <:+: lexemes 0 piece) :
    Later k (o.properties source typeOf' (s.shift k)) (o.properties piece typeOf s) := by
  obtain ⟨ts, stop⟩ := s
  obtain ⟨hpieces, hlast⟩ := (cut_each_isPiece o.strict stop 0 [] ts).forall fun s => And.left
  have hcut : cut o.strict (stop + k) 0 [] (ts.map (Token.shift k)) =
      (cut o.strict stop 0 [] ts).shift k := cut_shift o.strict k stop 0 [] ts
  rw [properties_eq_readCut, properties_eq_readCut, readCut, readCut, Segment.shift, hcut, Cut.shift]
  refine (addProperties_later hp htype (fun s hs => (hpieces s hs).tokens.trans h) []).bind
    fun sofar => ?_
  cases hok : (cut o.strict stop 0 [] ts).2 with
  | error e => rfl
  | ok last =>
    show Later k (o.addProperty source typeOf' sofar (last.shift k) : Reading Definition) _
    exact addProperty_later hp htype ((hlast last hok).tokens.trans h) sofar

end Lists

theorem typeExpr_brace_later {inside : Level → Room} {stop : Nat} {before rest : List Token} {opening last : Token}
    (hp : Piece source k piece) (h : before ++ opening :: rest <:+: lexemes 0 piece)
    (hlast : (before ++ opening :: rest).getLast? = some last) (ht : last.kind ≠ .arraySuffix)
    (hb : ∀ u ∈ before, u.kind ≠ .openBrace) (ho : opening.kind = .openBrace)
    (hinside : ∀ s : Segment, s.tokens <:+: lexemes 0 piece →
      Later k (o.properties source (o.typeExpr source (inside .property)) (s.shift k))
        (o.properties piece (o.typeExpr piece (inside .property)) s)) :
    Later k (o.typeExpr source (.free inside) (Segment.shift k ⟨before ++ opening :: rest, stop⟩))
      (o.typeExpr piece (.free inside) ⟨before ++ opening :: rest, stop⟩) := by
  have hmap : (before ++ opening :: rest).map (Token.shift k) =
      before.map (Token.shift k) ++ opening.shift k :: rest.map (Token.shift k) := by simp
  have hbefore : before <:+: lexemes 0 piece := (List.prefix_append _ _).isInfix.trans h
  have hrest : rest <:+: lexemes 0 piece :=
    (suffix_behind before opening rest).isInfix.trans h
  have hlast' : ((before ++ opening :: rest).map (Token.shift k)).getLast? =
      some (last.shift k) := by
    rw [List.getLast?_map, hlast]
    rfl
  have hb' : ∀ u ∈ before.map (Token.shift k), u.kind ≠ .openBrace := List.forall_mem_map.2 hb
  have hspan := hp.spanText_shift h
  have hstart := Segment.start_shift k ⟨before ++ opening :: rest, stop⟩
  rw [Segment.shift] at hstart ⊢
  rw [hmap] at hspan hstart hlast' ⊢
  rw [@typeExpr_brace o source inside (stop + k) _ _ _ _ hlast' ht hb' ho,
    typeExpr_brace hlast ht hb ho, closeIndex?_shift]
  cases closeIndex? tokenBrace 0 rest with
  | none =>
    simp only [hspan, hstart]
    exact .ite (.refuse _ _) (named_later _ _)
  | some i =>
    have hread := hinside ⟨rest.take i, (Segment.mk (rest.drop i) stop).start⟩
      ((List.take_prefix i rest).isInfix.trans hrest)
    have hafter := hp.spanText_shift ((List.drop_suffix (i + 1) rest).isInfix.trans hrest)
    have hdrop (j : Nat) : (Segment.mk ((rest.drop j).map (Token.shift k)) (stop + k)).start =
        (Segment.mk (rest.drop j) stop).start + k := Segment.start_shift k ⟨rest.drop j, stop⟩
    rw [Segment.shift] at hread
    simp only [← List.map_drop, ← List.map_take, List.isEmpty_map, hstart, hdrop, hafter,
      hp.spanText_shift hbefore]
    refine .ite (.bind (.refuse _ _) fun _ => .ite ?_ (.map _ hread)) (.ite ?_ (.map _ hread))
    all_goals
      exact .ite (.bind (.refuse _ _) fun _ => .map _ hread) (.bind (.note _) fun _ => .map _ hread)

theorem typeExpr_later (hp : Piece source k piece) (room : Room) {s : Segment}
    (h : s.tokens <:+: lexemes 0 piece) :
    Later k (o.typeExpr source room (s.shift k)) (o.typeExpr piece room s) := by
  induction room generalizing s with
  | spent => rfl
  | free inside ih =>
    obtain ⟨ts, stop⟩ := s
    cases typeForm ts with
    | empty =>
      show Later k (o.typeExpr source (.free inside) ⟨[], stop + k⟩) _
      unfold typeExpr
      exact .ite (.refuse _ _) (named_later _ _)
    | @suffix us t ht =>
      rw [Segment.shift, List.map_append, List.map_singleton, typeExpr_suffix ht,
        typeExpr_suffix (by exact ht)]
      exact .map _ (@ih .item ⟨us, t.start⟩ ((List.prefix_append us [t]).isInfix.trans h))
    | @plain us t ht hopen =>
      have hopen' : ∀ u ∈ (us ++ [t]).map (Token.shift k), u.kind ≠ .openBrace :=
        List.forall_mem_map.2 hopen
      have hstart := Segment.start_shift k ⟨us ++ [t], stop⟩
      have hspan := hp.spanText_shift h
      rw [Segment.shift] at hstart ⊢
      rw [List.map_append, List.map_singleton] at hopen' hspan hstart ⊢
      rw [typeExpr_no_brace ht hopen, typeExpr_no_brace (by exact ht) hopen', hspan, hstart]
      exact named_later _ _
    | brace hlast ht hb ho =>
      exact typeExpr_brace_later hp h hlast ht hb ho fun s => properties_later hp fun s => ih .property

end ParseOptions

end Conform.Schema
