import Conform.Proofs.Schema.Depth
import Conform.Proofs.Schema.Lenient
import Conform.Proofs.Schema.Rendering

/-! Where tokens stand does not matter to lenient reading that accepts every type name. The same
tokens further on in another text are read as the same; and where there is less room too, unless it
is too little. -/

namespace Conform.Schema

@[simp] theorem Token.kind_shift (k : Nat) (t : Token) : (t.shift k).kind = t.kind := rfl

theorem Token.stop_shift (k : Nat) (t : Token) : (t.shift k).stop = t.stop + k := by
  simp only [Token.stop, Token.shift]
  omega

theorem map_shift_zero (ts : List Token) : ts.map (Token.shift 0) = ts := List.map_id' ts

theorem closeIndex?_shift (k d : Nat) (ts : List Token) :
    closeIndex? tokenBrace d (ts.map (Token.shift k)) = closeIndex? tokenBrace d ts := by
  have hbrace (t : Token) : tokenBrace (t.shift k) = tokenBrace t := rfl
  fun_induction closeIndex? tokenBrace d ts with
  | case1 d => rfl
  | case2 d t ts ht ih => simp [closeIndex?, hbrace, ht, ih]
  | case3 t ts ht => simp [closeIndex?, hbrace, ht]
  | case4 t ts d ht ih => simp [closeIndex?, hbrace, ht, ih]
  | case5 d t ts ht ih => simp [closeIndex?, hbrace, ht, ih]

theorem slice_shift (before piece after : List Char) {i j : Nat} (hj : j ≤ piece.length) :
    slice (before ++ (piece ++ after)) (i + before.length) (j + before.length) = slice piece i j := by
  have hdrop : (before ++ (piece ++ after)).drop (i + before.length) =
      piece.drop i ++ after.drop (i - piece.length) := by
    rw [Nat.add_comm, ← List.drop_drop, List.drop_left, List.drop_append]
  have hwidth : j + before.length - (i + before.length) = j - i := by omega
  rw [slice, slice, hdrop, hwidth, List.take_append_of_le_length]
  rw [List.length_drop]
  omega

/-- What tokens span is told by the piece of the text that they are the tokens of. -/
theorem Piece.spanText_shift {source piece : List Char} {k : Nat} (hp : Piece source k piece)
    {ts : List Token} (hts : ts <:+: lexemes 0 piece) :
    spanText source (ts.map (Token.shift k)) = spanText piece ts := by
  cases ts with
  | nil => rfl
  | cons a ts =>
    obtain ⟨z, hz⟩ : ∃ z, (a :: ts).getLast? = some z := ⟨_, List.getLast?_eq_some_getLast (by simp)⟩
    have hrun : Run piece (a :: ts) := (run_lexemes piece).subrun hts
    have hstop : z.stop ≤ piece.length := hrun.stop_le_length (List.mem_of_getLast? hz)
    have hlast : ((a :: ts).map (Token.shift k)).getLast? = some (z.shift k) := by
      rw [List.getLast?_map, hz]
      rfl
    obtain ⟨before, after, rfl, rfl⟩ := hp
    rw [spanText_eq_slice rfl hlast, spanText_eq_slice rfl hz, Token.stop_shift]
    exact slice_shift before piece after hstop

/-- A segment of the tokens of `piece`, and one of the same tokens `k` characters further on. -/
structure Moved (piece : List Char) (k : Nat) (s' s : Segment) : Prop where
  tokens : s'.tokens = s.tokens.map (Token.shift k)
  inside : s.tokens <:+: lexemes 0 piece

theorem moved_shift {piece : List Char} {k : Nat} {ts : List Token}
    (h : ts <:+: lexemes 0 piece) (stop' stop : Nat) :
    Moved piece k ⟨ts.map (Token.shift k), stop'⟩ ⟨ts, stop⟩ :=
  ⟨rfl, h⟩

structure CutMoved (k : Nat) (c' c : Cut) : Prop where
  pieces : List.Forall₂ (fun s' s => s'.tokens = s.tokens.map (Token.shift k)) c'.1 c.1
  last : ∃ s' s, c'.2 = .ok s' ∧ c.2 = .ok s ∧ s'.tokens = s.tokens.map (Token.shift k)

theorem CutMoved.push {k : Nat} {c' c : Cut} (h : CutMoved k c' c) (t : Token) :
    CutMoved k (c'.push (t.shift k)) (c.push t) := by
  obtain ⟨pieces', r'⟩ := c'
  obtain ⟨pieces, r⟩ := c
  obtain ⟨hpieces, s', s, rfl, rfl, htokens⟩ := h
  cases hpieces with
  | nil => exact ⟨.nil, _, _, rfl, rfl, congrArg (t.shift k :: ·) htokens⟩
  | cons hfirst hrest =>
    exact ⟨.cons (congrArg (t.shift k :: ·) hfirst) hrest, s', s, rfl, rfl, htokens⟩

theorem cut_moved (k stop' stop : Nat) (depth : Int) (ts : List Token) :
    CutMoved k (cut false stop' depth [] (ts.map (Token.shift k))) (cut false stop depth [] ts) := by
  induction ts generalizing depth with
  | nil =>
    rw [List.map_nil, cut_lenient_nil, cut_lenient_nil]
    exact ⟨.nil, _, _, rfl, rfl, rfl⟩
  | cons t ts ih =>
    rw [List.map_cons, cut_lenient_cons, cut_lenient_cons, Token.kind_shift]
    by_cases ht : t.kind = .semicolon ∧ depth = 0
    · rw [if_pos ht, if_pos ht]
      obtain ⟨hpieces, hlast⟩ := ih 0
      exact ⟨.cons rfl hpieces, hlast⟩
    · rw [if_neg ht, if_neg ht]
      exact (ih _).push t

inductive PartsMoved (piece : List Char) (k : Nat) :
    Option (List Token × Segment) → Option (List Token × Segment) → Prop
  | none : PartsMoved piece k none none
  | some {before : List Token} {us' us : Segment} (hbefore : before <:+: lexemes 0 piece)
      (hus : Moved piece k us' us) :
      PartsMoved piece k (some (before.map (Token.shift k), us')) (some (before, us))

inductive ShapeMoved (piece : List Char) (k : Nat) : Shape → Shape → Prop
  | name : ShapeMoved piece k .name .name
  | array {s' s : Segment} (h : Moved piece k s' s) : ShapeMoved piece k (.array s') (.array s)
  | object {s' s : Segment} (h : Moved piece k s' s) : ShapeMoved piece k (.object s') (.object s)

section Moved

variable {piece : List Char} {k : Nat} {s' s : Segment}

theorem parts_moved (h : Moved piece k s' s) : PartsMoved piece k (parts? s') (parts? s) := by
  obtain ⟨ts', stop'⟩ := s'
  obtain ⟨ts, stop⟩ := s
  obtain ⟨rfl, hin⟩ := h
  have hdrop : (ts.map (Token.shift k)).dropWhile (·.kind ≠ .colon) =
      (ts.dropWhile (·.kind ≠ .colon)).map (Token.shift k) := List.dropWhile_map ..
  have htake : (ts.map (Token.shift k)).takeWhile (·.kind ≠ .colon) =
      (ts.takeWhile (·.kind ≠ .colon)).map (Token.shift k) := List.takeWhile_map ..
  have hsuffix : ts.dropWhile (·.kind ≠ .colon) <:+: ts := (List.dropWhile_suffix _).isInfix
  simp only [parts?, hdrop, htake]
  cases hd : ts.dropWhile (·.kind ≠ .colon) with
  | nil => exact .none
  | cons colon after =>
    rw [hd] at hsuffix
    refine .some ((List.takeWhile_prefix _).isInfix.trans hin) (moved_shift ?_ _ _)
    exact ((List.suffix_cons colon after).isInfix.trans hsuffix).trans hin

theorem shape_moved (h : Moved piece k s' s) : ShapeMoved piece k (shape s') (shape s) := by
  obtain ⟨ts', stop'⟩ := s'
  obtain ⟨ts, stop⟩ := s
  obtain ⟨rfl, hin⟩ := h
  have hdrop : (ts.map (Token.shift k)).dropWhile (·.kind ≠ .openBrace) =
      (ts.dropWhile (·.kind ≠ .openBrace)).map (Token.shift k) := List.dropWhile_map ..
  have hsuffix : ts.dropWhile (·.kind ≠ .openBrace) <:+: ts := (List.dropWhile_suffix _).isInfix
  simp only [shape, hdrop, List.getLast?_map]
  cases ts.getLast? with
  | none => exact .name
  | some last =>
    simp only [Option.map_some, Token.kind_shift]
    by_cases ht : last.kind = .arraySuffix
    · simp only [ht, if_true, ← List.map_dropLast]
      exact .array (moved_shift ((List.dropLast_prefix ts).isInfix.trans hin) _ _)
    simp only [ht, if_false]
    cases hd : ts.dropWhile (·.kind ≠ .openBrace) with
    | nil => exact .name
    | cons opening rest =>
      rw [hd] at hsuffix
      simp only [List.map_cons, closeIndex?_shift]
      cases closeIndex? tokenBrace 0 rest with
      | none => exact .name
      | some i =>
        simp only [← List.map_take]
        refine .object (moved_shift ?_ _ _)
        have hrest := (List.suffix_cons opening rest).isInfix.trans (hsuffix.trans hin)
        exact (List.take_prefix i rest).isInfix.trans hrest

end Moved

/-- The first result is the second, or there was too little room, which may happen only if `E`
holds. -/
inductive Follows (E : Prop) {α : Type} : Except ParseError α → Except ParseError α → Prop
  | same (r : Except ParseError α) : Follows E r r
  | stops (hE : E) (r : Except ParseError α) : Follows E (.error .nestedTooDeeply) r

namespace Follows

variable {E : Prop} {α β : Type} {r' r : Except ParseError α} {f' f : α → Except ParseError β}

theorem bind (hr : Follows E r' r) (hf : ∀ a, Follows E (f' a) (f a)) :
    Follows E (r'.bind f') (r.bind f) := by
  cases hr with
  | stops hE r => exact .stops hE _
  | same =>
    cases r' with
    | error e => exact .same _
    | ok a => exact hf a

theorem imp {E' : Prop} (hr : Follows E r' r) (h : E → E') : Follows E' r' r := by
  cases hr with
  | same r => exact .same _
  | stops hE r => exact .stops (h hE) _

theorem map (g : α → β) (hr : Follows E r' r) : Follows E (r'.map g) (r.map g) := by
  cases hr with
  | stops hE r => exact .stops hE _
  | same r => exact .same _

theorem eq (hr : Follows E r' r) (hE : ¬ E) : r' = r := by
  cases hr with
  | same r => rfl
  | stops h r => exact absurd h hE

theorem eq_or (hr : Follows E r' r) : r' = r ∨ r' = .error .nestedTooDeeply := by
  cases hr with
  | same r => exact .inl rfl
  | stops h r => exact .inr rfl

end Follows

namespace ParseOptions

variable {o' o : ParseOptions} {source piece : List Char} {k : Nat} {E : Prop}

section Lists

variable {typeOf' typeOf : Segment → Reading TypeExpr} (ho' : o'.Lenient) (ho : o.Lenient)
  (hp : Piece source k piece)
  (htype : ∀ s' s, Moved piece k s' s → Follows E (typeOf' s').result (typeOf s).result)

include ho' ho hp htype

theorem addProperty_follows {s' s : Segment} (h : Moved piece k s' s) (sofar : Definition) :
    Follows E (o'.addProperty source typeOf' sofar s').result
      (o.addProperty piece typeOf sofar s).result := by
  have hparts := parts_moved h
  rw [addProperty_lenient ho'.strict, addProperty_lenient ho.strict]
  generalize parts? s' = p', parts? s = p at hparts ⊢
  cases hparts with
  | none => exact .same _
  | some hbefore hus =>
    simp only [hp.spanText_shift hbefore]
    exact (htype _ _ hus).map _

theorem addProperties_follows {segments' segments : List Segment}
    (h : List.Forall₂ (Moved piece k) segments' segments) (sofar : Definition) :
    Follows E (o'.addProperties source typeOf' sofar segments').result
      (o.addProperties piece typeOf sofar segments).result := by
  induction h generalizing sofar with
  | nil => exact .same _
  | cons hs _ ih =>
    rw [addProperties, addProperties, Journal.bind_result, Journal.bind_result]
    exact (addProperty_follows ho' ho hp htype hs sofar).bind ih

theorem properties_follows {s' s : Segment} (h : Moved piece k s' s) :
    Follows E (o'.properties source typeOf' s').result (o.properties piece typeOf s).result := by
  obtain ⟨ts', stop'⟩ := s'
  obtain ⟨ts, stop⟩ := s
  obtain ⟨rfl, hin⟩ := h
  obtain ⟨hpieces, last', last, hlast', hlast, htokens⟩ := cut_moved k stop' stop 0 ts
  obtain ⟨hinside, hinlast⟩ := (cut_each_isPiece false stop 0 [] ts).forall fun s => And.left
  have hmoved : List.Forall₂ (Moved piece k) (cut false stop' 0 [] (ts.map (Token.shift k))).1
      (cut false stop 0 [] ts).1 :=
    ((List.forall₂_and_left _ _).2 ⟨hinside, hpieces.flip⟩).flip.imp
      fun s' s h => ⟨h.2, h.1.tokens.trans hin⟩
  rw [properties_eq_readCut, properties_eq_readCut, readCut, readCut, ho'.strict, ho.strict,
    hlast', hlast, Journal.bind_result, Journal.bind_result]
  refine (addProperties_follows ho' ho hp htype hmoved []).bind fun sofar => ?_
  exact addProperty_follows ho' ho hp htype ⟨htokens, (hinlast last hlast).tokens.trans hin⟩ sofar

end Lists

theorem typeExpr_follows (ho' : o'.Lenient) (ho : o.Lenient) (hp : Piece source k piece)
    {room' room : Room} (hroom : room' ≤ room) {s' s : Segment} (h : Moved piece k s' s) :
    Follows (room' ≠ room) (o'.typeExpr source room' s').result (o.typeExpr piece room s).result := by
  induction hroom generalizing s' s with
  | spent room =>
    cases room with
    | spent => exact .same _
    | free inside => exact .stops (by simp) _
  | @free inside' inside hinside ih =>
    -- rooms that differ inside differ
    have hne (level : Level) (hlevel : inside' level ≠ inside level) :
        Room.free inside' ≠ .free inside := by
      rintro ⟨⟩
      exact hlevel rfl
    have hshape := shape_moved h
    rw [typeExpr_lenient ho', typeExpr_lenient ho]
    generalize shape s' = p', shape s = p at hshape ⊢
    cases hshape with
    | name =>
      rw [readShape, readShape, h.tokens, hp.spanText_shift h.inside]
      exact .same _
    | array hitem => exact ((ih .item hitem).imp (hne .item)).map _
    | object hs =>
      have hlist := properties_follows ho' ho hp (fun s' s => ih .property) hs
      exact (hlist.imp (hne .property)).map _

theorem fragment_follows (ho' : o'.Lenient) (ho : o.Lenient) (hp : Piece source k piece)
    {room' room : Room} (hroom : room' ≤ room) {s' s : Segment} (h : Moved piece k s' s) :
    Follows (room' ≠ room) (o'.properties source (o'.typeExpr source room') s').result
      (o.properties piece (o.typeExpr piece room) s).result :=
  properties_follows ho' ho hp (fun _ _ => typeExpr_follows ho' ho hp hroom) h

end ParseOptions

end Conform.Schema
