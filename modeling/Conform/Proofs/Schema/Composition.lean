import Conform.Proofs.Schema.Shift
import Conform.Proofs.Schema.Vocabulary
import Mathlib.Data.List.Infix

/-! Reading a text that is put together from others. Read leniently and with every type name
accepted, it is read as what its parts are read as, put together in the same way: property lists
around a semicolon, a property list in braces as an object, and an array suffix behind a type. The
parts may be as broken as they like. -/

namespace Conform

namespace Assoc

variable {κ α : Type} [BEq κ]

def update (es fs : List (κ × α)) : List (κ × α) := fs.foldl (fun m e => upsert e.1 e.2 m) es

variable [LawfulBEq κ]

theorem mem_keys_upsert_self (k : κ) (a : α) (es : List (κ × α)) : k ∈ keys (upsert k a es) := by
  rw [← contains_eq_true_iff, contains, get?_upsert_self]
  rfl

theorem upsert_upsert (k : κ) (a b : α) (es : List (κ × α)) :
    upsert k b (upsert k a es) = upsert k b es := by
  induction es with
  | nil => simp [upsert]
  | cons e es ih => by_cases hk : e.1 = k <;> simp [upsert, hk, ih]

/-- A key that is there keeps its place, whatever is put in before. -/
theorem upsert_comm {k k' : κ} {es : List (κ × α)} (h : k ∈ keys es) (hne : k' ≠ k) (a b : α) :
    upsert k' b (upsert k a es) = upsert k a (upsert k' b es) := by
  induction es with
  | nil => cases h
  | cons e es ih =>
    by_cases hk : e.1 = k
    · simp [upsert, hk, hne.symm]
    have hes : k ∈ keys es := (List.mem_cons.1 h).resolve_left fun he => hk he.symm
    by_cases hk' : e.1 = k'
    · simp [upsert, hk', hne]
    · simp [upsert, hk, hk', ih hes]

theorem update_upsert_of_not_mem {k : κ} {a : α} {es fs : List (κ × α)} (hes : k ∈ keys es)
    (hfs : k ∉ keys fs) : update (upsert k a es) fs = upsert k a (update es fs) := by
  induction fs generalizing es with
  | nil => rfl
  | cons f fs ih =>
    rw [keys, List.map_cons, List.mem_cons, not_or] at hfs
    rw [update, update, List.foldl_cons, List.foldl_cons, upsert_comm hes (Ne.symm hfs.1)]
    exact ih (mem_keys_upsert hes) hfs.2

theorem update_upsert {k : κ} {a : α} {es fs : List (κ × α)} (hfs : (keys fs).Nodup) :
    update es (upsert k a fs) = upsert k a (update es fs) := by
  induction fs generalizing es with
  | nil => rfl
  | cons f fs ih =>
    obtain ⟨hnew, hfs⟩ := List.nodup_cons.1 hfs
    by_cases hk : f.1 = k
    · subst hk
      -- the key is put in first, and keeps its place until its last value comes
      have hlast := @update_upsert_of_not_mem _ _ _ _ f.1 a _ fs (mem_keys_upsert_self f.1 f.2 es) hnew
      rw [upsert_upsert] at hlast
      simpa [upsert, update] using hlast
    · simpa [upsert, hk, update] using ih hfs

theorem update_assoc {es fs gs : List (κ × α)} (hfs : (keys fs).Nodup) :
    update es (update fs gs) = update (update es fs) gs := by
  induction gs generalizing fs with
  | nil => rfl
  | cons g gs ih =>
    have hg : update es (upsert g.1 g.2 fs) = upsert g.1 g.2 (update es fs) := update_upsert hfs
    refine (ih (nodup_keys_upsert hfs)).trans ?_
    rw [hg]
    rfl

/-- Old keys keep their places, and the new ones come behind in their order. -/
theorem keys_update {es fs : List (κ × α)} (hfs : (keys fs).Nodup) :
    keys (update es fs) = keys es ++ (keys fs).filter fun k => !contains k es := by
  induction fs generalizing es with
  | nil => simp [update, keys]
  | cons f fs ih =>
    obtain ⟨hnew, hfs⟩ := List.nodup_cons.1 hfs
    have hstep : keys (update es (f :: fs)) = keys (upsert f.1 f.2 es) ++
        (keys fs).filter fun k => !contains k (upsert f.1 f.2 es) := ih hfs
    have hcontains : ∀ k ∈ keys fs, contains k (upsert f.1 f.2 es) = contains k es := by
      intro k hk
      have hne : k ≠ f.1 := fun heq => hnew (heq ▸ hk)
      rw [contains, contains, get?_upsert_of_ne hne]
    have hkeys : keys (f :: fs) = f.1 :: keys fs := rfl
    rw [hstep, List.filter_congr fun k hk => congrArg not (hcontains k hk), hkeys, List.filter_cons]
    by_cases hf : f.1 ∈ keys es
    · rw [keys_upsert_of_mem hf, contains_eq_true_iff.2 hf]
      rfl
    · have hnot : contains f.1 es = false := by
        rw [← Bool.not_eq_true, contains_eq_true_iff]
        exact hf
      rw [upsert_of_not_mem hf, hnot, keys, List.map_append]
      simp [keys]

theorem get?_update {es fs : List (κ × α)} (hfs : (keys fs).Nodup) (k : κ) :
    get? k (update es fs) = (get? k fs).or (get? k es) := by
  induction fs generalizing es with
  | nil => rfl
  | cons f fs ih =>
    obtain ⟨hnew, hfs⟩ := List.nodup_cons.1 hfs
    have hstep : get? k (update es (f :: fs)) = (get? k fs).or (get? k (upsert f.1 f.2 es)) := ih hfs
    rw [hstep]
    by_cases hk : f.1 = k
    · subst hk
      have hnone : get? f.1 fs = none := by
        rw [← Option.not_isSome_iff_eq_none, ← contains, contains_eq_true_iff]
        exact hnew
      simp [hnone, get?_upsert_self, get?]
    · simp [get?_upsert_of_ne (Ne.symm hk), get?, hk]

end Assoc

namespace Schema

namespace ParseOptions

section Lists

variable {o : ParseOptions} {source : List Char} {typeOf : Segment → Reading TypeExpr}

/-- A segment is read the same whatever was read before, and then put in. -/
theorem addProperty_update (hs : o.strict = false) (sofar : Definition) (s : Segment) :
    (o.addProperty source typeOf sofar s).result =
      (o.addProperty source typeOf [] s).result.map (Assoc.update sofar) := by
  rw [addProperty_lenient hs, addProperty_lenient hs]
  cases parts? s with
  | none => rfl
  | some p =>
    obtain ⟨before, us⟩ := p
    dsimp only
    cases (typeOf us).result <;> rfl

theorem readCut_update (hs : o.strict = false) (sofar : Definition) (c : Cut) :
    (o.readCut source typeOf sofar c).result =
      (o.readCut source typeOf [] c).result.map (Assoc.update sofar) := by
  obtain ⟨pieces, last⟩ := c
  induction pieces generalizing sofar with
  | nil =>
    cases last with
    | error e => rfl
    | ok s => rw [readCut_last, readCut_last, addProperty_update hs]
  | cons s rest ih =>
    rw [readCut_cons, readCut_cons, Journal.bind_result, Journal.bind_result,
      addProperty_update hs sofar]
    cases hd : (o.addProperty source typeOf [] s).result with
    | error e => rfl
    | ok d =>
      have hnil : (Assoc.keys ([] : Definition)).Nodup := List.nodup_nil
      have hnodup : (Assoc.keys d).Nodup :=
        addProperty_induction (I := fun d => (Assoc.keys d).Nodup)
          (fun name optional sofar s τ h _ => Assoc.nodup_keys_upsert h) hnil hd
      show (o.readCut source typeOf (Assoc.update sofar d) (rest, last)).result =
        (o.readCut source typeOf d (rest, last)).result.map (Assoc.update sofar)
      rw [ih, ih d]
      cases (o.readCut source typeOf [] (rest, last)).result with
      | error e => rfl
      | ok e => exact congrArg Except.ok (Assoc.update_assoc hnodup).symm

theorem readCut_append (sofar : Definition) (pieces : List Segment) (s : Segment)
    (rest : List Segment) (last : Except ParseError Segment) :
    o.readCut source typeOf sofar (pieces ++ s :: rest, last) =
      o.readCut source typeOf sofar (pieces, .ok s) >>= fun d =>
        o.readCut source typeOf d (rest, last) := by
  induction pieces generalizing sofar with
  | nil => rw [List.nil_append, readCut_cons, readCut_last]
  | cons p pieces ih => simp only [List.cons_append, readCut_cons, bind_assoc, ih]

/-- Around a semicolon at depth zero stand two property lists. -/
theorem properties_semicolon (hs : o.strict = false) {ts us : List Token} {t : Token} {stop : Nat}
    (ht : t.kind = .semicolon) (h : balance tokenBrace ts = 0) :
    (o.properties source typeOf ⟨ts ++ t :: us, stop⟩).result = (do
      let d ← (o.properties source typeOf ⟨ts, t.start⟩).result
      let e ← (o.properties source typeOf ⟨us, stop⟩).result
      pure (Assoc.update d e)) := by
  obtain ⟨last, hlast, hcut⟩ := @cut_lenient_append stop 0 t ts ht (by rw [h]; rfl) us
  have hfirst : cut false t.start 0 [] ts = ((cut false t.start 0 [] ts).1, .ok last) :=
    Prod.ext rfl hlast
  rw [properties_eq_readCut, properties_eq_readCut, properties_eq_readCut, hs, hcut, readCut_append,
    ← hfirst, Journal.bind_result]
  refine congrArg _ (funext fun d => ?_)
  rw [readCut_update hs]
  cases (o.readCut source typeOf [] (cut false stop 0 [] us)).result <;> rfl

end Lists

end ParseOptions

def IsWord (s : String) : Prop := lexemes 0 s.toList = [⟨.text, s.toList, 0⟩]

/-- Nowhere were more braces closed than opened, and in all as many. -/
def Balanced (cs : List Char) : Prop :=
  (∀ xs, xs <+: cs → xs.count '}' ≤ xs.count '{') ∧ cs.count '{' = cs.count '}'

/-- Before no semicolon were as many braces opened as closed. -/
def Guarded (cs : List Char) : Prop :=
  ∀ xs, xs ++ [';'] <+: cs → xs.count '{' ≠ xs.count '}'

def braced (s : String) : String := String.ofList ('{' :: (s.toList ++ ['}']))

theorem toList_braced (s : String) : (braced s).toList = '{' :: (s.toList ++ ['}']) :=
  String.toList_ofList

theorem piece_braced (s : String) : Piece (braced s).toList 1 s.toList := by
  rw [toList_braced]
  exact ⟨['{'], ['}'], rfl, rfl⟩

theorem lexemes_braced (s : String) :
    lexemes 0 (braced s).toList = ⟨.openBrace, ['{'], 0⟩ ::
      (lexemes 1 s.toList ++ [⟨.closeBrace, ['}'], 1 + s.toList.length⟩]) := by
  rw [toList_braced, lexemes_enclosed]

instance (s : String) : Decidable (IsWord s) := inferInstanceAs (Decidable (_ = _))

instance (cs : List Char) : Decidable (Balanced cs) :=
  decidable_of_iff
    ((∀ xs ∈ cs.inits, xs.count '}' ≤ xs.count '{') ∧ cs.count '{' = cs.count '}')
    (by simp only [List.mem_inits, Balanced])

instance (cs : List Char) : Decidable (Guarded cs) :=
  decidable_of_iff (∀ xs ∈ cs.inits, xs ++ [';'] <+: cs → xs.count '{' ≠ xs.count '}') (by
    simp only [List.mem_inits, Guarded]
    exact ⟨fun h xs hxs => h xs ((List.prefix_append xs _).trans hxs) hxs, fun h xs _ => h xs⟩)

section Counts

variable {cs : List Char}

theorem Balanced.level_eq (h : Balanced cs) (k : Nat) :
    level tokenBrace 0 (lexemes k cs) = some 0 := by
  refine level_lexemes (fun xs hxs => ?_) ?_
  · have hle := h.1 xs hxs
    rw [balance_charBrace]
    omega
  · rw [balance_charBrace, h.2, Int.sub_self]

theorem Guarded.cut_eq (h : Guarded cs) (k stop : Nat) :
    cut false stop 0 [] (lexemes k cs) = ([], .ok ⟨lexemes k cs, stop⟩) := by
  refine cut_lenient_guarded fun ts t us hsplit ht => ?_
  obtain ⟨before, after, hcs, hbalance⟩ := exists_semicolon_of_lexemes hsplit ht
  have hne := h before ⟨after, by simp [hcs]⟩
  rw [Int.zero_add, ← hbalance, balance_charBrace]
  omega

theorem Guarded.suffix (h : Guarded cs) : Guarded (cs ++ ['[', ']']) := by
  intro before hbefore
  have hsplit : cs ++ ['[', ']'] = cs ++ ['['] ++ [']'] := by simp
  rw [hsplit, List.prefix_concat_iff, List.prefix_concat_iff] at hbefore
  rcases hbefore with heq | heq | hbefore
  · cases (List.append_inj' heq rfl).2
  · cases (List.append_inj' heq rfl).2
  · exact h before hbefore

end Counts

namespace ParseOptions

section Fragment

variable {o' o : ParseOptions}

def fragment (o : ParseOptions) (cs : List Char) : Except ParseError Definition :=
  (o.properties cs (o.typeExpr cs o.room) ⟨lexemes 0 cs, cs.length⟩).result

def within (o : ParseOptions) (room : Room) : ParseOptions := { o with room }

theorem Lenient.within (ho : o.Lenient) (room : Room) : (o.within room).Lenient :=
  ⟨ho.strict, ho.accept⟩

variable {source cs : List Char} {k : Nat}

theorem moved_lexemes (k stop' stop : Nat) (cs : List Char) :
    Moved cs k ⟨lexemes k cs, stop'⟩ ⟨lexemes 0 cs, stop⟩ :=
  ⟨lexemes_eq_shift k cs, List.infix_rfl⟩

theorem typeExpr_piece (ho' : o'.Lenient) (ho : o.Lenient) (hp : Piece source k cs)
    (room : Room) (stop' stop : Nat) :
    (o'.typeExpr source room ⟨lexemes k cs, stop'⟩).result =
      (o.typeExpr cs room ⟨lexemes 0 cs, stop⟩).result :=
  (typeExpr_follows ho' ho hp (Room.le_refl room) (moved_lexemes k stop' stop cs)).eq (by simp)

theorem properties_piece (ho' : o'.Lenient) (ho : o.Lenient) (hp : Piece source k cs)
    (stop : Nat) :
    (o'.properties source (o'.typeExpr source o.room) ⟨lexemes k cs, stop⟩).result =
      o.fragment cs :=
  (fragment_follows ho' ho hp (Room.le_refl _) (moved_lexemes k stop cs.length cs)).eq (by simp)

theorem fragment_semicolon (ho : o.Lenient) {xs : List Char} (h : xs.count '{' = xs.count '}')
    (ys : List Char) :
    o.fragment (xs ++ ';' :: ys) = (do
      let d ← o.fragment xs
      let e ← o.fragment ys
      pure (Assoc.update d e)) := by
  have hp : Piece (xs ++ ';' :: ys) 0 (xs ++ ';' :: ys) := .self _
  have hbalance : balance tokenBrace (lexemes 0 xs) = 0 := by
    rw [← (spelled_lexemes 0 xs).balance_eq, balance_charBrace, h, Int.sub_self]
  rw [fragment, lexemes_structural (k := .semicolon) rfl,
    properties_semicolon ho.strict rfl hbalance, properties_piece ho ho hp.left,
    properties_piece ho ho hp.right.tail]

theorem fragment_property (ho : o.Lenient) {n : String} (hn : IsWord n)
    (hone : ∀ k stop, cut false stop 0 [] (lexemes k cs) = ([], .ok ⟨lexemes k cs, stop⟩)) :
    o.fragment (n.toList ++ ':' :: cs) =
      (o.typeExpr cs o.room ⟨lexemes 0 cs, cs.length⟩).result.map fun τ => [(n, ⟨τ, false⟩)] := by
  let name : Token := ⟨.text, n.toList, 0⟩
  let colon : Token := ⟨.colon, [':'], 0 + n.toList.length⟩
  have hp : Piece (n.toList ++ ':' :: cs) 0 (n.toList ++ ':' :: cs) := .self _
  have htokens : lexemes 0 (n.toList ++ ':' :: cs) =
      [name] ++ [colon] ++ lexemes (0 + n.toList.length + 1) cs := by
    rw [lexemes_structural (k := .colon) rfl, hn]
    rfl
  have header : Header [name] false ([name] ++ [colon]) := .required (by simp) (by simp [name]) rfl
  have hrun := run_lexemes (n.toList ++ ':' :: cs)
  rw [htokens] at hrun
  have hname : spelledName (n.toList ++ ':' :: cs) [name] = n := by
    have hrun : Run (n.toList ++ ':' :: cs) [name] :=
      hrun.subrun ⟨[], colon :: lexemes (0 + n.toList.length + 1) cs, rfl⟩
    rw [spelledName, hrun.spanText_singleton, String.ofList_toList]
  have hcut (stop : Nat) := @cut_append false stop 0 [] _ rfl (segmentLevel_plain header.plain 0)
    (lexemes (0 + n.toList.length + 1) cs)
  rw [fragment, htokens, properties_eq_readCut, ho.strict]
  dsimp only
  rw [← Int.natCast_zero, hcut, hone, Cut.pushAll_nil, readCut_last,
    addProperty_header header hrun (by simp [Assoc.keys]), Journal.map_result, hname,
    typeExpr_piece ho ho hp.right.tail]
  rfl

theorem fragment_object (ho : o.Lenient) {n : String} (hn : IsWord n) (h : Balanced cs) :
    o.fragment (n.toList ++ ':' :: ' ' :: '{' :: (cs ++ ['}'])) =
      match o.room with
      | .spent => .error .nestedTooDeeply
      | .free inside => ((o.within (inside .property)).fragment cs).map
          fun ps => [(n, ⟨.object ps, false⟩)] := by
  have htokens (k : Nat) : lexemes k (' ' :: '{' :: (cs ++ ['}'])) =
      ⟨.openBrace, ['{'], k + 1⟩ ::
        (lexemes (k + 1 + 1) cs ++ [⟨.closeBrace, ['}'], k + 1 + 1 + cs.length⟩]) := by
    rw [lexemes_cons_blank rfl, lexemes_enclosed]
  have hone (k stop : Nat) : cut false stop 0 [] (lexemes k (' ' :: '{' :: (cs ++ ['}']))) =
      ([], .ok ⟨lexemes k (' ' :: '{' :: (cs ++ ['}'])), stop⟩) := by
    refine cut_last ?_
    rw [htokens]
    exact segmentLevel_enclosed rfl rfl (h.level_eq _)
  have hp : Piece (' ' :: '{' :: (cs ++ ['}'])) 2 cs := ⟨[' ', '{'], ['}'], rfl, rfl⟩
  rw [fragment_property ho hn hone, htokens]
  cases o.room with
  | spent => rfl
  | free inside =>
    have hinner (stop : Nat) : (o.properties (' ' :: '{' :: (cs ++ ['}']))
        (o.typeExpr (' ' :: '{' :: (cs ++ ['}'])) (inside .property)) ⟨lexemes 2 cs, stop⟩).result =
        (o.within (inside .property)).fragment cs :=
      properties_piece ho (ho.within (inside .property)) hp stop
    dsimp only
    rw [typeExpr_enclosed rfl rfl (h.level_eq _), Journal.map_result, hinner]
    cases ((o.within (inside .property)).fragment cs) <;> rfl

theorem fragment_array (ho : o.Lenient) {n : String} (hn : IsWord n) (h : Guarded cs) :
    o.fragment (n.toList ++ ':' :: (cs ++ ['[', ']'])) =
      match o.room with
      | .spent => .error .nestedTooDeeply
      | .free inside => (o.typeExpr cs (inside .item) ⟨lexemes 0 cs, cs.length⟩).result.map
          fun τ => [(n, ⟨.array τ, false⟩)] := by
  have hp : Piece (cs ++ ['[', ']']) 0 cs := ⟨[], ['[', ']'], rfl, rfl⟩
  rw [fragment_property ho hn h.suffix.cut_eq, lexemes_suffix, lexemes_nil]
  cases o.room with
  | spent => rfl
  | free inside =>
    dsimp only
    rw [typeExpr_suffix rfl, Journal.map_result, typeExpr_piece ho ho hp _ _ cs.length]
    cases (o.typeExpr cs (inside .item) ⟨lexemes 0 cs, cs.length⟩).result <;> rfl

end Fragment

section Parse

variable {o : ParseOptions}

theorem parse_braced (ho : o.Lenient) (s : String) :
    (o.parse (braced s)).result = o.fragment s.toList := by
  have hbody : o.body (braced s).toList = ⟨lexemes 1 s.toList, 1 + s.toList.length⟩ := by
    simp [body, lexemes_braced, ho.strict]
  rw [parse_lenient ho.strict, hbody, properties_piece ho ho (piece_braced s)]

/-- Where there is less room a text is read the same, unless it is too little. -/
theorem parse_follows (ho : o.Lenient) {room' room : Room} (hroom : room' ≤ room)
    (text : String) :
    Follows (room' ≠ room) ((o.within room').parse text).result
      ((o.within room).parse text).result := by
  have hmoved : Moved text.toList 0 (o.body text.toList) (o.body text.toList) :=
    ⟨(map_shift_zero _).symm, (placed_body o text.toList).tokens⟩
  rw [parse_lenient (ho.within room').strict, parse_lenient (ho.within room).strict]
  exact fragment_follows (ho.within room') (ho.within room) (.self _) hroom hmoved

/-- A text in braces is read as without them, if it does not begin with a brace itself. -/
theorem parse_braced_of_head (ho : o.Lenient) {s : String} {t : Token} {ts : List Token}
    (h : lexemes 0 s.toList = t :: ts) (ht : t.kind ≠ .openBrace) :
    (o.parse (braced s)).result = (o.parse s).result := by
  have hmoved : Moved s.toList 0 (o.body s.toList) ⟨lexemes 0 s.toList, s.toList.length⟩ :=
    ⟨by rw [map_shift_zero, body_of_head h ht, h], List.infix_rfl⟩
  rw [parse_braced ho, parse_lenient ho.strict]
  exact ((fragment_follows ho ho (.self _) (Room.le_refl _) hmoved).eq (by simp)).symm

/-- The text is read as `read` says with the room that is left inside a type. If there is no more of
it there than around the type, the text is read as `read` says with all the room, or there is too
little. -/
structure ReadsInside (o : ParseOptions) (level : Level) (text : String)
    (read : Room → Except ParseError Definition) : Prop where
  inside : ∀ inside, o.room = .free inside → (o.parse text).result = read (inside level)
  around : o.room.Narrows →
    (o.parse text).result = read o.room ∨ (o.parse text).result = .error .nestedTooDeeply

theorem readsInside {level : Level} {text : String} {read : Room → Except ParseError Definition}
    (hread : ∀ room' room, room' ≤ room → Follows (room' ≠ room) (read room') (read room))
    (h : (o.parse text).result = match o.room with
      | .spent => .error .nestedTooDeeply
      | .free inside => read (inside level)) : o.ReadsInside level text read := by
  cases hr : o.room with
  | spent =>
    rw [hr] at h
    exact ⟨fun inside hinside => by simp [hr] at hinside, fun _ => .inr h⟩
  | free inside =>
    rw [hr] at h
    refine ⟨fun inside' hinside => ?_, fun hnarrows => ?_⟩
    · obtain rfl : inside = inside' := Room.free.inj (hr.symm.trans hinside)
      exact h
    · have hle := hnarrows level
      rw [hr] at hle ⊢
      rw [h]
      exact (hread _ _ hle).eq_or

/-- Reading leniently what is put together: two texts around a semicolon, if the first has as many
opening as closing braces; a text in balance as the type of a property; and an array suffix behind
a type that has no semicolon at depth zero. Putting what is read into a definition keeps the places
of old names and takes the later properties. Every text is read if there is room for as many types
inside one another as it has characters. -/
theorem parse_compositional (ho : o.Lenient) :
    (∀ a b : String, a.toList.count '{' = a.toList.count '}' →
      (o.parse (braced (a ++ ";" ++ b))).result = (do
        let d ← (o.parse (braced a)).result
        let e ← (o.parse (braced b)).result
        pure (Assoc.update d e))) ∧
    (∀ (b : String) (e : Definition), (o.parse (braced b)).result = .ok e → ∀ d : Definition,
      Assoc.keys (Assoc.update d e) =
          Assoc.keys d ++ (Assoc.keys e).filter (fun name => !Assoc.contains name d) ∧
        ∀ name, Assoc.get? name (Assoc.update d e) =
          (Assoc.get? name e).or (Assoc.get? name d)) ∧
    (∀ n b : String, IsWord n → Balanced b.toList →
      o.ReadsInside .property (braced (n ++ ": " ++ braced b)) fun room =>
        ((o.within room).parse (braced b)).result.map fun ps => [(n, ⟨.object ps, false⟩)]) ∧
    (∀ n t : String, IsWord n → Guarded t.toList →
      ∃ type : Room → Except ParseError TypeExpr,
        (∀ room, ((o.within room).parse (braced (n ++ ":" ++ t))).result =
          (type room).map fun τ => [(n, ⟨τ, false⟩)]) ∧
        o.ReadsInside .item (braced (n ++ ":" ++ t ++ "[]")) fun room =>
          (type room).map fun τ => [(n, ⟨.array τ, false⟩)]) ∧
    ∀ text : String, o.room.Allows text.length → ∃ d, (o.parse text).result = .ok d := by
  refine ⟨fun a b h => ?_, fun b e h d => ?_, fun n b hn h => readsInside ?_ ?_,
    fun n t hn h => ?_, fun text => parse_total ho⟩
  · have htext : (a ++ ";" ++ b).toList = a.toList ++ ';' :: b.toList := by simp
    rw [parse_braced ho, parse_braced ho, parse_braced ho, htext]
    exact fragment_semicolon ho h b.toList
  · have hnodup : (Assoc.keys e).Nodup := nodup_of_properties (properties_of_parse h)
    exact ⟨Assoc.keys_update hnodup, Assoc.get?_update hnodup⟩
  · exact fun room' room hroom => (parse_follows ho hroom _).map _
  · have htext : (n ++ ": " ++ braced b).toList =
        n.toList ++ ':' :: ' ' :: '{' :: (b.toList ++ ['}']) := by simp [toList_braced]
    rw [parse_braced ho, htext, fragment_object ho hn h]
    simp only [parse_braced (ho.within _)]
  · have htext : (n ++ ":" ++ t).toList = n.toList ++ ':' :: t.toList := by simp
    have hsuffixed : (n ++ ":" ++ t ++ "[]").toList =
        n.toList ++ ':' :: (t.toList ++ ['[', ']']) := by simp
    let s : Segment := ⟨lexemes 0 t.toList, t.toList.length⟩
    have hmoved : Moved t.toList 0 s s := ⟨(map_shift_zero _).symm, List.infix_rfl⟩
    refine ⟨fun room => (o.typeExpr t.toList room s).result, fun room => ?_,
      readsInside (fun room' room hroom => ?_) ?_⟩
    · rw [parse_braced (ho.within room), htext, fragment_property (ho.within room) hn h.cut_eq]
      exact congrArg _ (typeExpr_piece (ho.within room) ho (.self _) room _ _)
    · exact (typeExpr_follows ho ho (.self _) hroom hmoved).map _
    · rw [parse_braced ho, hsuffixed, fragment_array ho hn h]

/-- Semicolons behind a brace that closes nothing, and a name that is declared twice. -/
theorem parse_compositional_broken :
    ParseOptions.Lenient {} ∧
      (parse {} (braced ("x: p\x7d y \x7b; z" ++ ";" ++ "w: u; x: v[]"))).result =
        .ok [("x", ⟨.array (.named "v"), false⟩), ("w", ⟨.named "u", false⟩)] ∧
      (∃ e, (parse {} (braced "w: u; x: v[]")).result = .ok e ∧
        Assoc.keys (Assoc.update [("x", ⟨.named "p", true⟩)] e) = ["x", "w"]) ∧
      (parse {} (braced ("a" ++ ": " ++ braced "b: c; d"))).result =
        .ok [("a", ⟨.object [("b", ⟨.named "c", false⟩)], false⟩)] ∧
      (parse {} (braced ("a" ++ ":" ++ "p\x7d; q" ++ "[]"))).result =
        .ok [("a", ⟨.array (.named "p\x7d; q"), false⟩)] ∧
      ∃ d, (parse {} "x: p\x7d y \x7b; z").result = .ok d := by
  have ho : ParseOptions.Lenient {} := ⟨rfl, rfl⟩
  have hroom : ({} : ParseOptions).room = .free _ := Room.ofFrames_succ 991
  obtain ⟨semicolon, update, object, array, total⟩ := parse_compositional ho
  refine ⟨ho, ?_, ?_, ?_, ?_, total _ (Room.allows_ofFrames (by decide))⟩
  · rw [semicolon _ _ (by decide), parse_braced ho, parse_braced ho]
    rfl
  · have hread : (parse {} (braced "w: u; x: v[]")).result =
        .ok [("w", ⟨.named "u", false⟩), ("x", ⟨.array (.named "v"), false⟩)] := by
      rw [parse_braced ho]
      rfl
    exact ⟨_, hread, (update _ _ hread _).1⟩
  · rw [(object "a" "b: c; d" (by decide) (by decide)).inside _ hroom, parse_braced (ho.within _)]
    rfl
  · obtain ⟨type, hplain, hsuffix⟩ := array "a" "p\x7d; q" (by decide) (by decide)
    have hread : (parse (within {} (.ofFrames 991)) (braced ("a" ++ ":" ++ "p\x7d; q"))).result =
        .ok [("a", ⟨.named "p\x7d; q", false⟩)] := by
      rw [parse_braced (ho.within _)]
      rfl
    rw [hplain] at hread
    obtain ⟨τ, hτ, hname⟩ := exists_of_map_eq_ok hread
    cases hname
    rw [hsuffix.inside _ hroom]
    show Except.map _ (type (.ofFrames 991)) = _
    rw [hτ]
    rfl

def suffixedTypeText (n : Nat) : String :=
  String.ofList ([' ', 'x'] ++ (List.replicate n ['[', ']']).flatten)

theorem toList_suffixedTypeText (n : Nat) :
    (suffixedTypeText n).toList = [' ', 'x'] ++ (List.replicate n ['[', ']']).flatten :=
  String.toList_ofList

theorem suffixedTypeText_eq (n : Nat) : "a" ++ ":" ++ suffixedTypeText n = suffixedText n := by
  rw [← String.toList_inj, toList_suffixedText]
  simp [toList_suffixedTypeText]

theorem suffixedText_succ (n : Nat) : suffixedText n ++ "[]" = suffixedText (n + 1) := by
  rw [← String.toList_inj, String.toList_append, toList_suffixedText, toList_suffixedText,
    List.replicate_succ', List.flatten_concat, List.append_assoc]
  rfl

theorem guarded_suffixedTypeText (n : Nat) : Guarded (suffixedTypeText n).toList := by
  intro xs hxs
  have hmem : ';' ∈ (suffixedTypeText n).toList := hxs.subset (by simp)
  rw [toList_suffixedTypeText] at hmem
  simp at hmem

/-- A type may be read where with one array suffix more there is no room for it. -/
theorem suffixedTypeText_not_compositional :
    IsWord "a" ∧ Guarded (suffixedTypeText 991).toList ∧
      (parse {} (braced ("a" ++ ":" ++ suffixedTypeText 991))).result =
        .ok [("a", ⟨suffixedType 991, false⟩)] ∧
      (parse {} (braced ("a" ++ ":" ++ suffixedTypeText 991 ++ "[]"))).result =
        .error .nestedTooDeeply := by
  have ho : ParseOptions.Lenient {} := ⟨rfl, rfl⟩
  have hread (n : Nat) : (parse {} (braced (suffixedText n))).result =
      if n < 992 then .ok [("a", ⟨suffixedType n, false⟩)] else .error .nestedTooDeeply := by
    rw [parse_braced_of_head ho (lexemes_suffixedText n) (by simp)]
    exact parse_suffixedText (.inl rfl) rfl n
  refine ⟨by decide, guarded_suffixedTypeText 991, ?_, ?_⟩
  · rw [suffixedTypeText_eq, hread, if_pos (by decide)]
  · rw [suffixedTypeText_eq, suffixedText_succ, hread, if_neg (by decide)]

end Parse

end ParseOptions

end Schema

end Conform
