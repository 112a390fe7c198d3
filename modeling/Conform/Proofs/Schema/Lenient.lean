import Conform.Proofs.Schema.Position

/-! Lenient reading that accepts every type name. Nothing is refused, so what a segment or a type is
read as goes by its tokens alone: by the first colon, by an array suffix at the end, by the first
opening brace and its partner. Every text is read if there is room for as many types inside one another
as it has characters. -/

namespace Conform.Schema

/-- Nothing is refused: neither what is malformed nor the name of a type. -/
structure ParseOptions.Lenient (o : ParseOptions) : Prop where
  strict : o.strict = false
  accept : o.unknown = .accept

def parts? (s : Segment) : Option (List Token × Segment) :=
  match s.tokens.dropWhile (·.kind ≠ .colon) with
  | [] => none
  | _ :: after => some (s.tokens.takeWhile (·.kind ≠ .colon), ⟨after, s.stop⟩)

/-- What a type is read as: a name, an array, or an object if an opening brace has a partner. -/
inductive Shape where
  | name
  | array (item : Segment)
  | object (inside : Segment)

def shape (s : Segment) : Shape :=
  match s.tokens.getLast? with
  | none => .name
  | some last =>
    if last.kind = .arraySuffix then .array ⟨s.tokens.dropLast, last.start⟩
    else
      match s.tokens.dropWhile (·.kind ≠ .openBrace) with
      | [] => .name
      | _ :: rest =>
        match closeIndex? tokenBrace 0 rest with
        | none => .name
        | some i => .object ⟨rest.take i, (Segment.mk (rest.drop i) s.stop).start⟩

inductive Shape.Shorter (n : Nat) : Shape → Prop
  | name : Shorter n .name
  | array {item : Segment} (h : item.tokens.length < n) : Shorter n (.array item)
  | object {inside : Segment} (h : inside.tokens.length < n) : Shorter n (.object inside)

theorem parts?_eq_some {s : Segment} {before : List Token} {us : Segment}
    (h : parts? s = some (before, us)) :
    (∃ colon, s.tokens = before ++ colon :: us.tokens) ∧ ∀ t ∈ before, t.kind ≠ .colon := by
  unfold parts? at h
  cases hd : s.tokens.dropWhile (·.kind ≠ .colon) with
  | nil =>
    rw [hd] at h
    cases h
  | cons colon after =>
    rw [hd] at h
    cases h
    refine ⟨⟨colon, ?_⟩, fun t ht => by simpa using List.mem_takeWhile_imp ht⟩
    rw [← hd, List.takeWhile_append_dropWhile]

theorem length_of_parts? {s : Segment} {before : List Token} {us : Segment}
    (h : parts? s = some (before, us)) : us.tokens.length < s.tokens.length := by
  obtain ⟨⟨colon, hsplit⟩, -⟩ := parts?_eq_some h
  rw [hsplit, List.length_append, List.length_cons]
  omega

/-- A type is read as a name just if it does not end with an array suffix and its first opening
brace has no partner. -/
theorem shape_eq_name {s : Segment} (h : shape s = .name) :
    (∀ t ∈ s.tokens.getLast?, t.kind ≠ .arraySuffix) ∧
      ∀ us opening rest, s.tokens = us ++ opening :: rest → (∀ t ∈ us, t.kind ≠ .openBrace) →
        opening.kind = .openBrace → closeIndex? tokenBrace 0 rest = none := by
  unfold shape at h
  cases hlast : s.tokens.getLast? with
  | none =>
    have hnil := List.getLast?_eq_none_iff.1 hlast
    simp [hnil]
  | some last =>
    rw [hlast] at h
    by_cases ht : last.kind = .arraySuffix
    · simp [ht] at h
    refine ⟨by simpa using ht, fun us opening rest hsplit hus ho => ?_⟩
    have hdrop : s.tokens.dropWhile (·.kind ≠ .openBrace) = opening :: rest := by
      rw [hsplit, dropWhile_until hus ho]
    simp only [ht, if_false, hdrop] at h
    cases hclose : closeIndex? tokenBrace 0 rest with
    | none => rfl
    | some i => simp [hclose] at h

theorem shape_shorter (s : Segment) : (shape s).Shorter s.tokens.length := by
  have hle := (List.dropWhile_sublist (fun t : Token => t.kind ≠ .openBrace) (l := s.tokens)).length_le
  unfold shape
  cases hlast : s.tokens.getLast? with
  | none => exact .name
  | some last =>
    have hpos : 0 < s.tokens.length := List.length_pos_of_mem (List.mem_of_getLast? hlast)
    by_cases ht : last.kind = .arraySuffix
    · simp only [ht, if_true]
      refine .array ?_
      rw [List.length_dropLast]
      omega
    simp only [ht, if_false]
    cases hd : s.tokens.dropWhile (·.kind ≠ .openBrace) with
    | nil => exact .name
    | cons opening rest =>
      rw [hd, List.length_cons] at hle
      dsimp only
      cases closeIndex? tokenBrace 0 rest with
      | none => exact .name
      | some i =>
        refine .object ?_
        rw [List.length_take]
        omega

theorem Spelled.length_le {n : Nat} {cs : List Char} {ts : List Token} (h : Spelled n cs ts) :
    ts.length ≤ cs.length := by
  induction h with
  | nil => rfl
  | blank hc _ ih =>
    rw [List.length_cons]
    omega
  | token hn formed _ ih =>
    have hpos := List.length_pos_iff.2 formed.not_blank.1
    rw [List.length_append, List.length_cons]
    omega

namespace ParseOptions

variable {o : ParseOptions} {source : List Char} {typeOf : Segment → Reading TypeExpr}

theorem Lenient.named (h : o.Lenient) (chars : List Char) (position : Nat) :
    o.named chars position = pure (.named (String.ofList chars)) :=
  named_eq_pure (.inl h.accept)

/-- Read leniently, a segment without a colon counts for nothing. -/
theorem addProperty_lenient (hs : o.strict = false) (sofar : Definition) (s : Segment) :
    (o.addProperty source typeOf sofar s).result =
      match parts? s with
      | none => .ok sofar
      | some (before, us) => (typeOf us).result.map fun τ =>
          Assoc.upsert (String.ofList (bareName (spanText source before)))
            ⟨τ, (spanText source before).getLast? = some '?'⟩ sofar := by
  unfold addProperty parts?
  cases hts : s.tokens with
  | nil => rfl
  | cons t ts =>
    simp only [List.isEmpty_cons, Bool.false_eq_true, if_false, hs]
    cases (t :: ts).dropWhile (·.kind ≠ .colon) with
    | nil => rfl
    | cons colon after =>
      dsimp only
      rw [← map_eq_pure_bind, Journal.map_result]
      rfl

def readShape (o : ParseOptions) (source : List Char) (inside : Level → Room) (ts : List Token) :
    Shape → Except ParseError TypeExpr
  | .name => .ok (.named (String.ofList (spanText source ts)))
  | .array s => (o.typeExpr source (inside .item) s).result.map .array
  | .object s => (o.properties source (o.typeExpr source (inside .property)) s).result.map .object

theorem typeExpr_lenient (ho : o.Lenient) (inside : Level → Room) (s : Segment) :
    (o.typeExpr source (.free inside) s).result =
      o.readShape source inside s.tokens (shape s) := by
  rw [typeExpr, shape]
  cases hlast : s.tokens.getLast? with
  | none =>
    obtain hnil : s.tokens = [] := List.getLast?_eq_none_iff.1 hlast
    simp only [ho.strict, Bool.false_eq_true, if_false, ho.named, hnil]
    rfl
  | some last =>
    by_cases ht : last.kind = .arraySuffix
    · simp only [ht, if_true]
      exact Journal.map_result _ _
    simp only [ht, if_false, ho.strict, ho.named]
    cases s.tokens.dropWhile (·.kind ≠ .openBrace) with
    | nil => rfl
    | cons opening rest =>
      dsimp only
      cases closeIndex? tokenBrace 0 rest with
      | none => rfl
      | some i =>
        by_cases hafter : (rest.drop (i + 1)).isEmpty
        · simp only [hafter, Bool.not_true, Bool.false_and, Bool.false_eq_true, if_false]
          exact Journal.map_result _ _
        · simp only [hafter, Bool.not_false, Bool.false_and, Bool.false_eq_true, if_true, if_false]
          rw [Journal.bind_result]
          exact Journal.map_result _ _

theorem parse_lenient (hs : o.strict = false) (text : String) :
    (o.parse text).result =
      (o.properties text.toList (o.typeExpr text.toList o.room) (o.body text.toList)).result := by
  unfold parse
  rw [Journal.bind_result]
  simp only [hs, Bool.false_and, Bool.false_eq_true, if_false]
  cases (o.properties text.toList (o.typeExpr text.toList o.room) (o.body text.toList)).result <;>
    rfl

section Total

theorem addProperty_total (hs : o.strict = false) {s : Segment}
    (h : ∀ us : Segment, us.tokens.length < s.tokens.length → ∃ τ, (typeOf us).result = .ok τ)
    (sofar : Definition) : ∃ d, (o.addProperty source typeOf sofar s).result = .ok d := by
  rw [addProperty_lenient hs]
  cases hparts : parts? s with
  | none => exact ⟨sofar, rfl⟩
  | some p =>
    obtain ⟨before, us⟩ := p
    obtain ⟨τ, hτ⟩ := h us (length_of_parts? hparts)
    exact ⟨_, congrArg (Except.map _) hτ⟩

theorem addProperties_total (hs : o.strict = false) {segments : List Segment}
    (h : ∀ s ∈ segments, ∀ us : Segment, us.tokens.length < s.tokens.length →
      ∃ τ, (typeOf us).result = .ok τ)
    (sofar : Definition) : ∃ d, (o.addProperties source typeOf sofar segments).result = .ok d := by
  induction segments generalizing sofar with
  | nil => exact ⟨sofar, rfl⟩
  | cons s rest ih =>
    obtain ⟨hfirst, hrest⟩ := List.forall_mem_cons.1 h
    obtain ⟨d, hd⟩ := @addProperty_total _ source _ hs _ hfirst sofar
    obtain ⟨e, he⟩ := ih hrest d
    exact ⟨e, Journal.bind_result_eq_ok.2 ⟨d, hd, he⟩⟩

theorem properties_total (hs : o.strict = false) {s : Segment}
    (h : ∀ us : Segment, us.tokens.length < s.tokens.length → ∃ τ, (typeOf us).result = .ok τ) :
    ∃ d, (o.properties source typeOf s).result = .ok d := by
  obtain ⟨hinside, hlast⟩ :=
    (cut_each_isPiece false s.stop 0 [] s.tokens).forall fun s => And.left
  have short {u : Segment} (hu : IsPiece s.stop s.tokens u) (us : Segment)
      (hus : us.tokens.length < u.tokens.length) : ∃ τ, (typeOf us).result = .ok τ :=
    h us (hus.trans_le hu.tokens.length_le)
  obtain ⟨d, hd⟩ := @addProperties_total _ source _ hs _ (fun u hu => short (hinside u hu)) []
  cases hok : (cut false s.stop 0 [] s.tokens).2 with
  | error e => exact absurd hok (cut_lenient_ne_error _ _ _ _ e)
  | ok last =>
    obtain ⟨e, he⟩ := @addProperty_total _ source _ hs _ (short (hlast last hok)) d
    refine ⟨e, Journal.bind_result_eq_ok.2 ⟨d, by rw [hs]; exact hd, ?_⟩⟩
    rw [hs, hok]
    exact he

theorem typeExpr_total (ho : o.Lenient) {room : Room} {s : Segment}
    (h : room.Allows (s.tokens.length + 1)) : ∃ τ, (o.typeExpr source room s).result = .ok τ := by
  induction room generalizing s with
  | spent => cases h
  | free inside ih =>
    have hshorter := shape_shorter s
    rw [typeExpr_lenient ho]
    cases hshape : shape s with
    | name => exact ⟨_, rfl⟩
    | array item =>
      rw [hshape] at hshorter
      cases hshorter with | array hitem =>
      obtain ⟨τ, hτ⟩ := @ih .item item ((h .item).mono hitem)
      exact ⟨.array τ, by rw [readShape, hτ]; rfl⟩
    | object s' =>
      rw [hshape] at hshorter
      cases hshorter with | object hinside =>
      have htypes (us : Segment) (hus : us.tokens.length < s'.tokens.length) :
          ∃ τ, (o.typeExpr source (inside .property) us).result = .ok τ :=
        ih .property ((h .property).mono (by omega))
      obtain ⟨d, hd⟩ := @properties_total _ source _ ho.strict s' htypes
      exact ⟨.object d, by rw [readShape, hd]; rfl⟩

theorem parse_total (ho : o.Lenient) {text : String} (h : o.room.Allows text.length) :
    ∃ d, (o.parse text).result = .ok d := by
  rw [parse_lenient ho.strict]
  refine properties_total ho.strict fun us hus => typeExpr_total ho (h.mono ?_)
  have hbody := (placed_body o text.toList).tokens.length_le
  have hlength := (spelled_lexemes 0 text.toList).length_le
  rw [String.length_toList] at hlength
  omega

/-- Lenient reading that accepts every type name ends in no fault but a lack of room. -/
theorem parse_lenient_error (ho : o.Lenient) {text : String} {e : ParseError}
    (h : (o.parse text).result = .error e) : e = .nestedTooDeeply ∧ ¬ o.room.Allows text.length := by
  refine ⟨?_, ?_⟩
  · cases e with
    | nestedTooDeeply => rfl
    | malformed issue p =>
      have refuses : ¬ o.Refuses issue := by
        cases issue <;> simp [Refuses, Permits, ho.strict, ho.accept]
      rcases failsOnly_parse o text _ h with ⟨-, hs⟩ | ⟨-, hrefuses, -⟩
      · rw [ho.strict] at hs
        cases hs
      · exact absurd hrefuses refuses
  · intro hallows
    obtain ⟨d, hd⟩ := parse_total ho hallows
    rw [hd] at h
    cases h

end Total

end ParseOptions

end Conform.Schema
