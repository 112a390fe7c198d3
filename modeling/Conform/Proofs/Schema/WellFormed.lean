import Conform.Proofs.Schema.Composition
import Conform.Proofs.Schema.Lossless
import Conform.Proofs.Schema.Rejection

/-! Whatever the text, lenient reading that accepts every type name refuses nothing; and whatever is
read, in either mode and with any vocabulary, has names that stand in the text and could not have
been read as anything else. -/

namespace Conform.Schema

structure Excerpt (source cs : List Char) : Prop where
  slice : cs <:+: source
  trimmed : Trimmed cs

/-- The name of a property: it ends before the first colon. -/
structure PropertyNameIn (source cs : List Char) : Prop extends Excerpt source cs where
  colon : ':' ∉ cs

def FirstUnclosed (cs : List Char) : Prop :=
  ∀ before inner after, cs = before ++ '{' :: (inner ++ '}' :: after) → '{' ∉ before →
    ¬ Balanced inner

structure TypeNameIn (source cs : List Char) : Prop extends Excerpt source cs where
  unsuffixed : ¬ ['[', ']'] <:+ cs
  unclosed : FirstUnclosed cs

/-- All names in a type stand in the text, and no object declares one twice. -/
inductive TypeExpr.WellFormed (source : List Char) : TypeExpr → Prop
  | named {name : String} (h : TypeNameIn source name.toList) :
      TypeExpr.WellFormed source (.named name)
  | array {item : TypeExpr} (h : item.WellFormed source) : TypeExpr.WellFormed source (.array item)
  | object {ps : Definition} (distinct : (Assoc.keys ps).Nodup)
      (names : ∀ p ∈ ps, PropertyNameIn source p.1.toList)
      (types : ∀ p ∈ ps, p.2.type.WellFormed source) : TypeExpr.WellFormed source (.object ps)

section Names

variable {source : List Char} {ts : List Token}

theorem excerpt_spanText (hin : ts <:+: lexemes 0 source) :
    Excerpt source (spanText source ts) := by
  have hrun : Run source ts := (run_lexemes source).subrun hin
  have hfront := spanText_prefix source ⟨ts, 0⟩
  exact ⟨hfront.isInfix.trans (List.drop_suffix _ _).isInfix, hrun.trimmed_spanText⟩

theorem propertyNameIn_bareName (hin : ts <:+: lexemes 0 source) (h : ∀ t ∈ ts, t.kind ≠ .colon) :
    PropertyNameIn source (ParseOptions.bareName (spanText source ts)) := by
  obtain ⟨us, hus, hname⟩ := ParseOptions.exists_bareName ((run_lexemes source).subrun hin)
  have hin : us <:+: lexemes 0 source := hus.isInfix.trans hin
  have hrun : Run source us := (run_lexemes source).subrun hin
  rw [hname]
  refine ⟨excerpt_spanText hin, fun hmem => ?_⟩
  rcases hrun.mem_spanText ':' hmem with hblank | ⟨t, ht, hct⟩
  · cases hblank
  · exact h t (hus.subset ht) ((hrun.formed t ht).kind_of_mem rfl hct)

/-- Braces that are partners in a text are partners among its tokens. -/
theorem exists_partner {n : Nat} {before inner after : List Char} (hbefore : '{' ∉ before)
    (hinner : Balanced inner) :
    ∃ us opening rest i,
      lexemes n (before ++ '{' :: (inner ++ '}' :: after)) = us ++ opening :: rest ∧
      (∀ t ∈ us, t.kind ≠ .openBrace) ∧ opening.kind = .openBrace ∧
      closeIndex? tokenBrace 0 rest = some i := by
  rw [lexemes_structural (k := .openBrace) rfl, lexemes_structural (k := .closeBrace) rfl]
  refine ⟨_, _, _, (lexemes (n + before.length + 1) inner).length, rfl, fun t ht hk => ?_, rfl, ?_⟩
  · obtain ⟨formed, hin⟩ := (spelled_lexemes n before).formed_of_mem t ht
    rw [formed.text_of_structural (c := '{') rfl hk] at hin
    exact hbefore (hin.subset List.mem_cons_self)
  · rw [closeIndex?_append (hinner.level_eq _)]
    simp [closeIndex?, tokenBrace]

/-- Tokens that are neither an array's nor an object's spell the name of a type. -/
theorem typeNameIn_spelledName (hin : ts <:+: lexemes 0 source)
    (hlast : ∀ t ∈ ts.getLast?, t.kind ≠ .arraySuffix)
    (hbrace : ∀ us opening rest, ts = us ++ opening :: rest → (∀ t ∈ us, t.kind ≠ .openBrace) →
      opening.kind = .openBrace → closeIndex? tokenBrace 0 rest = none) :
    TypeNameIn source (spelledName source ts).toList := by
  have excerpt : Excerpt source (spelledName source ts).toList := by
    rw [toList_spelledName]
    exact excerpt_spanText hin
  by_cases hne : ts = []
  · subst hne
    have hnil : (spelledName source []).toList = [] := toList_spelledName
    refine ⟨excerpt, by simp [hnil], fun before inner after hcs => ?_⟩
    rw [hnil] at hcs
    simp at hcs
  refine ⟨excerpt, unsuffixed_spelledName hin hne hlast, ?_⟩
  intro before inner after hcs hbefore hinner
  obtain ⟨n, hn⟩ := exists_lexemes_spelledName hin hne
  obtain ⟨us, opening, rest, i, hsplit, hus, ho, hclose⟩ := exists_partner hbefore hinner
  rw [hcs, hsplit] at hn
  rw [hbrace us opening rest hn.symm hus ho] at hclose
  cases hclose

end Names

namespace ParseOptions

variable {o : ParseOptions} {source : List Char}

section Lists

variable {typeOf : Segment → Reading TypeExpr} (hs : o.strict = false)
  (htype : ∀ (s : Segment) τ, s.tokens <:+: lexemes 0 source → (typeOf s).result = .ok τ →
    τ.WellFormed source)

include hs htype

theorem addProperty_wellFormed {s : Segment} (hin : s.tokens <:+: lexemes 0 source)
    {sofar d : Definition} (hsofar : (TypeExpr.object sofar).WellFormed source)
    (h : (o.addProperty source typeOf sofar s).result = .ok d) :
    (TypeExpr.object d).WellFormed source := by
  rw [addProperty_lenient hs] at h
  cases hparts : parts? s with
  | none =>
    rw [hparts] at h
    cases h
    exact hsofar
  | some p =>
    obtain ⟨before, us⟩ := p
    obtain ⟨⟨colon, hsplit⟩, hcolon⟩ := parts?_eq_some hparts
    rw [hsplit] at hin
    have hbefore : before <:+: lexemes 0 source := (List.prefix_append _ _).isInfix.trans hin
    have hus : us.tokens <:+: lexemes 0 source := (suffix_behind before colon _).isInfix.trans hin
    rw [hparts] at h
    obtain ⟨τ, hτ, rfl⟩ := exists_of_map_eq_ok h
    cases hsofar with
    | object distinct names types =>
    refine .object (Assoc.nodup_keys_upsert distinct) (fun p hp => ?_) (fun p hp => ?_)
    · rcases Assoc.mem_upsert hp with rfl | hp
      · rw [String.toList_ofList]
        exact propertyNameIn_bareName hbefore hcolon
      · exact names p hp
    · rcases Assoc.mem_upsert hp with rfl | hp
      · exact htype us τ hus hτ
      · exact types p hp

theorem addProperties_wellFormed {segments : List Segment}
    (hin : ∀ s ∈ segments, s.tokens <:+: lexemes 0 source) {sofar d : Definition}
    (hsofar : (TypeExpr.object sofar).WellFormed source)
    (h : (o.addProperties source typeOf sofar segments).result = .ok d) :
    (TypeExpr.object d).WellFormed source := by
  induction segments generalizing sofar with
  | nil =>
    cases h
    exact hsofar
  | cons s rest ih =>
    obtain ⟨hfirst, hrest⟩ := List.forall_mem_cons.1 hin
    obtain ⟨e, he, h⟩ := Journal.bind_result_eq_ok.1 h
    exact ih hrest (addProperty_wellFormed hs htype hfirst hsofar he) h

theorem properties_wellFormed {s : Segment} (hin : s.tokens <:+: lexemes 0 source)
    {d : Definition} (h : (o.properties source typeOf s).result = .ok d) :
    (TypeExpr.object d).WellFormed source := by
  obtain ⟨hpieces, hlast⟩ :=
    (cut_each_isPiece o.strict s.stop 0 [] s.tokens).forall fun s => And.left
  obtain ⟨sofar, hsofar, h⟩ := Journal.bind_result_eq_ok.1 h
  obtain ⟨last, hok, h⟩ := Journal.bind_result_eq_ok.1 h
  have hempty : (TypeExpr.object []).WellFormed source := .object List.nodup_nil (by simp) (by simp)
  refine addProperty_wellFormed hs htype ((hlast last hok).tokens.trans hin) ?_ h
  exact addProperties_wellFormed hs htype (fun u hu => (hpieces u hu).tokens.trans hin) hempty hsofar

end Lists

theorem typeExpr_wellFormed (ho : o.Lenient) {room : Room} {s : Segment} {τ : TypeExpr}
    (hin : s.tokens <:+: lexemes 0 source) (h : (o.typeExpr source room s).result = .ok τ) :
    τ.WellFormed source := by
  induction room generalizing s τ with
  | spent => cases h
  | free _ ih =>
    -- the segments of a shape are inside the text, as ones that are moved by nothing
    have hinside : ShapeMoved source 0 (shape s) (shape s) :=
      shape_moved ⟨(map_shift_zero _).symm, hin⟩
    rw [typeExpr_lenient ho] at h
    cases hshape : shape s with
    | name =>
      obtain ⟨hlast, hbrace⟩ := shape_eq_name hshape
      rw [hshape] at h
      cases h
      exact .named (typeNameIn_spelledName hin hlast hbrace)
    | array item =>
      rw [hshape] at h hinside
      cases hinside with | array hitem =>
      obtain ⟨σ, hread, rfl⟩ := exists_of_map_eq_ok h
      exact .array (ih .item hitem.inside hread)
    | object inside =>
      rw [hshape] at h hinside
      cases hinside with | object hinside =>
      obtain ⟨ps, hread, rfl⟩ := exists_of_map_eq_ok h
      exact properties_wellFormed ho.strict (fun _ _ => ih .property) hinside.inside hread

/-- What is read at all is read leniently with every type name accepted, and as the same tree. -/
theorem parse_lenient_of_parse {text : String} {d : Definition}
    (h : (o.parse text).result = .ok d) :
    (({ o with strict := false } : ParseOptions).accepting.parse text).result = .ok d := by
  have hlenient : (({ o with strict := false } : ParseOptions).parse text).result = .ok d := by
    cases hs : o.strict with
    | true => rw [parse_lenient_of_strict hs h]
    | false =>
      obtain ⟨strict, unknown, known, room⟩ := o
      cases hs
      exact h
  have hsame := @parse_mono { o with strict := false }
    ({ o with strict := false } : ParseOptions).accepting rfl rfl (fun name _ => .inl rfl) text d
    hlenient
  rw [← hsame, hlenient]

/-- Lenient reading that accepts every type name ends in a tree, unless there is too little room; and
this is enough if as many types as the text has characters have room inside one another. And every
tree that is read is well formed, in whatever way it is read. -/
theorem parse_wellFormed (text : String) :
    (∀ o : ParseOptions, o.Lenient → (∃ d, (o.parse text).result = .ok d) ∨
      (o.parse text).result = .error .nestedTooDeeply ∧ ¬ o.room.Allows text.length) ∧
    ∀ (o : ParseOptions) (d : Definition), (o.parse text).result = .ok d →
      (TypeExpr.object d).WellFormed text.toList := by
  refine ⟨fun o ho => ?_, fun o d h => ?_⟩
  · cases h : (o.parse text).result with
    | ok d => exact .inl ⟨d, rfl⟩
    | error e =>
      obtain ⟨rfl, hroom⟩ := parse_lenient_error ho h
      exact .inr ⟨rfl, hroom⟩
  · have ho : (({ o with strict := false } : ParseOptions).accepting).Lenient := ⟨rfl, rfl⟩
    have hread := properties_of_parse (parse_lenient_of_parse h)
    refine properties_wellFormed ho.strict (fun s τ hin hτ => typeExpr_wellFormed ho hin hτ) ?_ hread
    exact (placed_body _ text.toList).tokens

/-- A name with a brace in it, and a type whose first brace is not closed though its second is. -/
theorem parse_wellFormed_unclosed :
    ParseOptions.Lenient {} ∧
      (∃ d, (parse {} "a \x7b ?: b \x7b c \x7b d[] \x7d e").result = .ok d) ∧
      (parse {} "a \x7b ?: b \x7b c \x7b d[] \x7d e").result =
        .ok [("a \x7b", ⟨.named "b \x7b c \x7b d[] \x7d e", true⟩)] ∧
      PropertyNameIn "a \x7b ?: b \x7b c \x7b d[] \x7d e".toList "a \x7b".toList ∧
      TypeNameIn "a \x7b ?: b \x7b c \x7b d[] \x7d e".toList
        "b \x7b c \x7b d[] \x7d e".toList := by
  have hread : (parse {} "a \x7b ?: b \x7b c \x7b d[] \x7d e").result =
      .ok [("a \x7b", ⟨.named "b \x7b c \x7b d[] \x7d e", true⟩)] := by rfl
  have ho : ParseOptions.Lenient {} := ⟨rfl, rfl⟩
  obtain ⟨total, wellFormed⟩ := parse_wellFormed "a \x7b ?: b \x7b c \x7b d[] \x7d e"
  refine ⟨ho, ?_, hread, ?_⟩
  · exact (total {} ho).resolve_right fun h => h.2 (Room.allows_ofFrames (by decide))
  · cases wellFormed {} _ hread with
    | object distinct names types =>
    cases types _ List.mem_cons_self with
    | named h => exact ⟨names _ List.mem_cons_self, h⟩

end ParseOptions

end Conform.Schema
