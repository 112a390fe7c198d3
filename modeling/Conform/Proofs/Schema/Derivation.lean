import Conform.Proofs.Schema.Property
import Conform.Proofs.Schema.Room

/-! Reading and deriving. Tokens that the grammar derives are read as their type in either mode, as
far as there is room for it; and what is read strictly has a derivation. -/

namespace Conform.Schema

theorem Header.isPrefix {name head : List Token} {optional : Bool}
    (header : Header name optional head) : name <+: head := by
  cases header with
  | required => exact List.prefix_append _ _
  | optional => exact List.prefix_append _ _

theorem Header.plain {name head : List Token} {optional : Bool} (h : Header name optional head) :
    ∀ t ∈ head, t.Plain := by
  have htext {t : Token} (ht : t.kind = .text) : t.Plain := by simp [Token.Plain, ht]
  cases h with
  | required hne text hc =>
    intro t ht
    rcases List.mem_append.1 ht with ht | ht
    · exact htext (text t ht)
    · simp [Token.Plain, List.mem_singleton.1 ht, hc]
  | @optional question colon hne text hq hc =>
    intro t ht
    rcases List.mem_append.1 ht with ht | ht
    · exact htext (text t ht)
    · rcases List.mem_cons.1 ht with rfl | ht
      · simp [Token.Plain, hq]
      · simp [Token.Plain, List.mem_singleton.1 ht, hc]

theorem Header.segmentLevel_append {name head : List Token} {optional : Bool}
    (h : Header name optional head) (d : Nat) (us : List Token) :
    segmentLevel d (head ++ us) = segmentLevel d us := by
  rw [Schema.segmentLevel_append, segmentLevel_plain h.plain]
  rfl

theorem Header.level_append {name head : List Token} {optional : Bool}
    (h : Header name optional head) (d : Nat) (us : List Token) :
    level tokenBrace d (head ++ us) = level tokenBrace d us := by
  rw [Schema.level_append, level_plain h.plain]
  rfl

section Lists

variable {source : List Char} {T : List Token → TypeExpr → Prop} {ts : List Token} {ps : Definition}

theorem PropertyList.level_eq (hT : ∀ us τ, T us τ → ∀ d, segmentLevel d us = some d)
    (h : PropertyList source T ts ps) (d : Nat) : level tokenBrace d ts = some d := by
  have property {name head us : List Token} {optional : Bool} {τ : TypeExpr}
      (header : Header name optional head) (type : T us τ) :
      level tokenBrace d (head ++ us) = some d := by
    rw [header.level_append]
    exact level_of_segmentLevel (hT us τ type d)
  have semicolon {t : Token} {us : List Token} (ht : t.kind = .semicolon) :
      level tokenBrace d (t :: us) = level tokenBrace d us := by
    simp [level, tokenBrace, ht]
  induction h with
  | nil => rfl
  | blank hs _ ih => rw [semicolon hs, ih]
  | last header type => exact property header type
  | cons header type hs _ _ ih =>
    rw [level_append, property header type, Option.bind_some, semicolon hs, ih]

/-- What holds of every type of the tree may be asked of the types in the list. -/
theorem PropertyList.and_of_forall {Q : TypeExpr → Prop} (h : PropertyList source T ts ps)
    (hQ : ∀ p ∈ ps, Q p.2.type) : PropertyList source (fun us τ => T us τ ∧ Q τ) ts ps := by
  induction h with
  | nil => exact .nil
  | blank hs _ ih => exact .blank hs (ih hQ)
  | last header type => exact .last header ⟨type, (List.forall_mem_cons.1 hQ).1⟩
  | cons header type hs _ new ih =>
    obtain ⟨hfirst, hrest⟩ := List.forall_mem_cons.1 hQ
    exact .cons header ⟨type, hfirst⟩ hs (ih hrest) new

theorem PropertyList.forall_types {Q : TypeExpr → Prop} (hQ : ∀ us τ, T us τ → Q τ)
    (h : PropertyList source T ts ps) : ∀ p ∈ ps, Q p.2.type := by
  induction h with
  | nil => simp
  | blank hs _ ih => exact ih
  | last header type => simpa using hQ _ _ type
  | cons header type hs _ _ ih => exact List.forall_mem_cons.2 ⟨hQ _ _ type, ih⟩

end Lists

theorem Denotes.segmentLevel_eq {source : List Char} {ts : List Token} {τ : TypeExpr}
    (h : Denotes source ts τ) (d : Nat) : segmentLevel d ts = some d := by
  refine Denotes.induction (P := fun ts _ => ∀ d, segmentLevel d ts = some d) ?_ ?_ ?_ h d
  · intro ts _ plain _ d
    exact segmentLevel_plain plain d
  · intro ts suffix τ hs _ ih d
    rw [segmentLevel_append, ih]
    exact segmentLevel_plain (by simp [Token.Plain, hs]) d
  · intro opening closing ts ps ho hc list d
    exact segmentLevel_enclosed ho hc (list.level_eq (fun us τ hu => hu.2) d)

namespace ParseOptions

def limited {α : Type} (fits : Bool) (a : α) : Reading α :=
  if fits then pure a else .fail .nestedTooDeeply

theorem map_limited {α β : Type} (f : α → β) (fits : Bool) (a : α) :
    f <$> limited fits a = limited fits (f a) := by
  cases fits with
  | false => rfl
  | true => exact map_pure f a

theorem limited_bind {α β : Type} {first second : Bool} {a : α} {b : β} {f : α → Reading β}
    (hf : f a = limited second b) : limited first a >>= f = limited (first && second) b := by
  cases first with
  | false => rfl
  | true => exact hf

def Permits (o : ParseOptions) (name : String) : Prop :=
  o.unknown = .accept ∨ o.isKnown name = true

theorem named_eq_pure {o : ParseOptions} {chars : List Char} {position : Nat}
    (h : o.Permits (String.ofList chars)) :
    o.named chars position = pure (.named (String.ofList chars)) := by
  rcases h with h | h <;> simp [named, h]

theorem named_eq_ok {o : ParseOptions} {chars : List Char} {position : Nat} {τ : TypeExpr}
    (h : (o.named chars position).result = .ok τ) :
    τ = .named (String.ofList chars) ∧ o.Permits (String.ofList chars) := by
  simp only [named] at h
  split at h
  · cases h
  · next hk =>
    cases h
    refine ⟨rfl, ?_⟩
    unfold Permits
    cases hu : o.unknown <;> simp_all

variable {o : ParseOptions} {source : List Char} {typeOf : Segment → Reading TypeExpr}

def readCut (o : ParseOptions) (source : List Char) (typeOf : Segment → Reading TypeExpr)
    (sofar : Definition) (c : Cut) : Reading Definition := do
  let sofar ← o.addProperties source typeOf sofar c.1
  o.addProperty source typeOf sofar (← .ofExcept c.2)

theorem properties_eq_readCut (s : Segment) :
    o.properties source typeOf s = o.readCut source typeOf [] (cut o.strict s.stop 0 [] s.tokens) :=
  rfl

theorem readCut_last (sofar : Definition) (s : Segment) :
    o.readCut source typeOf sofar ([], .ok s) = o.addProperty source typeOf sofar s := by
  simp [readCut, addProperties]

theorem readCut_cons (sofar : Definition) (s : Segment) (rest : List Segment)
    (last : Except ParseError Segment) :
    o.readCut source typeOf sofar (s :: rest, last) =
      o.addProperty source typeOf sofar s >>= fun d => o.readCut source typeOf d (rest, last) := by
  simp [readCut, addProperties, bind_assoc]

theorem readCut_of_propertyList {T : List Token → TypeExpr → Prop} {room : Room} {stop : Nat}
    {ts : List Token} {ps : Definition}
    (hread : ∀ us τ p, T us τ → Run source us → typeOf ⟨us, p⟩ = limited (τ.fits room) τ)
    (hlevel : ∀ us τ, T us τ → segmentLevel 0 us = some 0) (h : PropertyList source T ts ps)
    (hrun : Run source ts) {sofar : Definition} (hnew : ∀ k ∈ Assoc.keys ps, k ∉ Assoc.keys sofar) :
    o.readCut source typeOf sofar (cut o.strict stop 0 [] ts) =
      limited (propertiesFit ps room) (sofar ++ ps) := by
  induction h generalizing sofar with
  | nil =>
    rw [cut_last rfl, readCut_last]
    simp [addProperty, limited, propertiesFit]
  | @blank semicolon ts ps hs _ ih =>
    have hts : Run source ts := hrun.subrun (List.suffix_cons _ _).isInfix
    rw [cut_semicolon hs, readCut_cons]
    exact ih hts hnew
  | @last name head ts optional τ header type =>
    have hts : Run source ts := hrun.subrun (List.suffix_append _ _).isInfix
    rw [cut_last (by rw [header.segmentLevel_append, hlevel _ _ type]), readCut_last,
      addProperty_header header hrun (hnew _ (by simp [Assoc.keys])), hread _ _ _ type hts,
      map_limited]
    simp [propertiesFit]
  | @cons name head us ts optional τ semicolon ps header type hs _ new ih =>
    have hfirst : Run source (head ++ us) := hrun.subrun (List.prefix_append _ _).isInfix
    have hus : Run source us := hfirst.subrun (List.suffix_append _ _).isInfix
    have hts : Run source ts :=
      hrun.subrun (suffix_behind _ _ _).isInfix
    have hrest : ∀ k ∈ Assoc.keys ps,
        k ∉ Assoc.keys (sofar ++ [(spelledName source name, ⟨τ, optional⟩)]) := by
      intro k hk hmem
      simp only [Assoc.keys, List.map_append, List.map_cons, List.map_nil, List.mem_append,
        List.mem_singleton] at hmem
      rcases hmem with hmem | rfl
      · exact hnew k (List.mem_cons_of_mem _ hk) hmem
      · exact new hk
    rw [cut_segment (by rw [header.segmentLevel_append, hlevel _ _ type]) hs, readCut_cons,
      addProperty_header header hfirst (hnew _ (by simp [Assoc.keys])), hread _ _ _ type hus,
      map_limited]
    refine (limited_bind (f := fun d => o.readCut source typeOf d (_, _)) (ih hts hrest)).trans ?_
    rw [propertiesFit, List.append_assoc, List.singleton_append]

theorem properties_of_propertyList {T : List Token → TypeExpr → Prop} {room : Room} {stop : Nat}
    {ts : List Token} {ps : Definition}
    (hread : ∀ us τ p, T us τ → Run source us → typeOf ⟨us, p⟩ = limited (τ.fits room) τ)
    (hlevel : ∀ us τ, T us τ → segmentLevel 0 us = some 0) (h : PropertyList source T ts ps)
    (hrun : Run source ts) :
    o.properties source typeOf ⟨ts, stop⟩ = limited (propertiesFit ps room) ps := by
  rw [properties_eq_readCut]
  exact readCut_of_propertyList hread hlevel h hrun (by simp [Assoc.keys])

/-- The tokens of a type: none, an array suffix at the end, neither this nor an opening brace, or an
opening brace and what is on its two sides. -/
inductive TypeForm : List Token → Prop
  | empty : TypeForm []
  | suffix {ts : List Token} {t : Token} (ht : t.kind = .arraySuffix) : TypeForm (ts ++ [t])
  | plain {ts : List Token} {t : Token} (ht : t.kind ≠ .arraySuffix)
      (h : ∀ u ∈ ts ++ [t], u.kind ≠ .openBrace) : TypeForm (ts ++ [t])
  | brace {before rest : List Token} {opening last : Token}
      (hlast : (before ++ opening :: rest).getLast? = some last) (ht : last.kind ≠ .arraySuffix)
      (hb : ∀ u ∈ before, u.kind ≠ .openBrace) (ho : opening.kind = .openBrace) :
      TypeForm (before ++ opening :: rest)

theorem typeForm (ts : List Token) : TypeForm ts := by
  rcases List.eq_nil_or_concat' ts with rfl | ⟨us, t, rfl⟩
  · exact .empty
  by_cases ht : t.kind = .arraySuffix
  · exact .suffix ht
  by_cases h : ∀ u ∈ us ++ [t], u.kind ≠ .openBrace
  · exact .plain ht h
  · obtain ⟨before, opening, rest, hsplit, ho, hb⟩ := exists_first h
    have hlast : (before ++ opening :: rest).getLast? = some t := by simp [← hsplit]
    rw [hsplit]
    exact .brace hlast ht hb ho

theorem typeExpr_suffix {inside : Level → Room} {stop : Nat} {ts : List Token} {t : Token}
    (ht : t.kind = .arraySuffix) :
    o.typeExpr source (.free inside) ⟨ts ++ [t], stop⟩ =
      .array <$> o.typeExpr source (inside .item) ⟨ts, t.start⟩ := by
  simp [typeExpr, ht]

theorem typeExpr_no_brace {inside : Level → Room} {stop : Nat} {ts : List Token} {t : Token}
    (ht : t.kind ≠ .arraySuffix) (h : ∀ u ∈ ts ++ [t], u.kind ≠ .openBrace) :
    o.typeExpr source (.free inside) ⟨ts ++ [t], stop⟩ =
      o.named (spanText source (ts ++ [t])) (Segment.mk (ts ++ [t]) stop).start := by
  rw [typeExpr]
  simp only [List.getLast?_append, List.getLast?_singleton, Option.some_or, if_neg ht,
    dropWhile_of_forall h]

theorem typeExpr_brace {inside : Level → Room} {stop : Nat} {before rest : List Token} {opening last : Token}
    (hlast : (before ++ opening :: rest).getLast? = some last) (ht : last.kind ≠ .arraySuffix)
    (hb : ∀ u ∈ before, u.kind ≠ .openBrace) (ho : opening.kind = .openBrace) :
    o.typeExpr source (.free inside) ⟨before ++ opening :: rest, stop⟩ =
      match closeIndex? tokenBrace 0 rest with
      | none =>
        if o.strict then refuse .unclosedOpen opening.start
        else o.named (spanText source (before ++ opening :: rest))
          (Segment.mk (before ++ opening :: rest) stop).start
      | some i => (do
        if o.strict && !before.isEmpty then
          refuse (.contentBefore (String.ofList (spanText source before)))
            (Segment.mk (before ++ opening :: rest) stop).start
        if !(rest.drop (i + 1)).isEmpty then
          let content := String.ofList (spanText source (rest.drop (i + 1)))
          if o.strict then
            refuse (.contentAfter content) (Segment.mk (rest.drop (i + 1)) stop).start
          else .note (.contentDiscarded content)
        .object <$> o.properties source (o.typeExpr source (inside .property))
          ⟨rest.take i, (Segment.mk (rest.drop i) stop).start⟩) := by
  rw [typeExpr, hlast]
  dsimp only
  rewrite [if_neg ht, takeWhile_until hb ho, dropWhile_until hb ho]
  rfl

theorem typeExpr_enclosed {inside : Level → Room} {stop : Nat} {ts : List Token} {opening closing : Token}
    (ho : opening.kind = .openBrace) (hc : closing.kind = .closeBrace)
    (hlevel : level tokenBrace 0 ts = some 0) :
    o.typeExpr source (.free inside) ⟨opening :: (ts ++ [closing]), stop⟩ =
      .object <$> o.properties source (o.typeExpr source (inside .property)) ⟨ts, closing.start⟩ := by
  have hclose : closeIndex? tokenBrace 0 (ts ++ [closing]) = some ts.length :=
    (closeIndex?_concat_iff hc).2 hlevel
  have hlast : ([] ++ opening :: (ts ++ [closing])).getLast? = some closing := by
    simp [List.getLast?_cons]
  have hbrace := @typeExpr_brace o source inside stop [] (ts ++ [closing]) opening closing hlast
    (by simp [hc]) (by simp) ho
  have htake : (ts ++ [closing]).take ts.length = ts := by simp
  have hdrop : (ts ++ [closing]).drop ts.length = [closing] := by simp
  have hafter : (ts ++ [closing]).drop (ts.length + 1) = [] := by simp
  rw [List.nil_append] at hbrace
  rw [hbrace, hclose]
  simp only [htake, hdrop, hafter, Segment.start, List.isEmpty_nil, Bool.not_true, Bool.and_false,
    Bool.false_eq_true, if_false]

theorem typeExpr_of_denotes {ts : List Token} {τ : TypeExpr} (h : Denotes source ts τ)
    (hrun : Run source ts) (hp : ∀ n ∈ τ.names, o.Permits n) (room : Room) (stop : Nat) :
    o.typeExpr source room ⟨ts, stop⟩ = limited (τ.fits room) τ := by
  refine Denotes.induction (P := fun ts τ => Run source ts → (∀ n ∈ τ.names, o.Permits n) →
    ∀ room stop, o.typeExpr source room ⟨ts, stop⟩ = limited (τ.fits room) τ)
    ?_ ?_ ?_ h hrun hp room stop
  · intro ts hne plain hlast hrun hp room stop
    cases room with
    | spent => rfl
    | free inside =>
      obtain ⟨us, t, rfl⟩ := (List.eq_nil_or_concat' ts).resolve_left hne
      have hpermit : o.Permits (String.ofList (spanText source (us ++ [t]))) :=
        hp _ (by simp [TypeExpr.names, spelledName])
      rw [typeExpr_no_brace (hlast t (by simp)) fun u hu => (plain u hu).1, named_eq_pure hpermit]
      simp [limited, TypeExpr.fits, spelledName]
  · intro ts suffix τ hs _ ih hrun hp room stop
    cases room with
    | spent => rfl
    | free inside =>
      have hts : Run source ts := hrun.subrun (List.prefix_append _ _).isInfix
      rw [typeExpr_suffix hs, ih hts hp, map_limited, TypeExpr.fits]
  · intro opening closing ts ps ho hc list hrun hp room stop
    cases room with
    | spent => rfl
    | free inside =>
      have hts : Run source ts := hrun.subrun ⟨[opening], [closing], by simp⟩
      have hlevel : level tokenBrace 0 ts = some 0 :=
        list.level_eq (fun us τ hu => hu.1.segmentLevel_eq) 0
      have hps : ∀ p ∈ ps, ∀ n ∈ p.2.type.names, o.Permits n :=
        fun p hmem n hn => hp n (mem_propertiesNames.2 ⟨p, hmem, hn⟩)
      have hread : o.properties source (o.typeExpr source (inside .property)) ⟨ts, closing.start⟩ =
          limited (propertiesFit ps (inside .property)) ps :=
        properties_of_propertyList (fun us τ p hu hrun => hu.1.2 hrun hu.2 _ p)
          (fun us τ hu => hu.1.1.segmentLevel_eq 0) (list.and_of_forall hps) hts
      rw [typeExpr_enclosed ho hc hlevel, hread, map_limited, TypeExpr.fits]

/-- What is read strictly from the segments of a cut is derived, and goes behind what was read
before under new names. -/
theorem propertyList_of_readCut {T : List Token → TypeExpr → Prop} (hs : o.strict = true)
    (hread : ∀ us p τ, Run source us → segmentLevel 0 us = some 0 →
      (typeOf ⟨us, p⟩).result = .ok τ → T us τ)
    {segments : List Segment} {last : Segment} {ts : List Token} {stop : Nat}
    (hcut : cut true stop 0 [] ts = (segments, .ok last)) (hrun : Run source ts)
    {sofar d : Definition}
    (h : (o.readCut source typeOf sofar (segments, .ok last)).result = .ok d) :
    ∃ ps, d = sofar ++ ps ∧ PropertyList source T ts ps ∧
      ∀ k ∈ Assoc.keys ps, k ∉ Assoc.keys sofar := by
  have type_of {head us name : List Token} {optional : Bool} {p : Nat} {τ : TypeExpr}
      (header : Header name optional head) (hrun : Run source (head ++ us))
      (hlevel : segmentLevel 0 (head ++ us) = some 0) (hτ : (typeOf ⟨us, p⟩).result = .ok τ) :
      T us τ := by
    rw [header.segmentLevel_append] at hlevel
    exact hread us p τ (hrun.subrun (List.suffix_append _ _).isInfix) hlevel hτ
  induction segments generalizing ts sofar with
  | nil =>
    cases firstCut hcut with
    | semicolon first us t rest hsegments => cases hsegments
    | whole _ hl hlevel =>
      subst hl
      rw [readCut_last] at h
      rcases addProperty_strict hs hrun h with
        ⟨rfl, rfl⟩ | ⟨name, optional, head, us, τ, rfl, header, hτ, hnew, rfl⟩
      · exact ⟨[], by simp, .nil, by simp [Assoc.keys]⟩
      · refine ⟨_, rfl, .last header (type_of header hrun hlevel hτ), ?_⟩
        simpa [Assoc.keys] using hnew
  | cons s segments ih =>
    cases firstCut hcut with
    | whole hsegments => cases hsegments
    | semicolon first us t rest hsegments hts ht hlevel hrest =>
      cases hsegments
      subst hts
      rw [readCut_cons] at h
      obtain ⟨sofar', hfirst, h⟩ := Journal.bind_result_eq_ok.1 h
      have hrunFirst : Run source first := hrun.subrun (List.prefix_append _ _).isInfix
      have hrunRest : Run source us :=
        hrun.subrun (suffix_behind _ _ _).isInfix
      obtain ⟨ps, rfl, list, hnew⟩ := ih hrest hrunRest h
      rcases addProperty_strict hs hrunFirst hfirst with
        ⟨hnil, rfl⟩ | ⟨name, optional, head, vs, τ, heq, header, hτ, hname, rfl⟩
      · obtain rfl : first = [] := hnil
        exact ⟨ps, rfl, .blank ht list, hnew⟩
      · obtain rfl : first = head ++ vs := heq
        have hsplit (k : String) (hk : k ∈ Assoc.keys ps) :
            k ∉ Assoc.keys sofar ∧ k ≠ spelledName source name := by
          simpa [Assoc.keys, not_or] using hnew k hk
        refine ⟨(spelledName source name, ⟨τ, optional⟩) :: ps, by simp, ?_, ?_⟩
        · exact .cons header (type_of header hrunFirst hlevel hτ) ht list
            fun hk => (hsplit _ hk).2 rfl
        · intro k hk
          rcases List.mem_cons.1 hk with rfl | hk
          · exact hname
          · exact (hsplit k hk).1

theorem propertyList_of_properties {T : List Token → TypeExpr → Prop} (hs : o.strict = true)
    (hread : ∀ us p τ, Run source us → segmentLevel 0 us = some 0 →
      (typeOf ⟨us, p⟩).result = .ok τ → T us τ)
    {s : Segment} (hrun : Run source s.tokens) {d : Definition}
    (h : (o.properties source typeOf s).result = .ok d) : PropertyList source T s.tokens d := by
  rw [properties_eq_readCut, hs] at h
  rcases hcut : cut true s.stop 0 [] s.tokens with ⟨segments, e | last⟩
  · rw [hcut] at h
    obtain ⟨sofar, -, h⟩ := Journal.bind_result_eq_ok.1 h
    cases h
  · rw [hcut] at h
    obtain ⟨ps, rfl, list, -⟩ := propertyList_of_readCut hs hread hcut hrun h
    exact list

/-- What is read strictly as a type denotes it, and all names in it are permitted. -/
theorem denotes_of_typeExpr (hs : o.strict = true) {room : Room} {stop : Nat} {ts : List Token}
    {τ : TypeExpr} (hrun : Run source ts) (hlevel : segmentLevel 0 ts = some 0)
    (h : (o.typeExpr source room ⟨ts, stop⟩).result = .ok τ) :
    Denotes source ts τ ∧ ∀ n ∈ τ.names, o.Permits n := by
  induction room generalizing ts stop τ with
  | spent => cases h
  | free inside ih =>
    cases typeForm ts with
    | empty =>
      rw [typeExpr] at h
      simp only [List.getLast?_nil, hs, if_true] at h
      cases h
    | @suffix us t ht =>
      have hus : segmentLevel 0 us = some 0 := by
        rw [segmentLevel_append] at hlevel
        obtain ⟨e, he, ht'⟩ := Option.bind_eq_some_iff.1 hlevel
        rw [segmentLevel_plain (by simp [Token.Plain, ht])] at ht'
        rwa [ht'] at he
      rw [typeExpr_suffix ht] at h
      obtain ⟨item, hitem, rfl⟩ := Journal.map_result_eq_ok.1 h
      obtain ⟨hdenotes, hnames⟩ := ih .item (hrun.subrun (List.prefix_append _ _).isInfix) hus hitem
      exact ⟨.array hdenotes ht, hnames⟩
    | plain ht hopen =>
      rw [typeExpr_no_brace ht hopen] at h
      obtain ⟨rfl, hpermit⟩ := named_eq_ok h
      have hplain := plain_of_segmentLevel hopen hlevel
      exact ⟨.named (by simp) hplain (by simpa using ht), by simpa [TypeExpr.names] using hpermit⟩
    | @brace before rest opening t hlast ht hb ho =>
      rw [typeExpr_brace hlast ht hb ho] at h
      split at h
      · rw [if_pos hs] at h
        cases h
      · next i hi =>
        simp only [hs, Bool.true_and, if_true] at h
        split at h
        · cases h
        · next hbefore =>
          split at h
          · cases h
          · next hafter =>
            obtain ⟨ps, hps, rfl⟩ := Journal.map_result_eq_ok.1 h
            obtain ⟨ys, closing, zs, rfl, rfl, hc, hbalance⟩ := closeIndex?_eq_some hi
            obtain rfl : before = [] := by simpa using hbefore
            obtain rfl : zs = [] := by simpa using hafter
            have hclosing : closing.kind = .closeBrace := tokenBrace_eq_closing.1 hc
            have hys : Run source ys := hrun.subrun ⟨[opening], [closing], by simp⟩
            have list := propertyList_of_properties
              (T := fun us τ => Denotes source us τ ∧ ∀ n ∈ τ.names, o.Permits n) hs
              (fun us p τ hrun hlevel hτ => ih .property hrun hlevel hτ) (by simpa using hys) hps
            simp only [List.take_left'] at list
            refine ⟨.object ho hclosing (list.mono fun us τ hu => hu.1), ?_⟩
            intro n hn
            obtain ⟨p, hp, hpn⟩ := mem_propertiesNames.1 hn
            exact list.forall_types (fun us τ hu => hu.2) p hp n hpn

/-- A whole text is read as the property list of its body; strictly, not as an empty one. -/
theorem parse_eq_ok_iff {text : String} {d : Definition} :
    (o.parse text).result = .ok d ↔
      (o.properties text.toList (o.typeExpr text.toList o.room) (o.body text.toList)).result =
        .ok d ∧ ¬ (o.strict = true ∧ d = []) := by
  unfold parse
  rw [Journal.bind_result_eq_ok]
  constructor
  · rintro ⟨d', hread, h⟩
    split at h
    · cases h
    · next hne =>
      cases h
      exact ⟨hread, by simpa using hne⟩
  · rintro ⟨hread, hne⟩
    refine ⟨d, hread, ?_⟩
    rw [if_neg (by simpa using hne)]
    rfl

end ParseOptions

end Conform.Schema
