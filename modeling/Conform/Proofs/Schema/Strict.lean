import Conform.Proofs.Schema.Derivation

/-! Strict reading accepts exactly the texts that the grammar derives, and gives their tree; the
only other reason to refuse one is that there is no room for a type in it. What it accepts, lenient
reading reads the same. -/

namespace Conform.Schema

theorem Body.isInfix {all ts : List Token} (h : Body all ts) : ts <:+: all := by
  cases h with
  | enclosed h =>
    obtain ⟨opening, closing, hall, -⟩ := h
    exact ⟨[opening], [closing], by simp [hall]⟩
  | bare h => exact List.infix_rfl

theorem Header.exists_cons {name head : List Token} {optional : Bool}
    (h : Header name optional head) : ∃ t ts, head = t :: ts ∧ t.kind = .text := by
  cases h with
  | required hne text hc =>
    obtain ⟨t, ts, rfl⟩ := List.exists_cons_of_ne_nil hne
    exact ⟨t, _, rfl, text t (by simp)⟩
  | optional hne text hq hc =>
    obtain ⟨t, ts, rfl⟩ := List.exists_cons_of_ne_nil hne
    exact ⟨t, _, rfl, text t (by simp)⟩

/-- A list of properties begins with a name or with a semicolon. -/
theorem PropertyList.exists_cons {source : List Char} {T : List Token → TypeExpr → Prop}
    {ts : List Token} {ps : Definition} (h : PropertyList source T ts ps) (hps : ps ≠ []) :
    ∃ t us, ts = t :: us ∧ t.kind ≠ .openBrace := by
  cases h with
  | nil => exact absurd rfl hps
  | blank hs rest => exact ⟨_, _, rfl, by simp [hs]⟩
  | last header type =>
    obtain ⟨t, us, rfl, ht⟩ := header.exists_cons
    exact ⟨t, _, rfl, by simp [ht]⟩
  | cons header type hs rest new =>
    obtain ⟨t, us, rfl, ht⟩ := header.exists_cons
    exact ⟨t, _, rfl, by simp [ht]⟩

namespace ParseOptions

variable {o : ParseOptions} {source : List Char}

theorem body_of_enclosed {inner : List Token} (h : Enclosed (lexemes 0 source) inner) :
    (o.body source).tokens = inner := by
  obtain ⟨opening, closing, hall, ho, hc, hlevel⟩ := h
  have hclose := (closeIndex?_concat_iff hc).2 hlevel
  simp [body, hall, ho, hc, hclose]

theorem body_of_head {t : Token} {ts : List Token} (h : lexemes 0 source = t :: ts)
    (ht : t.kind ≠ .openBrace) : (o.body source).tokens = t :: ts := by
  simp only [body, h]
  split <;> simp [ht]

/-- Read strictly, the braces at the two ends are left out only if they are partners. -/
theorem body_strict (hs : o.strict = true) : Body (lexemes 0 source) (o.body source).tokens := by
  by_cases hinner : ∃ inner, Enclosed (lexemes 0 source) inner
  · obtain ⟨inner, h⟩ := hinner
    rw [body_of_enclosed h]
    exact .enclosed h
  have hnone : ∀ inner, ¬ Enclosed (lexemes 0 source) inner := fun inner h => hinner ⟨inner, h⟩
  suffices (o.body source).tokens = lexemes 0 source by
    rw [this]
    exact .bare hnone
  cases hall : lexemes 0 source with
  | nil => simp [body, hall]
  | cons opening rest =>
    rcases List.eq_nil_or_concat' rest with rfl | ⟨inner, closing, rfl⟩
    · simp [body, hall]
    have hcond : ¬ (opening.kind = .openBrace ∧ closing.kind = .closeBrace ∧
        closeIndex? tokenBrace 0 (inner ++ [closing]) = some inner.length) := by
      rintro ⟨ho, hc, hclose⟩
      exact hnone inner ⟨opening, closing, hall, ho, hc, (closeIndex?_concat_iff hc).1 hclose⟩
    simp only [body, hall, hs, List.getLast?_append, List.getLast?_singleton, Option.some_or,
      List.length_append, List.length_singleton, Nat.add_sub_cancel]
    rw [if_neg (by simpa [and_assoc] using hcond)]

/-- A list of properties that the braces enclose, or that no braces enclose, is what is read. -/
theorem body_tokens {T : List Token → TypeExpr → Prop} {ts : List Token} {d : Definition}
    (hbody : Body (lexemes 0 source) ts) (list : PropertyList source T ts d) (hd : d ≠ []) :
    (o.body source).tokens = ts := by
  cases hbody with
  | enclosed h => exact body_of_enclosed h
  | bare h =>
    obtain ⟨t, us, hall, ht⟩ := list.exists_cons hd
    rw [hall]
    exact body_of_head hall ht

theorem parse_of_declares {text : String} {d : Definition} (h : Declares text d)
    (hp : ∀ n ∈ propertiesNames d, o.Permits n) :
    o.parse text =
      if propertiesFit d o.room then ⟨[.schemaParsed d.length o.strict], .ok d⟩
      else .fail .nestedTooDeeply := by
  obtain ⟨ts, hbody, list⟩ := h.body
  have htokens : (o.body text.toList).tokens = ts := body_tokens hbody list h.ne_nil
  have hts : Run text.toList ts := (run_lexemes text.toList).subrun hbody.isInfix
  have hps : ∀ p ∈ d, ∀ n ∈ p.2.type.names, o.Permits n :=
    fun p hmem n hn => hp n (mem_propertiesNames.2 ⟨p, hmem, hn⟩)
  have hread : o.properties text.toList (o.typeExpr text.toList o.room)
      ⟨ts, (o.body text.toList).stop⟩ = limited (propertiesFit d o.room) d :=
    properties_of_propertyList
      (fun us τ p hu hrun => typeExpr_of_denotes hu.1 hrun hu.2 o.room p)
      (fun us τ hu => hu.1.segmentLevel_eq 0) (list.and_of_forall hps) hts
  have hne : d ≠ [] := h.ne_nil
  unfold parse
  simp only [← htokens] at hread
  simp only [hread, limited]
  split
  · simp [hne, Journal.note]
  · rfl

/-- What is read strictly has a derivation, and names only permitted types. -/
theorem declares_of_parse (hs : o.strict = true) {text : String} {d : Definition}
    (h : (o.parse text).result = .ok d) :
    Declares text d ∧ ∀ n ∈ propertiesNames d, o.Permits n := by
  obtain ⟨hread, hne⟩ := parse_eq_ok_iff.1 h
  have hbody : Body (lexemes 0 text.toList) (o.body text.toList).tokens := body_strict hs
  have list := propertyList_of_properties
    (T := fun us τ => Denotes text.toList us τ ∧ ∀ n ∈ τ.names, o.Permits n) hs
    (fun us p τ hrun hlevel hτ => denotes_of_typeExpr hs hrun hlevel hτ)
    ((run_lexemes text.toList).subrun hbody.isInfix) hread
  refine ⟨⟨fun hnil => hne ⟨hs, hnil⟩, _, hbody, list.mono fun us τ hu => hu.1⟩, ?_⟩
  intro n hn
  obtain ⟨p, hp, hpn⟩ := mem_propertiesNames.1 hn
  exact list.forall_types (fun us τ hu => hu.2) p hp n hpn

/-- Strict reading: the grammar, the vocabulary, and the room that there is. -/
theorem parse_strict_eq_ok_iff (hs : o.strict = true) {text : String} {d : Definition} :
    (o.parse text).result = .ok d ↔
      Declares text d ∧ (∀ n ∈ propertiesNames d, o.Permits n) ∧ propertiesFit d o.room := by
  constructor
  · intro h
    obtain ⟨hdeclares, hp⟩ := declares_of_parse hs h
    refine ⟨hdeclares, hp, ?_⟩
    by_contra hfit
    rw [parse_of_declares hdeclares hp, if_neg hfit] at h
    cases h
  · rintro ⟨hdeclares, hp, hfit⟩
    rw [parse_of_declares hdeclares hp, if_pos hfit]

/-- What is read strictly is read leniently as the same tree, and nothing is skipped. -/
theorem parse_lenient_of_strict (hs : o.strict = true) {text : String} {d : Definition}
    (h : (o.parse text).result = .ok d) :
    ({ o with strict := false } : ParseOptions).parse text =
      ⟨[.schemaParsed d.length false], .ok d⟩ := by
  obtain ⟨hdeclares, hp, hfit⟩ := (parse_strict_eq_ok_iff hs).1 h
  have hlenient := @parse_of_declares { o with strict := false } text d hdeclares hp
  rw [hlenient, if_pos hfit]

/-- Strict reading refines lenient reading: a text that is read strictly is read leniently with the
same vocabulary as the same tree, and there no segment is skipped and nothing after an object is
dropped. -/
theorem parse_strict_refines_lenient {unknown : UnknownPolicy} {known : List String}
    {room : Room} {text : String} {d : Definition}
    (h : (parse { strict := true, unknown, known, room } text).result = .ok d) :
    let lenient := parse { strict := false, unknown, known, room } text
    lenient.result = .ok d ∧ (∀ segment, .segmentSkipped segment ∉ lenient.notes) ∧
      ∀ content, .contentDiscarded content ∉ lenient.notes := by
  intro lenient
  have hrun : lenient = ⟨[.schemaParsed d.length false], .ok d⟩ :=
    parse_lenient_of_strict (o := { strict := true, unknown, known, room }) rfl h
  rw [hrun]
  refine ⟨rfl, fun segment hmem => ?_, fun content hmem => ?_⟩
  · cases List.mem_singleton.1 hmem
  · cases List.mem_singleton.1 hmem

theorem parse_strict_refines_lenient_nested :
    (parse { strict := true, unknown := .reject, known := ["sku"] }
        "{ a?: { b: sku[] }; c: string }").result =
        .ok [("a", ⟨.object [("b", ⟨.array (.named "sku"), false⟩)], true⟩),
          ("c", ⟨.named "string", false⟩)] ∧
      (parse { strict := false, unknown := .reject, known := ["sku"] }
        "{ a?: { b: sku[] }; c: string }").result =
        .ok [("a", ⟨.object [("b", ⟨.array (.named "sku"), false⟩)], true⟩),
          ("c", ⟨.named "string", false⟩)] :=
  have h : (parse { strict := true, unknown := .reject, known := ["sku"] }
      "{ a?: { b: sku[] }; c: string }").result = _ := by rfl
  ⟨h, (parse_strict_refines_lenient h).1⟩

end ParseOptions

theorem Declares.unique {text : String} {d d' : Definition} (h : Declares text d)
    (h' : Declares text d') : d = d' := by
  let levels := max (propertiesHeight d) (propertiesHeight d')
  let o : ParseOptions := { room := .ofFrames (4 * levels) }
  have hallows : o.room.Allows levels := Room.allows_ofFrames le_rfl
  have hfit : propertiesFit d o.room := propertiesFit_of_allows (hallows.mono (le_max_left _ _))
  have hfit' : propertiesFit d' o.room := propertiesFit_of_allows (hallows.mono (le_max_right _ _))
  have hparse := ParseOptions.parse_of_declares (o := o) h fun n _ => .inl rfl
  have hparse' := ParseOptions.parse_of_declares (o := o) h' fun n _ => .inl rfl
  rw [if_pos hfit] at hparse
  rw [if_pos hfit'] at hparse'
  simpa using congrArg Journal.result (hparse.symm.trans hparse')

/-- Strict reading that accepts every type name accepts exactly the texts that the grammar derives,
with the tree of the derivation, unless there is no room for one of its types. -/
theorem parse_strict_iff_declares {o : ParseOptions} (hs : o.strict = true)
    (ha : o.unknown = .accept) (text : String) (d : Definition) :
    ((o.parse text).result = .ok d ↔ Declares text d ∧ propertiesFit d o.room) ∧
      (Declares text d → (∀ d', Declares text d' → d' = d) ∧
        (¬ propertiesFit d o.room → (o.parse text).result = .error .nestedTooDeeply)) := by
  have hread (h : Declares text d) :=
    ParseOptions.parse_of_declares (o := o) h fun n _ => .inl ha
  refine ⟨⟨fun hok => ?_, fun ⟨h, hfit⟩ => ?_⟩, fun h => ⟨fun d' h' => h'.unique h, ?_⟩⟩
  · have h := (ParseOptions.declares_of_parse hs hok).1
    refine ⟨h, ?_⟩
    by_contra hfit
    rw [hread h, if_neg hfit] at hok
    cases hok
  · rw [hread h, if_pos hfit]
  · intro hfit
    rw [hread h, if_neg hfit]
    rfl

theorem parse_strict_iff_declares_tags :
    ({ strict := true } : ParseOptions).strict = true ∧
      ({ strict := true } : ParseOptions).unknown = .accept ∧
      Declares "{ tags?: string[]; }" [("tags", ⟨.array (.named "string"), true⟩)] :=
  ⟨rfl, rfl, ((parse_strict_iff_declares rfl rfl _ _).1.1
    (by rfl : (ParseOptions.parse { strict := true } "{ tags?: string[]; }").result = _)).1⟩

def suffixedText (n : Nat) : String :=
  String.ofList (['a', ':', ' ', 'x'] ++ (List.replicate n ['[', ']']).flatten)

theorem toList_suffixedText (n : Nat) :
    (suffixedText n).toList = ['a', ':', ' ', 'x'] ++ (List.replicate n ['[', ']']).flatten :=
  String.toList_ofList

def suffixedType : Nat → TypeExpr
  | 0 => .named "x"
  | n + 1 => .array (suffixedType n)

theorem fits_suffixedType (n frames : Nat) :
    (suffixedType n).fits (.ofFrames frames) = decide (n < frames) := by
  induction n generalizing frames with
  | zero =>
    cases frames with
    | zero => rfl
    | succ frames => simp [suffixedType, TypeExpr.fits, Room.ofFrames_succ]
  | succ n ih =>
    cases frames with
    | zero => rfl
    | succ frames => simp [suffixedType, TypeExpr.fits, Room.ofFrames_succ, Level.frames, ih]

theorem names_suffixedType (n : Nat) : (suffixedType n).names = ["x"] := by
  induction n with
  | zero => rfl
  | succ n ih => rw [suffixedType, TypeExpr.names, ih]

def suffixes (start n : Nat) : List Token :=
  (List.range n).map fun i => ⟨.arraySuffix, ['[', ']'], start + 2 * i⟩

theorem lexemes_suffixes (start n : Nat) :
    lexemes start (List.replicate n ['[', ']']).flatten = suffixes start n := by
  induction n generalizing start with
  | zero => rfl
  | succ n ih =>
    have hcons : suffixes start (n + 1) =
        ⟨.arraySuffix, ['[', ']'], start⟩ :: suffixes (start + 2) n := by
      rw [suffixes, List.range_succ_eq_map]
      simp [suffixes, Nat.mul_add, Nat.add_comm, Nat.add_assoc]
    rw [List.replicate_succ, List.flatten_cons, hcons, ← ih]
    rfl

theorem lexemes_suffixedText (n : Nat) :
    lexemes 0 (suffixedText n).toList =
      ⟨.text, ['a'], 0⟩ :: ⟨.colon, [':'], 1⟩ :: ⟨.text, ['x'], 3⟩ :: suffixes 4 n := by
  have hglue : glue 'x' 3 (suffixes 4 n) = ⟨.text, ['x'], 3⟩ :: suffixes 4 n := by
    cases n with
    | zero => rfl
    | succ n =>
      rw [suffixes, List.range_succ_eq_map]
      rfl
  rw [toList_suffixedText, ← hglue, ← lexemes_suffixes]
  rfl

theorem denotes_suffixes {source : List Char} {t : Token} (ht : Denotes source [t] (.named "x"))
    (start n : Nat) : Denotes source (t :: suffixes start n) (suffixedType n) := by
  induction n with
  | zero => exact ht
  | succ n ih =>
    rw [suffixes, List.range_succ, List.map_append, ← List.cons_append]
    exact .array ih rfl

theorem declares_suffixedText (n : Nat) :
    Declares (suffixedText n) [("a", ⟨suffixedType n, false⟩)] := by
  refine ⟨by simp, _, .bare ?_, ?_⟩
  · rintro inner ⟨opening, closing, hall, ho, -⟩
    rw [lexemes_suffixedText] at hall
    obtain ⟨rfl, -⟩ := List.cons.inj hall
    cases ho
  · rw [lexemes_suffixedText]
    have htype : Denotes (suffixedText n).toList [⟨.text, ['x'], 3⟩]
        (.named (spelledName (suffixedText n).toList [⟨.text, ['x'], 3⟩])) :=
      .named (by simp) (by simp [Token.Plain]) (by simp)
    have hx : spelledName (suffixedText n).toList [⟨.text, ['x'], 3⟩] = "x" := by
      rw [toList_suffixedText]
      rfl
    have ha : spelledName (suffixedText n).toList [⟨.text, ['a'], 0⟩] = "a" := by
      rw [toList_suffixedText]
      rfl
    rw [hx] at htype
    have header : Header [⟨.text, ['a'], 0⟩] false ([⟨.text, ['a'], 0⟩] ++ [⟨.colon, [':'], 1⟩]) :=
      .required (by simp) (by simp) rfl
    rw [← ha]
    exact .last header (denotes_suffixes htype 4 n)

/-- A suffix takes one frame, and the name before them another. -/
theorem parse_suffixedText {o : ParseOptions} (hp : o.Permits "x") {frames : Nat}
    (hr : o.room = .ofFrames frames) (n : Nat) :
    (o.parse (suffixedText n)).result =
      if n < frames then .ok [("a", ⟨suffixedType n, false⟩)] else .error .nestedTooDeeply := by
  have hnames : ∀ name ∈ propertiesNames [("a", ⟨suffixedType n, false⟩)], o.Permits name := by
    simpa [propertiesNames, names_suffixedType] using hp
  have hfit : propertiesFit [("a", ⟨suffixedType n, false⟩)] o.room = decide (n < frames) := by
    rw [hr, propertiesFit, propertiesFit, Bool.and_true, fits_suffixedType]
  rw [ParseOptions.parse_of_declares (declares_suffixedText n) hnames, hfit]
  split <;> simp_all [Journal.fail]

/-- A text may be derived by the grammar and yet be nested too deeply to be read. -/
theorem suffixedText_not_read :
    Declares (suffixedText 2000) [("a", ⟨suffixedType 2000, false⟩)] ∧
      (ParseOptions.parse { strict := true } (suffixedText 2000)).result =
        .error .nestedTooDeeply :=
  ⟨declares_suffixedText 2000, (parse_suffixedText (.inl rfl) rfl 2000).trans (if_neg (by decide))⟩

end Conform.Schema
