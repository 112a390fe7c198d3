import Conform.Proofs.Schema.Rendering

/-! Strict reading loses nothing. The tokens of a text are told by the tree that the text declares,
apart from where they stand and from the semicolons between properties; and the names in the tree
are such that it can be written again. -/

namespace Conform.Schema

/-- What tokens are, wherever they stand, without the semicolons. -/
def symbols (ts : List Token) : List (TokenKind × List Char) :=
  (ts.filter (·.kind ≠ .semicolon)).map fun t => (t.kind, t.text)

theorem symbols_append (ts us : List Token) : symbols (ts ++ us) = symbols ts ++ symbols us := by
  simp [symbols]

theorem symbols_cons_semicolon {t : Token} (ht : t.kind = .semicolon) (ts : List Token) :
    symbols (t :: ts) = symbols ts := by
  simp [symbols, ht]

theorem symbols_cons {t : Token} (ht : t.kind ≠ .semicolon) (ts : List Token) :
    symbols (t :: ts) = (t.kind, t.text) :: symbols ts := by
  simp [symbols, ht]

theorem symbols_lexemes (n : Nat) (cs : List Char) :
    symbols (lexemes n cs) = symbols (lexemes 0 cs) := by
  rw [lexemes_eq_shift n, symbols, List.filter_map, List.map_map]
  rfl

def nameSymbols (name : String) : List (TokenKind × List Char) := symbols (lexemes 0 name.toList)

mutual

def TypeExpr.symbols : TypeExpr → List (TokenKind × List Char)
  | .named name => nameSymbols name
  | .array item => item.symbols ++ [(.arraySuffix, ['[', ']'])]
  | .object ps => (.openBrace, ['{']) :: (propertiesSymbols ps ++ [(.closeBrace, ['}'])])

def propertiesSymbols : List (String × Spec TypeExpr) → List (TokenKind × List Char)
  | [] => []
  | (name, ⟨type, optional⟩) :: rest =>
    nameSymbols name ++
      (if optional then [(.question, ['?']), (.colon, [':'])] else [(.colon, [':'])]) ++
      (type.symbols ++ propertiesSymbols rest)

end

section Span

variable {source : List Char} {ts : List Token}

/-- A character of a text is a blank or belongs to a token. -/
theorem Spelled.mem_cases {n : Nat} {cs : List Char} (h : Spelled n cs ts) :
    ∀ c ∈ cs, isBlank c = true ∨ ∃ t ∈ ts, c ∈ t.text := by
  induction h with
  | nil => simp
  | blank hc _ ih => exact List.forall_mem_cons.2 ⟨.inl hc, ih⟩
  | @token n t cs ts hn formed _ ih =>
    intro c hc
    rcases List.mem_append.1 hc with hc | hc
    · exact .inr ⟨t, List.mem_cons_self, hc⟩
    · exact (ih c hc).imp_right fun ⟨u, hu, hcu⟩ => ⟨u, List.mem_cons_of_mem t hu, hcu⟩

theorem Run.mem_spanText (h : Run source ts) :
    ∀ c ∈ spanText source ts, isBlank c = true ∨ ∃ t ∈ ts, c ∈ t.text := by
  cases ts with
  | nil => simp [spanText]
  | cons t ts => exact (h.spelled_spanText (a := t) rfl).mem_cases

theorem Run.trimmed_spanText (h : Run source ts) : Trimmed (spanText source ts) := by
  have htrim := @h.trim_spanText _ [] _ (by simp)
  rwa [List.append_nil] at htrim

theorem Run.spanText_ne_nil (h : Run source ts) (hne : ts ≠ []) : spanText source ts ≠ [] := by
  obtain ⟨t, ts, rfl⟩ := List.exists_cons_of_ne_nil hne
  intro hnil
  have hspelled := h.spelled_spanText (a := t) rfl
  rw [hnil] at hspelled
  exact absurd hspelled.nil_inv (by simp)

theorem toList_spelledName : (spelledName source ts).toList = spanText source ts :=
  String.toList_ofList

/-- Tokens of a text that follow one another are those of the name that they spell. -/
theorem exists_lexemes_spelledName (hts : ts <:+: lexemes 0 source) (hne : ts ≠ []) :
    ∃ n, lexemes n (spelledName source ts).toList = ts := by
  obtain ⟨t, ts, rfl⟩ := List.exists_cons_of_ne_nil hne
  rw [toList_spelledName]
  exact ⟨t.start, lexemes_spanText 0 hts ((run_lexemes source).subrun hts) rfl⟩

theorem spelledName_trimmed (hts : ts <:+: lexemes 0 source) (hne : ts ≠ []) :
    (spelledName source ts).toList ≠ [] ∧ Trimmed (spelledName source ts).toList := by
  have hrun : Run source ts := (run_lexemes source).subrun hts
  rw [toList_spelledName]
  exact ⟨hrun.spanText_ne_nil hne, hrun.trimmed_spanText⟩

theorem nameSymbols_spelledName (hts : ts <:+: lexemes 0 source) (hne : ts ≠ []) :
    nameSymbols (spelledName source ts) = symbols ts := by
  obtain ⟨n, hn⟩ := exists_lexemes_spelledName hts hne
  rw [nameSymbols, ← symbols_lexemes n, hn]

/-- A span ends with an array suffix only if its last token is one. -/
theorem unsuffixed_spelledName (hts : ts <:+: lexemes 0 source) (hne : ts ≠ [])
    (hlast : ∀ t ∈ ts.getLast?, t.kind ≠ .arraySuffix) :
    ¬ ['[', ']'] <:+ (spelledName source ts).toList := by
  obtain ⟨n, hn⟩ := exists_lexemes_spelledName hts hne
  rintro ⟨xs, hxs⟩
  rw [← hxs, lexemes_suffix, lexemes_nil] at hn
  exact hlast ⟨.arraySuffix, ['[', ']'], n + xs.length⟩ (by simp [← hn]) rfl

theorem isTypeName_spelledName (hts : ts <:+: lexemes 0 source) (hne : ts ≠ [])
    (plain : ∀ t ∈ ts, t.Plain) (hlast : ∀ t ∈ ts.getLast?, t.kind ≠ .arraySuffix) :
    IsTypeName (spelledName source ts).toList := by
  have hrun : Run source ts := (run_lexemes source).subrun hts
  obtain ⟨hnil, htrim⟩ := spelledName_trimmed hts hne
  refine ⟨hnil, htrim, ?_, unsuffixed_spelledName hts hne hlast⟩
  rw [toList_spelledName]
  intro c hc
  rcases hrun.mem_spanText c hc with hblank | ⟨t, ht, hct⟩
  · refine ⟨?_, ?_, ?_⟩ <;> rintro rfl <;> cases hblank
  · exact (hrun.formed t ht).plain_iff.1 (plain t ht) c hct

theorem isPropertyName_spelledName (hts : ts <:+: lexemes 0 source) (hne : ts ≠ [])
    (text : ∀ t ∈ ts, t.kind = .text) : IsPropertyName (spelledName source ts).toList := by
  have hrun : Run source ts := (run_lexemes source).subrun hts
  obtain ⟨n, hn⟩ := exists_lexemes_spelledName hts hne
  obtain ⟨hnil, htrim⟩ := spelledName_trimmed hts hne
  refine ⟨hnil, htrim, ?_, ?_⟩
  · rw [toList_spelledName]
    intro c hc
    rcases hrun.mem_spanText c hc with hblank | ⟨t, ht, hct⟩
    · cases hk : structural? c with
      | none => rfl
      | some k =>
        rw [(structural?_text hk).1] at hblank
        cases hblank
    · exact (((hrun.formed t ht).chars (text t ht)).2 c hct).2
  · rintro ⟨xs, ys, hxs⟩
    rw [← hxs, List.append_assoc] at hn
    have hsuffix := lexemes_suffix n xs ys
    rw [show xs ++ (['[', ']'] ++ ys) = xs ++ '[' :: ']' :: ys from rfl, hsuffix] at hn
    have hkind := text ⟨.arraySuffix, ['[', ']'], n + xs.length⟩ (by simp [← hn])
    cases hkind

end Span

section Derivations

variable {source : List Char} {T : List Token → TypeExpr → Prop} {ts : List Token} {ps : Definition}

theorem Header.isInfix {name head us : List Token} {optional : Bool}
    (header : Header name optional head) (hin : head ++ us <:+: lexemes 0 source) :
    name <:+: lexemes 0 source :=
  (header.isPrefix.trans (List.prefix_append _ _)).isInfix.trans hin

theorem Header.symbols_eq {name head us : List Token} {optional : Bool}
    (header : Header name optional head) (hin : head ++ us <:+: lexemes 0 source) :
    symbols head = nameSymbols (spelledName source name) ++
      if optional then [(.question, ['?']), (.colon, [':'])] else [(.colon, [':'])] := by
  have hrun : Run source (head ++ us) := (run_lexemes source).subrun hin
  have hname := header.isInfix hin
  cases header with
  | @required colon hne text hc =>
    have htext := (hrun.formed colon (by simp)).text_of_structural (c := ':') rfl hc
    rw [symbols_append, nameSymbols_spelledName hname hne, symbols_cons (by simp [hc]), hc, htext]
    rfl
  | @optional question colon hne text hq hc =>
    have hqtext := (hrun.formed question (by simp)).text_of_structural (c := '?') rfl hq
    have htext := (hrun.formed colon (by simp)).text_of_structural (c := ':') rfl hc
    rw [symbols_append, nameSymbols_spelledName hname hne, symbols_cons (by simp [hq]),
      symbols_cons (by simp [hc]), hq, hc, hqtext, htext]
    rfl

theorem Header.isPropertyName {name head us : List Token} {optional : Bool}
    (header : Header name optional head) (hin : head ++ us <:+: lexemes 0 source) :
    IsPropertyName (spelledName source name).toList := by
  have hname := header.isInfix hin
  cases header with
  | required hne text => exact isPropertyName_spelledName hname hne text
  | optional hne text => exact isPropertyName_spelledName hname hne text

theorem PropertyList.symbols_eq (hin : ts <:+: lexemes 0 source)
    (h : PropertyList source (fun us τ => symbols us = τ.symbols) ts ps) :
    symbols ts = propertiesSymbols ps := by
  induction h with
  | nil => rfl
  | blank hs _ ih =>
    rw [symbols_cons_semicolon hs]
    exact ih ((List.suffix_cons _ _).isInfix.trans hin)
  | last header type =>
    rw [symbols_append, header.symbols_eq hin, type, propertiesSymbols, propertiesSymbols,
      List.append_nil]
  | cons header type hs _ new ih =>
    have hfirst := (List.prefix_append _ _).isInfix.trans hin
    have hrest := (suffix_behind _ _ _).isInfix.trans hin
    rw [symbols_append, symbols_append, header.symbols_eq hfirst, type, symbols_cons_semicolon hs,
      ih hrest, propertiesSymbols, List.append_assoc _ (TypeExpr.symbols _)]

theorem PropertyList.distinct (h : PropertyList source T ts ps) : (Assoc.keys ps).Nodup := by
  induction h with
  | nil => exact .nil
  | blank hs _ ih => exact ih
  | last header type => simp [Assoc.keys]
  | cons header type hs _ new ih => exact List.nodup_cons.2 ⟨new, ih⟩

theorem PropertyList.isPropertyName (hin : ts <:+: lexemes 0 source)
    (h : PropertyList source T ts ps) : ∀ p ∈ ps, IsPropertyName p.1.toList := by
  induction h with
  | nil => simp
  | blank hs _ ih => exact ih ((List.suffix_cons _ _).isInfix.trans hin)
  | last header type => simpa using header.isPropertyName hin
  | cons header type hs _ new ih =>
    have hfirst := (List.prefix_append _ _).isInfix.trans hin
    have hrest := (suffix_behind _ _ _).isInfix.trans hin
    exact List.forall_mem_cons.2 ⟨header.isPropertyName hfirst, ih hrest⟩

/-- The types in a property list that is part of a text are parts of the text themselves. -/
theorem PropertyList.inside (hin : ts <:+: lexemes 0 source) (h : PropertyList source T ts ps) :
    PropertyList source (fun us τ => us <:+: lexemes 0 source ∧ T us τ) ts ps := by
  induction h with
  | nil => exact .nil
  | blank hs _ ih => exact .blank hs (ih ((List.suffix_cons _ _).isInfix.trans hin))
  | last header type => exact .last header ⟨(List.suffix_append _ _).isInfix.trans hin, type⟩
  | cons header type hs _ new ih =>
    have hfirst := (List.prefix_append _ _).isInfix.trans hin
    have hrest := (suffix_behind _ _ _).isInfix.trans hin
    exact .cons header ⟨(List.suffix_append _ _).isInfix.trans hfirst, type⟩ hs (ih hrest) new

theorem inner_isInfix {opening closing : Token} {all : List Token}
    (hin : opening :: (ts ++ [closing]) <:+: all) : ts <:+: all :=
  List.IsInfix.trans ⟨[opening], [closing], by simp⟩ hin

theorem Denotes.induction_inside {P : List Token → TypeExpr → Prop}
    (named : ∀ ts, ts <:+: lexemes 0 source → ts ≠ [] → (∀ t ∈ ts, t.Plain) →
      (∀ t ∈ ts.getLast?, t.kind ≠ .arraySuffix) → P ts (.named (spelledName source ts)))
    (array : ∀ ts suffix τ, ts ++ [suffix] <:+: lexemes 0 source → suffix.kind = .arraySuffix →
      P ts τ → P (ts ++ [suffix]) (.array τ))
    (object : ∀ opening closing ts ps, opening :: (ts ++ [closing]) <:+: lexemes 0 source →
      opening.kind = .openBrace → closing.kind = .closeBrace → PropertyList source P ts ps →
      P (opening :: (ts ++ [closing])) (.object ps))
    {τ : TypeExpr} (h : Denotes source ts τ) (hin : ts <:+: lexemes 0 source) : P ts τ := by
  refine Denotes.induction (P := fun ts τ => ts <:+: lexemes 0 source → P ts τ) ?_ ?_ ?_ h hin
  · intro ts hne plain hlast hin
    exact named ts hin hne plain hlast
  · intro ts suffix τ hs _ ih hin
    exact array ts suffix τ hin hs (ih ((List.prefix_append _ _).isInfix.trans hin))
  · intro opening closing ts ps ho hc list hin
    exact object opening closing ts ps hin ho hc
      ((list.inside (inner_isInfix hin)).mono fun us τ hu => hu.2.2 hu.1)

/-- The type that some tokens denote tells what they are. -/
theorem Denotes.symbols_eq {τ : TypeExpr} (h : Denotes source ts τ)
    (hin : ts <:+: lexemes 0 source) : symbols ts = τ.symbols := by
  refine h.induction_inside (P := fun ts τ => symbols ts = τ.symbols) ?_ ?_ ?_ hin
  · intro ts hin hne _ _
    rw [TypeExpr.symbols, nameSymbols_spelledName hin hne]
  · intro ts suffix τ hin hs ih
    have formed := ((run_lexemes source).subrun hin).formed suffix (by simp)
    rw [symbols_append, ih, symbols_cons (by simp [hs]), hs, formed.text_of_suffix hs]
    rfl
  · intro opening closing ts ps hin ho hc list
    have hrun := (run_lexemes source).subrun hin
    have hopening := (hrun.formed opening (by simp)).text_of_structural (c := '{') rfl ho
    have hclosing := (hrun.formed closing (by simp)).text_of_structural (c := '}') rfl hc
    rw [symbols_cons (by simp [ho]), symbols_append, list.symbols_eq (inner_isInfix hin),
      symbols_cons (by simp [hc]), ho, hc, hopening, hclosing]
    rfl

theorem Denotes.printable {τ : TypeExpr} (h : Denotes source ts τ)
    (hin : ts <:+: lexemes 0 source) : τ.Printable := by
  refine h.induction_inside (P := fun _ τ => τ.Printable) ?_ ?_ ?_ hin
  · intro ts hin hne plain hlast
    exact .named (isTypeName_spelledName hin hne plain hlast)
  · intro ts suffix τ _ _ ih
    exact .array ih
  · intro opening closing ts ps hin _ _ list
    exact .object list.distinct (list.isPropertyName (inner_isInfix hin))
      (list.forall_types fun _ _ => id)

end Derivations

/-- A text that declares a definition consists, braces around all of it and semicolons aside, of the
symbols of the definition. -/
theorem Declares.symbols_body {text : String} {d : Definition} (h : Declares text d)
    (o : ParseOptions) : symbols (o.body text.toList).tokens = propertiesSymbols d := by
  obtain ⟨ts, hbody, list⟩ := h.body
  rw [ParseOptions.body_tokens hbody list h.ne_nil]
  refine ((list.inside hbody.isInfix).mono fun us τ hu => ?_).symbols_eq hbody.isInfix
  exact hu.2.symbols_eq hu.1

theorem Declares.printable {text : String} {d : Definition} (h : Declares text d) :
    Printable d := by
  obtain ⟨ts, hbody, list⟩ := h.body
  refine ⟨h.ne_nil, .object list.distinct (list.isPropertyName hbody.isInfix) ?_⟩
  exact (list.inside hbody.isInfix).forall_types fun us τ hu => hu.2.printable hu.1

/-- A text that is read strictly is, braces around all of it and semicolons aside, the same tokens
in the same order as the text that its tree is written as; and this is read as the tree again. -/
theorem parse_strict_lossless {o : ParseOptions} (hs : o.strict = true) {text : String}
    {d : Definition} (h : (o.parse text).result = .ok d) :
    Printable d ∧
      (Body (lexemes 0 text.toList) (o.body text.toList).tokens ∧
        Body (lexemes 0 (render d).toList) (o.body (render d).toList).tokens ∧
        symbols (o.body text.toList).tokens = symbols (o.body (render d).toList).tokens) ∧
      (o.parse (render d)).result = .ok d := by
  obtain ⟨declares, hp⟩ := ParseOptions.declares_of_parse hs h
  have printable := declares.printable
  have written := declares_render printable
  refine ⟨printable, ⟨ParseOptions.body_strict hs, ParseOptions.body_strict hs, ?_⟩, ?_⟩
  · rw [declares.symbols_body, written.symbols_body]
  · have hread := ParseOptions.parse_of_declares declares hp
    have hreread := ParseOptions.parse_of_declares written hp
    rw [hread, ← hreread] at h
    exact h

/-- Empty segments, an empty object, and blanks where none are written. -/
theorem parse_strict_lossless_blanks :
    ({ strict := true } : ParseOptions).strict = true ∧
      (ParseOptions.parse { strict := true } ";a ?:x [] y;; b:{}[] ").result =
        .ok [("a", ⟨.named "x [] y", true⟩), ("b", ⟨.array (.object []), false⟩)] ∧
      (ParseOptions.parse { strict := true } "{ a?: x [] y; b: { }[]; }").result =
        .ok [("a", ⟨.named "x [] y", true⟩), ("b", ⟨.array (.object []), false⟩)] := by
  have hread : (ParseOptions.parse { strict := true } ";a ?:x [] y;; b:{}[] ").result =
      .ok [("a", ⟨.named "x [] y", true⟩), ("b", ⟨.array (.object []), false⟩)] := rfl
  exact ⟨rfl, hread, (parse_strict_lossless rfl hread).2.2⟩

end Conform.Schema
