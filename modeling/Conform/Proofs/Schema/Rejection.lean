import Conform.Proofs.Schema.Lenient
import Conform.Proofs.Schema.Strict
import Conform.Proofs.Schema.Vocabulary

/-! Rejecting unknown type names is accepting them all and then looking at the names in the tree: in
strict mode exactly so, and in lenient mode as far as a text is read. There an unknown name is the
one fault that accepting does not have. -/

namespace Conform.Schema

namespace ParseOptions

def accepting (o : ParseOptions) : ParseOptions := { o with unknown := .accept }

def rejecting (o : ParseOptions) (known : List String) : ParseOptions :=
  { o with unknown := .reject, known }

end ParseOptions

def InVocabulary (known : List String) (name : String) : Prop :=
  name ∈ builtinNames ∨ name ∈ known

namespace ParseOptions

variable {o : ParseOptions} {known : List String} {text : String} {d : Definition}

theorem permits_accepting (o : ParseOptions) (name : String) : o.accepting.Permits name := .inl rfl

theorem permits_rejecting_iff {name : String} :
    (o.rejecting known).Permits name ↔ InVocabulary known name := by
  simp [Permits, rejecting, isKnown, InVocabulary]

theorem parse_accepting_of_rejecting (h : ((o.rejecting known).parse text).result = .ok d) :
    (o.accepting.parse text).result = .ok d ∧
      ∀ name ∈ propertiesNames d, InVocabulary known name := by
  have hsame := @parse_mono (o.rejecting known) o.accepting rfl rfl
    (fun name _ => o.permits_accepting name) text d h
  refine ⟨by rw [← hsame, h], fun name hname => ?_⟩
  exact permits_rejecting_iff.1 (permits_of_parse h name hname)

/-- Strict reading keeps every type that it reads, so looking at the tree is enough. -/
theorem parse_rejecting_of_accepting (hs : o.strict = true)
    (h : (o.accepting.parse text).result = .ok d)
    (hnames : ∀ name ∈ propertiesNames d, InVocabulary known name) :
    ((o.rejecting known).parse text).result = .ok d := by
  obtain ⟨hdeclares, -, hfit⟩ := (@parse_strict_eq_ok_iff o.accepting hs text d).1 h
  refine (@parse_strict_eq_ok_iff (o.rejecting known) hs text d).2
    ⟨hdeclares, fun name hname => ?_, hfit⟩
  exact permits_rejecting_iff.2 (hnames name hname)

/-- Lenient reading stops at an unknown name, or ends as it does if all names are accepted. -/
theorem parse_rejecting_error (hs : o.strict = false) {e : ParseError}
    (h : ((o.rejecting known).parse text).result = .error e) :
    (∃ name p, e = .malformed (.unknownType name) p ∧ ¬ InVocabulary known name) ∨
      e = .nestedTooDeeply ∧ (o.accepting.parse text).result = .error .nestedTooDeeply ∧
        ¬ o.room.Allows text.length := by
  have hstops := @parse_stopsOr (o.rejecting known) o.accepting rfl rfl
    (fun name _ => o.permits_accepting name) text
  cases hstops with
  | stops hbars hunknown =>
    rw [hunknown] at h
    cases h
    exact .inl ⟨_, _, rfl, fun hname => hbars.2 (permits_rejecting_iff.2 hname)⟩
  | same hsame =>
    rw [hsame] at h
    have ho : o.accepting.Lenient := ⟨hs, rfl⟩
    obtain ⟨rfl, hroom⟩ := parse_lenient_error ho h
    exact .inr ⟨rfl, h, hroom⟩

theorem parse_rejecting_mono {known' : List String} (hsub : known ⊆ known')
    (h : ((o.rejecting known).parse text).result = .ok d) :
    ((o.rejecting known').parse text).result = .ok d := by
  have hpermits (name : String) (hname : (o.rejecting known).Permits name) :
      (o.rejecting known').Permits name :=
    permits_rejecting_iff.2 ((permits_rejecting_iff.1 hname).imp_right fun hk => hsub hk)
  have hsame := @parse_mono (o.rejecting known) (o.rejecting known') rfl rfl hpermits text d h
  rw [← hsame, h]

/-- Rejecting unknown names gives the trees that accepting them gives, if all the names in a tree
are known; in strict mode every such tree. In lenient mode rejecting ends in no fault but an unknown
name, or a lack of room if accepting ends in it too; and there is never too little room if it is
enough for as many types inside one another as the text has characters. A larger vocabulary keeps
what is read. -/
theorem parse_rejecting_refines_accepting (o : ParseOptions) (known : List String)
    (text : String) :
    (∀ d, ((o.rejecting known).parse text).result = .ok d →
      (o.accepting.parse text).result = .ok d ∧
        ∀ name ∈ propertiesNames d, InVocabulary known name) ∧
    (o.strict = true → ∀ d, ((o.rejecting known).parse text).result = .ok d ↔
      (o.accepting.parse text).result = .ok d ∧
        ∀ name ∈ propertiesNames d, InVocabulary known name) ∧
    (o.strict = false → ∀ e, ((o.rejecting known).parse text).result = .error e →
      (∃ name p, e = .malformed (.unknownType name) p ∧ ¬ InVocabulary known name) ∨
        e = .nestedTooDeeply ∧ (o.accepting.parse text).result = .error .nestedTooDeeply ∧
          ¬ o.room.Allows text.length) ∧
    ∀ known', known ⊆ known' → ∀ d, ((o.rejecting known).parse text).result = .ok d →
      ((o.rejecting known').parse text).result = .ok d := by
  refine ⟨fun d => parse_accepting_of_rejecting, fun hs d => ⟨parse_accepting_of_rejecting, ?_⟩,
    fun hs e => parse_rejecting_error hs, fun known' hsub d => parse_rejecting_mono hsub⟩
  rintro ⟨h, hnames⟩
  exact parse_rejecting_of_accepting hs h hnames

/-- Read leniently, the earlier type of a property that is declared again has to be known too; read
strictly, the names in the tree decide. -/
theorem parse_rejecting_refines_accepting_again :
    ((rejecting {} ["sku"]).parse "a: money; a: sku").result =
        .error (.malformed (.unknownType "money") 3) ∧
      ((accepting {}).parse "a: money; a: sku").result = .ok [("a", ⟨.named "sku", false⟩)] ∧
      ¬ InVocabulary ["sku"] "money" ∧
      ((rejecting { strict := true } ["sku", "money"]).parse "a: sku[]").result =
        .ok [("a", ⟨.array (.named "sku"), false⟩)] := by
  have hlenient : ((rejecting {} ["sku"]).parse "a: money; a: sku").result =
      .error (.malformed (.unknownType "money") 3) := by rfl
  have hstrict : ((accepting { strict := true }).parse "a: sku[]").result =
      .ok [("a", ⟨.array (.named "sku"), false⟩)] := by rfl
  have hnames : ∀ name ∈ propertiesNames [("a", ⟨.array (.named "sku"), false⟩)],
      InVocabulary ["sku"] name := by simp [propertiesNames, TypeExpr.names, InVocabulary]
  refine ⟨hlenient, by rfl, ?_, ?_⟩
  · obtain ⟨name, p, he, hunknown⟩ | ⟨he, -⟩ :=
      (parse_rejecting_refines_accepting {} ["sku"] _).2.2.1 rfl _ hlenient
    · cases he
      exact hunknown
    · cases he
  · obtain ⟨-, strict, -, larger⟩ :=
      parse_rejecting_refines_accepting { strict := true } ["sku"] "a: sku[]"
    exact larger ["sku", "money"] (by simp) _ ((strict rfl _).2 ⟨hstrict, hnames⟩)

/-- Where types are nested too deeply, rejecting ends in no unknown name either. -/
theorem suffixedText_nothing_unknown :
    InVocabulary ["x"] "x" ∧
      ¬ ∀ e, ((rejecting {} ["x"]).parse (suffixedText 2000)).result = .error e →
        ∃ name p, e = .malformed (.unknownType name) p := by
  have hknown : InVocabulary ["x"] "x" := .inr List.mem_cons_self
  refine ⟨hknown, fun h => ?_⟩
  obtain ⟨name, p, he⟩ := h _ ((parse_suffixedText (permits_rejecting_iff.2 hknown) rfl 2000).trans
    (if_neg (by decide)))
  cases he

end ParseOptions

end Conform.Schema
