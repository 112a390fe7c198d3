import Conform.Proofs.Schema.Maximal
import Conform.Proofs.Schema.Strict

/-! Trees as text. A name that is to be found again in a text must be told from what stands around
it; a tree that has only such names is what the text it is written as declares. So reading what was
written gives the tree back in either mode, if there is room for its types. -/

namespace Conform.Schema

mutual

def TypeExpr.render : TypeExpr → List Char
  | .named name => name.toList
  | .array item => item.render ++ ['[', ']']
  | .object ps => '{' :: ' ' :: (renderProperties ps ++ ['}'])

def renderProperties : List (String × Spec TypeExpr) → List Char
  | [] => []
  | (name, ⟨type, optional⟩) :: rest =>
    name.toList ++ (if optional then ['?', ':'] else [':']) ++
      ' ' :: (type.render ++ ';' :: ' ' :: renderProperties rest)

end

def render (d : Definition) : String := String.ofList (TypeExpr.object d).render

example : render [("tags", ⟨.array (.named "string"), true⟩), ("at", ⟨.object [], false⟩)] =
    "{ tags?: string[]; at: { }; }" := rfl

/-- Nothing but text tokens, without a blank at either end. -/
def IsPropertyName (cs : List Char) : Prop :=
  cs ≠ [] ∧ Trimmed cs ∧ (∀ c ∈ cs, structural? c = none) ∧ ¬ ['[', ']'] <:+: cs

/-- Nothing that ends a type, without a blank at either end and without an array suffix behind. -/
def IsTypeName (cs : List Char) : Prop :=
  cs ≠ [] ∧ Trimmed cs ∧ (∀ c ∈ cs, c ≠ '{' ∧ c ≠ '}' ∧ c ≠ ';') ∧ ¬ ['[', ']'] <:+ cs

-- Only the characters of the name are gone through; all that there are would be too many.

instance (cs : List Char) : Decidable (IsPropertyName cs) :=
  haveI : Decidable (∀ c ∈ cs, structural? c = none) := List.decidableBAll _ cs
  haveI : Decidable (['[', ']'] <:+: cs) := List.instDecidableIsInfixOfDecidableEq _ cs
  inferInstanceAs (Decidable (_ ∧ _ ∧ _ ∧ _))

instance (cs : List Char) : Decidable (IsTypeName cs) :=
  haveI : Decidable (∀ c ∈ cs, c ≠ '{' ∧ c ≠ '}' ∧ c ≠ ';') := List.decidableBAll _ cs
  inferInstanceAs (Decidable (_ ∧ _ ∧ _ ∧ _))

/-- All names in a type can be written, and no object declares one twice. -/
inductive TypeExpr.Printable : TypeExpr → Prop
  | named {name : String} (h : IsTypeName name.toList) : TypeExpr.Printable (.named name)
  | array {item : TypeExpr} (h : item.Printable) : TypeExpr.Printable (.array item)
  | object {ps : Definition} (distinct : (Assoc.keys ps).Nodup)
      (names : ∀ p ∈ ps, IsPropertyName p.1.toList) (types : ∀ p ∈ ps, p.2.type.Printable) :
      TypeExpr.Printable (.object ps)

structure Printable (d : Definition) : Prop where
  ne_nil : d ≠ []
  object : (TypeExpr.object d).Printable

section Trim

variable {cs : List Char}

theorem trimmed_iff :
    Trimmed cs ↔ (∀ c ∈ cs.head?, isBlank c = false) ∧ ∀ c ∈ cs.getLast?, isBlank c = false := by
  have hlength (xs : List Char) : (xs.dropWhile isBlank).length ≤ xs.length :=
    (List.dropWhile_sublist _).length_le
  constructor
  · intro h
    have htrim := congrArg List.length (show trim cs = cs from h)
    simp only [trim, List.length_reverse] at htrim
    have hfront : cs.dropWhile isBlank = cs := by
      refine (List.dropWhile_suffix _).eq_of_length ?_
      have h1 := hlength (cs.dropWhile isBlank).reverse
      have h2 := hlength cs
      rw [List.length_reverse] at h1
      omega
    rw [hfront] at htrim
    have hback : cs.reverse.dropWhile isBlank = cs.reverse :=
      (List.dropWhile_suffix _).eq_of_length (by rw [htrim, List.length_reverse])
    rw [← List.head?_reverse]
    constructor
    · intro c hc
      have := List.head?_dropWhile_not isBlank cs
      rw [hfront, Option.mem_def.1 hc] at this
      simpa using this
    · intro c hc
      have := List.head?_dropWhile_not isBlank cs.reverse
      rw [hback, Option.mem_def.1 hc] at this
      simpa using this
  · rintro ⟨hhead, hlast⟩
    have htrim := @trim_append_blanks cs [] hhead hlast (by simp)
    rwa [List.append_nil] at htrim

end Trim

/-- The last token of a text that does not end with a blank ends with the text. -/
theorem Spelled.getLast? {n : Nat} {cs : List Char} {ts : List Token} (h : Spelled n cs ts)
    (hne : cs ≠ []) (hlast : ∀ c ∈ cs.getLast?, isBlank c = false) :
    ∃ z, ts.getLast? = some z ∧ z.stop = n + cs.length ∧ z.text <:+ cs := by
  induction h with
  | nil => exact absurd rfl hne
  | @blank n c cs ts hc _ ih =>
    have hcs : cs ≠ [] := by
      rintro rfl
      simp [hc] at hlast
    obtain ⟨z, hz, hstop, hsuffix⟩ :=
      ih hcs fun d hd => hlast d (by simp [Option.mem_def.1 hd, List.getLast?_cons])
    refine ⟨z, hz, ?_, hsuffix.trans (List.suffix_cons _ _)⟩
    rw [hstop, List.length_cons, Nat.add_assoc, Nat.add_comm 1]
  | @token n t cs ts hn formed rest ih =>
    by_cases hcs : cs = []
    · subst hcs
      obtain rfl := rest.nil_inv
      exact ⟨t, rfl, by simp [Token.stop, hn], by simp⟩
    · obtain ⟨z, hz, hstop, hsuffix⟩ :=
        ih hcs fun d hd => hlast d (by rwa [List.getLast?_append_of_ne_nil _ hcs])
      refine ⟨z, by simp [List.getLast?_cons, hz], ?_, hsuffix.trans (List.suffix_append _ _)⟩
      rw [hstop, List.length_append, Token.stop, hn, Nat.add_assoc]

theorem Spelled.formed_of_mem {n : Nat} {cs : List Char} {ts : List Token} (h : Spelled n cs ts) :
    ∀ t ∈ ts, t.Formed ∧ t.text <:+: cs := by
  induction h with
  | nil => simp
  | blank hc _ ih =>
    exact fun t ht => (ih t ht).imp_right fun hin => hin.trans (List.suffix_cons _ _).isInfix
  | token hn formed _ ih =>
    refine List.forall_mem_cons.2 ⟨⟨formed, (List.prefix_append _ _).isInfix⟩, fun u hu => ?_⟩
    exact (ih u hu).imp_right fun hin => hin.trans (List.suffix_append _ _).isInfix

def Piece (source : List Char) (n : Nat) (cs : List Char) : Prop :=
  ∃ before after, source = before ++ (cs ++ after) ∧ before.length = n

namespace Piece

variable {source : List Char} {n : Nat} {xs ys : List Char}

theorem self (source : List Char) : Piece source 0 source := ⟨[], [], by simp, rfl⟩

theorem left (h : Piece source n (xs ++ ys)) : Piece source n xs := by
  obtain ⟨before, after, rfl, rfl⟩ := h
  exact ⟨before, ys ++ after, by simp, rfl⟩

theorem right (h : Piece source n (xs ++ ys)) : Piece source (n + xs.length) ys := by
  obtain ⟨before, after, rfl, rfl⟩ := h
  exact ⟨before ++ xs, after, by simp, by simp⟩

theorem tail {x : Char} (h : Piece source n (x :: xs)) : Piece source (n + 1) xs :=
  @right source n [x] xs h

/-- The tokens of a piece span it, if it has no blank at either end. -/
theorem spelledName_lexemes {name : String} (h : Piece source n name.toList)
    (hne : name.toList ≠ []) (ht : Trimmed name.toList) :
    spelledName source (lexemes n name.toList) = name := by
  obtain ⟨before, after, rfl, rfl⟩ := h
  obtain ⟨hhead, hlast⟩ := trimmed_iff.1 ht
  obtain ⟨z, hz, hstop, -⟩ := (spelled_lexemes before.length name.toList).getLast? hne hlast
  have hfirst : ∃ a, (lexemes before.length name.toList).head? = some a ∧
      a.start = before.length := by
    obtain ⟨c, cs, hcs⟩ := List.exists_cons_of_ne_nil hne
    have hspelled := spelled_lexemes before.length name.toList
    rw [hcs] at hspelled hhead ⊢
    obtain ⟨a, us, -, heq, hstart, -⟩ := hspelled.first (hhead c (by simp))
    exact ⟨a, by rw [heq]; rfl, hstart⟩
  obtain ⟨a, ha, hstart⟩ := hfirst
  have hspan : spanText (before ++ (name.toList ++ after)) (lexemes before.length name.toList) =
      name.toList := by
    rw [spanText_eq_slice ha hz, hstart, hstop, slice_middle]
  rw [spelledName, hspan, String.ofList_toList]

end Piece

theorem lexemes_ne_nil {n : Nat} {cs : List Char} (hne : cs ≠ []) (ht : Trimmed cs) :
    lexemes n cs ≠ [] := by
  obtain ⟨z, hz, -⟩ := (spelled_lexemes n cs).getLast? hne (trimmed_iff.1 ht).2
  rintro hnil
  rw [hnil] at hz
  cases hz

theorem Token.Formed.plain_iff {t : Token} (h : t.Formed) :
    t.Plain ↔ ∀ c ∈ t.text, c ≠ '{' ∧ c ≠ '}' ∧ c ≠ ';' := by
  cases h with
  | structural h =>
    unfold structural? at h
    split at h <;> cases h <;> simp_all [Token.Plain]
  | arraySuffix => simp [Token.Plain]
  | @text cs start hne h =>
    have hchars : ∀ c ∈ cs, c ≠ '{' ∧ c ≠ '}' ∧ c ≠ ';' := by
      intro c hc
      have hnone := (h c hc).2
      refine ⟨?_, ?_, ?_⟩ <;> rintro rfl <;> cases hnone
    simpa [Token.Plain] using hchars

theorem Token.Formed.text_of_suffix {t : Token} (h : t.Formed) (hk : t.kind = .arraySuffix) :
    t.text = ['[', ']'] := by
  cases h with
  | structural h =>
    unfold structural? at h
    split at h <;> cases h <;> cases hk
  | arraySuffix => rfl
  | text hne h => cases hk

theorem IsPropertyName.kind_text {cs : List Char} (h : IsPropertyName cs) (n : Nat) :
    ∀ t ∈ lexemes n cs, t.kind = .text := by
  obtain ⟨-, -, hplain, hsuffix⟩ := h
  intro t ht
  obtain ⟨formed, hin⟩ := (spelled_lexemes n cs).formed_of_mem t ht
  cases formed with
  | structural hk =>
    rw [hplain _ (hin.subset List.mem_cons_self)] at hk
    cases hk
  | arraySuffix => exact absurd hin hsuffix
  | text hne h => rfl

theorem denotes_of_isTypeName {source : List Char} {n : Nat} {name : String}
    (h : IsTypeName name.toList) (hp : Piece source n name.toList) :
    Denotes source (lexemes n name.toList) (.named name) := by
  obtain ⟨hne, ht, hchars, hsuffix⟩ := h
  have hspelled := spelled_lexemes n name.toList
  have denotes : Denotes source (lexemes n name.toList)
      (.named (spelledName source (lexemes n name.toList))) := by
    refine .named (lexemes_ne_nil hne ht) (fun t hmem => ?_) (fun t hmem hk => ?_)
    · obtain ⟨formed, hin⟩ := hspelled.formed_of_mem t hmem
      exact formed.plain_iff.2 fun c hc => hchars c (hin.subset hc)
    · obtain ⟨z, hz, -, htext⟩ := hspelled.getLast? hne (trimmed_iff.1 ht).2
      obtain rfl : t = z := Option.some.inj (hmem.symm.trans hz)
      rw [(hspelled.formed_of_mem t (List.mem_of_getLast? hz)).1.text_of_suffix hk] at htext
      exact hsuffix htext
  rwa [hp.spelledName_lexemes hne ht] at denotes

section Properties

variable {source : List Char} {n : Nat}

theorem header_render {name : String} (h : IsPropertyName name.toList) (optional : Bool)
    (hp : Piece source n (name.toList ++ (if optional then ['?', ':'] else [':']))) :
    ∃ tokens head, Header tokens optional head ∧ spelledName source tokens = name ∧
      ∀ cs, lexemes n (name.toList ++ (if optional then ['?', ':'] else [':']) ++ ' ' :: cs) =
        head ++ lexemes
          (n + (name.toList ++ (if optional then ['?', ':'] else [':'])).length + 1) cs := by
  have htext := h.kind_text n
  have hspelled := hp.left.spelledName_lexemes h.1 h.2.1
  have hne := lexemes_ne_nil (n := n) h.1 h.2.1
  cases optional with
  | false =>
    let colon : Token := ⟨.colon, [':'], n + name.toList.length⟩
    refine ⟨_, _, @Header.required _ colon hne htext rfl, hspelled, fun cs => ?_⟩
    simp only [Bool.false_eq_true, if_false, List.append_assoc, List.singleton_append,
      List.length_append, List.length_singleton]
    rw [lexemes_structural rfl, lexemes_cons_blank rfl]
    rfl
  | true =>
    let question : Token := ⟨.question, ['?'], n + name.toList.length⟩
    let colon : Token := ⟨.colon, [':'], n + name.toList.length + 1⟩
    refine ⟨_, _, @Header.optional _ question colon hne htext rfl rfl, hspelled, fun cs => ?_⟩
    simp only [if_true, List.append_assoc, List.cons_append, List.nil_append,
      List.length_append, List.length_cons, List.length_nil]
    rw [lexemes_structural rfl, lexemes_cons_structural rfl, lexemes_cons_blank rfl]
    rfl

/-- The tokens of properties that were written are a list of them, if those of each type denote
it. -/
theorem propertyList_render {ps : Definition} (distinct : (Assoc.keys ps).Nodup)
    (names : ∀ p ∈ ps, IsPropertyName p.1.toList)
    (types : ∀ p ∈ ps, ∀ n, Piece source n p.2.type.render →
      Denotes source (lexemes n p.2.type.render) p.2.type)
    (hp : Piece source n (renderProperties ps)) :
    PropertyList source (Denotes source) (lexemes n (renderProperties ps)) ps := by
  induction ps generalizing n with
  | nil =>
    rw [renderProperties, lexemes_nil]
    exact .nil
  | cons p ps ih =>
    obtain ⟨name, type, optional⟩ := p
    obtain ⟨hname, hnames⟩ := List.forall_mem_cons.1 names
    obtain ⟨htype, htypes⟩ := List.forall_mem_cons.1 types
    obtain ⟨hnew, hdistinct⟩ := List.nodup_cons.1 distinct
    rw [renderProperties] at hp ⊢
    obtain ⟨tokens, head, header, rfl, hhead⟩ := header_render hname optional hp.left
    have hrest := hp.right.tail
    have list := ih hdistinct hnames htypes hrest.right.tail.tail
    rw [hhead, lexemes_structural (k := .semicolon) rfl, lexemes_cons_blank rfl,
      ← List.append_assoc]
    refine .cons header (htype _ hrest.left) ?_ list hnew
    rfl

end Properties

theorem denotes_render {source : List Char} {τ : TypeExpr} (h : τ.Printable) {n : Nat}
    (hp : Piece source n τ.render) : Denotes source (lexemes n τ.render) τ := by
  induction τ using TypeExpr.induction generalizing n with
  | named name =>
    cases h with | named h =>
    exact denotes_of_isTypeName h hp
  | array item ih =>
    cases h with | array h =>
    rw [TypeExpr.render] at hp ⊢
    rw [lexemes_suffix, lexemes_nil]
    exact .array (ih h hp.left) rfl
  | object ps ih =>
    cases h with | object distinct names types =>
    rw [TypeExpr.render] at hp ⊢
    rw [lexemes_cons_structural rfl, lexemes_cons_blank rfl, lexemes_structural rfl, lexemes_nil]
    exact .object rfl rfl (propertyList_render distinct names
      (fun p hmem n => ih p hmem (types p hmem)) hp.tail.tail.left)

theorem declares_render {d : Definition} (h : Printable d) : Declares (render d) d := by
  obtain ⟨hne, hobject⟩ := h
  have htext : (render d).toList = (TypeExpr.object d).render := String.toList_ofList
  have denotes : Denotes (render d).toList (lexemes 0 (render d).toList) (.object d) := by
    rw [htext]
    exact denotes_render hobject (.self _)
  generalize hall : lexemes 0 (render d).toList = all at denotes
  cases denotes with
  | @object opening closing ts _ ho hc list =>
    have hlevel := list.level_eq (fun us τ hu => hu.segmentLevel_eq) 0
    exact ⟨hne, ts, .enclosed ⟨opening, closing, hall, ho, hc, hlevel⟩, list⟩

/-- What was written is read as the tree it was written from, in either mode, if there is room for
its types. -/
theorem parse_render {o : ParseOptions} {d : Definition} (h : Printable d)
    (hp : ∀ n ∈ propertiesNames d, o.Permits n) :
    (o.parse (render d)).result =
      if propertiesFit d o.room then .ok d else .error .nestedTooDeeply := by
  rw [ParseOptions.parse_of_declares (declares_render h) hp]
  split <;> rfl

/-- Blanks, brackets, colons and question marks inside names. -/
theorem parse_render_marks :
    Printable [("a ]", ⟨.array (.named "x[]: y?"), true⟩), ("b", ⟨.object [], false⟩)] ∧
      (ParseOptions.parse { strict := true }
        (render [("a ]", ⟨.array (.named "x[]: y?"), true⟩), ("b", ⟨.object [], false⟩)])).result =
        .ok [("a ]", ⟨.array (.named "x[]: y?"), true⟩), ("b", ⟨.object [], false⟩)] := by
  have printable :
      Printable [("a ]", ⟨.array (.named "x[]: y?"), true⟩), ("b", ⟨.object [], false⟩)] := by
    refine ⟨by simp, .object (by decide) (fun p hp => ?_) fun p hp => ?_⟩
    all_goals
      simp only [List.mem_cons, List.not_mem_nil, or_false] at hp
      rcases hp with rfl | rfl
    · decide
    · decide
    · exact .array (.named (by decide))
    · exact .object .nil (by simp) (by simp)
  exact ⟨printable, (parse_render printable fun _ _ => .inl rfl).trans (if_pos (by decide))⟩

theorem printable_suffixedType (n : Nat) : (suffixedType n).Printable := by
  induction n with
  | zero => exact .named (by decide)
  | succ n ih => exact .array ih

/-- What is nested too deeply can be written, and is not read again in either mode. -/
theorem suffixedType_not_recovered :
    Printable [("a", ⟨suffixedType 2000, false⟩)] ∧
      (ParseOptions.parse {} (render [("a", ⟨suffixedType 2000, false⟩)])).result =
        .error .nestedTooDeeply ∧
      (ParseOptions.parse { strict := true } (render [("a", ⟨suffixedType 2000, false⟩)])).result =
        .error .nestedTooDeeply := by
  have printable : Printable [("a", ⟨suffixedType 2000, false⟩)] := by
    refine ⟨by simp, .object (by simp [Assoc.keys]) (fun p hp => ?_) fun p hp => ?_⟩
    · obtain rfl := List.mem_singleton.1 hp
      decide
    · obtain rfl := List.mem_singleton.1 hp
      exact printable_suffixedType 2000
  have deep : ¬ propertiesFit [("a", ⟨suffixedType 2000, false⟩)] (.ofFrames 992) := by
    simp [propertiesFit, fits_suffixedType]
  have unread (strict : Bool) : (ParseOptions.parse { strict }
      (render [("a", ⟨suffixedType 2000, false⟩)])).result = .error .nestedTooDeeply := by
    rw [ParseOptions.parse_of_declares (declares_render printable) fun _ _ => .inl rfl, if_neg deep]
    rfl
  exact ⟨printable, unread false, unread true⟩

end Conform.Schema
