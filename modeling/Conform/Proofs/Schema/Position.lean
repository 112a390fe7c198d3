import Conform.Proofs.Schema.Derivation
import Conform.Proofs.Schema.Maximal
import Conform.Proofs.Schema.Partner

/-! Where faults are reported. The offset of a fault is that of a token, and what the fault quotes is
what the text has there. Braces are only ever found to have no partner in the outermost list: every
other one stands between partners. -/

namespace Conform

namespace Journal

variable {ν ε α β : Type} {P : ε → Prop}

def FailsOnly (P : ε → Prop) (x : Journal ν ε α) : Prop := ∀ e, x.result = .error e → P e

theorem failsOnly_pure (a : α) : FailsOnly P (pure a : Journal ν ε α) := by
  intro e h
  cases h

theorem failsOnly_note (n : ν) : FailsOnly P (note n : Journal ν ε Unit) := by
  intro e h
  cases h

theorem failsOnly_fail {e : ε} (h : P e) : FailsOnly P (fail e : Journal ν ε α) := by
  rintro _ ⟨⟩
  exact h

theorem FailsOnly.bind {x : Journal ν ε α} {f : α → Journal ν ε β} (hx : FailsOnly P x)
    (hf : ∀ a, x.result = .ok a → FailsOnly P (f a)) : FailsOnly P (x >>= f) := by
  intro e h
  rw [bind_result] at h
  cases hr : x.result with
  | error e' =>
    rw [hr] at h
    cases h
    exact hx e hr
  | ok a =>
    rw [hr] at h
    exact hf a hr e h

theorem FailsOnly.map {x : Journal ν ε α} (hx : FailsOnly P x) (f : α → β) :
    FailsOnly P (f <$> x) := by
  rw [map_eq_pure_bind]
  exact hx.bind fun a _ => failsOnly_pure _

theorem FailsOnly.mono {Q : ε → Prop} {x : Journal ν ε α} (hx : FailsOnly P x)
    (h : ∀ e, P e → Q e) : FailsOnly Q x :=
  fun e he => h e (hx e he)

end Journal

namespace Schema

open Journal

def Issue.quoted? : Issue → Option String
  | .unmatchedClose => some "\x7d"
  | .unclosedOpen => some "\x7b"
  | .missingColon s | .duplicateName s | .unexpectedInName s | .contentBefore s
    | .contentAfter s | .unknownType s => some s
  | .noProperties | .emptyName | .missingType => none

theorem quotes_of_split {message lead tail s : String} (before after : String)
    (h : message = lead ++ s ++ tail) (hlead : lead = before ++ "'") (htail : tail = "'" ++ after) :
    ∃ before after, message = before ++ "'" ++ s ++ "'" ++ after :=
  ⟨before, after, by rw [h, hlead, htail, ← String.append_assoc]⟩

/-- What is quoted stands between quotation marks in the message. -/
theorem Issue.quotes {issue : Issue} {s : String} (h : issue.quoted? = some s) :
    ∃ before after, issue.message = before ++ "'" ++ s ++ "'" ++ after := by
  have ending {message lead : String} (before : String) (h : message = lead ++ s ++ "'")
      (hlead : lead = before ++ "'") : ∃ before after, message = before ++ "'" ++ s ++ "'" ++ after :=
    quotes_of_split before "" h hlead (by decide)
  cases issue <;> cases h
  case unmatchedClose => exact ⟨"Unmatched ", "", by decide⟩
  case unclosedOpen => exact ⟨"Unclosed ", "", by decide⟩
  case missingColon => exact ending "Expected ':' in property " rfl (by decide)
  case duplicateName => exact ending "Duplicate property " rfl (by decide)
  case unexpectedInName =>
    exact quotes_of_split "Unexpected " " in property name" rfl (by decide) (by decide)
  case contentBefore =>
    exact ending "Unexpected content before nested object: " rfl (by decide)
  case contentAfter =>
    exact ending "Unexpected content after nested object: " rfl (by decide)
  case unknownType => exact ending "Unknown type " rfl (by decide)

theorem Issue.unquoted {issue : Issue} (h : issue.quoted? = none) :
    '\'' ∉ issue.message.toList := by
  cases issue <;> cases h <;> decide

/-- A token begins at the offset, or the text ends there. -/
def Boundary (source : List Char) (p : Nat) : Prop := ∃ t ∈ tokenize source, t.start = p

/-- An issue is reported where a token begins, and quotes what the text has there. -/
structure Located (source : List Char) (issue : Issue) (p : Nat) : Prop where
  boundary : Boundary source p
  quoted : ∀ s, issue.quoted? = some s → s.toList <+: source.drop p

structure Placed (source : List Char) (s : Segment) : Prop where
  tokens : s.tokens <:+: lexemes 0 source
  stop : Boundary source s.stop

section Places

variable {source : List Char} {s : Segment} {ts us : List Token} {stop : Nat} {t : Token}

theorem boundary_of_mem (h : t ∈ lexemes 0 source) : Boundary source t.start :=
  ⟨t, List.mem_append_left _ h, rfl⟩

theorem boundary_length (source : List Char) : Boundary source source.length :=
  ⟨_, List.mem_append_right _ (List.mem_singleton_self _), rfl⟩

theorem Boundary.le_length {p : Nat} (h : Boundary source p) : p ≤ source.length := by
  obtain ⟨t, ht, rfl⟩ := h
  rcases List.mem_append.1 ht with ht | ht
  · have hstop := (run_lexemes source).stop_le_length ht
    have hstart := t.start_le_stop
    omega
  · rw [List.mem_singleton.1 ht]

theorem Placed.run (h : Placed source s) : Run source s.tokens :=
  (run_lexemes source).subrun h.tokens

theorem Placed.mem (h : Placed source ⟨ts, stop⟩) (ht : t ∈ ts) : t ∈ lexemes 0 source :=
  h.tokens.subset ht

theorem Placed.start (h : Placed source s) : Boundary source s.start := by
  obtain ⟨_ | ⟨t, ts⟩, stop⟩ := s
  · exact h.stop
  · exact boundary_of_mem (h.mem List.mem_cons_self)

theorem Placed.infix (h : Placed source ⟨ts, stop⟩) (hin : us <:+: ts) {p : Nat}
    (hp : Boundary source p) : Placed source ⟨us, p⟩ :=
  ⟨hin.trans h.tokens, hp⟩

theorem Placed.init (h : Placed source ⟨ts ++ [t], stop⟩) : Placed source ⟨ts, t.start⟩ := by
  have ht : t ∈ lexemes 0 source := h.mem (List.mem_append_right _ (List.mem_singleton_self t))
  exact h.infix (List.prefix_append ts [t]).isInfix (boundary_of_mem ht)

theorem spanText_prefix (source : List Char) (s : Segment) :
    spanText source s.tokens <+: source.drop s.start := by
  obtain ⟨_ | ⟨t, ts⟩, stop⟩ := s
  · exact List.nil_prefix
  · obtain ⟨z, hz⟩ : ∃ z, (t :: ts).getLast? = some z := ⟨_, List.getLast?_eq_some_getLast (by simp)⟩
    rw [spanText_eq_slice rfl hz]
    exact List.take_prefix _ _

theorem spanText_append_prefix (source : List Char) (ts us : List Token) (stop : Nat) :
    spanText source ts <+: source.drop (Segment.mk (ts ++ us) stop).start := by
  cases ts with
  | nil => exact List.nil_prefix
  | cons t ts => exact spanText_prefix source ⟨t :: ts, stop⟩

/-- The name of a property stands where the property begins. -/
theorem Header.spanText_prefix {name head : List Token} {optional : Bool}
    (header : Header name optional head) (source : List Char) (us : List Token) (stop : Nat) :
    spanText source name <+: source.drop (Segment.mk (head ++ us) stop).start := by
  obtain ⟨rest, rfl⟩ := header.isPrefix
  rw [List.append_assoc]
  exact spanText_append_prefix source name _ stop

/-- Some tokens of a text that a property or a type may be read from: strictly read, they are in
balance. -/
structure Fit (source : List Char) (strict : Bool) (s : Segment) : Prop where
  placed : Placed source s
  balanced : strict = true → level tokenBrace 0 s.tokens = some 0

theorem Placed.piece (h : Placed source ⟨ts, stop⟩) (hs : IsPiece stop ts s) : Placed source s := by
  refine h.infix hs.tokens ?_
  rcases hs.ends with hend | ⟨t, ht, hend⟩
  · rw [hend]
    exact h.stop
  · rw [← hend]
    exact boundary_of_mem (h.mem ht)

theorem Placed.pieces (h : Placed source ⟨ts, stop⟩) (strict : Bool) :
    (∀ s ∈ (cut strict stop 0 [] ts).1, Fit source strict s) ∧
      ∀ s, (cut strict stop 0 [] ts).2 = .ok s → Fit source strict s := by
  have hpieces := (cut_each_isPiece strict stop 0 [] ts).forall fun s => And.left
  have hlevels (hs : strict = true) := (cut_each_level stop [] ts).forall fun s => id
  refine ⟨fun s hs => ⟨h.piece (hpieces.1 s hs), ?_⟩, fun s hs => ⟨h.piece (hpieces.2 s hs), ?_⟩⟩
  · rintro rfl
    exact (hlevels rfl).1 s hs
  · rintro rfl
    exact (hlevels rfl).2 s hs

/-- The type behind a colon: strictly read, there is no brace before the colon. -/
theorem Fit.behind {strict : Bool} {before : List Token} {colon : Token}
    (h : Fit source strict ⟨before ++ colon :: us, stop⟩) (hc : colon.kind = .colon)
    (hname : strict = true → ParseOptions.bareName (spanText source before) ≠ [] ∧
      ∀ t ∈ ParseOptions.bareTokens before, t.kind = .text) :
    Fit source strict ⟨us, stop⟩ := by
  have hus : Placed source ⟨us, stop⟩ :=
    h.placed.infix (suffix_behind before colon us).isInfix h.placed.stop
  refine ⟨hus, fun hs => ?_⟩
  obtain ⟨hchars, hbare⟩ := hname hs
  have hbefore : Run source before := h.placed.run.subrun ⟨[], colon :: us, by simp⟩
  obtain ⟨name, optional, header, -, -⟩ := ParseOptions.exists_header hbefore hc hchars hbare
  rw [← header.level_append 0 us, List.append_assoc, List.singleton_append]
  exact h.balanced hs

theorem Fit.item {strict : Bool} (h : Fit source strict ⟨us ++ [t], stop⟩)
    (ht : t.kind = .arraySuffix) : Fit source strict ⟨us, t.start⟩ := by
  refine ⟨h.placed.init, fun hs => ?_⟩
  have hlevel : level tokenBrace 0 (us ++ [t]) = some 0 := h.balanced hs
  rw [level_append] at hlevel
  obtain ⟨d, hus, hd⟩ := Option.bind_eq_some_iff.1 hlevel
  rw [level_plain (by simp [Token.Plain, ht])] at hd
  cases hd
  exact hus

theorem Placed.inside {strict : Bool} {before inner after : List Token} {opening closing : Token}
    (h : Placed source ⟨before ++ opening :: (inner ++ closing :: after), stop⟩)
    (hinner : level tokenBrace 0 inner = some 0) : Fit source strict ⟨inner, closing.start⟩ := by
  have hclosing : Boundary source closing.start := boundary_of_mem (h.mem (by simp))
  have hplaced : Placed source ⟨inner, closing.start⟩ :=
    h.infix ⟨before ++ [opening], closing :: after, by simp⟩ hclosing
  exact ⟨hplaced, fun _ => hinner⟩

theorem text_prefix (h : t ∈ lexemes 0 source) : t.text <+: source.drop t.start := by
  rw [← (run_lexemes source).spelled t h]
  exact List.take_prefix _ _

end Places

namespace ParseOptions

/-- Only strict reading refuses a text, but for the names of types that are not permitted. -/
def Refuses (o : ParseOptions) : Issue → Prop
  | .unknownType name => ¬ o.Permits name
  | _ => o.strict = true

/-- A fault that reading may end in. `Q` holds of the offsets where a brace has no partner. -/
def Sound (o : ParseOptions) (source : List Char) (Q : Nat → Prop) : ParseError → Prop
  | .malformed issue p => Located source issue p ∧ o.Refuses issue ∧
      (issue = .unmatchedClose ∨ issue = .unclosedOpen → Q p)
  | .nestedTooDeeply => True

variable {o : ParseOptions} {source : List Char} {Q : Nat → Prop}

theorem Sound.mono {Q' : Nat → Prop} {e : ParseError} (h : o.Sound source Q e)
    (hQ : ∀ p, Q p → Q' p) : o.Sound source Q' e := by
  cases e with
  | malformed issue p => exact ⟨h.1, h.2.1, fun hbrace => hQ p (h.2.2 hbrace)⟩
  | nestedTooDeeply => trivial

theorem failsOnly_refuse {α : Type} (issue : Issue) {p : Nat} (boundary : Boundary source p)
    (quoted : ∀ s, issue.quoted? = some s → s.toList <+: source.drop p) (refused : o.Refuses issue)
    (hbrace : issue ≠ .unmatchedClose ∧ issue ≠ .unclosedOpen) :
    FailsOnly (o.Sound source Q) (refuse issue p : Reading α) :=
  failsOnly_fail ⟨⟨boundary, quoted⟩, refused, fun h => absurd h (by simp [hbrace])⟩

/-- A name of a type is refused at the place where it stands. -/
theorem failsOnly_named {ts : List Token} {stop : Nat} (h : Placed source ⟨ts, stop⟩) :
    FailsOnly (o.Sound source Q) (o.named (spanText source ts) (Segment.mk ts stop).start) := by
  unfold named
  dsimp only
  split
  · next hn =>
    refine failsOnly_refuse _ h.start ?_ ?_ (by simp)
    · rintro _ ⟨⟩
      rw [String.toList_ofList]
      exact spanText_prefix source ⟨ts, stop⟩
    · rintro (haccept | hknown)
      · rw [haccept] at hn
        cases hn
      · rw [hknown] at hn
        simp at hn
  · exact failsOnly_pure _

theorem failsOnly_checkName (strict : o.strict = true) {before us : List Token} {colon : Token}
    {stop : Nat} (h : Placed source ⟨before ++ colon :: us, stop⟩) (chars : List Char) :
    FailsOnly (o.Sound source Q)
      (checkName (Segment.mk (before ++ colon :: us) stop).start chars before) := by
  rw [checkName_eq]
  split
  · exact failsOnly_refuse _ h.start (by rintro _ ⟨⟩) strict (by simp)
  · split
    · next t ht =>
      have hmem : t ∈ lexemes 0 source := by
        refine h.mem (List.mem_append_left _ ?_)
        have hbare := List.mem_of_find?_eq_some ht
        unfold bareTokens at hbare
        split at hbare
        · exact (List.dropLast_prefix _).subset hbare
        · exact hbare
      refine failsOnly_refuse _ (boundary_of_mem hmem) ?_ strict (by simp)
      rintro _ ⟨⟩
      rw [String.toList_ofList]
      exact text_prefix hmem
    · exact failsOnly_pure _

/-- Reading one segment, if reading its type fails as it may. Strictly read, a type is only read
from braces in balance. -/
theorem failsOnly_addProperty {typeOf : Segment → Reading TypeExpr}
    (htype : ∀ s, Fit source o.strict s → FailsOnly (o.Sound source Q) (typeOf s))
    {s : Segment} (h : Fit source o.strict s) (sofar : Definition) :
    FailsOnly (o.Sound source Q) (o.addProperty source typeOf sofar s) := by
  obtain ⟨ts, stop⟩ := s
  cases propertyForm ts with
  | empty => exact failsOnly_pure _
  | bare hne hcolon =>
    rw [addProperty_no_colon hne hcolon]
    split
    · next hs =>
      refine failsOnly_refuse _ h.placed.start ?_ hs (by simp)
      rintro _ ⟨⟩
      rw [String.toList_ofList]
      exact spanText_prefix source ⟨ts, stop⟩
    · exact (failsOnly_note _).bind fun _ _ => failsOnly_pure _
  | @colon before us colon hb hc =>
    rw [addProperty_colon hb hc]
    dsimp only
    split
    · next hs =>
      refine (failsOnly_checkName hs h.placed _).bind fun _ hname => ?_
      obtain ⟨hchars, hbare⟩ := checkName_eq_ok hname
      have hbefore : Run source before := h.placed.run.subrun ⟨[], colon :: us, by simp⟩
      obtain ⟨name, optional, header, hspan, -⟩ := exists_header hbefore hc hchars hbare
      have hread := (htype _ (h.behind hc fun _ => ⟨hchars, hbare⟩)).bind fun τ _ =>
        show FailsOnly (o.Sound source Q) (pure (Assoc.upsert
          (String.ofList (bareName (spanText source before)))
            ⟨τ, (spanText source before).getLast? = some '?'⟩ sofar) : Reading Definition) from
          failsOnly_pure _
      split
      · refine (failsOnly_refuse (.duplicateName _) h.placed.start ?_ hs (by simp)).bind
          fun _ _ => hread
        rintro _ ⟨⟩
        rw [String.toList_ofList, hspan]
        have hquoted := header.spanText_prefix source us stop
        rwa [List.append_assoc] at hquoted
      · exact hread
    · next hs =>
      exact (htype _ (h.behind hc fun h => absurd h hs)).bind fun _ _ => failsOnly_pure _

theorem failsOnly_addProperties {typeOf : Segment → Reading TypeExpr} {segments : List Segment}
    (h : ∀ s ∈ segments, ∀ sofar, FailsOnly (o.Sound source Q) (o.addProperty source typeOf sofar s))
    (sofar : Definition) :
    FailsOnly (o.Sound source Q) (o.addProperties source typeOf sofar segments) := by
  induction segments generalizing sofar with
  | nil => exact failsOnly_pure _
  | cons s rest ih =>
    obtain ⟨hs, hrest⟩ := List.forall_mem_cons.1 h
    exact (hs sofar).bind fun d _ => ih hrest d

/-- The brace that keeps a list from being cut has no partner in it. -/
theorem sound_of_uncut (strict : o.strict = true) {ts : List Token} {stop : Nat}
    (h : Placed source ⟨ts, stop⟩) {e : ParseError} (uncut : Uncut [] ts e) :
    o.Sound source (fun p => level tokenBrace 0 ts ≠ some 0 ∧ Unpartnered ts p) e := by
  have located {issue : Issue} {c : Char} {k : TokenKind} {t : Token} (ht : t ∈ ts)
      (hc : structural? c = some k) (hk : t.kind = k)
      (hquoted : ∀ s, issue.quoted? = some s → s.toList = [c]) : Located source issue t.start := by
    have hmem := h.mem ht
    refine ⟨boundary_of_mem hmem, fun s hs => ?_⟩
    rw [hquoted s hs, ← ((run_lexemes source).formed t hmem).text_of_structural hc hk]
    exact text_prefix hmem
  cases uncut with
  | @stray t before after stray =>
    refine ⟨located (c := '}') (by simp [stray.split]) rfl stray.kind ?_, strict, fun _ => ⟨?_, ?_⟩⟩
    · rintro _ ⟨⟩
      rfl
    · simp [stray.level_eq]
    · exact stray.unpartnered
  | @opens t before after opens =>
    refine ⟨located (c := '{') (by simp [opens.split]) rfl opens.kind ?_, strict, fun _ => ⟨?_, ?_⟩⟩
    · rintro _ ⟨⟩
      rfl
    · exact opens.level_ne
    · exact opens.unpartnered
  | stays hp => cases hp

theorem failsOnly_properties {typeOf : Segment → Reading TypeExpr} {s : Segment}
    (h : Placed source s)
    (htype : ∀ s, Fit source o.strict s → FailsOnly (o.Sound source fun _ => False) (typeOf s)) :
    FailsOnly (o.Sound source fun p => level tokenBrace 0 s.tokens ≠ some 0 ∧
      Unpartnered s.tokens p) (o.properties source typeOf s) := by
  obtain ⟨ts, stop⟩ := s
  obtain ⟨hfirst, hlast⟩ := h.pieces o.strict
  have hadd {s : Segment} (hs : Fit source o.strict s) (sofar : Definition) :
      FailsOnly (o.Sound source fun p => level tokenBrace 0 ts ≠ some 0 ∧ Unpartnered ts p)
        (o.addProperty source typeOf sofar s) :=
    failsOnly_addProperty (fun u hu => (htype u hu).mono fun e he => he.mono fun _ => False.elim)
      hs sofar
  rw [properties_eq_readCut, readCut]
  refine (failsOnly_addProperties (fun s hs => hadd (hfirst s hs)) []).bind fun sofar _ => ?_
  cases hcut : (cut o.strict stop 0 [] ts).2 with
  | ok last =>
    rw [ofExcept_ok, pure_bind]
    exact hadd (hlast last hcut) sofar
  | error e =>
    have hstrict : o.strict = true := by
      by_contra hlax
      rw [Bool.not_eq_true] at hlax
      rw [hlax] at hcut
      exact cut_lenient_ne_error stop 0 [] ts e hcut
    rw [hstrict] at hcut
    refine (failsOnly_fail ?_).bind fun _ _ => ?_
    · exact sound_of_uncut hstrict h (uncut_of_cut hcut)
    · contradiction

theorem failsOnly_object {typeOf : Segment → Reading TypeExpr}
    {before inner after : List Token} {opening closing : Token} {stop : Nat}
    (h : Placed source ⟨before ++ opening :: (inner ++ closing :: after), stop⟩)
    (hinner : level tokenBrace 0 inner = some 0)
    (htype : ∀ s, Fit source o.strict s → FailsOnly (o.Sound source fun _ => False) (typeOf s)) :
    FailsOnly (o.Sound source fun _ => False) (show Reading TypeExpr from do
      if o.strict && !before.isEmpty then
        refuse (.contentBefore (String.ofList (spanText source before)))
          (Segment.mk (before ++ opening :: (inner ++ closing :: after)) stop).start
      if !after.isEmpty then
        let content := String.ofList (spanText source after)
        if o.strict then refuse (.contentAfter content) (Segment.mk after stop).start
        else .note (.contentDiscarded content)
      .object <$> o.properties source typeOf ⟨inner, closing.start⟩) := by
  have hinside : Fit source o.strict ⟨inner, closing.start⟩ := h.inside hinner
  have hrest : Placed source ⟨after, stop⟩ :=
    h.infix ⟨before ++ opening :: inner ++ [closing], [], by simp⟩ h.stop
  have hobject : FailsOnly (o.Sound source fun _ => False)
      (TypeExpr.object <$> o.properties source typeOf ⟨inner, closing.start⟩) := by
    refine ((failsOnly_properties hinside.placed htype).mono fun e he => ?_).map _
    exact he.mono fun p hp => hp.1 hinner
  have hleading (hbefore : (o.strict && !before.isEmpty) = true) :
      FailsOnly (o.Sound source fun _ => False)
        (refuse (.contentBefore (String.ofList (spanText source before)))
          (Segment.mk (before ++ opening :: (inner ++ closing :: after)) stop).start :
            Reading Unit) := by
    refine failsOnly_refuse _ h.start ?_ (Bool.and_eq_true_iff.1 hbefore).1 (by simp)
    rintro _ ⟨⟩
    rw [String.toList_ofList]
    exact spanText_append_prefix source before _ stop
  have htrailing (hs : o.strict = true) :
      FailsOnly (o.Sound source fun _ => False)
        (refuse (.contentAfter (String.ofList (spanText source after)))
          (Segment.mk after stop).start : Reading Unit) := by
    refine failsOnly_refuse _ hrest.start ?_ hs (by simp)
    rintro _ ⟨⟩
    rw [String.toList_ofList]
    exact spanText_prefix source ⟨after, stop⟩
  split
  · dsimp only
    split
    · next hbefore => exact (hleading hbefore).bind fun _ hok => by cases hok
    split
    · next hs => exact (htrailing hs).bind fun _ hok => by cases hok
    · exact (failsOnly_note _).bind fun _ _ => hobject
  · split
    · next hbefore => exact (hleading hbefore).bind fun _ hok => by cases hok
    · exact hobject

theorem failsOnly_typeExpr (room : Room) {s : Segment} (h : Fit source o.strict s) :
    FailsOnly (o.Sound source fun _ => False) (o.typeExpr source room s) := by
  induction room generalizing s with
  | spent => exact failsOnly_fail trivial
  | free inside ih =>
    obtain ⟨ts, stop⟩ := s
    cases typeForm ts with
    | empty =>
      unfold typeExpr
      dsimp only [List.getLast?_nil]
      split
      · next hs => exact failsOnly_refuse _ h.placed.start (by rintro _ ⟨⟩) hs (by simp)
      · exact @failsOnly_named o source _ [] stop h.placed
    | @suffix us t ht =>
      rw [typeExpr_suffix ht]
      exact (ih .item (h.item ht)).map _
    | plain ht hopen =>
      rw [typeExpr_no_brace ht hopen]
      exact failsOnly_named h.placed
    | brace hlast ht hb ho =>
      rw [typeExpr_brace hlast ht hb ho]
      split
      · next hclose =>
        split
        · next hs => exact absurd (h.balanced hs) (Open.level_ne ⟨rfl, ho, hclose⟩)
        · exact failsOnly_named h.placed
      · next i hi =>
        obtain ⟨inner, closing, after, rfl, rfl, -, hinner⟩ := closeIndex?_eq_some hi
        have hafter : (inner ++ closing :: after).drop (inner.length + 1) = after := by simp
        have hclosing : (inner ++ closing :: after).drop inner.length = closing :: after := by simp
        rw [hafter, hclosing, List.take_left]
        exact failsOnly_object h.placed hinner fun s hs => ih .property hs

theorem placed_body (o : ParseOptions) (source : List Char) : Placed source (o.body source) := by
  have whole : Placed source ⟨lexemes 0 source, source.length⟩ :=
    ⟨List.infix_rfl, boundary_length source⟩
  unfold body
  dsimp only
  split
  · exact whole
  · next opening rest hall =>
    split
    · exact whole
    · next closing hclosing =>
      have hmem : closing ∈ lexemes 0 source := by
        rw [hall]
        exact List.mem_cons_of_mem _ (List.mem_of_getLast? hclosing)
      split
      · refine whole.infix ?_ (boundary_of_mem hmem)
        rw [hall]
        exact (List.dropLast_prefix rest).isInfix.trans (List.suffix_cons _ _).isInfix
      · exact whole

theorem failsOnly_parse (o : ParseOptions) (text : String) :
    FailsOnly (fun e => (e = .malformed .noProperties 0 ∧ o.strict = true) ∨
      o.Sound text.toList (Unpartnered (o.body text.toList).tokens) e) (o.parse text) := by
  unfold parse
  dsimp only
  refine ((failsOnly_properties (placed_body o text.toList)
    fun s hs => failsOnly_typeExpr _ hs).mono fun e he => ?_).bind fun d _ => ?_
  · exact .inr (he.mono fun p => And.right)
  split
  · next hempty =>
    refine (failsOnly_fail (.inl ⟨rfl, ?_⟩)).bind fun _ _ => (failsOnly_note _).bind fun _ _ =>
      failsOnly_pure d
    exact (Bool.and_eq_true_iff.1 hempty).1
  · exact (failsOnly_note _).bind fun _ _ => failsOnly_pure d

/-- A fault is reported inside the text, where a token begins; only the lack of all properties is
reported at the front whatever begins there. What the message quotes is what the text has at the
offset, and a brace that is reported has no partner in the property list, which is the
outermost. -/
theorem parse_error_position {o : ParseOptions} {text : String} {issue : Issue} {p : Nat}
    (h : (o.parse text).result = .error (.malformed issue p)) :
    p ≤ text.length ∧
      (issue = .noProperties ∧ p = 0 ∨ ∃ t ∈ tokenize text.toList, t.start = p) ∧
      (issue.quoted? = none → '\'' ∉ issue.message.toList) ∧
      (∀ s, issue.quoted? = some s →
        (∃ before after, issue.message = before ++ "'" ++ s ++ "'" ++ after) ∧
          s.toList <+: text.toList.drop p) ∧
      (issue = .unmatchedClose ∨ issue = .unclosedOpen →
        Unpartnered (o.body text.toList).tokens p) := by
  rcases failsOnly_parse o text _ h with ⟨heq, -⟩ | ⟨located, -, hbrace⟩
  · cases heq
    exact ⟨Nat.zero_le _, .inl ⟨rfl, rfl⟩, Issue.unquoted, by rintro _ ⟨⟩, by simp⟩
  · refine ⟨?_, .inr located.boundary, Issue.unquoted, fun s hs => ⟨Issue.quotes hs, ?_⟩, hbrace⟩
    · rw [← String.length_toList]
      exact located.boundary.le_length
    · exact located.quoted s hs

/-- The inner brace is closed and the outer one is not. -/
theorem parse_error_position_unclosed :
    let o : ParseOptions := { strict := true }
    (o.parse "a: \x7b b: \x7b c: d \x7d").result = .error (.malformed .unclosedOpen 3) ∧
      Unpartnered (o.body "a: \x7b b: \x7b c: d \x7d".toList).tokens 3 :=
  have h : (ParseOptions.parse { strict := true } "a: \x7b b: \x7b c: d \x7d").result =
    .error (.malformed .unclosedOpen 3) := by rfl
  ⟨h, (parse_error_position h).2.2.2.2 (.inr rfl)⟩

end ParseOptions

end Schema

end Conform
