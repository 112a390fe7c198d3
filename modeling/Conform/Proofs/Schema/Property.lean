import Conform.Proofs.Schema.Grammar
import Conform.Proofs.Schema.Lexeme
import Conform.Schema.Parse

/-! Reading one property. The name is found in the text and its mark by the last character, but both
agree with the tokens: what stands before the colon is read as the grammar has it, and read strictly
nothing else is. -/

namespace Conform.Schema

theorem Token.Formed.getLast?_text {t : Token} (h : t.Formed) :
    t.text.getLast? = some '?' ↔ t.kind = .question := by
  constructor
  · intro hlast
    exact h.kind_of_mem rfl (List.mem_of_getLast? hlast)
  · intro hk
    rw [h.text_of_structural (c := '?') rfl hk]
    rfl

/-- Whether a question mark is the last character before the colon. -/
theorem Run.getLast?_eq_question {source : List Char} {ts : List Token} (h : Run source ts) :
    (spanText source ts).getLast? = some '?' ↔ ∃ us q, ts = us ++ [q] ∧ q.kind = .question := by
  rcases List.eq_nil_or_concat' ts with rfl | ⟨us, t, rfl⟩
  · simp [spanText]
  · rw [h.getLast?_spanText, (h.formed t (by simp)).getLast?_text]
    constructor
    · intro hk
      exact ⟨us, t, rfl, hk⟩
    · rintro ⟨vs, q, heq, hq⟩
      obtain ⟨-, rfl⟩ := List.append_inj' heq rfl |>.imp_right List.singleton_inj.1
      exact hq

section Until

variable {k : TokenKind} {before after : List Token} {t : Token}

theorem takeWhile_until (hb : ∀ u ∈ before, u.kind ≠ k) (ht : t.kind = k) :
    (before ++ t :: after).takeWhile (·.kind ≠ k) = before := by
  rw [List.takeWhile_append_of_pos (by simpa using hb)]
  simp [ht]

theorem dropWhile_until (hb : ∀ u ∈ before, u.kind ≠ k) (ht : t.kind = k) :
    (before ++ t :: after).dropWhile (·.kind ≠ k) = t :: after := by
  rw [List.dropWhile_append_of_pos (by simpa using hb)]
  simp [ht]

theorem dropWhile_of_forall {ts : List Token} (h : ∀ u ∈ ts, u.kind ≠ k) :
    ts.dropWhile (·.kind ≠ k) = [] :=
  List.dropWhile_eq_nil_iff.2 (by simpa using h)

end Until

namespace ParseOptions

def bareName (written : List Char) : List Char :=
  if written.getLast? = some '?' then trim written.dropLast else written

theorem getLast?_of_text {source : List Char} {ts : List Token} (h : Run source ts)
    (ht : ∀ t ∈ ts, t.kind = .text) : (spanText source ts).getLast? ≠ some '?' := by
  rw [ne_eq, h.getLast?_eq_question]
  rintro ⟨us, q, rfl, hq⟩
  have := ht q (by simp)
  rw [hq] at this
  cases this

theorem bareName_question {source : List Char} {ts : List Token} {q : Token}
    (h : Run source (ts ++ [q])) (hq : q.kind = .question) :
    bareName (spanText source (ts ++ [q])) = spanText source ts := by
  have hlast : (spanText source (ts ++ [q])).getLast? = some '?' :=
    h.getLast?_eq_question.2 ⟨ts, q, rfl, hq⟩
  have hts : Run source ts := h.subrun (List.prefix_append ts [q]).isInfix
  have hqt := (h.formed q (by simp)).text_of_structural (c := '?') rfl hq
  rw [bareName, if_pos hlast]
  by_cases hne : ts = []
  · subst hne
    rw [List.nil_append] at h ⊢
    rw [h.spanText_singleton, hqt]
    rfl
  · obtain ⟨gap, hgap, hspan⟩ := h.spanText_concat hne
    rw [hspan, hqt, List.dropLast_concat]
    exact hts.trim_spanText hgap

/-- The name is spelled by the tokens before the question mark, or by all of them. -/
theorem exists_bareName {source : List Char} {ts : List Token} (hrun : Run source ts) :
    ∃ us, us <+: ts ∧ bareName (spanText source ts) = spanText source us := by
  by_cases hmark : (spanText source ts).getLast? = some '?'
  · obtain ⟨us, q, rfl, hq⟩ := hrun.getLast?_eq_question.1 hmark
    exact ⟨us, List.prefix_append us [q], bareName_question hrun hq⟩
  · exact ⟨ts, List.prefix_rfl, if_neg hmark⟩

variable {o : ParseOptions} {source : List Char} {typeOf : Segment → Reading TypeExpr}

theorem addProperty_no_colon {sofar : Definition} {ts : List Token} {stop : Nat} (hne : ts ≠ [])
    (h : ∀ t ∈ ts, t.kind ≠ .colon) :
    o.addProperty source typeOf sofar ⟨ts, stop⟩ =
      if o.strict then
        refuse (.missingColon (String.ofList (spanText source ts))) (Segment.mk ts stop).start
      else (do
        .note (.segmentSkipped (String.ofList (spanText source ts)))
        pure sofar) := by
  have hempty : ts.isEmpty = false := by simpa using hne
  unfold addProperty
  simp only [hempty, dropWhile_of_forall h]
  rfl

theorem addProperty_colon {sofar : Definition} {before after : List Token} {colon : Token}
    {stop : Nat} (hb : ∀ t ∈ before, t.kind ≠ .colon) (hc : colon.kind = .colon) :
    o.addProperty source typeOf sofar ⟨before ++ colon :: after, stop⟩ =
      (do
        let chars := bareName (spanText source before)
        let name := String.ofList chars
        if o.strict then
          checkName (Segment.mk (before ++ colon :: after) stop).start chars before
          if Assoc.contains name sofar then
            refuse (.duplicateName name) (Segment.mk (before ++ colon :: after) stop).start
        let type ← typeOf ⟨after, stop⟩
        pure (Assoc.upsert name ⟨type, (spanText source before).getLast? = some '?'⟩ sofar)) := by
  have hne : (before ++ colon :: after).isEmpty = false := by simp
  unfold addProperty
  simp only [hne, takeWhile_until hb hc, dropWhile_until hb hc]
  rfl

/-- The tokens of a segment: none, some without a colon, or a colon and what is on its two sides. -/
inductive PropertyForm : List Token → Prop
  | empty : PropertyForm []
  | bare {ts : List Token} (hne : ts ≠ []) (h : ∀ t ∈ ts, t.kind ≠ .colon) : PropertyForm ts
  | colon {before after : List Token} {colon : Token} (hb : ∀ t ∈ before, t.kind ≠ .colon)
      (hc : colon.kind = .colon) : PropertyForm (before ++ colon :: after)

theorem exists_first {k : TokenKind} {ts : List Token} (h : ¬ ∀ t ∈ ts, t.kind ≠ k) :
    ∃ before t after, ts = before ++ t :: after ∧ t.kind = k ∧ ∀ u ∈ before, u.kind ≠ k := by
  cases hf : ts.find? (·.kind = k) with
  | none => exact absurd (fun t ht => by simpa using List.find?_eq_none.1 hf t ht) h
  | some t =>
    obtain ⟨ht, before, after, hsplit, hb⟩ := List.find?_eq_some_iff_append.1 hf
    exact ⟨before, t, after, hsplit, by simpa using ht, by simpa using hb⟩

theorem propertyForm (ts : List Token) : PropertyForm ts := by
  by_cases hne : ts = []
  · subst hne
    exact .empty
  by_cases h : ∀ t ∈ ts, t.kind ≠ .colon
  · exact .bare hne h
  · obtain ⟨before, colon, after, rfl, hc, hb⟩ := exists_first h
    exact .colon hb hc

def bareTokens (ts : List Token) : List Token :=
  if ts.getLast?.any (·.kind = .question) then ts.dropLast else ts

theorem bareTokens_concat (ts : List Token) (t : Token) :
    bareTokens (ts ++ [t]) = if t.kind = .question then ts else ts ++ [t] := by
  simp [bareTokens]

theorem checkName_eq (start : Nat) (chars : List Char) (ts : List Token) :
    checkName start chars ts =
      if chars.isEmpty then refuse .emptyName start
      else
        match (bareTokens ts).find? (·.kind ≠ .text) with
        | some t => refuse (.unexpectedInName (String.ofList t.text)) t.start
        | none => pure () := rfl

theorem checkName_eq_pure {start : Nat} {chars : List Char} {ts : List Token} (hc : chars ≠ [])
    (h : ∀ t ∈ bareTokens ts, t.kind = .text) : checkName start chars ts = pure () := by
  have hf : (bareTokens ts).find? (·.kind ≠ .text) = none := by simpa using h
  rw [checkName_eq, if_neg (by simpa using hc), hf]

theorem checkName_eq_ok {start : Nat} {chars : List Char} {ts : List Token}
    (h : (checkName start chars ts).result = .ok ()) :
    chars ≠ [] ∧ ∀ t ∈ bareTokens ts, t.kind = .text := by
  rw [checkName_eq] at h
  split at h
  · cases h
  · next hc =>
    split at h
    · cases h
    · next hf => exact ⟨by simpa using hc, by simpa using hf⟩

theorem bareTokens_of_text {ts : List Token} (h : ∀ t ∈ ts, t.kind = .text) :
    bareTokens ts = ts := by
  rcases List.eq_nil_or_concat' ts with rfl | ⟨us, t, rfl⟩
  · rfl
  · rw [bareTokens_concat, h t (by simp), if_neg (by simp)]

/-- Reading a property whose header the grammar derives leaves its type to be read. -/
theorem addProperty_header {sofar : Definition} {name head us : List Token} {optional : Bool}
    {stop : Nat} (header : Header name optional head) (hrun : Run source (head ++ us))
    (new : spelledName source name ∉ Assoc.keys sofar) :
    o.addProperty source typeOf sofar ⟨head ++ us, stop⟩ =
      (fun τ => sofar ++ [(spelledName source name, ⟨τ, optional⟩)]) <$> typeOf ⟨us, stop⟩ := by
  have hcontains : Assoc.contains (spelledName source name) sofar = false := by
    rw [← Bool.not_eq_true, Assoc.contains_eq_true_iff]
    exact new
  have hnonempty (hne : name ≠ []) (hname : Run source name) : spanText source name ≠ [] := by
    intro hnil
    obtain ⟨t, ts, rfl⟩ := List.exists_cons_of_ne_nil hne
    have := hname.head?_spanText
    rw [hnil] at this
    exact (hname.formed t (by simp)).not_blank.1 (List.head?_eq_none_iff.1 this.symm)
  cases header with
  | @required colon hne htext hc =>
    have hname : Run source name := hrun.subrun ⟨[], colon :: us, by simp⟩
    have hlast := getLast?_of_text hname htext
    rw [List.append_assoc, List.singleton_append,
      addProperty_colon (fun t ht => by simp [htext t ht]) hc]
    simp only [bareName, if_neg hlast, checkName_eq_pure (hnonempty hne hname)
      ((bareTokens_of_text htext).symm ▸ htext)]
    simp only [spelledName] at hcontains new
    simp [hcontains, Assoc.upsert_of_not_mem new, hlast, map_eq_pure_bind, spelledName]
  | @optional question colon hne htext hq hc =>
    have hmark : Run source (name ++ [question]) := hrun.subrun ⟨[], colon :: us, by simp⟩
    have hname : Run source name := hrun.subrun ⟨[], question :: colon :: us, by simp⟩
    have hlast := hmark.getLast?_eq_question.2 ⟨name, question, rfl, hq⟩
    have hbefore : ∀ t ∈ name ++ [question], t.kind ≠ .colon := by
      intro t ht
      rcases List.mem_append.1 ht with ht | ht
      · simp [htext t ht]
      · simp [List.mem_singleton.1 ht, hq]
    have hsplit : name ++ [question, colon] ++ us = name ++ [question] ++ colon :: us := by simp
    rw [hsplit, addProperty_colon hbefore hc]
    simp only [bareName_question hmark hq, checkName_eq_pure (hnonempty hne hname)
      (((bareTokens_concat name question).trans (if_pos hq)).symm ▸ htext)]
    simp only [spelledName] at hcontains new
    simp [hcontains, Assoc.upsert_of_not_mem new, hlast, map_eq_pure_bind, spelledName]

/-- Read strictly, what stands before the colon has to be a header. -/
theorem exists_header {before : List Token} {colon : Token} (hrun : Run source before)
    (hc : colon.kind = .colon) (hname : bareName (spanText source before) ≠ [])
    (hbare : ∀ t ∈ bareTokens before, t.kind = .text) :
    ∃ name optional, Header name optional (before ++ [colon]) ∧
      bareName (spanText source before) = spanText source name ∧
      decide ((spanText source before).getLast? = some '?') = optional := by
  have hne : before ≠ [] := by
    rintro rfl
    exact hname rfl
  obtain ⟨ts, t, rfl⟩ := (List.eq_nil_or_concat' before).resolve_left hne
  rw [bareTokens_concat] at hbare
  by_cases hq : t.kind = .question
  · rw [if_pos hq] at hbare
    have hspan := bareName_question hrun hq
    have hts : ts ≠ [] := by
      rintro rfl
      exact hname (by rw [hspan]; rfl)
    refine ⟨ts, true, ?_, hspan, decide_eq_true (hrun.getLast?_eq_question.2 ⟨ts, t, rfl, hq⟩)⟩
    rw [List.append_assoc]
    exact .optional hts hbare hq hc
  · rw [if_neg hq] at hbare
    have hlast := getLast?_of_text hrun hbare
    refine ⟨ts ++ [t], false, .required (by simp) hbare hc, ?_, decide_eq_false hlast⟩
    rw [bareName, if_neg hlast]

theorem addProperty_eq_ok {sofar d : Definition} {s : Segment}
    (h : (o.addProperty source typeOf sofar s).result = .ok d) :
    ((s.tokens = [] ∨ o.strict = false) ∧ d = sofar) ∨
      ∃ before colon us τ, s.tokens = before ++ colon :: us ∧ colon.kind = .colon ∧
        (o.strict = true →
          (checkName s.start (bareName (spanText source before)) before).result = .ok () ∧
            String.ofList (bareName (spanText source before)) ∉ Assoc.keys sofar) ∧
        (typeOf ⟨us, s.stop⟩).result = .ok τ ∧
        d = Assoc.upsert (String.ofList (bareName (spanText source before)))
          ⟨τ, (spanText source before).getLast? = some '?'⟩ sofar := by
  obtain ⟨tokens, stop⟩ := s
  cases propertyForm tokens with
  | empty =>
    cases h
    exact .inl ⟨.inl rfl, rfl⟩
  | bare hne hcolon =>
    rw [addProperty_no_colon hne hcolon] at h
    split at h
    · cases h
    · next hs =>
      cases h
      exact .inl ⟨.inr (by simpa using hs), rfl⟩
  | @colon before us colon hb hc =>
    rw [addProperty_colon hb hc] at h
    dsimp only at h
    right
    split at h
    · obtain ⟨⟨⟩, hname, h⟩ := Journal.bind_result_eq_ok.1 h
      split at h
      · cases h
      · next hnew =>
        rw [Assoc.contains_eq_true_iff] at hnew
        obtain ⟨τ, hτ, hd⟩ := Journal.bind_result_eq_ok.1 h
        cases hd
        exact ⟨before, colon, us, τ, rfl, hc, fun _ => ⟨hname, hnew⟩, hτ, rfl⟩
    · next hs =>
      obtain ⟨τ, hτ, hd⟩ := Journal.bind_result_eq_ok.1 h
      cases hd
      exact ⟨before, colon, us, τ, rfl, hc, fun h => absurd h hs, hτ, rfl⟩

/-- A segment that is read strictly is empty or a property with a name that is new. -/
theorem addProperty_strict {sofar d : Definition} {s : Segment} (hs : o.strict = true)
    (hrun : Run source s.tokens) (h : (o.addProperty source typeOf sofar s).result = .ok d) :
    (s.tokens = [] ∧ d = sofar) ∨
      ∃ name optional head us τ, s.tokens = head ++ us ∧ Header name optional head ∧
        (typeOf ⟨us, s.stop⟩).result = .ok τ ∧ spelledName source name ∉ Assoc.keys sofar ∧
        d = sofar ++ [(spelledName source name, ⟨τ, optional⟩)] := by
  rcases addProperty_eq_ok h with
    ⟨hnil | hlax, rfl⟩ | ⟨before, colon, us, τ, htokens, hc, hchecks, hτ, rfl⟩
  · exact .inl ⟨hnil, rfl⟩
  · rw [hs] at hlax
    cases hlax
  · obtain ⟨hname, hnew⟩ := hchecks hs
    obtain ⟨hchars, hbare⟩ := checkName_eq_ok hname
    have hbefore : Run source before := hrun.subrun ⟨[], colon :: us, by simp [htokens]⟩
    obtain ⟨name, optional, header, hspan, rfl⟩ := exists_header hbefore hc hchars hbare
    rw [hspan, ← spelledName] at hnew ⊢
    rw [Assoc.upsert_of_not_mem hnew]
    exact .inr ⟨name, _, before ++ [colon], us, τ, by simp [htokens], header, hτ, hnew, rfl⟩

end ParseOptions

end Conform.Schema
