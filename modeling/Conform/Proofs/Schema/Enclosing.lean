import Conform.Proofs.Schema.Composition
import Conform.Proofs.Schema.Offset

/-! A pair of braces around a whole text. It is left out in lenient mode if it is there, and in
strict mode if the two are partners; so a text that does not have one already is read the same with
one, but for the offsets of its faults. -/

namespace Conform.Schema

/-- A brace is opened by the first token and one is closed by the last, partners or not. -/
def BetweenBraces (ts : List Token) : Prop :=
  ts.head?.map Token.kind = some .openBrace ∧ ts.getLast?.map Token.kind = some .closeBrace

instance (ts : List Token) : Decidable (BetweenBraces ts) := inferInstanceAs (Decidable (_ ∧ _))

theorem Enclosed.betweenBraces {ts inner : List Token} (h : Enclosed ts inner) :
    BetweenBraces ts := by
  obtain ⟨opening, closing, rfl, ho, hc, -⟩ := h
  refine ⟨congrArg some ho, ?_⟩
  rw [List.getLast?_cons, List.getLast?_append]
  exact congrArg some hc

theorem level_shift (k d : Nat) (ts : List Token) :
    level tokenBrace d (ts.map (Token.shift k)) = level tokenBrace d ts := by
  have hbrace (t : Token) : tokenBrace (t.shift k) = tokenBrace t := rfl
  fun_induction level tokenBrace d ts with
  | case1 d => rfl
  | case2 d t ts ht ih => simpa [level, hbrace, ht] using ih
  | case3 t ts ht => simp [level, hbrace, ht]
  | case4 t ts d ht ih => simpa [level, hbrace, ht] using ih
  | case5 d t ts ht ih => simpa [level, hbrace, ht] using ih

theorem level_lexemes_start (n d : Nat) (cs : List Char) :
    level tokenBrace d (lexemes n cs) = level tokenBrace d (lexemes 0 cs) := by
  rw [lexemes_eq_shift n, level_shift]

section Declared

variable {text : String} {d : Definition}

/-- What is declared without braces around it is in balance. -/
theorem Declares.level_eq (h : Declares text d) (hb : ¬ BetweenBraces (lexemes 0 text.toList)) :
    level tokenBrace 0 (lexemes 0 text.toList) = some 0 := by
  obtain ⟨ts, hbody, list⟩ := h.body
  cases hbody with
  | enclosed h => exact absurd h.betweenBraces hb
  | bare => exact list.level_eq (fun us τ hu => hu.segmentLevel_eq) 0

theorem Declares.level_eq_of_braced (h : Declares (braced text) d) :
    level tokenBrace 0 (lexemes 0 text.toList) = some 0 := by
  obtain ⟨ts, hbody, list⟩ := h.body
  rw [lexemes_braced] at hbody
  cases hbody with
  | enclosed h =>
    obtain ⟨opening, closing, hall, -, -, hlevel⟩ := h
    obtain ⟨rfl, -⟩ := List.append_inj' (List.cons.inj hall).2 rfl
    rwa [level_lexemes_start] at hlevel
  | bare =>
    -- a property list cannot begin with the brace
    obtain ⟨t, us, hall, ht⟩ := list.exists_cons h.ne_nil
    obtain ⟨rfl, -⟩ := List.cons.inj hall
    exact absurd rfl ht

end Declared

namespace ParseOptions

variable {o : ParseOptions} {text : String}

theorem body_eq_whole {source : List Char} (h : ¬ BetweenBraces (lexemes 0 source)) :
    o.body source = ⟨lexemes 0 source, source.length⟩ := by
  unfold body
  cases hall : lexemes 0 source with
  | nil => rfl
  | cons opening rest =>
    rcases List.eq_nil_or_concat' rest with rfl | ⟨inner, closing, rfl⟩
    · rfl
    have hends : ¬ (opening.kind = .openBrace ∧ closing.kind = .closeBrace) := by
      simpa [BetweenBraces, hall, List.getLast?_cons] using h
    simp only [List.getLast?_append, List.getLast?_singleton, Option.some_or]
    rw [if_neg]
    intro hcond
    simp only [Bool.and_eq_true, decide_eq_true_eq] at hcond
    exact hends hcond.1

/-- Braces around a text are left out, in strict mode if nothing in between is unbalanced. -/
theorem body_braced
    (h : o.strict = true → level tokenBrace 0 (lexemes 0 text.toList) = some 0) :
    o.body (braced text).toList =
      Segment.shift 1 ⟨lexemes 0 text.toList, text.toList.length⟩ := by
  have hwhole : Segment.shift 1 ⟨lexemes 0 text.toList, text.toList.length⟩ =
      ⟨lexemes 1 text.toList, 1 + text.toList.length⟩ := by
    rw [Segment.shift, ← lexemes_eq_shift, Nat.add_comm]
  have hpartner : o.strict = false ∨ closeIndex? tokenBrace 0
      (lexemes 1 text.toList ++ [⟨.closeBrace, ['}'], 1 + text.toList.length⟩]) =
      some (lexemes 1 text.toList).length := by
    cases hs : o.strict with
    | false => exact .inl rfl
    | true => exact .inr ((closeIndex?_concat_iff rfl).2 ((level_lexemes_start 1 0 _).trans (h hs)))
  rw [hwhole]
  rcases hpartner with hlax | hclose
  · simp [body, lexemes_braced, hlax]
  · simp [body, lexemes_braced, hclose]

/-- What is read in a pair of braces is what is read without them, one character later. -/
theorem properties_braced (hb : ¬ BetweenBraces (lexemes 0 text.toList))
    (h : o.strict = true → level tokenBrace 0 (lexemes 0 text.toList) = some 0) :
    Later 1
      (o.properties (braced text).toList (o.typeExpr (braced text).toList o.room)
        (o.body (braced text).toList))
      (o.properties text.toList (o.typeExpr text.toList o.room) (o.body text.toList)) := by
  have hp := piece_braced text
  rw [body_braced h, body_eq_whole hb]
  exact properties_later hp (fun s => typeExpr_later hp o.room) List.infix_rfl

theorem parse_braced_iff (hb : ¬ BetweenBraces (lexemes 0 text.toList)) (o : ParseOptions)
    (d : Definition) :
    (o.parse (braced text)).result = .ok d ↔ (o.parse text).result = .ok d := by
  by_cases h : o.strict = true → level tokenBrace 0 (lexemes 0 text.toList) = some 0
  · rw [parse_eq_ok_iff, parse_eq_ok_iff, (properties_braced hb h).result_eq_ok]
  · -- strictly read, neither text is a property list
    obtain ⟨hs, hlevel⟩ := Classical.not_imp.1 h
    constructor
    · intro hok
      exact absurd (declares_of_parse hs hok).1.level_eq_of_braced hlevel
    · intro hok
      exact absurd ((declares_of_parse hs hok).1.level_eq hb) hlevel

theorem parse_braced_later (hb : ¬ BetweenBraces (lexemes 0 text.toList))
    (hs : o.strict = false) : Later 1 (o.parse (braced text)) (o.parse text) := by
  unfold parse
  refine (properties_braced hb (by simp [hs])).bind fun d => ?_
  simp only [hs, Bool.false_and, Bool.false_eq_true, if_false]
  rfl

/-- A pair of braces around a text that does not have one is transparent: the same trees are read,
and in lenient mode there are the same events and the same faults, one character later. -/
theorem parse_braced_transparent (hb : ¬ BetweenBraces (lexemes 0 text.toList))
    (o : ParseOptions) :
    (∀ d, (o.parse (braced text)).result = .ok d ↔ (o.parse text).result = .ok d) ∧
      (o.strict = false → o.parse (braced text) = (o.parse text).mapError (ParseError.shift 1)) :=
  ⟨parse_braced_iff hb o, parse_braced_later hb⟩

/-- The braces of this text do not balance, and the name of its type is unknown. -/
theorem parse_braced_transparent_unbalanced :
    ¬ BetweenBraces (lexemes 0 "\x7d a: \x7b b".toList) ∧
      (parse { unknown := .reject } "\x7d a: \x7b b").result =
        .error (.malformed (.unknownType "\x7b b") 5) ∧
      (parse { unknown := .reject } (braced "\x7d a: \x7b b")).result =
        .error (.malformed (.unknownType "\x7b b") 6) := by
  have hb : ¬ BetweenBraces (lexemes 0 "\x7d a: \x7b b".toList) := by decide
  have hfail : (parse { unknown := .reject } "\x7d a: \x7b b").result =
      .error (.malformed (.unknownType "\x7b b") 5) := by rfl
  refine ⟨hb, hfail, ?_⟩
  rw [(parse_braced_transparent hb _).2 rfl, Journal.mapError, hfail]
  rfl

end ParseOptions

end Conform.Schema
