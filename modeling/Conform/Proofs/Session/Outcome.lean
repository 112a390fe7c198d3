import Conform.Proofs.Guard.Acceptance
import Conform.Proofs.Match.Stop
import Conform.Proofs.Session.Answers

/-! What validating comes to: the fault of a text that is not read, the fault of the first broken mapping
that the definition looks into, or the list of all problems. Only what a plugin lets out before that
is raised, unless it is a walk gone too deep. If no predicate of a plugin ends in anything worse than
an ordinary fault then nothing gets out, and there is always a result. -/

namespace Conform

open Schema Match Guard

namespace Schema.ParseOptions

variable {o : ParseOptions} {source : List Char}

theorem distinct_of_properties {typeOf : Segment → Reading TypeExpr}
    (hT : ∀ s τ, (typeOf s).result = .ok τ → Distinct τ) {s : Segment} {d : Definition}
    (h : (o.properties source typeOf s).result = .ok d) : Distinct (.object d) :=
  .object (nodup_of_properties h) (properties_forall hT h)

theorem distinct_of_typeExpr {room : Room} {s : Segment} {τ : TypeExpr}
    (h : (o.typeExpr source room s).result = .ok τ) : Distinct τ := by
  induction room generalizing s τ with
  | spent => cases h
  | free inside ih =>
    rcases typeExpr_eq_ok h with ⟨chars, position, h⟩ | ⟨us, item, hitem, rfl⟩ | ⟨us, ps, hps, rfl⟩
    · obtain ⟨rfl, -⟩ := named_eq_ok h
      exact .named
    · exact .array (ih .item hitem)
    · exact distinct_of_properties (fun s τ hτ => ih .property hτ) hps

theorem distinct_of_parse {text : String} {d : Definition} (h : (o.parse text).result = .ok d) :
    Distinct (.object d) :=
  distinct_of_properties (fun _ _ => distinct_of_typeExpr) (properties_of_parse h)

end Schema.ParseOptions

/-- No predicate in the plugins of a registry ends in anything worse than an ordinary fault. -/
def Registry.Calm (r : Registry) : Prop :=
  ∀ name p, r.get? name = some p → Check.Everywhere Check.Calm p.validate

theorem exists_checkNamed {m : Matcher} (h : ∀ r, m.registry = some r → r.Calm) (name : String)
    (v : Value) : ∃ b, (m.checkNamed name v).result = .ok b := by
  unfold Matcher.checkNamed
  split
  · exact ⟨true, rfl⟩
  split
  · exact ⟨_, rfl⟩
  split
  · next p hp =>
    obtain ⟨r, hr, hp⟩ := Option.bind_eq_some_iff.1 hp
    exact (h r hr name p hp).exists_asGuard _ v
  · exact ⟨_, rfl⟩

/-- With calm plugins it is only a broken mapping that can stop a walk. -/
theorem stops_iff_looksInto {m : Matcher} {τ : TypeExpr} {v : Value} {path : Path} {fault : Fault}
    (h : ∀ r, m.registry = some r → r.Calm) : Stops m τ v path fault ↔
      ∃ message, fault = .ordinary .recursion message ∧ LooksInto τ v path message := by
  constructor
  · rintro ⟨σ, w, hreach, hstop⟩
    cases hstop with
    | broken asked => exact ⟨_, rfl, _, asked, hreach⟩
    | @check name _ _ hfault =>
      obtain ⟨b, hb⟩ := exists_checkNamed h name w
      cases hb.symm.trans hfault
  · rintro ⟨message, rfl, ps, asked, hreach⟩
    exact ⟨_, _, hreach, .broken asked⟩

theorem walkable_of_clear {m : Matcher} {τ : TypeExpr} {v : Value}
    (clear : ∀ path fault, ¬ Stops m τ v path fault) : Walkable m τ v where
  lookup path ps w hreach e he := by
    unfold Matcher.property
    split
    · exact absurd ⟨_, _, hreach, .broken (List.ne_nil_of_mem he)⟩ (clear path _)
    · exact ⟨_, rfl⟩
  check path name w hreach fault h := clear path fault ⟨_, w, hreach, .check h⟩

/-- What validating comes to, by how it comes about. -/
inductive Outcome (c : Settings) (r : Option Registry) (text : String) (v : Value) :
    Except Fault MatchResult → Prop
  | unread {e : ParseError} (h : ((c.reading r).parse text).result = .error e) :
      Outcome c r text v (.ok ⟨["Schema parsing error: " ++ e.message]⟩)
  | stopped {d : Definition} {path : Path} {fault : Fault}
      (h : ((c.reading r).parse text).result = .ok d)
      (first : FirstStop (c.matching r) (.object d) v path fault) :
      Outcome c r text v (Session.stopped fault)
  | listed {d : Definition} {problems : List Problem}
      (h : ((c.reading r).parse text).result = .ok d)
      (clear : ∀ path fault, ¬ Stops (c.matching r) (.object d) v path fault)
      (lists : Lists (c.matching r) (.object d) v problems) :
      Outcome c r text v (.ok ⟨problems.map Problem.message⟩)

theorem outcome_verdict (c : Settings) (r : Option Registry) (text : String) (v : Value) :
    Outcome c r text v (c.verdict r text v) := by
  unfold Settings.verdict
  cases hparse : ((c.reading r).parse text).result with
  | error e => exact .unread hparse
  | ok d =>
    have distinct : Distinct (.object d) := ParseOptions.distinct_of_parse hparse
    dsimp only
    cases walkType_ends (m := c.matching r) (v := v) distinct [] with
    | stopped first hwalk =>
      rw [Matcher.problems, Session.conclude_result_of_error hwalk]
      exact .stopped hparse first
    | whole clear _ =>
      obtain ⟨problems, hwalk, lists⟩ := walkType_lists distinct (walkable_of_clear clear) []
      rw [List.map_id'' Problem.under_nil] at hwalk
      rw [Matcher.problems, Session.conclude_result_of_ok hwalk]
      exact .listed hparse clear lists

/-- The first stop of a walk decides. -/
theorem Outcome.eq_stopped {c : Settings} {r : Option Registry} {text : String} {v : Value}
    {outcome : Except Fault MatchResult} {d : Definition} {path : Path} {fault : Fault}
    (h : Outcome c r text v outcome) (hparse : ((c.reading r).parse text).result = .ok d)
    (first : FirstStop (c.matching r) (.object d) v path fault) :
    outcome = Session.stopped fault := by
  cases h with
  | unread h => cases hparse.symm.trans h
  | listed h clear =>
    cases hparse.symm.trans h
    exact absurd first.stops (clear path fault)
  | stopped h first' =>
    cases hparse.symm.trans h
    rw [(first.eq first').2]

theorem Outcome.exists_result {c : Settings} {r : Option Registry} {text : String} {v : Value}
    {outcome : Except Fault MatchResult} (h : Outcome c r text v outcome)
    (calm : ∀ plugins, r = some plugins → plugins.Calm) : ∃ result, outcome = .ok result := by
  cases h with
  | unread => exact ⟨_, rfl⟩
  | listed => exact ⟨_, rfl⟩
  | stopped _ first =>
    obtain ⟨message, rfl, -⟩ := (stops_iff_looksInto calm).1 first.stops
    exact ⟨_, rfl⟩

namespace Session

/-- Whatever was asked of the session before, validating has one of these outcomes. If the plugins are
calm then it ends in a result, and only broken mappings that the definition looks into can stop the
walk. A broken mapping at a place where the type asks for nothing plays no part in it, and none deeper
down does. -/
theorem validate_outcome {c : Settings} {r : Option Registry} {s : Session}
    (h : start c r = .ok s) (requests : List Request) (text : String) (v : Value) :
    Outcome c (registryAfter r requests) text v ((s.after requests).validate text v).2.result ∧
    ((∀ plugins, registryAfter r requests = some plugins → plugins.Calm) →
      (∃ result, ((s.after requests).validate text v).2.result = .ok result ∧
        (result.valid = true ↔ result.errors = [])) ∧
      ∀ τ path fault, Stops (c.matching (registryAfter r requests)) τ v path fault ↔
        ∃ message, fault = .ordinary .recursion message ∧ LooksInto τ v path message) ∧
    ∀ d, ((c.reading (registryAfter r requests)).parse text).result = .ok d →
      ∀ path τ w, Reaches (.object d) v path τ w → Blind τ w →
        ∀ inner message, ¬ LooksInto (.object d) v (path ++ inner) message := by
  have outcome : Outcome c (registryAfter r requests) text v
      ((s.after requests).validate text v).2.result := by
    obtain ⟨hsettings, hregistry⟩ := after_keeps s requests
    have hafter := ((faithful_of_start h).after requests).validate_result text v
    obtain ⟨-, rfl⟩ := start_eq_ok.1 h
    rw [hsettings, hregistry] at hafter
    rw [hafter]
    exact outcome_verdict c _ text v
  refine ⟨outcome, fun calm => ⟨?_, fun τ path fault => stops_iff_looksInto calm⟩, ?_⟩
  · obtain ⟨result, hresult⟩ := outcome.exists_result calm
    exact ⟨result, hresult, List.isEmpty_iff⟩
  · intro d hparse path τ w hreach blind inner message
    exact not_looksInto_of_blind (ParseOptions.distinct_of_parse hparse) hreach blind inner

/-- A plugin fails, and after it a broken mapping is looked into. -/
theorem validate_outcome_deep :
    let fails : Plugin := ⟨"sku", .predicate ⟨none, "function", none,
      fun _ => .error (.ordinary .runtime "")⟩, "", none⟩
    ∃ s, start {} (some ⟨[("sku", fails)], []⟩) = .ok s ∧
      (s.validate "a: sku; b: \x7b c: any \x7d"
        (.map [(.text "a", .null), (.text "b", .brokenMap "deep")])).2.result =
          .ok ⟨["Validation error: deep"]⟩ := by
  intro fails
  let plugins : Registry := ⟨[("sku", fails)], []⟩
  let d : Definition :=
    [("a", ⟨.named "sku", false⟩), ("b", ⟨.object [("c", ⟨.named "any", false⟩)], false⟩)]
  let v : Value := .map [(.text "a", .null), (.text "b", .brokenMap "deep")]
  have hstart : start {} (some plugins) = .ok ⟨{}, some plugins, ⟨128, [], 0, 0⟩, 0⟩ := rfl
  have hparse : ((Settings.reading {} (some plugins)).parse
      "a: sku; b: \x7b c: any \x7d").result = .ok d := by rfl
  have ha : v.field? "a" = some .null := by
    simp [v, Value.field?, Value.entries?, Value.lookup]
  have hb : v.field? "b" = some (.brokenMap "deep") := by
    simp [v, Value.field?, Value.entries?, Value.lookup]
  have hstops : Stops (Settings.matching {} (some plugins)) (.object d) v [.field "b"]
      (.ordinary .recursion "deep") :=
    ⟨_, _, .field rfl (List.mem_cons_of_mem _ List.mem_cons_self) hb .here, .broken (by simp)⟩
  refine ⟨_, hstart, (validate_outcome hstart [] _ v).1.eq_stopped hparse
    ⟨hstops, fun path fault h => .inl ?_⟩⟩
  rcases stops_object_iff.1 h with ⟨-, hstop⟩ | ⟨e, he, x, inner, hx, rfl, hinner⟩
  · simp [v, stop_object_iff] at hstop
  simp only [d, List.mem_cons, List.not_mem_nil, or_false] at he
  rcases he with rfl | rfl
  · cases ha.symm.trans hx
    cases (stops_named_iff.1 hinner).2
  · cases hb.symm.trans hx
    rcases stops_object_iff.1 hinner with ⟨rfl, hstop⟩ | ⟨e, -, y, -, hy, -⟩
    · obtain ⟨-, message, hbroken, rfl⟩ := stop_object_iff.1 hstop
      cases hbroken
      exact ⟨rfl, rfl⟩
    · cases hy

/-- Two ways to end without a result. A plugin looks a number up that is too long for the fault to tell
it; and there is no session whose cache could hold as much as was asked for. -/
theorem validate_without_result :
    let knows : Plugin := ⟨"known", .predicate ⟨none, "function", none, fun v => do
      let text ← (v.shown .usual).mapError (.mute (.other "KeyError"))
      .error (.ordinary (.other "KeyError") text)⟩, "", none⟩
    let long : Value := .int (10 ^ Value.maxDigits : Nat)
    (∃ s, start {} (some ⟨[("known", knows)], []⟩) = .ok s ∧
      (s.validate "\x7b a: known \x7d" (.map [(.text "a", long)])).2.result =
        .error Value.tooLong) ∧
    start { parser := { cacheSize := 10 ^ (20 : Nat) } } none = .error .cacheTooLarge := by
  intro knows long
  let plugins : Registry := ⟨[("known", knows)], []⟩
  have hstart : start {} (some plugins) = .ok ⟨{}, some plugins, ⟨128, [], 0, 0⟩, 0⟩ := rfl
  have untold (x : Value) (hx : x.shown .usual = .error Value.tooLong) :
      Settings.verdict {} (some plugins) "\x7b a: known \x7d" (.map [(.text "a", x)]) =
        .error Value.tooLong := by
    let d : Definition := [("a", ⟨.named "known", false⟩)]
    let v : Value := .map [(.text "a", x)]
    have hparse : ((Settings.reading {} (some plugins)).parse
        "\x7b a: known \x7d").result = .ok d := by rfl
    have ha : v.field? "a" = some x := by
      simp [v, Value.field?, Value.entries?, Value.lookup]
    have hcheck : ((Settings.matching {} (some plugins)).checkNamed "known" x).result =
        .error Value.tooLong := by
      show ((knows.validate.asGuard (some "known")).test x).result = _
      rw [Check.asGuard_result]
      show settle (Except.bind ((x.shown .usual).mapError _) _) = _
      rw [hx]
      rfl
    have hstops : Stops (Settings.matching {} (some plugins)) (.object d) v [.field "a"]
        Value.tooLong := ⟨_, _, .field rfl List.mem_cons_self ha .here, .check hcheck⟩
    refine (outcome_verdict {} (some plugins) _ v).eq_stopped hparse
      ⟨hstops, fun path fault h => .inl ?_⟩
    rcases stops_object_iff.1 h with ⟨-, hstop⟩ | ⟨e, he, y, inner, hy, rfl, hinner⟩
    · simp [v, stop_object_iff] at hstop
    obtain rfl := List.mem_singleton.1 he
    cases ha.symm.trans hy
    obtain ⟨rfl, hfault⟩ := stops_named_iff.1 hinner
    exact ⟨rfl, Except.error.inj (hfault.symm.trans hcheck)⟩
  have hlong : long.shown .usual = .error Value.tooLong :=
    Value.shown_of_le_natAbs (Nat.le_of_eq (Int.natAbs_natCast _).symm)
  exact ⟨⟨_, hstart, (validate_of_start hstart _ _).trans (untold long hlong)⟩, rfl⟩

end Session

end Conform
