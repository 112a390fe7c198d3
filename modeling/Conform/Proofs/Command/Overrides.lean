import Conform.Command
import Conform.Proofs.Match.Refinement
import Conform.Proofs.Schema.Strict
import Conform.Proofs.Session.Answers

/-! The flags of the command line only tighten. A text that is read below them is read without them
as the same tree, and then every check of a name in the tree is at least as favourable without them.
-/

namespace Conform

open Schema Journal

namespace Matcher

/-- Whether a value is of a named type, if no text stands for a moment. -/
def checkUndated (m : Matcher) (name : String) : Guard.Test := fun v =>
  match builtinCheck? name with
  | some ok => pure (ok v)
  | none =>
    match m.registry.bind (·.get? name) with
    | some p => (p.validate.asGuard (some name)).test v
    | none => pure (m.unknown = .accept)

theorem checkNamed_eq (m : Matcher) (name : String) (v : Value) :
    m.checkNamed name v =
      if name = "Date" && m.coerceDates && v.isTimestamp then pure true
      else m.checkUndated name v := rfl

end Matcher

namespace Overrides

variable {o : Overrides} {c : Settings} {r : Option Registry}

theorem accept_of_apply (h : (o.apply c).parser.unknownTypes = .accept) :
    c.parser.unknownTypes = .accept := by
  have h : (if o.rejectUnknown then .reject else c.parser.unknownTypes) =
      UnknownPolicy.accept := h
  split at h
  · cases h
  · exact h

theorem permits_of_apply {name : String} (h : ((o.apply c).reading r).Permits name) :
    (c.reading r).Permits name :=
  h.imp accept_of_apply id

theorem parse_of_apply {text : String} {d : Definition}
    (h : (((o.apply c).reading r).parse text).result = .ok d) :
    ((c.reading r).parse text).result = .ok d := by
  let strictly : ParseOptions := { c.reading r with strict := ((o.apply c).reading r).strict }
  have hstrict : (strictly.parse text).result = .ok d := by
    have hsame := @ParseOptions.parse_mono ((o.apply c).reading r) strictly rfl rfl
      (fun _ => permits_of_apply) text d h
    rwa [← hsame]
  by_cases hsame : (o.strict || c.parser.strictSyntax) = c.parser.strictSyntax
  · have heq : strictly = c.reading r := by
      show { c.reading r with strict := o.strict || c.parser.strictSyntax } = c.reading r
      rw [hsame]
      rfl
    rwa [heq] at hstrict
  · -- only the flag makes the reading strict
    have hc : c.parser.strictSyntax = false := by
      cases hc : c.parser.strictSyntax with
      | false => rfl
      | true => exact absurd (by rw [hc, Bool.or_true]) hsame
    have hs : strictly.strict = true := by
      show (o.strict || c.parser.strictSyntax) = true
      rw [hc] at hsame ⊢
      exact (Bool.not_eq_false _).mp hsame
    have heq : ({ strictly with strict := false } : ParseOptions) = c.reading r := by
      show { c.reading r with strict := false } = c.reading r
      rw [← hc]
      rfl
    have hlenient := ParseOptions.parse_lenient_of_strict hs hstrict
    rw [heq] at hlenient
    rw [hlenient]

theorem checkUndated_eq {name : String} (h : ((o.apply c).reading r).Permits name) (v : Value) :
    (c.matching r).checkUndated name v = ((o.apply c).matching r).checkUndated name v := by
  unfold Matcher.checkUndated
  cases hbuiltin : Matcher.builtinCheck? name with
  | some ok => rfl
  | none =>
    show (match r.bind (·.get? name) with | some p => _ | none => _) =
      match r.bind (·.get? name) with | some p => _ | none => _
    cases hplugin : r.bind (·.get? name) with
    | some p => rfl
    | none =>
      -- neither built in nor a plugin, so it is permitted because every name is
      have haccept : (o.apply c).parser.unknownTypes = .accept := by
        refine h.resolve_right fun hknown => ?_
        rcases Bool.or_eq_true_iff.1 hknown with hknown | hknown
        · obtain ⟨ok, hok⟩ := Matcher.builtinCheck?_isSome hknown
          rw [hbuiltin] at hok
          cases hok
        · cases r with
          | none => cases hknown
          | some r =>
            have hmem : name ∈ r.names := by simpa [Settings.reading] using hknown
            have hget := Assoc.contains_eq_true_iff.2 hmem
            rw [Assoc.contains, show Assoc.get? name r.plugins = none from hplugin] at hget
            cases hget
      show pure (decide (c.parser.unknownTypes = .accept)) =
        pure (decide ((o.apply c).parser.unknownTypes = .accept))
      rw [decide_eq_true haccept, decide_eq_true (accept_of_apply haccept)]

theorem checkNamed_related {name : String} (h : ((o.apply c).reading r).Permits name) (v : Value) :
    Related (Laxer (o.noDates = false)) ((c.matching r).checkNamed name v)
      (((o.apply c).matching r).checkNamed name v) := by
  rw [Matcher.checkNamed_eq, Matcher.checkNamed_eq, ← checkUndated_eq h]
  show Related _ (if name = "Date" && c.matcher.coerceDates && v.isTimestamp then _ else _)
    (if name = "Date" && (!o.noDates && c.matcher.coerceDates) && v.isTimestamp then _ else _)
  cases hno : o.noDates with
  | false => exact .refl Laxer.refl _
  | true =>
    simp only [Bool.not_true, Bool.false_and, Bool.and_false, Bool.false_eq_true, if_false]
    split
    · next hdate =>
      obtain rfl : name = "Date" := by
        simp only [Bool.and_eq_true, decide_eq_true_eq] at hdate
        exact hdate.1.1
      exact .value rfl rfl ⟨fun _ => rfl, fun h => by cases h⟩
    · exact .refl Laxer.refl _

/-- Whatever ends one of two walks side by side ends the other with the same result. -/
theorem conclude_related {same : Prop} {x y : Matcher.Walk} (h : Related (Fewer same) x y) :
    (∃ fault, (Session.conclude x).result = .error fault ∧
        (Session.conclude y).result = .error fault) ∨
      ∃ a b, (Session.conclude x).result = .ok a ∧ (Session.conclude y).result = .ok b ∧
        a.errors.Sublist b.errors ∧ (same → a.errors = b.errors) := by
  cases h with
  | @fault e hx hy =>
    rw [Session.conclude_result_of_error hx, Session.conclude_result_of_error hy]
    cases Session.stopped e with
    | error fault => exact .inl ⟨fault, rfl, rfl⟩
    | ok r => exact .inr ⟨r, r, rfl, rfl, List.Sublist.refl _, fun _ => rfl⟩
  | value hx hy hfewer =>
    rw [Session.conclude_result_of_ok hx, Session.conclude_result_of_ok hy]
    exact .inr ⟨_, _, rfl, rfl, hfewer.1.map _, fun h => congrArg (List.map _) (hfewer.2 h)⟩

/-- Validating below the flags ends in one error because the text cannot be read, or in the errors
without the flags and maybe more. -/
theorem verdict_apply (c : Settings) (r : Option Registry) (o : Overrides) (text : String)
    (v : Value) :
    (∃ e, (((o.apply c).reading r).parse text).result = .error e ∧
        (o.apply c).verdict r text v = .ok ⟨["Schema parsing error: " ++ e.message]⟩) ∨
      (∃ fault, c.verdict r text v = .error fault ∧
        (o.apply c).verdict r text v = .error fault) ∨
      ∃ a b, c.verdict r text v = .ok a ∧ (o.apply c).verdict r text v = .ok b ∧
        a.errors.Sublist b.errors ∧ (o.noDates = false → a.errors = b.errors) := by
  unfold Settings.verdict
  cases hread : (((o.apply c).reading r).parse text).result with
  | error e => exact .inl ⟨e, rfl, rfl⟩
  | ok d =>
    right
    rw [parse_of_apply hread]
    refine conclude_related (walkType_related (fun name hname v => ?_) [] v)
    exact checkNamed_related (ParseOptions.permits_of_parse hread name hname) v

/-- The flags only tighten: below them a session gives one error because the text cannot be read, or
the errors that it gives without them and maybe more, these only if dates are no longer read from
texts. A value that is valid below the flags is valid without them. -/
theorem apply_tightens {s : Session} (h : Session.start c r = .ok s) (o : Overrides)
    (text : String) (v : Value) :
    ∃ s', Session.start (o.apply c) r = .ok s' ∧
      ((∃ e, (s'.parse text).2.result = .error e ∧
          (s'.validate text v).2.result = .ok ⟨["Schema parsing error: " ++ e.message]⟩) ∨
        (∃ fault, (s.validate text v).2.result = .error fault ∧
          (s'.validate text v).2.result = .error fault) ∨
        ∃ a b, (s.validate text v).2.result = .ok a ∧ (s'.validate text v).2.result = .ok b ∧
          a.errors.Sublist b.errors ∧ (o.noDates = false → a.errors = b.errors)) ∧
      ∀ b, (s'.validate text v).2.result = .ok b → b.valid = true →
        ∃ a, (s.validate text v).2.result = .ok a ∧ a.valid = true := by
  obtain ⟨hsize, -⟩ := Session.start_eq_ok.1 h
  have h' := @Session.start_eq_ok (o.apply c) r _ |>.2 ⟨hsize, rfl⟩
  refine ⟨_, h', ?_⟩
  rw [Session.validate_of_start h, Session.validate_of_start h']
  rcases verdict_apply c r o text v with
    ⟨e, hread, hb⟩ | ⟨fault, ha, hb⟩ | ⟨a, b, ha, hb, hsub, heq⟩
  · refine ⟨.inl ⟨e, ?_, hb⟩, fun b hok hvalid => ?_⟩
    · exact (Session.faithful_of_start h').parse_error hread
    · rw [hb] at hok
      cases hok
      cases hvalid
  · refine ⟨.inr (.inl ⟨fault, ha, hb⟩), fun b hok => ?_⟩
    rw [hb] at hok
    cases hok
  · refine ⟨.inr (.inr ⟨a, b, ha, hb, hsub, heq⟩), fun b' hok hvalid => ⟨a, ha, ?_⟩⟩
    rw [hb] at hok
    cases hok
    have hnil : b.errors = [] := List.isEmpty_iff.1 hvalid
    rw [hnil] at hsub
    exact List.isEmpty_iff.2 (List.sublist_nil.1 hsub)

/-- A text that is taken for a date until the flags forbid it, and one that is no number anyway. -/
theorem apply_tightens_date :
    let c : Settings := { matcher := { coerceDates := true } }
    let o : Overrides := { strict := true, noDates := true }
    let v : Value := .map [(.text "d", .text "2024-02-29T23:59:59"), (.text "n", .text "x")]
    ∃ s s' a b, Session.start c none = .ok s ∧ Session.start (o.apply c) none = .ok s' ∧
      (s.validate "d: Date; n: number" v).2.result = .ok a ∧
      (s'.validate "d: Date; n: number" v).2.result = .ok b ∧ a.errors.Sublist b.errors ∧
      a.errors = ["Field n should be a number (found string)"] ∧
      b.errors = ["Field d should be a Date (found string)",
        "Field n should be a number (found string)"] := by
  intro c o v
  let d : Definition := [("d", ⟨.named "Date", false⟩), ("n", ⟨.named "number", false⟩)]
  have hstart : Session.start c none = .ok ⟨c, none, ⟨128, [], 0, 0⟩, 0⟩ := rfl
  have hdate : Value.isTimestamp (.text "2024-02-29T23:59:59") = true := by decide +kernel
  have above : c.verdict none "d: Date; n: number" v =
      .ok ⟨["Field n should be a number (found string)"]⟩ := by
    have hparse : ((c.reading none).parse "d: Date; n: number").result = .ok d := by rfl
    have hwalk : ((c.matching none).problems d v).result =
        .ok [.mismatch [.field "n"] (.named "number") .string] := by
      simp [c, d, v, hdate, Settings.matching, Matcher.problems, Matcher.walkType,
        Matcher.walkProperties, Matcher.property, Value.entries?, Value.lookup, Value.isMapping,
        Matcher.checkNamed, Matcher.builtinCheck?, Value.isJsonNumber, Value.shape]
    rw [Settings.verdict, hparse]
    exact Session.conclude_result_of_ok hwalk
  have below : (o.apply c).verdict none "d: Date; n: number" v =
      .ok ⟨["Field d should be a Date (found string)",
        "Field n should be a number (found string)"]⟩ := by
    have hparse : (((o.apply c).reading none).parse "d: Date; n: number").result = .ok d := by rfl
    have hwalk : (((o.apply c).matching none).problems d v).result =
        .ok [.mismatch [.field "d"] (.named "Date") .string,
          .mismatch [.field "n"] (.named "number") .string] := by
      simp [c, o, d, v, Overrides.apply, Settings.matching, Matcher.problems, Matcher.walkType,
        Matcher.walkProperties, Matcher.property, Value.entries?, Value.lookup, Value.isMapping,
        Matcher.checkNamed, Matcher.builtinCheck?, Value.isJsonNumber, Value.shape]
    rw [Settings.verdict, hparse]
    exact Session.conclude_result_of_ok hwalk
  obtain ⟨s', hs', hcases, -⟩ := apply_tightens hstart o "d: Date; n: number" v
  rw [Session.validate_of_start hstart, Session.validate_of_start hs', above, below] at hcases
  rcases hcases with ⟨e, -, he⟩ | ⟨fault, hfault, -⟩ | ⟨a, b, ha, hb, hsub, -⟩
  · simp at he
  · cases hfault
  · cases ha
    cases hb
    exact ⟨_, s', _, _, hstart, hs', (Session.validate_of_start hstart _ v).trans above,
      (Session.validate_of_start hs' _ v).trans below, hsub, rfl, rfl⟩

end Overrides

end Conform
