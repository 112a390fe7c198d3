import Conform.Proofs.Match.Location
import Conform.Proofs.Session.Outcome

/-! When a problem is said to be with the value itself. A place is called `Value` where the text of its
path is empty, and of a property without a name it is empty too. So what is said of the value itself
is about the value itself, unless an object is expected under a name that is empty; nothing else
stands in the way of it. -/

namespace Conform

namespace Match

/-- The names of the properties on a path with dots between them, and the indexes in brackets. -/
def dotted : Path → String
  | .field name :: rest => name ++ inside rest
  | path => inside path

theorem not_mem_shapeNote (found : Shape) : '(' ∉ (shapeNote found).toList := by
  cases found <;> decide

/-- What stands before the last character that stops is determined by the whole. -/
theorem append_inj_of_stop_right {a b s t : List Char} {c : Char} (hs : c ∉ s) (ht : c ∉ t)
    (h : a ++ c :: s = b ++ c :: t) : a = b ∧ s = t := by
  have hreverse : s.reverse ++ c :: a.reverse = t.reverse ++ c :: b.reverse := by
    simpa using congrArg List.reverse h
  obtain ⟨hst, hab⟩ := @append_inj_of_stop (· = c) _ _ _ _ (fun d hd heq => hs (by simpa [heq] using hd))
    (fun d hd heq => ht (by simpa [heq] using hd)) (by simp) (by simp) hreverse
  exact ⟨List.reverse_injective (List.cons.inj hab).2, List.reverse_injective hst⟩

theorem lack_cases (found : Shape) :
    ((found = .null ∨ found = .undefined) ∧ lack found = " is null or undefined") ∨
      lack found = " is not an object (" ++ shapeNote found := by
  unfold lack
  split
  · next h => exact .inl ⟨by simpa using h, rfl⟩
  · exact .inr rfl

theorem last_null (text : String) : (text ++ " is null or undefined").toList.getLast? = some 'd' := by
  rw [String.toList_append, List.getLast?_append]
  rfl

theorem last_shapeNote (text : String) (found : Shape) :
    (text ++ shapeNote found).toList.getLast? = some ')' := by
  rw [shapeNote, ← String.append_assoc, String.toList_append, List.getLast?_append]
  rfl

theorem lack_eq_null {text called : String} {found : Shape}
    (h : text ++ lack found = called ++ " is null or undefined") :
    text = called ∧ (found = .null ∨ found = .undefined) := by
  rcases lack_cases found with ⟨hfound, hlack⟩ | hlack
  · rw [hlack] at h
    exact ⟨(String.append_left_inj _).1 h, hfound⟩
  · have hlast := last_null called
    rw [← h, hlack, ← String.append_assoc, last_shapeNote] at hlast
    cases hlast

theorem lack_eq_noObject {text called : String} {found shape : Shape}
    (h : text ++ lack found = called ++ " is not an object (" ++ shapeNote shape) :
    text = called := by
  rcases lack_cases found with ⟨-, hlack⟩ | hlack
  · have hlast := last_shapeNote (called ++ " is not an object (") shape
    rw [← h, hlack, last_null] at hlast
    cases hlast
  · rw [hlack, ← String.append_assoc] at h
    have hopen : " is not an object (".toList = " is not an object ".toList ++ ['('] := by decide
    have hlists := congrArg String.toList h
    simp only [String.toList_append, hopen, List.append_assoc, List.singleton_append] at hlists
    rw [← List.append_assoc, ← List.append_assoc] at hlists
    have hcalled :=
      (append_inj_of_stop_right (not_mem_shapeNote found) (not_mem_shapeNote shape) hlists).1
    exact String.toList_inj.1 (List.append_cancel_right hcalled)

theorem bare_of_value {p : Problem} {rest : String} (h : p.message = "Value" ++ rest) :
    ∃ found, p = .mismatch p.path .object found ∧
      subject p.path.text ++ lack found = "Value" ++ rest := by
  cases worded p with
  | bare found hp hmessage => exact ⟨found, hp, hmessage.symm.trans h⟩
  | led rest hlead hmessage =>
    have hhead := congrArg (·.toList.head?) (hmessage.symm.trans h)
    cases hlead <;> simp at hhead

structure Clear (p : Problem) : Prop where
  text : p.path.text = dotted p.path
  called : ∀ found, p = .mismatch p.path .object found → p.path.text ≠ ""

def Carried (p : Problem) : Prop :=
  ∃ lead rest, (lead = "" ∨ Lead lead) ∧ p.message = lead ++ dotted p.path ++ rest

theorem Clear.carried {p : Problem} (h : Clear p) : Carried p := by
  unfold Carried
  rw [← h.text]
  cases worded p with
  | led rest hlead hmessage => exact ⟨_, _, .inr hlead, hmessage⟩
  | @bare found hp hmessage =>
    refine ⟨"", lack found, .inl rfl, hmessage.trans ?_⟩
    rw [subject, if_neg (h.called _ hp), String.empty_append]

theorem eq_of_dotted {name : String} {rest : Path} (h : dotted (.field name :: rest) = "Value") :
    name = "Value" := by
  have hlists : name.toList ++ (inside rest).toList = "Value".toList := by
    rw [← String.toList_append]
    exact congrArg String.toList h
  cases hrest : (inside rest).toList with
  | nil =>
    rw [hrest, List.append_nil] at hlists
    exact String.toList_inj.1 hlists
  | cons c cs =>
    have hopens : Opens c := opens_head_inside rest c (by rw [hrest]; rfl)
    have hmem : c ∈ "Value".toList := by
      rw [← hlists, hrest]
      simp
    rcases hopens with rfl | rfl <;> exact absurd hmem (by decide)

end Match

namespace Schema

open Match

variable {m : Matcher} {v : Value} {p : Problem}

/-- What is wrong with a value of which no object is expected is not that it is none, and lies with
the value itself or in one of its items. -/
theorem Violation.of_not_object {τ : TypeExpr} (h : Violation m τ v p)
    (hτ : ∀ ps, τ ≠ .object ps) :
    (p.path = [] ∧ ∀ found, p ≠ .mismatch [] .object found) ∨
      ∃ i rest, p.path = .item i :: rest := by
  cases τ with
  | named name =>
    obtain ⟨-, rfl⟩ := violation_named_iff.1 h
    exact .inl ⟨rfl, by simp⟩
  | array item =>
    rcases violation_array_iff.1 h with ⟨-, rfl⟩ | ⟨xs, i, x, q, -, -, -, rfl⟩
    · exact .inl ⟨rfl, by simp⟩
    · exact .inr ⟨i, q.path, Problem.path_under _ _⟩
  | object ps => exact absurd rfl (hτ ps)

/-- The text of a path is clear unless an object is expected under an empty name. -/
theorem PropertyViolation.clear {name : String} {spec : Spec TypeExpr}
    (h : PropertyViolation m v name spec p)
    (hname : name = "" → ∀ ps, spec.type ≠ .object ps) : Clear p := by
  have hempty (rest : Path) : Path.text (.field "" :: rest) = rest.text := rfl
  by_cases hne : name = ""
  · -- with the name empty the text is that of the rest, which an item's index keeps from being empty
    subst hne
    rcases h with ⟨-, -, rfl⟩ | ⟨x, q, -, hq, rfl⟩
    · exact ⟨rfl, fun found hp => by cases hp⟩
    rcases hq.of_not_object (hname rfl) with ⟨hpath, hnot⟩ | ⟨i, rest, hpath⟩
    · refine ⟨?_, fun found hp => ?_⟩
      · rw [Problem.path_under, hpath]
        rfl
      · cases q with
        | missing path => cases hp
        | mismatch path expected shape =>
          cases hpath
          cases hp
          exact absurd rfl (hnot found)
    · have htext : (q.under [.field ""]).path.text = inside (.item i :: rest) := by
        rw [Problem.path_under, hpath]
        exact text_item i rest
      refine ⟨?_, fun found _ => ?_⟩
      · rw [htext, Problem.path_under, hpath]
        exact (String.empty_append).symm
      · rw [htext]
        simp [inside]
  · obtain ⟨rest, hpath⟩ := h.exists_path
    have htext := text_field hne rest
    refine ⟨hpath ▸ htext, fun found _ => ?_⟩
    rw [hpath, htext]
    simp [hne]

/-- Of the problems that are listed, those that are said to be with the value itself are, and all others
carry the path of the property they were found under. -/
structure RootOnly (v : Value) (problems : List Problem) : Prop where
  null : "Value is null or undefined" ∈ problems.map Problem.message → v = .null ∨ v = .undefined
  shape : ∀ found : Conform.Shape,
    "Value is not an object (found " ++ found.text ++ ")" ∈ problems.map Problem.message →
      v.isMapping = false
  nested : ∀ p ∈ problems, p.path ≠ [] → Carried p

theorem null_or_undefined_of_shape (h : v.shape = .null ∨ v.shape = .undefined) :
    v = .null ∨ v = .undefined := by
  cases v <;> simp [Value.shape] at h ⊢

theorem Violation.root_or_clear {d : Definition} (h : Violation m (.object d) v p)
    (hobject : ∀ spec, ("", spec) ∈ d → ∀ ps, spec.type ≠ .object ps) :
    (p = .mismatch [] .object v.shape ∧ v.isMapping = false) ∨
      (∃ name rest, p.path = .field name :: rest) ∧ Clear p := by
  rcases violation_object_iff.1 h with ⟨hv, hp⟩ | ⟨-, ⟨name, spec⟩, he, hproperty⟩
  · exact .inl ⟨hp, hv⟩
  · obtain ⟨rest, hpath⟩ := hproperty.exists_path
    refine .inr ⟨⟨name, rest, hpath⟩, hproperty.clear ?_⟩
    rintro rfl
    exact hobject spec he

/-- A problem of which it is said that it is with the value itself is with the value itself. -/
theorem Violation.root_of_message {d : Definition} (h : Violation m (.object d) v p)
    (unnamed : PropertyNames (· ≠ "Value") (.object d))
    (hobject : ∀ spec, ("", spec) ∈ d → ∀ ps, spec.type ≠ .object ps) {found : Conform.Shape}
    (hp : p = .mismatch p.path .object found) (hcalled : subject p.path.text = "Value") :
    found = v.shape ∧ v.isMapping = false := by
  rcases h.root_or_clear hobject with ⟨hroot, hv⟩ | ⟨⟨name, rest, hpath⟩, hclear⟩
  · rw [hroot] at hp
    exact ⟨(Problem.mismatch.inj hp).2.2.symm, hv⟩
  · rw [subject, if_neg (hclear.called found hp), hclear.text, hpath] at hcalled
    have hname := h.names unnamed name (by rw [hpath]; exact List.mem_cons_self)
    exact absurd (eq_of_dotted hcalled) hname

theorem rootOnly_of_lists {d : Definition} (unnamed : PropertyNames (· ≠ "Value") (.object d))
    (hobject : ∀ spec, ("", spec) ∈ d → ∀ ps, spec.type ≠ .object ps) {problems : List Problem}
    (hlists : Lists m (.object d) v problems) : RootOnly v problems where
  null h := by
    obtain ⟨p, hp, hmessage⟩ := List.mem_map.1 h
    have hnull : p.message = "Value" ++ " is null or undefined" := hmessage
    obtain ⟨found, hmismatch, hlack⟩ := bare_of_value hnull
    obtain ⟨hcalled, hfound⟩ := lack_eq_null hlack
    obtain ⟨rfl, -⟩ :=
      ((hlists.mem_iff p).1 hp).root_of_message unnamed hobject hmismatch hcalled
    exact null_or_undefined_of_shape hfound
  shape shape h := by
    obtain ⟨p, hp, hmessage⟩ := List.mem_map.1 h
    have hsplit : "Value is not an object (found " ++ shape.text ++ ")" =
        "Value" ++ (" is not an object (" ++ shapeNote shape) := by
      cases shape <;> rfl
    obtain ⟨found, hmismatch, hlack⟩ := bare_of_value (hmessage.trans hsplit)
    rw [← String.append_assoc] at hlack
    exact (((hlists.mem_iff p).1 hp).root_of_message unnamed hobject hmismatch
      (lack_eq_noObject hlack)).2
  nested p hp hpath := by
    rcases ((hlists.mem_iff p).1 hp).root_or_clear hobject with ⟨rfl, -⟩ | ⟨-, hclear⟩
    · exact absurd rfl hpath
    · exact hclear.carried

def nameless : Value := .map [(.text "", .null)]

theorem field?_nameless {name : String} {x : Value} (h : nameless.field? name = some x) :
    x = .null := by
  obtain ⟨e, he, rfl⟩ := Option.map_eq_some_iff.1 h
  rw [List.mem_singleton.1 (List.mem_of_find?_eq_some he)]

theorem not_stops_nameless {d : Definition} (path : Path) (fault : Fault) :
    ¬ Stops {} (.object d) nameless path fault := by
  rw [stops_iff_looksInto (by simp)]
  rintro ⟨message, -, ps, -, hreach⟩
  cases hreach with
  | @field _ _ _ spec x _ _ _ _ _ hx rest =>
    obtain rfl := field?_nameless hx
    generalize spec.type = τ at rest
    cases rest with
    | field hv => cases hv
    | item hv => cases hv

/-- Where an object is expected under an empty name, a null there is said to be the value itself. -/
theorem message_nameless {d : Definition} (distinct : Distinct (.object d)) {optional : Bool}
    {ps : Definition} (h : ("", ⟨.object ps, optional⟩) ∈ d) :
    ∃ problems, (Matcher.problems {} d nameless).result = .ok problems ∧
      "Value is null or undefined" ∈ problems.map Problem.message := by
  obtain ⟨problems, hwalk, hlists⟩ :=
    walkType_lists distinct (walkable_of_clear not_stops_nameless) []
  rw [List.map_id'' Problem.under_nil] at hwalk
  refine ⟨problems, hwalk, List.mem_map.2 ⟨.mismatch [.field ""] .object .null, ?_, rfl⟩⟩
  have hfield : nameless.field? "" = some .null := by
    simp [nameless, Value.field?, Value.entries?, Value.lookup]
  refine (hlists.mem_iff _).2 (violation_object_iff.2 (.inr ⟨rfl, _, h, .inr ?_⟩))
  exact ⟨.null, _, hfield, violation_object_iff.2 (.inl ⟨rfl, rfl⟩), rfl⟩

/-- Of a text that is read and names no property `Value`: all messages about the value itself are true
of the value itself, and all others carry their paths, just if no object is expected under an empty
name at the outermost level. Strict reading refuses empty names, lenient reading does not. -/
theorem root_messages_iff {o : ParseOptions} {text : String} {d : Definition}
    (h : (o.parse text).result = .ok d) (unnamed : PropertyNames (· ≠ "Value") (.object d)) :
    (∀ m v problems, (Matcher.problems m d v).result = .ok problems → RootOnly v problems) ↔
      ∀ spec, ("", spec) ∈ d → ∀ ps, spec.type ≠ .object ps := by
  have distinct : Distinct (.object d) := ParseOptions.distinct_of_parse h
  constructor
  · rintro hroot ⟨type, optional⟩ hspec ps rfl
    obtain ⟨problems, hproblems, hmessage⟩ := message_nameless distinct hspec
    rcases (hroot {} nameless problems hproblems).null hmessage with hnull | hundefined
    · cases hnull
    · cases hundefined
  · intro hobject m v problems hproblems
    exact rootOnly_of_lists unnamed hobject (problems_lists distinct hproblems)

/-- An empty name of which an array is expected, whose items are called by their indexes alone. -/
theorem root_messages_iff_items :
    let d : Definition := [("", ⟨.array (.named "string"), false⟩),
      ("a", ⟨.object [("b", ⟨.named "number", false⟩)], false⟩)]
    (ParseOptions.parse {} ": string[]; a: { b: number }").result = .ok d ∧
      PropertyNames (· ≠ "Value") (.object d) ∧
      ∀ m v problems, (Matcher.problems m d v).result = .ok problems → RootOnly v problems := by
  intro d
  have hparse : (ParseOptions.parse {} ": string[]; a: { b: number }").result = .ok d := by rfl
  have unnamed : PropertyNames (· ≠ "Value") (.object d) := by
    refine .object (by decide) (List.forall_mem_cons.2 ⟨.array .named, ?_⟩)
    exact List.forall_mem_singleton.2 (.object (by decide) (List.forall_mem_singleton.2 .named))
  refine ⟨hparse, unnamed, (root_messages_iff hparse unnamed).2 fun spec hspec ps => ?_⟩
  simp only [d, List.mem_cons, Prod.mk.injEq, List.not_mem_nil, or_false] at hspec
  rcases hspec with ⟨-, rfl⟩ | ⟨hname, -⟩
  · simp
  · exact absurd hname (by decide)

/-- A text without the name `Value`, and a mapping of which it is said that it is null. -/
theorem root_message_of_nameless :
    let d : Definition := [("", ⟨.object [("a", ⟨.named "string", false⟩)], false⟩)]
    (ParseOptions.parse {} ": { a: string }").result = .ok d ∧
      PropertyNames (· ≠ "Value") (.object d) ∧
      ∃ problems, (Matcher.problems {} d nameless).result = .ok problems ∧
        problems.map Problem.message = ["Value is null or undefined"] ∧
        nameless.isMapping = true ∧ ¬ RootOnly nameless problems := by
  intro d
  have hproblems : (Matcher.problems {} d nameless).result =
      .ok [.mismatch [.field ""] .object .null] := by
    simp [d, nameless, Matcher.problems, Matcher.walkType, Matcher.walkProperties,
      Matcher.property, Value.entries?, Value.lookup, Value.isMapping, Value.shape]
  refine ⟨by rfl, ?_, _, hproblems, rfl, rfl, fun hroot => ?_⟩
  · refine .object (by decide) (List.forall_mem_singleton.2 (.object (by decide) ?_))
    exact List.forall_mem_singleton.2 .named
  · rcases hroot.null List.mem_cons_self with hnull | hundefined
    · cases hnull
    · cases hundefined

end Schema

end Conform
