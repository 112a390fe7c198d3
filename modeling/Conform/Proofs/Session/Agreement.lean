import Conform.Proofs.Match.Root
import Conform.Proofs.Schema.WellFormed

/-! Reading a text at once and reading it in a session. A session gives the parser the names of its
plugins in order, or none where every name is accepted, and recalls trees; but both ways end in the
same tree or in the same message. No message about a value can be taken for one about the text. -/

namespace Conform

namespace Match

def Uncoloned (s : String) : Prop := ':' ∉ s.toList

instance (s : String) : Decidable (Uncoloned s) := inferInstanceAs (Decidable (':' ∉ s.toList))

theorem uncoloned_append {s t : String} : Uncoloned (s ++ t) ↔ Uncoloned s ∧ Uncoloned t := by
  simp [Uncoloned]

theorem uncoloned_index (i : Nat) : Uncoloned (toString i) := by
  intro h
  rw [Nat.toString_eq_repr, Nat.toList_repr] at h
  have hdigit := Nat.isDigit_of_mem_toDigits (by omega) (by omega) h
  exact absurd hdigit (by decide)

theorem uncoloned_extend {outer : String} {step : Step} (houter : Uncoloned outer)
    (h : ∀ name, step = .field name → Uncoloned name) : Uncoloned (extend outer step) := by
  cases step with
  | item i =>
    simp only [extend, uncoloned_append]
    exact ⟨⟨⟨houter, by decide⟩, uncoloned_index i⟩, by decide⟩
  | field name =>
    simp only [extend]
    split
    · exact h name rfl
    · simp only [uncoloned_append]
      exact ⟨⟨houter, by decide⟩, h name rfl⟩

theorem uncoloned_text {path : Path} (h : path.Names Uncoloned) : Uncoloned path.text := by
  refine List.foldlRecOn path extend (show Uncoloned "" by decide) fun outer houter step hstep => ?_
  exact uncoloned_extend houter fun name hname => h name (hname ▸ hstep)

theorem uncoloned_lack (found : Shape) : Uncoloned (lack found) := by
  cases found <;> decide

/-- A problem on a path of names without a colon is not said to be one of the text. -/
theorem message_ne_parsing {p : Problem} (h : p.path.Names Uncoloned) (m : String) :
    p.message ≠ "Schema parsing error: " ++ m := by
  intro heq
  cases worded p with
  | led rest hlead hmessage =>
    have hhead := congrArg (·.toList.head?) (hmessage.symm.trans heq)
    cases hlead <;> simp at hhead
  | bare found hp hmessage =>
    have hcolon : Uncoloned (subject p.path.text ++ lack found) := by
      refine uncoloned_append.2 ⟨?_, uncoloned_lack found⟩
      unfold subject
      split
      · decide
      · exact uncoloned_text h
    rw [← hmessage, heq] at hcolon
    exact absurd (uncoloned_append.1 hcolon).1 (by decide)

end Match

namespace Schema

theorem TypeExpr.WellFormed.uncoloned {source : List Char} {τ : TypeExpr} (h : τ.WellFormed source) :
    PropertyNames Match.Uncoloned τ := by
  induction h with
  | named => exact .named
  | array _ ih => exact .array ih
  | object _ names _ ih => exact .object (fun p hp => (names p hp).colon) ih

end Schema

namespace Session

open Schema Match

/-- What is wrong with a value is never reported as what is wrong with a text. -/
theorem conclude_ne_parsing {m : Matcher} {d : Definition} {v : Value}
    (distinct : Distinct (.object d)) (names : PropertyNames Uncoloned (.object d)) (message : String) :
    (conclude (m.problems d v)).result ≠ .ok ⟨["Schema parsing error: " ++ message]⟩ := by
  cases hproblems : (m.problems d v).result with
  | ok problems =>
    rw [conclude_result_of_ok hproblems]
    intro h
    obtain ⟨p, rfl, hmessage⟩ := List.map_eq_singleton_iff.1 (MatchResult.mk.inj (Except.ok.inj h))
    have hviolation := ((problems_lists distinct hproblems).mem_iff p).1 List.mem_cons_self
    exact message_ne_parsing (hviolation.names names) message hmessage
  | error fault =>
    rw [conclude_result_of_error hproblems]
    unfold stopped
    split
    · intro h
      have hhead := congrArg (·.toList.head?) (List.cons.inj (MatchResult.mk.inj (Except.ok.inj h))).1
      simp at hhead
    all_goals exact fun h => by cases h

/-- Whatever was asked of a session before, and whatever it has room to remember, it reports of a text
the message that reading the text at once fails with, with the names of the plugins as they were
registered; it reports this of no text that can be read, and there it looks at values through the
tree that reading at once gives. A text that is nested too deeply has one message here, whose words
are those that the interpreter's messages about it have in common. -/
theorem validate_parse_agree {c : Settings} {r : Registry} {s : Session}
    (h : start c (some r) = .ok s) (requests : List Request) {plugins : Registry}
    (now : registryAfter (some r) requests = some plugins) (text : String) (v : Value) :
    let o : ParseOptions :=
      { strict := c.parser.strictSyntax, unknown := c.parser.unknownTypes, known := plugins.names }
    let reading := o.parse text
    let s' := s.after requests
    (∀ m, (∃ e, reading.result = .error e ∧ e.message = m) ↔
        (s'.validate text v).2.result = .ok ⟨["Schema parsing error: " ++ m]⟩) ∧
      ∀ d, reading.result = .ok d →
        (∃ tree, (s'.parse text).2.result = .ok tree ∧ tree.definition = d) ∧
          (s'.validate text v).2.result = (conclude (s'.matcher.problems d v)).result := by
  intro o reading s'
  have hfaithful : s'.Faithful := (faithful_of_start h).after requests
  obtain ⟨hsettings, hregistry⟩ := after_keeps s requests
  obtain ⟨-, rfl⟩ := start_eq_ok.1 h
  rw [now] at hregistry
  have hreading : (s'.settings.reading s'.registry).parse text = reading := by
    rw [hsettings, hregistry]
    rfl
  have hvalidate := hfaithful.validate_result text v
  unfold Settings.verdict at hvalidate
  rw [hreading] at hvalidate
  refine ⟨fun m => ?_, fun d hd => ⟨hfaithful.parse_ok (hreading ▸ hd), ?_⟩⟩
  · cases hresult : reading.result with
    | error e =>
      rw [hresult] at hvalidate
      simp [hvalidate]
    | ok d =>
      rw [hresult] at hvalidate
      have hne := conclude_ne_parsing (m := s'.settings.matching s'.registry) (v := v)
        (ParseOptions.distinct_of_parse hresult)
        ((ParseOptions.parse_wellFormed text).2 _ d hresult).uncoloned m
      simp [hvalidate, hne]
  · rw [hvalidate, hd]
    rfl

/-- Two plugins that are not registered in order, a text that names a third, and one that names both. -/
theorem validate_parse_agree_unknown :
    let c : Settings := { parser := { unknownTypes := .reject, cacheSize := 1 } }
    let requests : List Request := [.register [.plugin ⟨"sku", .primitive .integer, "", none⟩,
      .plugin ⟨"isbn", .primitive .string, "", none⟩], .parse "a: sku"]
    let d : Definition := [("a", ⟨.named "sku", false⟩), ("b", ⟨.named "isbn", true⟩)]
    ∃ s, start c (some {}) = .ok s ∧
      ((s.after requests).validate "a: upc" .null).2.result =
        .ok ⟨["Schema parsing error: Unknown type 'upc' (at offset 3)"]⟩ ∧
      ∃ tree, ((s.after requests).parse "a: sku; b?: isbn").2.result = .ok tree ∧
        tree.definition = d := by
  intro c requests d
  have hstart : start c (some {}) = .ok ⟨c, some {}, ⟨1, [], 0, 0⟩, 0⟩ := rfl
  have now : registryAfter (some {}) requests = some _ := rfl
  refine ⟨_, hstart, ?_, ?_⟩
  · have hreport := (validate_parse_agree hstart requests now "a: upc" .null).1
    exact (hreport "Unknown type 'upc' (at offset 3)").1
      ⟨.malformed (.unknownType "upc") 3, rfl, by decide⟩
  · exact ((validate_parse_agree hstart requests now "a: sku; b?: isbn" .null).2 d rfl).1

end Session

end Conform
