import Conform.Proofs.Session.Answers

/-! The vocabulary of a session. Registering only ever adds names, so a name that was permitted when
a text was read stays permitted. Where unknown names are rejected, the matcher has then something of
its own to say about every name in a tree, from the time that the tree was read. -/

namespace Conform

open Schema Session

def Registered (r : Option Registry) (name : String) : Prop :=
  ∃ plugins, r = some plugins ∧ name ∈ plugins.names

variable {r : Option Registry} {name : String}

theorem Registered.change (h : Registered r name) (q : Request) :
    Registered (q.change r) name := by
  cases q with
  | parse text => exact h
  | validate text v => exact h
  | register items =>
    obtain ⟨plugins, rfl, hname⟩ := h
    exact ⟨_, rfl, Registry.mem_names_register items hname⟩

theorem Registered.after (h : Registered r name) (requests : List Request) :
    Registered (registryAfter r requests) name := by
  induction requests generalizing r with
  | nil => exact h
  | cons q requests ih => exact ih (h.change q)

theorem registryAfter_append (r : Option Registry) (before later : List Request) :
    registryAfter r (before ++ later) = registryAfter (registryAfter r before) later :=
  List.foldl_append

namespace Settings

variable {c : Settings}

theorem permits_iff : (c.reading r).Permits name ↔
    c.parser.unknownTypes = .accept ∨ builtinNames.contains name = true ∨ Registered r name := by
  unfold ParseOptions.Permits ParseOptions.isKnown Settings.reading Registered
  cases r <;> simp

theorem permits_after (h : (c.reading r).Permits name) (requests : List Request) :
    (c.reading (registryAfter r requests)).Permits name := by
  rw [permits_iff] at h ⊢
  exact h.imp_right (Or.imp_right fun hname => hname.after requests)

theorem parse_after {text : String} {d : Definition}
    (h : ((c.reading r).parse text).result = .ok d) (requests : List Request) :
    ((c.reading (registryAfter r requests)).parse text).result = .ok d := by
  have hsub : ∀ name, (c.reading r).Permits name →
      (c.reading (registryAfter r requests)).Permits name :=
    fun _ hname => permits_after hname requests
  have hsame := @ParseOptions.parse_mono (c.reading r) (c.reading (registryAfter r requests)) rfl
    rfl hsub text d h
  rw [← hsame, h]

end Settings

/-- A name that is built in or has a plugin is never left to the policy about unknown ones. -/
theorem Matcher.checkNamed_of_known {m : Matcher}
    (h : (∃ ok, builtinCheck? name = some ok) ∨ Registered m.registry name)
    (unknown : UnknownPolicy) (v : Value) :
    Matcher.checkNamed { m with unknown } name v = m.checkNamed name v := by
  unfold checkNamed
  rcases h with ⟨ok, hok⟩ | ⟨plugins, hplugins, hname⟩
  · rw [hok]
  · obtain ⟨p, hp⟩ := Option.isSome_iff_exists.1 (Assoc.contains_eq_true_iff.2 hname)
    have hget : m.registry.bind (·.get? name) = some p := by
      rw [hplugins]
      exact hp
    dsimp only
    rw [hget]

namespace Session

/-- The matcher of a session has something to say about a name: it is built in or has a plugin, and
so the policy about unknown names does not matter to it. -/
structure Knows (s : Session) (name : String) : Prop where
  known : (∃ ok, Matcher.builtinCheck? name = some ok) ∨ Registered s.registry name
  decided : ∀ unknown v,
    Matcher.checkNamed { s.matcher with unknown } name v = s.matcher.checkNamed name v

theorem knows_of_permits {s : Session} (reject : s.settings.parser.unknownTypes = .reject)
    (h : (s.settings.reading s.registry).Permits name) : s.Knows name := by
  have hknown : (∃ ok, Matcher.builtinCheck? name = some ok) ∨ Registered s.registry name := by
    rcases Settings.permits_iff.1 h with haccept | hbuiltin | hregistered
    · rw [reject] at haccept
      cases haccept
    · exact .inl (Matcher.builtinCheck?_isSome hbuiltin)
    · exact .inr hregistered
  exact ⟨hknown, Matcher.checkNamed_of_known hknown⟩

/-- Where unknown names are rejected, the matcher has something to say about every name in a tree
that a text was read as, from then on; and from then on the text is read as the same tree. -/
theorem names_stay_known {c : Settings} {r : Option Registry} {s : Session}
    (h : start c r = .ok s) (reject : c.parser.unknownTypes = .reject) (before : List Request)
    {text : String} {tree : Parsed}
    (hread : ((s.after before).parse text).2.result = .ok tree) (later : List Request) :
    (∀ name ∈ propertiesNames tree.definition,
        (s.after (before ++ .parse text :: later)).Knows name) ∧
      ∃ again, ((s.after (before ++ .parse text :: later)).parse text).2.result = .ok again ∧
        again.definition = tree.definition := by
  have hfaithful := faithful_of_start h
  obtain ⟨hsettings, hregistry⟩ := after_keeps s before
  obtain ⟨hsettings', hregistry'⟩ := after_keeps s (before ++ .parse text :: later)
  obtain ⟨-, rfl⟩ := start_eq_ok.1 h
  rw [registryAfter_append] at hregistry'
  have hthen : ((c.reading (registryAfter r before)).parse text).result = .ok tree.definition := by
    have hparse := (hfaithful.after before).parse_result text
    rw [hread, hsettings, hregistry] at hparse
    exact hparse.symm
  have hnow := Settings.parse_after hthen (.parse text :: later)
  constructor
  · intro name hname
    refine knows_of_permits (by rw [hsettings', reject]) ?_
    rw [hsettings', hregistry']
    exact ParseOptions.permits_of_parse hnow name hname
  · refine (hfaithful.after _).parse_ok ?_
    rw [hsettings', hregistry']
    exact hnow

/-- A plugin that is replaced after its name was read. -/
theorem names_stay_known_replaced :
    ∃ s, start { parser := { unknownTypes := .reject } } (some {}) = .ok s ∧
      (s.after [.register [.plugin ⟨"sku", .primitive .integer, "", none⟩], .parse "a: sku[]",
        .register [.plugin ⟨"sku", .primitive .string, "", none⟩]]).Knows "sku" := by
  have hstart : start { parser := { unknownTypes := .reject } } (some {}) =
      .ok ⟨{ parser := { unknownTypes := .reject } }, some {}, ⟨128, [], 0, 0⟩, 0⟩ := rfl
  refine ⟨_, hstart, ?_⟩
  have hfaithful := (faithful_of_start hstart).after
    [.register [.plugin ⟨"sku", .primitive .integer, "", none⟩]]
  obtain ⟨tree, hread, htree⟩ := @Faithful.parse_ok _ hfaithful "a: sku[]"
    [("a", ⟨.array (.named "sku"), false⟩)] rfl
  have hname : "sku" ∈ propertiesNames tree.definition := by
    rw [htree]
    decide
  exact (names_stay_known hstart rfl _ hread
    [.register [.plugin ⟨"sku", .primitive .string, "", none⟩]]).1 "sku" hname

end Session

end Conform
