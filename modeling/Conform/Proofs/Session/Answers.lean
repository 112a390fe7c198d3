import Conform.Proofs.Schema.Vocabulary
import Conform.Session

/-! What a session answers. It remembers trees, and plugins may be registered at any time; but a
tree is found again only under the names that it was read with, so every answer is the one that
reading the text anew would give. -/

namespace Conform

open Schema

namespace Settings

def reading (c : Settings) (r : Option Registry) : ParseOptions :=
  { strict := c.parser.strictSyntax, unknown := c.parser.unknownTypes,
    known := (r.map Registry.names).getD [] }

def matching (c : Settings) (r : Option Registry) : Matcher :=
  { registry := r, unknown := c.parser.unknownTypes, coerceDates := c.matcher.coerceDates }

/-- What validating comes to if nothing is remembered. -/
def verdict (c : Settings) (r : Option Registry) (text : String) (v : Value) :
    Except Fault MatchResult :=
  match ((c.reading r).parse text).result with
  | .error e => .ok ⟨["Schema parsing error: " ++ e.message]⟩
  | .ok d => (Session.conclude ((c.matching r).problems d v)).result

end Settings

namespace Session

theorem start_eq_ok {c : Settings} {r : Option Registry} {s : Session} :
    start c r = .ok s ↔
      c.parser.cacheSize < 2 ^ (63 : Nat) ∧
        s = { settings := c, registry := r, cache := { capacity := c.parser.cacheSize } } := by
  unfold start
  by_cases hsize : c.parser.cacheSize < 2 ^ (63 : Nat)
  · rw [if_pos hsize]
    constructor
    · intro h
      exact ⟨hsize, (Except.ok.inj h).symm⟩
    · rintro ⟨-, rfl⟩
      rfl
  · rw [if_neg hsize]
    constructor
    · intro h
      cases h
    · intro h
      exact absurd h.1 hsize

/-- The session sorts the names, and leaves them out where every name is accepted: neither matters
to what is read. -/
theorem options_parse (s : Session) (text : String) :
    s.options.parse text = (s.settings.reading s.registry).parse text := by
  refine @ParseOptions.parse_congr s.options (s.settings.reading s.registry) rfl rfl ?_ text
  intro name
  unfold ParseOptions.Permits ParseOptions.isKnown options knownNames Settings.reading
  cases s.settings.parser.unknownTypes with
  | accept => simp
  | reject =>
    cases s.registry with
    | none => simp
    | some r => simp [List.mem_mergeSort]

/-- Every tree that is remembered is what the text of its key is read as, with the names of its
key. -/
def Faithful (s : Session) : Prop :=
  ∀ e ∈ s.cache.entries,
    (ParseOptions.parse { s.options with known := e.1.known } e.1.text).result = .ok e.2.definition

theorem parse_keeps (s : Session) (text : String) :
    (s.parse text).1.settings = s.settings ∧ (s.parse text).1.registry = s.registry := by
  unfold parse
  dsimp only
  split
  · exact ⟨rfl, rfl⟩
  · split <;> exact ⟨rfl, rfl⟩

variable {s : Session}

theorem Faithful.parse (h : s.Faithful) (text : String) : (s.parse text).1.Faithful := by
  unfold Session.parse
  dsimp only
  split
  · next tree cache htouch =>
    obtain ⟨-, hsub⟩ := Cache.touch?_eq_some htouch
    exact fun e he => h e (hsub e he)
  · split
    · exact h
    · next d hd =>
      intro e he
      rcases Cache.mem_store he with rfl | he
      · exact hd
      · exact h e he

theorem Faithful.parse_result (h : s.Faithful) (text : String) :
    (s.parse text).2.result.map Parsed.definition =
      ((s.settings.reading s.registry).parse text).result := by
  rw [← options_parse]
  unfold Session.parse
  dsimp only
  split
  · next tree cache htouch =>
    obtain ⟨hmem, -⟩ := Cache.touch?_eq_some htouch
    exact (h _ hmem).symm
  · split
    · next e he => rw [he]; rfl
    · next d hd => rw [hd]; rfl

theorem Faithful.parse_error (h : s.Faithful) {text : String} {e : ParseError}
    (he : ((s.settings.reading s.registry).parse text).result = .error e) :
    (s.parse text).2.result = .error e := by
  have hparse := h.parse_result text
  rw [he] at hparse
  cases hresult : (s.parse text).2.result with
  | error e' =>
    rw [hresult] at hparse
    exact congrArg Except.error (Except.error.inj hparse)
  | ok tree =>
    rw [hresult] at hparse
    cases hparse

theorem Faithful.parse_ok (h : s.Faithful) {text : String} {d : Definition}
    (hd : ((s.settings.reading s.registry).parse text).result = .ok d) :
    ∃ tree, (s.parse text).2.result = .ok tree ∧ tree.definition = d := by
  have hparse := h.parse_result text
  rw [hd] at hparse
  cases hresult : (s.parse text).2.result with
  | error e =>
    rw [hresult] at hparse
    cases hparse
  | ok tree =>
    rw [hresult] at hparse
    exact ⟨tree, rfl, Except.ok.inj hparse⟩

theorem Faithful.validate_result (h : s.Faithful) (text : String) (v : Value) :
    (s.validate text v).2.result = s.settings.verdict s.registry text v := by
  have hparse := h.parse_result text
  have hnote (x : Journal Event Fault MatchResult) :
      (do let r ← x; .note (.textValidated r.valid r.errors.length); pure r).result = x.result := by
    obtain ⟨notes, e | r⟩ := x <;> rfl
  unfold Session.validate Settings.verdict
  rw [← hparse]
  dsimp only
  rw [hnote]
  cases (s.parse text).2.result <;> rfl

inductive Request where
  | parse (text : String)
  | validate (text : String) (v : Value)
  | register (items : List Supplied)

namespace Request

def change (r : Option Registry) : Request → Option Registry
  | .parse _ | .validate .. => r
  | .register items => r.map fun r => (r.register items).registry

end Request

def registryAfter (r : Option Registry) (requests : List Request) : Option Registry :=
  requests.foldl Request.change r

def step (s : Session) : Request → Session
  | .parse text => (s.parse text).1
  | .validate text v => (s.validate text v).1
  | .register items => { s with registry := Request.change s.registry (.register items) }

def after (s : Session) (requests : List Request) : Session := requests.foldl step s

theorem step_keeps (s : Session) (q : Request) :
    (s.step q).settings = s.settings ∧ (s.step q).registry = q.change s.registry := by
  cases q with
  | parse text => exact s.parse_keeps text
  | validate text v => exact s.parse_keeps text
  | register items => exact ⟨rfl, rfl⟩

theorem Faithful.step (h : s.Faithful) (q : Request) : (s.step q).Faithful := by
  cases q with
  | parse text => exact h.parse text
  | validate text v => exact h.parse text
  | register items => exact h

theorem after_keeps (s : Session) (requests : List Request) :
    (s.after requests).settings = s.settings ∧
      (s.after requests).registry = registryAfter s.registry requests := by
  induction requests generalizing s with
  | nil => exact ⟨rfl, rfl⟩
  | cons q requests ih =>
    obtain ⟨hsettings, hregistry⟩ := step_keeps s q
    obtain ⟨ihsettings, ihregistry⟩ := ih (s.step q)
    refine ⟨ihsettings.trans hsettings, ihregistry.trans ?_⟩
    rw [hregistry]
    rfl

theorem Faithful.after (h : s.Faithful) (requests : List Request) :
    (s.after requests).Faithful := by
  induction requests generalizing s with
  | nil => exact h
  | cons q requests ih => exact ih (h.step q)

theorem faithful_of_start {c : Settings} {r : Option Registry} (h : start c r = .ok s) :
    s.Faithful := by
  obtain ⟨-, rfl⟩ := start_eq_ok.1 h
  intro e he
  cases he

theorem validate_of_start {c : Settings} {r : Option Registry} (h : start c r = .ok s)
    (text : String) (v : Value) : (s.validate text v).2.result = c.verdict r text v := by
  rw [(faithful_of_start h).validate_result]
  obtain ⟨-, rfl⟩ := start_eq_ok.1 h
  rfl

/-- After any requests, a text is read as it would be read anew, and a value is validated as a new
session would validate it, with whatever capacity to remember. -/
theorem answers_eq_anew {c : Settings} {r : Option Registry} (h : start c r = .ok s)
    (requests : List Request) (text : String) (v : Value) :
    ((s.after requests).parse text).2.result.map Parsed.definition =
        ((c.reading (registryAfter r requests)).parse text).result ∧
      (∃ anew, start c (registryAfter r requests) = .ok anew) ∧
      ∀ capacity anew, start { c with parser.cacheSize := capacity } (registryAfter r requests) =
          .ok anew →
        ((s.after requests).validate text v).2.result = (anew.validate text v).2.result := by
  have hafter := (faithful_of_start h).after requests
  obtain ⟨hsettings, hregistry⟩ := after_keeps s requests
  obtain ⟨hsize, rfl⟩ := start_eq_ok.1 h
  refine ⟨?_, ⟨_, start_eq_ok.2 ⟨hsize, rfl⟩⟩, fun capacity anew hanew => ?_⟩
  · rw [hafter.parse_result, hsettings, hregistry]
  · rw [hafter.validate_result, hsettings, hregistry, validate_of_start hanew]
    rfl

/-- A type that is registered after it was refused is known from then on. -/
theorem answers_eq_anew_registered :
    ∃ s, start { parser := { unknownTypes := .reject, cacheSize := 1 } } (some {}) = .ok s ∧
      ((s.after [.parse "a: sku", .register [.plugin ⟨"sku", .primitive .integer, "", none⟩]]).parse
        "a: sku").2.result.map Parsed.definition = .ok [("a", ⟨.named "sku", false⟩)] := by
  have hstart : start { parser := { unknownTypes := .reject, cacheSize := 1 } } (some {}) =
      .ok ⟨{ parser := { unknownTypes := .reject, cacheSize := 1 } }, some {}, ⟨1, [], 0, 0⟩, 0⟩ :=
    rfl
  exact ⟨_, hstart, (answers_eq_anew hstart _ _ .null).1.trans rfl⟩

end Session

end Conform
