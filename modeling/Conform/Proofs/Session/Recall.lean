import Conform.Proofs.Cache.Recency
import Conform.Proofs.Session.Keys

/-! What a session recalls. Whether a request finds its tree is told by the requests before it: the
key of its text must have been used, and since then fewer other keys than there is room for. -/

namespace Conform

open Schema

namespace Session

def use (s : Session) (q : Request) : Option (ParseKey × Parsed) :=
  q.text?.bind fun text => (s.parse text).2.result.toOption.map fun tree =>
    (s.settings.key s.registry text, tree)

def uses (s : Session) : List Request → List (ParseKey × Parsed)
  | [] => []
  | q :: requests => uses (s.step q) requests ++ (s.use q).toList

def Hits (s : Session) (q : Request) : Prop := (s.step q).cache.hits = s.cache.hits + 1

/-- All that a request for the tree of a key can do to what is remembered. -/
inductive Taken (s : Session) (q : Request) (k : ParseKey) : Prop
  | recalled {tree : Parsed} (found : s.cache.touch? k = some (tree, (s.step q).cache))
      (built : (s.step q).built = s.built) (use : s.use q = some (k, tree))
  | failed (missing : s.cache.touch? k = none) (cache : (s.step q).cache = s.cache.miss)
      (built : (s.step q).built = s.built) (use : s.use q = none)
  | read {d : Definition} (missing : s.cache.touch? k = none)
      (cache : (s.step q).cache = s.cache.miss.store k ⟨s.built, d⟩)
      (built : (s.step q).built = s.built + 1) (use : s.use q = some (k, ⟨s.built, d⟩))

theorem key_eq (s : Session) (text : String) :
    (⟨text, s.knownNames⟩ : ParseKey) = s.settings.key s.registry text := by
  unfold knownNames Settings.key
  cases s.settings.parser.unknownTypes <;> cases s.registry <;> simp

variable {s : Session} {q : Request} {text : String}

theorem step_of_text (asks : q.text? = some text) : s.step q = (s.parse text).1 := by
  cases q with
  | parse text' | validate text' v =>
    obtain rfl : text' = text := Option.some.inj asks
    rfl
  | register items => cases asks

theorem key_of_use {u : ParseKey × Parsed} (asks : q.text? = some text) (h : s.use q = some u) :
    u.1 = s.settings.key s.registry text := by
  rw [use, asks] at h
  obtain ⟨tree, -, rfl⟩ := Option.map_eq_some_iff.1 h
  rfl

theorem step_of_silent (silent : q.text? = none) :
    (s.step q).cache = s.cache ∧ (s.step q).built = s.built ∧ s.use q = none := by
  cases q with
  | register items => exact ⟨rfl, rfl, rfl⟩
  | _ => cases silent

theorem taken (s : Session) (asks : q.text? = some text) :
    s.Taken q (s.settings.key s.registry text) := by
  have hstep := @step_of_text s q text asks
  have huse : s.use q = (s.parse text).2.result.toOption.map fun tree =>
      (s.settings.key s.registry text, tree) := by
    rw [use, asks]
    rfl
  unfold parse at hstep huse
  simp only [key_eq] at hstep huse
  split at hstep
  · next tree cache hfound =>
    rw [hfound] at huse
    exact .recalled (by rw [hfound, hstep]) (by rw [hstep]) huse
  · next hmissing =>
    rw [hmissing] at huse
    dsimp only at huse
    split at hstep
    · next e he =>
      rw [he] at huse
      exact .failed hmissing (by rw [hstep]) (by rw [hstep]) huse
    · next d hd =>
      rw [hd] at huse
      exact .read hmissing (by rw [hstep]) (by rw [hstep]) huse

theorem hits_iff (asks : q.text? = some text) :
    s.Hits q ↔ (s.cache.touch? (s.settings.key s.registry text)).isSome = true := by
  unfold Hits
  cases s.taken asks with
  | recalled found =>
    have hcache := (Cache.touch?_eq_some_iff.1 found).2
    rw [hcache]
    simp [found]
  | failed missing cache => simp [missing, cache, Cache.miss]
  | read missing cache => simp [missing, cache, Cache.miss, Cache.store]

structure Counted (s : Session) (q : Request) : Prop where
  total : (s.step q).cache.hits + (s.step q).cache.misses =
    s.cache.hits + s.cache.misses + (if q.text?.isSome then 1 else 0)
  misses : q.text?.isSome = true → ¬ s.Hits q →
    (s.step q).cache.misses = s.cache.misses + 1 ∧ (s.step q).cache.hits = s.cache.hits
  capacity : (s.step q).cache.capacity = s.cache.capacity

theorem counted (s : Session) (q : Request) : s.Counted q := by
  cases asks : q.text? with
  | none =>
    obtain ⟨cache, -, -⟩ := @step_of_silent s q asks
    refine ⟨?_, ?_, ?_⟩ <;> simp [asks, cache]
  | some text =>
    cases s.taken asks with
    | recalled found =>
      have hhits := (hits_iff asks).2 (by rw [found]; rfl)
      have hcache := (Cache.touch?_eq_some_iff.1 found).2
      refine ⟨?_, fun _ miss => absurd hhits miss, ?_⟩
      · rw [hcache]
        simp only [asks, Option.isSome_some, if_true]
        omega
      · rw [hcache]
    | failed missing cache =>
      refine ⟨?_, ?_, ?_⟩ <;> simp [asks, cache, Cache.miss, Nat.add_assoc]
    | read missing cache =>
      refine ⟨?_, ?_, ?_⟩ <;> simp [asks, cache, Cache.miss, Cache.store, Nat.add_assoc]

/-- The cache holds the keys that were used last, also after one request more. -/
theorem holds_step {us : List (ParseKey × Parsed)} (h : s.cache.Holds us) (q : Request) :
    (s.step q).cache.Holds ((s.use q).toList ++ us) := by
  cases asks : q.text? with
  | none =>
    obtain ⟨cache, -, use⟩ := @step_of_silent s q asks
    rwa [cache, use]
  | some text =>
    cases s.taken asks with
    | recalled found built use =>
      rw [use]
      exact h.touch found
    | failed missing cache built use => rwa [cache, use]
    | read missing cache built use =>
      rw [cache, use]
      exact h.store missing

theorem after_concat (s : Session) (requests : List Request) (q : Request) :
    s.after (requests ++ [q]) = (s.after requests).step q :=
  List.foldl_concat _ _ _ _

theorem uses_concat (s : Session) (requests : List Request) (q : Request) :
    s.uses (requests ++ [q]) = ((s.after requests).use q).toList ++ s.uses requests := by
  induction requests generalizing s with
  | nil => simp [uses, after]
  | cons p requests ih =>
    rw [List.cons_append, uses, ih, uses, List.append_assoc]
    rfl

theorem Faithful.use_key (h : s.Faithful) (q : Request) :
    (s.use q).map Prod.fst = s.settings.used s.registry q := by
  unfold use Settings.used
  cases hq : q.text? with
  | none => rfl
  | some text =>
    have hparse := h.parse_result text
    simp only [Option.bind_some, ← hparse]
    cases (s.parse text).2.result <;> rfl

/-- The keys that are used are told by the requests alone. -/
theorem Faithful.keys_uses (h : s.Faithful) (requests : List Request) :
    Assoc.keys (s.uses requests) = s.settings.usedIn s.registry requests := by
  induction requests generalizing s with
  | nil => rfl
  | cons q requests ih =>
    obtain ⟨hsettings, hregistry⟩ := step_keeps s q
    have hrest := ih (h.step q)
    rw [hsettings, hregistry] at hrest
    rw [uses, Settings.usedIn, Assoc.keys, List.map_append, ← h.use_key, ← hrest]
    cases s.use q <;> rfl

theorem capacity_after (s : Session) (requests : List Request) :
    (s.after requests).cache.capacity = s.cache.capacity := by
  induction requests using List.reverseRecOn with
  | nil => rfl
  | append_singleton requests q ih => rw [after_concat, (counted _ q).capacity, ih]

theorem holds_after (h : s.cache.Holds []) (requests : List Request) :
    (s.after requests).cache.Holds (s.uses requests) := by
  induction requests using List.reverseRecOn with
  | nil => exact h
  | append_singleton requests q ih =>
    rw [after_concat, uses_concat]
    exact holds_step ih q

theorem total_after (s : Session) (requests : List Request) :
    (s.after requests).cache.hits + (s.after requests).cache.misses =
      s.cache.hits + s.cache.misses + requests.countP (·.text?.isSome) := by
  induction requests using List.reverseRecOn with
  | nil => rfl
  | append_singleton requests q ih =>
    rw [after_concat, (counted _ q).total, ih, List.countP_append, List.countP_singleton]
    omega

theorem hits_after_of_no_room (room : s.cache.capacity = 0) (holds : s.cache.Holds [])
    (requests : List Request) : (s.after requests).cache.hits = s.cache.hits := by
  induction requests using List.reverseRecOn with
  | nil => rfl
  | append_singleton requests q ih =>
    rw [after_concat, ← ih]
    cases asks : q.text? with
    | none => rw [(step_of_silent asks).1]
    | some text =>
      refine ((counted _ q).misses (by rw [asks]; rfl) ?_).2
      rw [hits_iff asks, (holds_after holds requests).touch?_isSome_iff, capacity_after, room]
      simp

/-- Trees that are read get higher and higher numbers. -/
theorem serial_lt_built (holds : s.cache.Holds []) (requests : List Request) :
    ∀ u ∈ s.uses requests, u.2.serial < (s.after requests).built := by
  induction requests using List.reverseRecOn with
  | nil =>
    intro u hu
    cases hu
  | append_singleton requests q ih =>
    rw [uses_concat, after_concat]
    cases asks : q.text? with
    | none =>
      obtain ⟨-, built, use⟩ := @step_of_silent (s.after requests) q asks
      rwa [built, use]
    | some text =>
      cases (s.after requests).taken asks with
      | recalled found built use =>
        have hmem := List.mem_of_find?_eq_some ((holds_after holds requests).find? found)
        rw [built, use]
        exact List.forall_mem_cons.2 ⟨ih _ hmem, ih⟩
      | failed missing cache built use => rwa [built, use]
      | read missing cache built use =>
        rw [built, use]
        exact List.forall_mem_cons.2 ⟨Nat.lt_succ_self _, fun u hu => Nat.lt_succ_of_lt (ih u hu)⟩

/-- A tree that was read at some time of a run, and that its key has stood for since then. -/
def Standing (s : Session) (requests : List Request) (k : ParseKey) (tree : Parsed) : Prop :=
  ∃ before q later, requests = before ++ q :: later ∧ ¬ (s.after before).Hits q ∧
    (s.after before).use q = some (k, tree) ∧
    ∀ u ∈ (s.after (before ++ [q])).uses later, u.1 = k → u.2 = tree

theorem Standing.concat {requests : List Request} {k : ParseKey} {tree : Parsed}
    (h : s.Standing requests k tree)
    (hq : ∀ u, (s.after requests).use q = some u → u.1 = k → u.2 = tree) :
    s.Standing (requests ++ [q]) k tree := by
  obtain ⟨before, p, later, rfl, hmiss, huse, hlater⟩ := h
  refine ⟨before, p, later ++ [q], by simp, hmiss, huse, ?_⟩
  intro u hu hk
  have hafter : (s.after (before ++ [p])).after later = s.after (before ++ p :: later) := by
    unfold after
    rw [← List.foldl_append, List.append_assoc]
    rfl
  rw [uses_concat, hafter, List.mem_append] at hu
  rcases hu with hu | hu
  · exact hq u (by simpa using hu) hk
  · exact hlater u hu hk

/-- What the last use of a key gave is what was read for it. -/
theorem standing_of_find? (holds : s.cache.Holds []) {requests : List Request} {k : ParseKey}
    {tree : Parsed} (h : (s.uses requests).find? (·.1 == k) = some (k, tree)) :
    s.Standing requests k tree := by
  induction requests using List.reverseRecOn generalizing k tree with
  | nil => cases h
  | append_singleton requests q ih =>
    rw [uses_concat] at h
    cases asks : q.text? with
    | none =>
      obtain ⟨-, -, use⟩ := @step_of_silent (s.after requests) q asks
      exact (ih (by simpa [use] using h)).concat (by simp [use])
    | some text =>
      by_cases hk : (s.after requests).settings.key (s.after requests).registry text = k
      · have htaken := (s.after requests).taken asks
        rw [hk] at htaken
        cases htaken with
        | @recalled tree' found _ use =>
          obtain rfl : tree' = tree := by simpa [use] using h
          exact (ih ((holds_after holds requests).find? found)).concat (by simp [use])
        | failed _ _ _ use => exact (ih (by simpa [use] using h)).concat (by simp [use])
        | read missing _ _ use =>
          obtain rfl : _ = tree := by simpa [use] using h
          have hmiss : ¬ (s.after requests).Hits q := by simp [hits_iff asks, hk, missing]
          exact ⟨requests, q, [], rfl, hmiss, use, by simp [uses]⟩
      · -- whatever another key gives, this one still stands for its tree
        have hother : ∀ u, (s.after requests).use q = some u → u.1 ≠ k :=
          fun u hu heq => hk ((key_of_use asks hu).symm.trans heq)
        refine (ih ?_).concat fun u hu heq => absurd heq (hother u hu)
        cases huse : (s.after requests).use q with
        | none => simpa [huse] using h
        | some u => simpa [huse, hother u huse] using h

theorem recalled_of_hits (holds : s.cache.Holds []) {requests : List Request}
    (asks : q.text? = some text) (hit : (s.after requests).Hits q) :
    ∃ tree, (s.after requests).use q =
        some ((s.after requests).settings.key (s.after requests).registry text, tree) ∧
      s.Standing requests ((s.after requests).settings.key (s.after requests).registry text)
        tree := by
  rw [hits_iff asks] at hit
  cases (s.after requests).taken asks with
  | recalled found _ use =>
    exact ⟨_, use, standing_of_find? holds ((holds_after holds requests).find? found)⟩
  | failed missing => simp [missing] at hit
  | read missing => simp [missing] at hit

theorem serial_eq_built {k : ParseKey} {tree : Parsed} (miss : ¬ s.Hits q)
    (hq : s.use q = some (k, tree)) : tree.serial = s.built := by
  obtain ⟨text, asks, -⟩ := Option.bind_eq_some_iff.1 hq
  cases s.taken asks with
  | recalled found => exact absurd ((hits_iff asks).2 (by simp [found])) miss
  | failed _ _ _ use => simp [use] at hq
  | read _ _ _ use =>
    rw [use] at hq
    cases hq
    rfl

theorem Faithful.failed (h : s.Faithful) {e : ParseError} (asks : q.text? = some text)
    (he : ((s.settings.reading s.registry).parse text).result = .error e) :
    ¬ s.Hits q ∧ (s.step q).cache = s.cache.miss := by
  have huse : s.use q = none := by
    rw [use, asks, Option.bind_some, h.parse_error he]
    rfl
  cases s.taken asks with
  | recalled _ _ use => simp [huse] at use
  | failed missing cache => exact ⟨by simp [hits_iff asks, missing], cache⟩
  | read _ _ _ use => simp [huse] at use

/-- A request hits if its key was used, and since then fewer others than there is room for. -/
theorem Faithful.hits_after_iff (h : s.Faithful) (holds : s.cache.Holds [])
    (requests : List Request) (asks : q.text? = some text) :
    (s.after requests).Hits q ↔
      s.settings.key (registryAfter s.registry requests) text ∈
          s.settings.usedIn s.registry requests ∧
        Cache.distance (s.settings.key (registryAfter s.registry requests) text)
          (s.settings.usedIn s.registry requests) < s.cache.capacity := by
  obtain ⟨hsettings, hregistry⟩ := after_keeps s requests
  rw [hits_iff asks, (holds_after holds requests).touch?_isSome_iff, capacity_after, h.keys_uses,
    hsettings, hregistry]

/-- Registering makes no request miss if the names are old or do not matter. -/
theorem Faithful.hits_register_iff (h : s.Faithful) (holds : s.cache.Holds [])
    (requests : List Request) {items : List Supplied}
    (hold : s.settings.parser.unknownTypes = .accept ∨
      ∀ p, .plugin p ∈ items → Registered (registryAfter s.registry requests) p.name)
    (asks : q.text? = some text) :
    (s.after (requests ++ [.register items])).Hits q ↔ (s.after requests).Hits q := by
  have hkey : s.settings.key (registryAfter s.registry (requests ++ [.register items])) text =
      s.settings.key (registryAfter s.registry requests) text := by
    rw [registryAfter_append]
    exact Settings.key_register hold text
  rw [h.hits_after_iff holds _ asks, h.hits_after_iff holds _ asks, Settings.usedIn_register, hkey]

/-- A new name that matters is in no key that was used, so it makes every request miss. -/
theorem Faithful.not_hits_register (h : s.Faithful) (holds : s.cache.Holds [])
    (requests : List Request) {items : List Supplied} {name : String}
    (reject : s.settings.parser.unknownTypes = .reject)
    (hnew : Registered (registryAfter s.registry (requests ++ [.register items])) name)
    (hold : ¬ Registered (registryAfter s.registry requests) name) (asks : q.text? = some text) :
    ¬ (s.after (requests ++ [.register items])).Hits q := by
  rw [h.hits_after_iff holds _ asks, Settings.usedIn_register]
  rintro ⟨hused, -⟩
  exact hold (Settings.registered_of_mem_usedIn hused (Settings.mem_known_key.2 ⟨reject, hnew⟩))

/-- What a session remembers after some requests: it counts them, keeps as many trees as there is
room for, and which ones is told by the keys that the requests used. -/
structure Remembers (c : Settings) (r : Option Registry) (s : Session) (requests : List Request) :
    Prop where
  total : (s.after requests).cache.hits + (s.after requests).cache.misses =
    requests.countP (·.text?.isSome)
  bounded : (s.after requests).cache.entries.length ≤ c.parser.cacheSize
  size : (s.after requests).cache.entries.length =
    min c.parser.cacheSize (c.usedIn r requests).toFinset.card
  disabled : c.parser.cacheSize = 0 → (s.after requests).cache.hits = 0
  /-- A request hits if its key was used, and since then fewer others than there is room for. -/
  hits : ∀ q text, q.text? = some text → ((s.after requests).Hits q ↔
    c.key (registryAfter r requests) text ∈ c.usedIn r requests ∧
      Cache.distance (c.key (registryAfter r requests) text) (c.usedIn r requests) <
        c.parser.cacheSize)
  misses : ∀ q, q.text?.isSome = true → ¬ (s.after requests).Hits q →
    ((s.after requests).step q).cache.misses = (s.after requests).cache.misses + 1 ∧
      ((s.after requests).step q).cache.hits = (s.after requests).cache.hits
  /-- A hit gives the very tree that was read for the key. -/
  recalled : ∀ q text, q.text? = some text → (s.after requests).Hits q → ∃ tree,
    (s.after requests).use q = some (c.key (registryAfter r requests) text, tree) ∧
      s.Standing requests (c.key (registryAfter r requests) text) tree
  /-- A tree that is read is told apart from all that were given before. -/
  fresh : ∀ q k tree, ¬ (s.after requests).Hits q → (s.after requests).use q = some (k, tree) →
    ∀ u ∈ s.uses requests, u.2.serial < tree.serial
  failed : ∀ q text e, q.text? = some text →
    ((c.reading (registryAfter r requests)).parse text).result = .error e →
    ¬ (s.after requests).Hits q ∧
      ((s.after requests).step q).cache = (s.after requests).cache.miss
  /-- Registering makes no request miss if the names are old or do not matter. -/
  replaced : ∀ items,
    (c.parser.unknownTypes = .accept ∨
      ∀ p, .plugin p ∈ items → Registered (registryAfter r requests) p.name) →
    ∀ q text, q.text? = some text →
      ((s.after (requests ++ [.register items])).Hits q ↔ (s.after requests).Hits q)
  /-- A new name that matters makes every request miss. -/
  extended : ∀ items name, c.parser.unknownTypes = .reject →
    Registered (registryAfter r (requests ++ [.register items])) name →
    ¬ Registered (registryAfter r requests) name →
    ∀ q text, q.text? = some text → ¬ (s.after (requests ++ [.register items])).Hits q

/-- Whatever is asked of a session, what it recalls is told by the requests alone. -/
theorem remembers_of_start {c : Settings} {r : Option Registry} (h : start c r = .ok s)
    (requests : List Request) : Remembers c r s requests := by
  have hfaithful := faithful_of_start h
  obtain ⟨rfl, rfl, hcapacity, hzero, hempty⟩ : s.settings = c ∧ s.registry = r ∧
      s.cache.capacity = c.parser.cacheSize ∧ s.cache.hits + s.cache.misses = 0 ∧
      s.cache.Holds [] := by
    obtain ⟨-, rfl⟩ := start_eq_ok.1 h
    exact ⟨rfl, rfl, rfl, rfl, List.take_nil.symm⟩
  obtain ⟨hsettings, hregistry⟩ := after_keeps s requests
  have hlength := (holds_after hempty requests).length
  rw [capacity_after, hcapacity, hfaithful.keys_uses] at hlength
  constructor
  · rw [total_after, hzero, Nat.zero_add]
  · omega
  · exact hlength
  · intro hsize
    have hits := hits_after_of_no_room (hcapacity.trans hsize) hempty requests
    omega
  · intro q text hq
    rw [hfaithful.hits_after_iff hempty requests hq, hcapacity]
  · intro q hq
    exact (counted _ q).misses hq
  · intro q text hq hit
    have hrecalled := recalled_of_hits hempty hq hit
    rwa [hsettings, hregistry] at hrecalled
  · intro q k tree miss use u hu
    rw [serial_eq_built miss use]
    exact serial_lt_built hempty requests u hu
  · intro q text e hq he
    rw [← hsettings, ← hregistry] at he
    exact (hfaithful.after requests).failed hq he
  · intro items hold q text hq
    exact hfaithful.hits_register_iff hempty requests hold hq
  · intro items name reject hnew hold q text hq
    exact hfaithful.not_hits_register hempty requests reject hnew hold hq

/-- A request that fails in between, and a third key in a cache with room for two. -/
theorem remembers_of_start_full :
    let c : Settings := { parser := { strictSyntax := true, cacheSize := 2 } }
    let requests : List Request :=
      [.parse "a: any", .parse "b: any", .validate "a: any" .null, .parse ":", .parse "c: any"]
    ∃ s, start c none = .ok s ∧ (s.after requests).cache.entries.length = 2 ∧
      (s.after requests).Hits (.parse "a: any") ∧ ¬ (s.after requests).Hits (.parse "b: any") := by
  intro c requests
  have hstart : start c none = .ok ⟨c, none, ⟨2, [], 0, 0⟩, 0⟩ := rfl
  have hused : c.usedIn none requests =
      [⟨"c: any", []⟩, ⟨"a: any", []⟩, ⟨"b: any", []⟩, ⟨"a: any", []⟩] := by rfl
  have h := remembers_of_start hstart requests
  refine ⟨_, hstart, ?_, ?_, ?_⟩
  · rw [h.size, hused]
    decide
  · rw [h.hits _ _ rfl, hused]
    decide
  · rw [h.hits _ _ rfl, hused]
    decide

end Session

end Conform
