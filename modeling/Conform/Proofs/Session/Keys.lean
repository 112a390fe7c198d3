import Conform.Proofs.Session.Vocabulary

/-! The keys under which a session remembers trees. Which keys the requests of a run use is told
without a session: it depends on the settings and on the plugins at each time. -/

namespace Conform

open Schema Session

theorem Registry.names_register_of_mem {r : Registry} {items : List Supplied}
    (h : ∀ p, .plugin p ∈ items → p.name ∈ r.names) :
    (r.register items).registry.names = r.names := by
  induction items generalizing r with
  | nil => rfl
  | cons item items ih =>
    cases item with
    | other typeName => rfl
    | plugin p =>
      have hput : (r.put p).names = r.names :=
        Assoc.keys_upsert_of_mem (h p List.mem_cons_self) p
      have hrest := @ih (r.put p) fun p' hp' => hput ▸ h p' (List.mem_cons_of_mem _ hp')
      exact hrest.trans hput

def Session.Request.text? : Request → Option String
  | .parse text | .validate text _ => some text
  | .register _ => none

namespace Settings

/-- What the tree of a text is remembered under: the text, and the names of the plugins in order
where unknown names are rejected. -/
def key (c : Settings) (r : Option Registry) (text : String) : ParseKey :=
  ⟨text, if c.parser.unknownTypes = .reject then ((r.map Registry.names).getD []).mergeSort else []⟩

def used (c : Settings) (r : Option Registry) (q : Request) : Option ParseKey :=
  q.text?.bind fun text => ((c.reading r).parse text).result.toOption.map fun _ => c.key r text

def usedIn (c : Settings) (r : Option Registry) : List Request → List ParseKey
  | [] => []
  | q :: requests => usedIn c (q.change r) requests ++ (c.used r q).toList

variable {c : Settings} {r : Option Registry}

theorem usedIn_register (c : Settings) (r : Option Registry) (requests : List Request)
    (items : List Supplied) :
    c.usedIn r (requests ++ [.register items]) = c.usedIn r requests := by
  induction requests generalizing r with
  | nil => rfl
  | cons q requests ih => rw [List.cons_append, usedIn, ih, usedIn]

/-- A plugin of an old name leaves all keys as they are, and so does any plugin if the names do not
matter. -/
theorem key_register {items : List Supplied}
    (h : c.parser.unknownTypes = .accept ∨ ∀ p, .plugin p ∈ items → Registered r p.name)
    (text : String) : c.key (Request.change r (.register items)) text = c.key r text := by
  cases r with
  | none => rfl
  | some plugins =>
    rcases h with haccept | hold
    · simp [key, haccept]
    · have hnames : (plugins.register items).registry.names = plugins.names := by
        refine Registry.names_register_of_mem fun p hp => ?_
        obtain ⟨_, ⟨⟩, hname⟩ := hold p hp
        exact hname
      simp [key, Request.change, hnames]

theorem mem_known_key {text name : String} :
    name ∈ (c.key r text).known ↔ c.parser.unknownTypes = .reject ∧ Registered r name := by
  unfold key Registered
  cases c.parser.unknownTypes <;> cases r <;> simp

/-- The names in a key that was used are still registered. -/
theorem registered_of_mem_usedIn {requests : List Request} {k : ParseKey} {name : String}
    (hk : k ∈ c.usedIn r requests) (hname : name ∈ k.known) :
    Registered (registryAfter r requests) name := by
  induction requests generalizing r with
  | nil => cases hk
  | cons q requests ih =>
    rw [usedIn, List.mem_append] at hk
    rcases hk with hk | hk
    · exact ih hk
    · obtain ⟨text, -, hused⟩ := Option.bind_eq_some_iff.1 (Option.mem_toList.1 hk)
      obtain ⟨d, -, rfl⟩ := Option.map_eq_some_iff.1 hused
      exact (mem_known_key.1 hname).2.after (q :: requests)

end Settings

end Conform
