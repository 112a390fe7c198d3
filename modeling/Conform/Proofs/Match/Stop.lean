import Conform.Proofs.Match.Walk

/-! How a walk ends. Where the type looks into a mapping that is broken it cannot go on, nor where what
decides about a name does not come to an answer. These places are come to in their order, and the first
one stops the walk. If there is none, the walk comes to its end. -/

namespace Conform.Schema

open Match

def LooksInto (τ : TypeExpr) (v : Value) (path : Path) (message : String) : Prop :=
  ∃ ps, ps ≠ [] ∧ Reaches τ v path (.object ps) (.brokenMap message)

/-- A walk cannot go on from a value: a property of a broken mapping is looked up, or what decides about
a name ends in a fault. -/
inductive Stop (m : Matcher) : TypeExpr → Value → Fault → Prop
  | broken {ps : Definition} {message : String} (asked : ps ≠ []) :
      Stop m (.object ps) (.brokenMap message) (.ordinary .recursion message)
  | check {name : String} {v : Value} {fault : Fault}
      (h : (m.checkNamed name v).result = .error fault) : Stop m (.named name) v fault

def Stops (m : Matcher) (τ : TypeExpr) (v : Value) (path : Path) (fault : Fault) : Prop :=
  ∃ σ w, Reaches τ v path σ w ∧ Stop m σ w fault

structure FirstStop (m : Matcher) (τ : TypeExpr) (v : Value) (path : Path) (fault : Fault) :
    Prop where
  stops : Stops m τ v path fault
  first : ∀ path' fault', Stops m τ v path' fault' →
    path' = path ∧ fault' = fault ∨ place τ path < place τ path'

theorem FirstStop.eq {m : Matcher} {τ : TypeExpr} {v : Value} {path path' : Path}
    {fault fault' : Fault} (h : FirstStop m τ v path fault) (h' : FirstStop m τ v path' fault') :
    path = path' ∧ fault = fault' := by
  rcases h'.first path fault h.stops with heq | hlt
  · exact heq
  rcases h.first path' fault' h'.stops with ⟨rfl, rfl⟩ | hlt'
  · exact ⟨rfl, rfl⟩
  · exact absurd (List.lt_trans hlt hlt') (List.lt_irrefl _)

section Cases

variable {m : Matcher} {v : Value} {path : Path} {fault : Fault}

theorem isMapping_of_field? {name : String} {x : Value} (h : v.field? name = some x) :
    v.isMapping = true := by
  unfold Value.field? Value.entries? at h
  split at h
  · rfl
  · rfl
  · cases h

theorem stops_named_iff {name : String} :
    Stops m (.named name) v path fault ↔
      path = [] ∧ (m.checkNamed name v).result = .error fault := by
  constructor
  · rintro ⟨σ, w, hreach, hstop⟩
    cases hreach with
    | here =>
      cases hstop with
      | check h => exact ⟨rfl, h⟩
  · rintro ⟨rfl, h⟩
    exact ⟨_, v, .here, .check h⟩

theorem stops_array_iff {item : TypeExpr} :
    Stops m (.array item) v path fault ↔
      ∃ xs i x inner, v.items? = some xs ∧ xs[i]? = some x ∧ path = .item i :: inner ∧
        Stops m item x inner fault := by
  constructor
  · rintro ⟨σ, w, hreach, hstop⟩
    cases hreach with
    | here => cases hstop
    | item hv hx rest => exact ⟨_, _, _, _, hv, hx, rfl, σ, w, rest, hstop⟩
  · rintro ⟨xs, i, x, inner, hv, hx, rfl, σ, w, rest, hstop⟩
    exact ⟨σ, w, .item hv hx rest, hstop⟩

theorem stops_object_iff {ps : Definition} :
    Stops m (.object ps) v path fault ↔
      (path = [] ∧ Stop m (.object ps) v fault) ∨
        ∃ e ∈ ps, ∃ x inner, v.field? e.1 = some x ∧ path = .field e.1 :: inner ∧
          Stops m e.2.type x inner fault := by
  constructor
  · rintro ⟨σ, w, hreach, hstop⟩
    cases hreach with
    | here => exact .inl ⟨rfl, hstop⟩
    | field hv hp hx rest => exact .inr ⟨_, hp, _, _, hx, rfl, σ, w, rest, hstop⟩
  · rintro (⟨rfl, hstop⟩ | ⟨e, he, x, inner, hx, rfl, σ, w, rest, hstop⟩)
    · exact ⟨_, v, .here, hstop⟩
    · exact ⟨σ, w, .field (isMapping_of_field? hx) he hx rest, hstop⟩

theorem stop_object_iff {ps : Definition} :
    Stop m (.object ps) v fault ↔
      ps ≠ [] ∧ ∃ message, v = .brokenMap message ∧ fault = .ordinary .recursion message := by
  constructor
  · intro h
    cases h with
    | broken asked => exact ⟨asked, _, rfl, rfl⟩
  · rintro ⟨asked, message, rfl, rfl⟩
    exact .broken asked

theorem mapping_cases (h : v.isMapping = true) :
    (∃ es, v.entries? = some es) ∨ ∃ message, v = .brokenMap message := by
  unfold Value.isMapping at h
  split at h
  · exact .inl ⟨_, rfl⟩
  · exact .inl ⟨_, rfl⟩
  · exact .inr ⟨_, rfl⟩
  · cases h

/-- A path that goes on goes on from where its beginning leads. -/
theorem Reaches.of_append {τ σ ρ : TypeExpr} {w x : Value} {inner : Path} (distinct : Distinct τ)
    (h : Reaches τ v path σ w) (h' : Reaches τ v (path ++ inner) ρ x) : Reaches σ w inner ρ x := by
  induction h with
  | here => exact h'
  | @field ps v name spec y path σ w hv hp hy rest ih =>
    cases distinct with | object names types =>
    cases h' with
    | @field _ _ _ spec' y' _ _ _ _ hp' hy' rest' =>
      obtain rfl : spec = spec' := by
        have hget := Assoc.get?_eq_some_of_mem names hp
        rw [Assoc.get?_eq_some_of_mem names hp'] at hget
        exact (Option.some.inj hget).symm
      obtain rfl : y = y' := Option.some.inj (hy.symm.trans hy')
      exact ih (types _ hp) rest'
  | @item item v xs i y path σ w hv hy rest ih =>
    cases distinct with | array hitem =>
    cases h' with
    | @item _ _ xs' _ y' _ _ _ hv' hy' rest' =>
      obtain rfl : xs = xs' := Option.some.inj (hv.symm.trans hv')
      obtain rfl : y = y' := Option.some.inj (hy.symm.trans hy')
      exact ih hitem rest'

inductive Blind : TypeExpr → Value → Prop
  | named {name : String} {v : Value} : Blind (.named name) v
  | empty {v : Value} : Blind (.object []) v
  | array {item : TypeExpr} {v : Value} (hv : v.items? = none) : Blind (.array item) v

theorem Blind.not_looksInto {τ : TypeExpr} {message : String} (h : Blind τ v) :
    ¬ LooksInto τ v path message := by
  rintro ⟨ps, hne, hreach⟩
  cases h with
  | named => cases hreach
  | empty =>
    cases hreach with
    | here => exact hne rfl
    | field _ hp => cases hp
  | array hv =>
    cases hreach with
    | item hv' => cases hv.symm.trans hv'

/-- Where the type asks for nothing, nothing is looked into, and no deeper down. -/
theorem not_looksInto_of_blind {τ σ : TypeExpr} {w : Value} {message : String}
    (distinct : Distinct τ) (h : Reaches τ v path σ w) (blind : Blind σ w) (inner : Path) :
    ¬ LooksInto τ v (path ++ inner) message := by
  rintro ⟨ps, hne, hreach⟩
  exact blind.not_looksInto ⟨ps, hne, h.of_append distinct hreach⟩

theorem property_eq_ok_of_entries {es : List (Value × Value)} (h : v.entries? = some es)
    (name : String) : Matcher.property v name = .ok (v.field? name) := by
  cases v with
  | brokenMap message => cases h
  | _ => rfl

end Cases

/-- A walk stops at the first place from which it cannot go on, or comes to its end. -/
inductive Ends (m : Matcher) (τ : TypeExpr) (v : Value) (walk : Matcher.Walk) : Prop
  | whole {problems : List Problem} (clear : ∀ path fault, ¬ Stops m τ v path fault)
      (h : walk.result = .ok problems) : Ends m τ v walk
  | stopped {path : Path} {fault : Fault} (first : FirstStop m τ v path fault)
      (h : walk.result = .error fault) : Ends m τ v walk

structure Part where
  step : Step
  type : TypeExpr
  value : Value

inductive PartsEnd (m : Matcher) (parts : List Part) (walk : Matcher.Walk) : Prop
  | whole {problems : List Problem}
      (clear : ∀ part ∈ parts, ∀ path fault, ¬ Stops m part.type part.value path fault)
      (h : walk.result = .ok problems) : PartsEnd m parts walk
  | stopped (before after : List Part) {part : Part} {path : Path} {fault : Fault}
      (hparts : parts = before ++ part :: after)
      (clear : ∀ other ∈ before, ∀ path fault, ¬ Stops m other.type other.value path fault)
      (first : FirstStop m part.type part.value path fault)
      (h : walk.result = .error fault) : PartsEnd m parts walk

theorem bind_walk_result {first : Matcher.Walk} {here : List Problem} (h : first.result = .ok here)
    (rest : Matcher.Walk) :
    (do let here ← first; let others ← rest; pure (here ++ others)).result =
      rest.result.map (here ++ ·) := by
  rw [Journal.bind_result, h]
  show (rest >>= _).result = _
  rw [Journal.bind_result]
  cases rest.result <;> rfl

theorem PartsEnd.skip {m : Matcher} {parts : List Part} {first rest : Matcher.Walk}
    {here : List Problem} (hfirst : first.result = .ok here) (hrest : PartsEnd m parts rest) :
    PartsEnd m parts (do let here ← first; let others ← rest; pure (here ++ others)) := by
  have hresult := bind_walk_result hfirst rest
  cases hrest with
  | whole clear h => exact .whole clear (by rw [hresult, h]; rfl)
  | stopped before after hparts clear stop h =>
    exact .stopped before after hparts clear stop (by rw [hresult, h]; rfl)

theorem PartsEnd.cons {m : Matcher} (part : Part) {parts : List Part} {first rest : Matcher.Walk}
    (hfirst : Ends m part.type part.value first) (hrest : PartsEnd m parts rest) :
    PartsEnd m (part :: parts) (do let here ← first; let others ← rest; pure (here ++ others)) := by
  cases hfirst with
  | stopped stop h =>
    refine .stopped [] parts rfl (by simp) stop ?_
    rw [Journal.bind_result, h]
    rfl
  | whole clear h =>
    cases hrest.skip h with
    | whole others h => exact .whole (List.forall_mem_cons.2 ⟨clear, others⟩) h
    | stopped before after hparts others stop h =>
      refine .stopped (part :: before) after (by rw [hparts]; rfl) ?_ stop h
      exact List.forall_mem_cons.2 ⟨clear, others⟩

/-- The walk through the parts of a value is the walk through the value, if nothing else can stop it
and the places of the parts are in order. -/
theorem PartsEnd.ends {m : Matcher} {τ : TypeExpr} {v : Value} {parts : List Part}
    {walk : Matcher.Walk} (h : PartsEnd m parts walk)
    (stops : ∀ path fault, Stops m τ v path fault ↔
      ∃ part ∈ parts, ∃ inner, path = part.step :: inner ∧
        Stops m part.type part.value inner fault)
    (rank : Step → Nat)
    (hplace : ∀ part ∈ parts, ∀ inner,
      place τ (part.step :: inner) = rank part.step :: place part.type inner)
    (ordered : parts.Pairwise fun p q => rank p.step < rank q.step) : Ends m τ v walk := by
  cases h with
  | whole clear h =>
    refine .whole (fun path fault hstops => ?_) h
    obtain ⟨part, hpart, inner, -, hinner⟩ := (stops path fault).1 hstops
    exact clear part hpart inner fault hinner
  | @stopped before after part path fault hparts clear stop h =>
    have hpart : part ∈ parts := by simp [hparts]
    refine .stopped ⟨(stops (part.step :: path) fault).2 ⟨part, hpart, path, rfl, stop.stops⟩,
      fun path' fault' hstops => ?_⟩ h
    obtain ⟨other, hother, inner, rfl, hinner⟩ := (stops path' fault').1 hstops
    rw [hplace part hpart, hplace other hother, List.cons_lt_cons_iff]
    rw [hparts] at hother ordered
    rcases List.mem_append.1 hother with hbefore | hother
    · exact absurd hinner (clear other hbefore inner fault')
    rcases List.mem_cons.1 hother with rfl | hafter
    · rcases stop.first inner fault' hinner with ⟨rfl, rfl⟩ | hlt
      · exact .inl ⟨rfl, rfl⟩
      · exact .inr (.inr ⟨rfl, hlt⟩)
    · exact .inr (.inl ((List.pairwise_cons.1 (List.pairwise_append.1 ordered).2.1).1 other hafter))

def itemParts (item : TypeExpr) : Nat → List Value → List Part
  | _, [] => []
  | i, x :: xs => ⟨.item i, item, x⟩ :: itemParts item (i + 1) xs

theorem mem_itemParts {item : TypeExpr} {i : Nat} {xs : List Value} {part : Part} :
    part ∈ itemParts item i xs ↔ ∃ j x, xs[j]? = some x ∧ part = ⟨.item (i + j), item, x⟩ := by
  induction xs generalizing i with
  | nil => simp [itemParts]
  | cons x xs ih =>
    rw [itemParts, List.mem_cons, ih]
    constructor
    · rintro (rfl | ⟨j, y, hy, rfl⟩)
      · exact ⟨0, x, rfl, rfl⟩
      · exact ⟨j + 1, y, hy, by rw [Nat.add_assoc, Nat.add_comm 1 j]⟩
    · rintro ⟨_ | j, y, hy, rfl⟩
      · cases hy
        exact .inl rfl
      · exact .inr ⟨j, y, hy, by rw [Nat.add_assoc, Nat.add_comm 1 j]⟩

def propertyParts (v : Value) (ps : Definition) : List Part :=
  ps.filterMap fun e => (v.field? e.1).map fun x => ⟨.field e.1, e.2.type, x⟩

theorem mem_propertyParts {v : Value} {ps : Definition} {part : Part} :
    part ∈ propertyParts v ps ↔
      ∃ e ∈ ps, ∃ x, v.field? e.1 = some x ∧ part = ⟨.field e.1, e.2.type, x⟩ := by
  rw [propertyParts, List.mem_filterMap]
  simp only [Option.map_eq_some_iff]
  constructor
  · rintro ⟨e, he, x, hx, rfl⟩
    exact ⟨e, he, x, hx, rfl⟩
  · rintro ⟨e, he, x, hx, rfl⟩
    exact ⟨e, he, x, hx, rfl⟩

def rank (ps : Definition) : Step → Nat
  | .field name => (Assoc.keys ps).idxOf name
  | .item i => i

theorem itemParts_ordered (item : TypeExpr) (i : Nat) (xs : List Value) :
    (itemParts item i xs).Pairwise fun p q => rank [] p.step < rank [] q.step := by
  induction xs generalizing i with
  | nil => exact .nil
  | cons x xs ih =>
    refine List.pairwise_cons.2 ⟨fun part hpart => ?_, ih (i + 1)⟩
    obtain ⟨j, y, -, rfl⟩ := mem_itemParts.1 hpart
    show i < i + 1 + j
    omega

theorem propertyParts_ordered {v : Value} {ps : Definition} (names : (Assoc.keys ps).Nodup) :
    (propertyParts v ps).Pairwise fun p q => rank ps p.step < rank ps q.step := by
  have hps : ps.Pairwise fun e f => (Assoc.keys ps).idxOf e.1 < (Assoc.keys ps).idxOf f.1 := by
    suffices ∀ done rest, ps = done ++ rest →
        rest.Pairwise fun e f => (Assoc.keys ps).idxOf e.1 < (Assoc.keys ps).idxOf f.1 from
      this [] ps rfl
    intro done rest hsplit
    induction rest generalizing done with
    | nil => exact .nil
    | cons e rest ih =>
      refine List.pairwise_cons.2 ⟨fun f hf => ?_, ih (done ++ [e]) (by simpa using hsplit)⟩
      rw [hsplit] at names ⊢
      obtain ⟨he, hrest⟩ := idxOf_declared names
      exact he ▸ hrest f hf
  refine hps.filterMap _ fun e f hef part hpart other hother => ?_
  obtain ⟨x, -, rfl⟩ := Option.map_eq_some_iff.1 hpart
  obtain ⟨y, -, rfl⟩ := Option.map_eq_some_iff.1 hother
  exact hef

section Walks

variable {m : Matcher} {v : Value}

theorem items_partsEnd {item : TypeExpr} {walk : Path → Value → Matcher.Walk} {xs : List Value}
    (h : ∀ x ∈ xs, ∀ outer, Ends m item x (walk outer x)) (outer : Path) (i : Nat) :
    PartsEnd m (itemParts item i xs) (Matcher.items walk outer i xs) := by
  induction xs generalizing i with
  | nil => exact .whole (by simp [itemParts]) rfl
  | cons x xs ih =>
    obtain ⟨hx, hxs⟩ := List.forall_mem_cons.1 h
    exact PartsEnd.cons ⟨.item i, item, x⟩ (hx _) (ih hxs (i + 1))

theorem properties_partsEnd {es : List (Value × Value)} (hv : v.entries? = some es)
    {ps : Definition}
    (h : ∀ e ∈ ps, ∀ x, v.field? e.1 = some x →
      ∀ outer, Ends m e.2.type x (m.walkType e.2.type outer x)) (outer : Path) :
    PartsEnd m (propertyParts v ps) (m.walkProperties ps outer v) := by
  induction ps with
  | nil => exact .whole (by simp [propertyParts]) rfl
  | cons e ps ih =>
    obtain ⟨he, hps⟩ := List.forall_mem_cons.1 h
    rw [walkProperties_cons (property_eq_ok_of_entries hv e.1), propertyParts]
    cases hx : v.field? e.1 with
    | none =>
      rw [List.filterMap_cons_none (by rw [hx]; rfl)]
      exact (ih hps).skip rfl
    | some x =>
      rw [List.filterMap_cons_some (by rw [hx]; rfl)]
      exact PartsEnd.cons ⟨.field e.1, e.2.type, x⟩ (he x hx _) (ih hps)

theorem checkNamed_ends (name : String) (outer : Path) :
    Ends m (.named name) v (m.walkType (.named name) outer v) := by
  rw [Matcher.walkType]
  cases hr : (m.checkNamed name v).result with
  | error fault =>
    refine .stopped ⟨stops_named_iff.2 ⟨rfl, hr⟩, fun path' fault' hstops => .inl ?_⟩
      (by rw [Journal.bind_result, hr]; rfl)
    obtain ⟨rfl, h⟩ := stops_named_iff.1 hstops
    exact ⟨rfl, Except.error.inj (h.symm.trans hr)⟩
  | ok b =>
    have hresult : ∃ problems, (do
        if ← m.checkNamed name v then pure []
        else pure [.mismatch outer (.named name) v.shape] : Matcher.Walk).result = .ok problems := by
      rw [Journal.bind_result, hr]
      cases b <;> exact ⟨_, rfl⟩
    obtain ⟨problems, hproblems⟩ := hresult
    refine .whole (fun path fault hstops => ?_) hproblems
    cases hr.symm.trans (stops_named_iff.1 hstops).2

theorem brokenMap_ends {ps : Definition} (message : String) (outer : Path) :
    Ends m (.object ps) (.brokenMap message) (m.walkProperties ps outer (.brokenMap message)) := by
  have here {path : Path} {fault : Fault} : Stops m (.object ps) (.brokenMap message) path fault ↔
      path = [] ∧ ps ≠ [] ∧ fault = .ordinary .recursion message := by
    rw [stops_object_iff, stop_object_iff]
    simp [Value.field?, Value.entries?]
  cases ps with
  | nil => exact .whole (fun path fault hstops => (here.1 hstops).2.1 rfl) rfl
  | cons e ps =>
    refine .stopped ⟨here.2 ⟨rfl, by simp, rfl⟩, fun path' fault' hstops => .inl ?_⟩ rfl
    obtain ⟨rfl, -, rfl⟩ := here.1 hstops
    exact ⟨rfl, rfl⟩

/-- A walk ends at its first stop, if there is one. -/
theorem walkType_ends {τ : TypeExpr} (distinct : Distinct τ) (outer : Path) :
    Ends m τ v (m.walkType τ outer v) := by
  induction τ using TypeExpr.induction generalizing v outer with
  | named name => exact checkNamed_ends name outer
  | array item ih =>
    cases distinct with | array hitem =>
    rw [Matcher.walkType]
    cases hv : v.items? with
    | none =>
      refine .whole (fun path fault hstops => ?_) rfl
      obtain ⟨xs, _, _, _, hxs, -⟩ := stops_array_iff.1 hstops
      rw [hv] at hxs
      cases hxs
    | some xs =>
      refine (items_partsEnd (fun x _ outer => ih hitem outer) outer 0).ends ?_ (rank []) ?_
        (itemParts_ordered item 0 xs)
      · intro path fault
        simp [stops_array_iff, mem_itemParts, hv]
      · intro part hpart inner
        obtain ⟨j, x, -, rfl⟩ := mem_itemParts.1 hpart
        rfl
  | object ps ih =>
    cases distinct with | object names types =>
    rw [Matcher.walkType]
    cases hv : v.isMapping with
    | false =>
      refine .whole (fun path fault hstops => ?_) rfl
      rcases stops_object_iff.1 hstops with ⟨-, hstop⟩ | ⟨e, -, x, -, hx, -⟩
      · obtain ⟨-, message, rfl, -⟩ := stop_object_iff.1 hstop
        cases hv
      · rw [isMapping_of_field? hx] at hv
        cases hv
    | true =>
      rcases mapping_cases hv with ⟨es, hes⟩ | ⟨message, rfl⟩
      · refine (properties_partsEnd hes (fun e he x _ outer => ih e he (types e he) outer) outer).ends
          ?_ (rank ps) ?_ (propertyParts_ordered names)
        · intro path fault
          rw [stops_object_iff]
          constructor
          · rintro (⟨-, hstop⟩ | ⟨e, he, x, inner, hx, hpath, hinner⟩)
            · obtain ⟨-, message, rfl, -⟩ := stop_object_iff.1 hstop
              cases hes
            · exact ⟨_, mem_propertyParts.2 ⟨e, he, x, hx, rfl⟩, inner, hpath, hinner⟩
          · rintro ⟨part, hpart, inner, hpath, hinner⟩
            obtain ⟨e, he, x, hx, rfl⟩ := mem_propertyParts.1 hpart
            exact .inr ⟨e, he, x, inner, hx, hpath, hinner⟩
        · intro part hpart inner
          obtain ⟨e, he, x, -, rfl⟩ := mem_propertyParts.1 hpart
          rw [place, Assoc.get?_eq_some_of_mem names he]
          rfl
      · exact brokenMap_ends message outer

end Walks

end Conform.Schema
