import Conform.Proofs.Match.Violation
import Conform.Session

/-! The walk lists the violations of a type, each once, in the order of their places. -/

namespace Conform.Schema

open Match Guard

theorem property_eq_ok {v : Value} {name : String} {x : Option Value}
    (h : Matcher.property v name = .ok x) : x = v.field? name := by
  unfold Matcher.property at h
  split at h
  · cases h
  · cases h
    rfl

/-- Nothing ends a walk before its time: no look-up of a property fails, and whatever decides about a
name comes to an answer. -/
structure Walkable (m : Matcher) (τ : TypeExpr) (v : Value) : Prop where
  lookup : ∀ path ps w, Reaches τ v path (.object ps) w →
    ∀ e ∈ ps, ∃ x, Matcher.property w e.1 = .ok x
  check : ∀ path name w, Reaches τ v path (.named name) w →
    ∀ fault, (m.checkNamed name w).result ≠ .error fault

def Before (τ : TypeExpr) (p q : Problem) : Prop := place τ p.path < place τ q.path

structure Lists (m : Matcher) (τ : TypeExpr) (v : Value) (ps : List Problem) : Prop where
  mem_iff : ∀ p, p ∈ ps ↔ Violation m τ v p
  ordered : ps.Pairwise (Before τ)

def ListsFrom (m : Matcher) (τ : TypeExpr) (v : Value) (path : Path) (walk : Matcher.Walk) : Prop :=
  ∃ qs : List Problem, walk.result = .ok (qs.map (Problem.under path)) ∧ Lists m τ v qs

variable {m : Matcher} {v : Value}

theorem Walkable.answer {name : String} (h : Walkable m (.named name) v) :
    ∃ b, (m.checkNamed name v).result = .ok b := by
  cases hr : (m.checkNamed name v).result with
  | ok b => exact ⟨b, rfl⟩
  | error fault => exact absurd hr (h.check [] name v .here fault)

theorem Walkable.item {item : TypeExpr} {xs : List Value} {i : Nat} {x : Value}
    (h : Walkable m (.array item) v) (hv : v.items? = some xs) (hx : xs[i]? = some x) :
    Walkable m item x :=
  ⟨fun _ ps w hreach => h.lookup _ ps w (.item hv hx hreach),
    fun _ name w hreach => h.check _ name w (.item hv hx hreach)⟩

theorem Walkable.field {ps : Definition} {e : String × Spec TypeExpr} {x : Value}
    (h : Walkable m (.object ps) v) (hv : v.isMapping = true) (he : e ∈ ps)
    (hx : v.field? e.1 = some x) : Walkable m e.2.type x :=
  ⟨fun _ qs w hreach => h.lookup _ qs w (.field hv he hx hreach),
    fun _ name w hreach => h.check _ name w (.field hv he hx hreach)⟩

/-- Problems of parts at one step are in the order that they have among themselves. -/
theorem pairwise_under {τ σ : TypeExpr} {step : Step} {k : Nat} {qs : List Problem}
    (hplace : ∀ path, place τ (step :: path) = k :: place σ path) (hqs : qs.Pairwise (Before σ)) :
    (qs.map (Problem.under [step])).Pairwise (Before τ) := by
  rw [List.pairwise_map]
  refine hqs.imp fun {p q} hpq => ?_
  unfold Before at hpq ⊢
  rw [Problem.path_under, Problem.path_under]
  show place τ (step :: p.path) < place τ (step :: q.path)
  rw [hplace, hplace]
  exact List.cons_lt_cons_iff.2 (.inr ⟨rfl, hpq⟩)

theorem before_of_lt {τ : TypeExpr} {p q : Problem} {i j : Nat} {is js : List Nat}
    (hp : place τ p.path = i :: is) (hq : place τ q.path = j :: js) (h : i < j) : Before τ p q := by
  unfold Before
  rw [hp, hq]
  exact List.cons_lt_cons_iff.2 (.inl h)

theorem map_under_append (outer : Path) (step : Step) (qs : List Problem) :
    qs.map (Problem.under (outer ++ [step])) =
      (qs.map (Problem.under [step])).map (Problem.under outer) := by
  rw [List.map_map]
  exact List.map_congr_left fun q _ => Problem.under_append outer [step] q

theorem place_item {item : TypeExpr} (i : Nat) (q : Problem) :
    place (.array item) (q.under [.item i]).path = i :: place item q.path := by
  rw [Problem.path_under]
  rfl

theorem items_lists {item : TypeExpr} {walk : Path → Value → Matcher.Walk} {xs : List Value}
    (h : ∀ x ∈ xs, ∀ path, ListsFrom m item x path (walk path x)) (path : Path) (i : Nat) :
    ∃ qs : List Problem, (Matcher.items walk path i xs).result = .ok (qs.map (Problem.under path)) ∧
      (∀ p, p ∈ qs ↔ ∃ j x q, xs[j]? = some x ∧ Violation m item x q ∧
        p = q.under [.item (i + j)]) ∧
      qs.Pairwise (Before (.array item)) := by
  induction xs generalizing i with
  | nil => exact ⟨[], rfl, by simp, .nil⟩
  | cons x xs ih =>
    obtain ⟨qs, hqs, hlists⟩ := h x (by simp) (path ++ [.item i])
    obtain ⟨rs, hrs, hmem, hordered⟩ := ih (fun y hy => h y (List.mem_cons_of_mem _ hy)) (i + 1)
    refine ⟨qs.map (Problem.under [.item i]) ++ rs, ?_, fun p => ?_, ?_⟩
    · rw [Matcher.items, Journal.bind_result, hqs, map_under_append, List.map_append]
      show (Matcher.items walk path (i + 1) xs >>= _).result = _
      rw [Journal.bind_result, hrs]
      rfl
    · rw [List.mem_append, List.mem_map, hmem]
      constructor
      · rintro (⟨q, hq, rfl⟩ | ⟨j, y, q, hy, hq, rfl⟩)
        · exact ⟨0, x, q, rfl, (hlists.mem_iff q).1 hq, rfl⟩
        · refine ⟨j + 1, y, q, hy, hq, ?_⟩
          rw [Nat.add_assoc, Nat.add_comm 1 j]
      · rintro ⟨j, y, q, hy, hq, rfl⟩
        cases j with
        | zero =>
          cases hy
          exact .inl ⟨q, (hlists.mem_iff q).2 hq, rfl⟩
        | succ j =>
          refine .inr ⟨j, y, q, hy, hq, ?_⟩
          rw [Nat.add_assoc, Nat.add_comm 1 j]
    · refine List.pairwise_append.2 ⟨pairwise_under (fun _ => rfl) hlists.ordered, hordered, ?_⟩
      intro p hp r hr
      obtain ⟨q, -, rfl⟩ := List.mem_map.1 hp
      obtain ⟨j, y, s, -, -, rfl⟩ := (hmem r).1 hr
      exact before_of_lt (place_item i q) (place_item (i + 1 + j) s) (by omega)

theorem idxOf_declared {done rest : Definition} {e : String × Spec TypeExpr}
    (names : (Assoc.keys (done ++ e :: rest)).Nodup) :
    (Assoc.keys (done ++ e :: rest)).idxOf e.1 = done.length ∧
      ∀ f ∈ rest, done.length < (Assoc.keys (done ++ e :: rest)).idxOf f.1 := by
  simp only [Assoc.keys, List.map_append, List.map_cons] at names ⊢
  obtain ⟨-, hrest, hdisjoint⟩ := List.nodup_append.1 names
  have hlength : (done.map Prod.fst).length = done.length := List.length_map _
  constructor
  · have hmem : e.1 ∉ done.map Prod.fst := fun h => hdisjoint _ h _ (by simp) rfl
    rw [List.idxOf_append_of_notMem hmem, List.idxOf_cons_self, hlength, Nat.add_zero]
  · intro f hf
    have hmem : f.1 ∈ rest.map Prod.fst := List.mem_map_of_mem hf
    have hdone : f.1 ∉ done.map Prod.fst :=
      fun h => hdisjoint _ h _ (List.mem_cons_of_mem _ hmem) rfl
    have hne : e.1 ≠ f.1 := by
      intro heq
      rw [heq] at hrest
      exact (List.nodup_cons.1 hrest).1 hmem
    rw [List.idxOf_append_of_notMem hdone, List.idxOf_cons_ne _ hne, hlength]
    omega

theorem append_result_eq_ok {x y : Matcher.Walk} {ps : List Problem} :
    (do let here ← x; let others ← y; pure (here ++ others)).result = .ok ps ↔
      ∃ here others, x.result = .ok here ∧ y.result = .ok others ∧ here ++ others = ps := by
  simp only [Journal.bind_result_eq_ok, Journal.pure_eq, Except.ok.injEq]
  constructor
  · rintro ⟨here, hx, others, hy, heq⟩
    exact ⟨here, others, hx, hy, heq⟩
  · rintro ⟨here, others, hx, hy, heq⟩
    exact ⟨here, hx, others, hy, heq⟩

def propertyWalk (m : Matcher) (path : Path) (e : String × Spec TypeExpr) :
    Option Value → Matcher.Walk
  | some x => m.walkType e.2.type (path ++ [.field e.1]) x
  | none => pure (if e.2.optional then [] else [.missing (path ++ [.field e.1])])

theorem walkProperties_cons {e : String × Spec TypeExpr} {rest : Definition} {path : Path}
    {x : Option Value} (hx : Matcher.property v e.1 = .ok x) :
    m.walkProperties (e :: rest) path v =
      (do
        let here ← propertyWalk m path e x
        let others ← m.walkProperties rest path v
        pure (here ++ others)) := by
  obtain ⟨name, type, optional⟩ := e
  rw [Matcher.walkProperties, hx, Journal.ofExcept_ok, pure_bind]
  cases x <;> rfl

theorem exists_property_of_walk {e : String × Spec TypeExpr} {ps : Definition} {path : Path}
    {qs : List Problem} (h : (m.walkProperties (e :: ps) path v).result = .ok qs) :
    ∃ x, Matcher.property v e.1 = .ok x := by
  obtain ⟨name, type, optional⟩ := e
  rw [Matcher.walkProperties] at h
  obtain ⟨x, hx, -⟩ := Journal.bind_result_eq_ok.1 h
  exact ⟨x, hx⟩

theorem property_lists {ps : Definition} (names : (Assoc.keys ps).Nodup)
    {e : String × Spec TypeExpr} (he : e ∈ ps)
    (h : ∀ x, v.field? e.1 = some x →
      ∀ path, ListsFrom m e.2.type x path (m.walkType e.2.type path x)) (path : Path) :
    ∃ qs : List Problem,
      (propertyWalk m path e (v.field? e.1)).result = .ok (qs.map (Problem.under path)) ∧
      (∀ p, p ∈ qs ↔ PropertyViolation m v e.1 e.2 p) ∧ qs.Pairwise (Before (.object ps)) := by
  unfold PropertyViolation propertyWalk
  cases hx : v.field? e.1 with
  | none =>
    cases hoptional : e.2.optional with
    | true => exact ⟨[], rfl, by simp, .nil⟩
    | false => exact ⟨[.missing [.field e.1]], by rfl, by simp, List.pairwise_singleton _ _⟩
  | some x =>
    obtain ⟨qs, hqs, hlists⟩ := h x hx (path ++ [.field e.1])
    refine ⟨qs.map (Problem.under [.field e.1]), ?_, fun p => ?_, ?_⟩
    · rw [← map_under_append]
      exact hqs
    · rw [List.mem_map]
      constructor
      · rintro ⟨q, hq, rfl⟩
        exact .inr ⟨x, q, rfl, (hlists.mem_iff q).1 hq, rfl⟩
      · rintro (⟨hnone, -⟩ | ⟨y, q, hy, hq, rfl⟩)
        · cases hnone
        · cases hy
          exact ⟨q, (hlists.mem_iff q).2 hq, rfl⟩
    · refine pairwise_under (k := (Assoc.keys ps).idxOf e.1) (fun path => ?_) hlists.ordered
      rw [place, Assoc.get?_eq_some_of_mem names he]

theorem properties_lists {ps : Definition} (names : (Assoc.keys ps).Nodup) {done rest : Definition}
    (hps : ps = done ++ rest) (hlookup : ∀ e ∈ ps, ∃ x, Matcher.property v e.1 = .ok x)
    (h : ∀ e ∈ ps, ∀ x, v.field? e.1 = some x →
      ∀ path, ListsFrom m e.2.type x path (m.walkType e.2.type path x)) (path : Path) :
    ∃ qs : List Problem,
      (m.walkProperties rest path v).result = .ok (qs.map (Problem.under path)) ∧
      (∀ p, p ∈ qs ↔ ∃ e ∈ rest, PropertyViolation m v e.1 e.2 p) ∧
      qs.Pairwise (Before (.object ps)) := by
  induction rest generalizing done with
  | nil => exact ⟨[], rfl, by simp, .nil⟩
  | cons e rest ih =>
    have he : e ∈ ps := by simp [hps]
    obtain ⟨qs, hqs, hmem, hordered⟩ := property_lists names he (h e he) path
    obtain ⟨rs, hrs, hmemrest, horderedrest⟩ := @ih (done ++ [e]) (by simp [hps])
    obtain ⟨x, hx⟩ := hlookup e he
    refine ⟨qs ++ rs, ?_, fun p => ?_, ?_⟩
    · rw [walkProperties_cons hx, property_eq_ok hx, Journal.bind_result, hqs]
      show (m.walkProperties rest path v >>= _).result = _
      rw [Journal.bind_result, hrs, List.map_append]
      rfl
    · rw [List.mem_append, hmem, hmemrest]
      simp
    · refine List.pairwise_append.2 ⟨hordered, horderedrest, ?_⟩
      intro p hp r hr
      obtain ⟨f, hf, hr⟩ := (hmemrest r).1 hr
      obtain ⟨path, hp⟩ := ((hmem p).1 hp).exists_path
      obtain ⟨path', hr⟩ := hr.exists_path
      subst hps
      obtain ⟨hfirst, hlater⟩ := idxOf_declared names
      exact before_of_lt (by rw [hp, place]) (by rw [hr, place]) (hfirst ▸ hlater f hf)

/-- A walk comes to its end, and lists the violations. -/
theorem walkType_lists {τ : TypeExpr} (distinct : Distinct τ) (walkable : Walkable m τ v)
    (path : Path) : ListsFrom m τ v path (m.walkType τ path v) := by
  induction τ using TypeExpr.induction generalizing v path with
  | named name =>
    obtain ⟨b, hb⟩ := walkable.answer
    unfold ListsFrom
    rw [Matcher.walkType, Journal.bind_result, hb]
    cases b with
    | true => exact ⟨[], rfl, by simp [violation_named_iff, hb], .nil⟩
    | false =>
      refine ⟨[.mismatch [] (.named name) v.shape], ?_, ?_, List.pairwise_singleton _ _⟩
      · simp [Except.bind, Problem.under]
      · simp [violation_named_iff, hb]
  | array item ih =>
    cases distinct with | array hitem =>
    rw [Matcher.walkType]
    cases hv : v.items? with
    | none =>
      refine ⟨[.mismatch [] .array v.shape], ?_, ?_, List.pairwise_singleton _ _⟩
      · simp [Problem.under]
      · simp [violation_array_iff, hv]
    | some xs =>
      have hall : ∀ x ∈ xs, ∀ path, ListsFrom m item x path (m.walkType item path x) := by
        intro x hx path
        obtain ⟨i, hi⟩ := List.getElem?_of_mem hx
        exact ih hitem (walkable.item hv hi) path
      obtain ⟨qs, hqs, hmem, hordered⟩ := items_lists hall path 0
      refine ⟨qs, hqs, fun p => ?_, hordered⟩
      rw [hmem, violation_array_iff]
      simp [hv]
  | object ps ih =>
    cases distinct with | object names types =>
    rw [Matcher.walkType]
    cases hv : v.isMapping with
    | false =>
      refine ⟨[.mismatch [] .object v.shape], ?_, ?_, List.pairwise_singleton _ _⟩
      · simp [Problem.under]
      · simp [violation_object_iff, hv]
    | true =>
      have hall : ∀ e ∈ ps, ∀ x, v.field? e.1 = some x →
          ∀ path, ListsFrom m e.2.type x path (m.walkType e.2.type path x) :=
        fun e he x hx path => ih e he (types e he) (walkable.field hv he hx) path
      obtain ⟨qs, hqs, hmem, hordered⟩ :=
        properties_lists names (List.nil_append ps).symm (walkable.lookup [] ps v .here) hall path
      refine ⟨qs, hqs, fun p => ?_, hordered⟩
      rw [hmem, violation_object_iff]
      simp [hv]

theorem conforms_iff {τ : TypeExpr} (walkable : Walkable m τ v) :
    Conforms m τ v ↔ ∀ p, ¬ Violation m τ v p := by
  induction τ using TypeExpr.induction generalizing v with
  | named name =>
    obtain ⟨b, hb⟩ := walkable.answer
    constructor
    · rintro ⟨htrue⟩ p hp
      rw [(violation_named_iff.1 hp).1] at htrue
      cases htrue
    · intro hnone
      cases b with
      | true => exact .named hb
      | false => exact absurd (violation_named_iff.2 ⟨hb, rfl⟩) (hnone _)
  | array item ih =>
    have hitem {xs : List Value} {i : Nat} {x : Value} (hv : v.items? = some xs)
        (hx : xs[i]? = some x) := ih (walkable.item hv hx)
    constructor
    · rintro (_ | ⟨hv, hall⟩) p hp
      rcases violation_array_iff.1 hp with ⟨hnone, -⟩ | ⟨xs, i, x, q, hxs, hx, hq, -⟩
      · rw [hv] at hnone
        cases hnone
      · rw [hv] at hxs
        cases hxs
        exact (hitem hv hx).1 (hall x (List.mem_of_getElem? hx)) q hq
    · intro hnone
      cases hv : v.items? with
      | none => exact absurd (violation_array_iff.2 (.inl ⟨hv, rfl⟩)) (hnone _)
      | some xs =>
        refine .array hv fun x hx => ?_
        obtain ⟨i, hi⟩ := List.getElem?_of_mem hx
        refine (hitem hv hi).2 fun q hq => ?_
        exact hnone _ (violation_array_iff.2 (.inr ⟨xs, i, x, q, hv, hi, hq, rfl⟩))
  | object ps ih =>
    have hfield {e : String × Spec TypeExpr} {x : Value} (hv : v.isMapping = true) (he : e ∈ ps)
        (hx : v.field? e.1 = some x) := ih e he (walkable.field hv he hx)
    constructor
    · rintro (_ | _ | ⟨hv, hpresent, habsent⟩) p hp
      rcases violation_object_iff.1 hp with
        ⟨hfalse, -⟩ | ⟨-, e, he, ⟨hx, hrequired, -⟩ | ⟨x, q, hx, hq, -⟩⟩
      · rw [hv] at hfalse
        cases hfalse
      · rw [habsent e he hx] at hrequired
        cases hrequired
      · exact (hfield hv he hx).1 (hpresent e he x hx) q hq
    · intro hnone
      cases hv : v.isMapping with
      | false => exact absurd (violation_object_iff.2 (.inl ⟨hv, rfl⟩)) (hnone _)
      | true =>
        refine .object hv (fun e he x hx => ?_) (fun e he hx => ?_)
        · refine (hfield hv he hx).2 fun q hq => ?_
          exact hnone _ (violation_object_iff.2 (.inr ⟨hv, e, he, .inr ⟨x, q, hx, hq, rfl⟩⟩))
        · rw [← Bool.not_eq_false]
          intro hrequired
          exact hnone _ (violation_object_iff.2 (.inr ⟨hv, e, he, .inl ⟨hx, hrequired, rfl⟩⟩))

/-- The problems of a value are its violations, each once and in the order of their places; no two
are at one place, and a value is valid if it conforms. -/
theorem problems_iff_violations {d : Definition} (distinct : Distinct (.object d))
    (walkable : Walkable m (.object d) v) :
    ∃ ps : List Problem,
      (m.problems d v).result = .ok ps ∧
      (∀ p, p ∈ ps ↔ Violation m (.object d) v p) ∧
      ps.Pairwise (fun p q => place (.object d) p.path < place (.object d) q.path) ∧
      (ps.map Problem.path).Nodup ∧
      ∃ r, (Session.conclude (m.problems d v)).result = .ok r ∧ r.errors = ps.map Problem.message ∧
        (r.valid = true ↔ ∀ p, ¬ Violation m (.object d) v p) ∧
        (r.valid = true ↔ Conforms m (.object d) v) := by
  obtain ⟨ps, hps, hlists⟩ := walkType_lists distinct walkable []
  have hps : (m.problems d v).result = .ok ps := by
    rw [Matcher.problems, hps, List.map_id'' Problem.under_nil]
  have hvalid : MatchResult.valid ⟨ps.map Problem.message⟩ = true ↔
      ∀ p, ¬ Violation m (.object d) v p := by
    simp [MatchResult.valid, List.eq_nil_iff_forall_not_mem, hlists.mem_iff]
  refine ⟨ps, hps, hlists.mem_iff, hlists.ordered, ?_, ⟨ps.map Problem.message⟩, ?_, rfl, hvalid,
    hvalid.trans (conforms_iff walkable).symm⟩
  · refine List.pairwise_map.2 (hlists.ordered.imp fun {p q} hlt heq => ?_)
    unfold Before at hlt
    rw [heq] at hlt
    exact List.lt_irrefl _ hlt
  · unfold Session.conclude
    rw [hps]

/-- An item of a wrong type, and a property that is absent. -/
theorem problems_iff_violations_items :
    ∃ r, (Session.conclude (Matcher.problems {}
        [("a", ⟨.array (.named "string"), false⟩), ("b", ⟨.named "number", false⟩)]
        (.map [(.text "a", .list [.text "x", .null])]))).result = .ok r ∧
      r.errors = ["Array item at a[1] should be a string (found null)",
        "Missing required field: b"] := by
  have distinct : Distinct (.object
      [("a", ⟨.array (.named "string"), false⟩), ("b", ⟨.named "number", false⟩)]) := by
    refine .object (by decide) fun e he => ?_
    simp only [List.mem_cons, List.not_mem_nil, or_false] at he
    rcases he with rfl | rfl
    · exact .array .named
    · exact .named
  have answer (name : String) (w : Value) : ∃ b, (Matcher.checkNamed {} name w).result = .ok b := by
    unfold Matcher.checkNamed
    split
    · exact ⟨_, rfl⟩
    · split <;> exact ⟨_, rfl⟩
  have walkable : Walkable {} (.object
      [("a", ⟨.array (.named "string"), false⟩), ("b", ⟨.named "number", false⟩)])
      (.map [(.text "a", .list [.text "x", .null])]) := by
    refine ⟨fun path ps w h => ?_, fun path name w _ text hinterrupt => ?_⟩
    · cases h with
      | here => exact fun e he => ⟨_, rfl⟩
      | field hv hp hx rest =>
        simp only [List.mem_cons, Prod.mk.injEq, List.not_mem_nil, or_false] at hp
        rcases hp with ⟨rfl, rfl⟩ | ⟨rfl, rfl⟩
        · cases rest with
          | item hv hx rest => cases rest
        · cases rest
    · obtain ⟨b, hb⟩ := answer name w
      rw [hb] at hinterrupt
      cases hinterrupt
  have ha : Matcher.property (.map [(.text "a", .list [.text "x", .null])]) "a" =
      .ok (some (.list [.text "x", .null])) := by
    simp [Matcher.property, Value.entries?, Value.lookup]
  have hb : Matcher.property (.map [(.text "a", .list [.text "x", .null])]) "b" = .ok none := by
    simp [Matcher.property, Value.entries?, Value.lookup]
  obtain ⟨ps, hps, -, -, -, r, hr, herrors, -⟩ := problems_iff_violations distinct walkable
  rw [Matcher.problems, Matcher.walkType, Matcher.walkProperties, Matcher.walkProperties, ha, hb]
    at hps
  obtain rfl : [Problem.mismatch [.field "a", .item 1] (.named "string") .null,
      .missing [.field "b"]] = ps := Except.ok.inj hps
  exact ⟨r, hr, herrors⟩

end Conform.Schema
