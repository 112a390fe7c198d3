import Conform.Proofs.Match.Walk

/-! What the text of a path says about the place. Field names without dots and brackets leave no doubt
where one step ends and the next begins, so such a text belongs to one path only; and as no two
problems are at one place, no two are reported under one text. -/

namespace Conform

namespace Match

def inside : Path → String
  | [] => ""
  | .field name :: rest => "." ++ name ++ inside rest
  | .item i :: rest => "[" ++ toString i ++ "]" ++ inside rest

theorem foldl_extend {outer : String} (h : outer ≠ "") (path : Path) :
    path.foldl extend outer = outer ++ inside path := by
  induction path generalizing outer with
  | nil => simp [inside]
  | cons step rest ih =>
    have hne (more : String) : outer ++ more ≠ "" := by simp [h]
    cases step with
    | field name =>
      rw [List.foldl_cons, extend, if_neg h, String.append_assoc, ih (hne _), inside]
      simp [String.append_assoc]
    | item i =>
      rw [List.foldl_cons, extend, String.append_assoc, String.append_assoc, ih (hne _), inside]
      simp [String.append_assoc]

theorem text_item (i : Nat) (rest : Path) :
    Path.text (.item i :: rest) = inside (.item i :: rest) := by
  rw [Path.text, List.foldl_cons, foldl_extend (by simp [extend])]
  rfl

theorem text_field {name : String} (h : name ≠ "") (rest : Path) :
    Path.text (.field name :: rest) = name ++ inside rest := by
  rw [Path.text, List.foldl_cons]
  exact foldl_extend h rest

def Opens (c : Char) : Prop := c = '.' ∨ c = '['

structure PlainName (name : String) : Prop where
  nonempty : name ≠ ""
  unopened : ∀ c ∈ name.toList, ¬ Opens c

def Path.Names (P : String → Prop) (path : Path) : Prop := ∀ name, .field name ∈ path → P name

/-- What stands before the first character that stops is determined by the whole. -/
theorem append_inj_of_stop {stop : Char → Prop} {a b s t : List Char} (ha : ∀ c ∈ a, ¬ stop c)
    (hb : ∀ c ∈ b, ¬ stop c) (hs : ∀ c ∈ s.head?, stop c) (ht : ∀ c ∈ t.head?, stop c)
    (h : a ++ s = b ++ t) : a = b ∧ s = t := by
  induction a generalizing b with
  | nil =>
    cases b with
    | nil => exact ⟨rfl, h⟩
    | cons c b =>
      rw [List.nil_append] at h
      exact absurd (hs c (by simp [h])) (hb c List.mem_cons_self)
  | cons c a ih =>
    cases b with
    | nil =>
      rw [List.nil_append] at h
      exact absurd (ht c (by simp [← h])) (ha c List.mem_cons_self)
    | cons d b =>
      obtain ⟨rfl, hrest⟩ := List.cons.inj h
      obtain ⟨rfl, rfl⟩ := ih (fun e he => ha e (List.mem_cons_of_mem _ he))
        (fun e he => hb e (List.mem_cons_of_mem _ he)) hrest
      exact ⟨rfl, rfl⟩

theorem opens_head_inside (path : Path) : ∀ c ∈ (inside path).toList.head?, Opens c := by
  cases path with
  | nil => simp [inside]
  | cons step rest => cases step <;> simp [inside, Opens]

theorem index_inj {i j : Nat} {s t : List Char}
    (h : (toString i).toList ++ ']' :: s = (toString j).toList ++ ']' :: t) : i = j ∧ s = t := by
  have digits (n : Nat) : ∀ c ∈ (toString n).toList, ¬ c = ']' := by
    rintro c hc rfl
    rw [Nat.toString_eq_repr, Nat.toList_repr] at hc
    have hdigit := Nat.isDigit_of_mem_toDigits (by omega) (by omega) hc
    exact absurd hdigit (by decide)
  obtain ⟨hdigits, hrest⟩ := append_inj_of_stop (digits i) (digits j) (by simp) (by simp) h
  have hvalue := congrArg (fun ds => Nat.ofDigitChars 10 ds 0) hdigits
  exact ⟨by simpa [Nat.toString_eq_ofList_toDigits] using hvalue, (List.cons.inj hrest).2⟩

theorem inside_injective {p q : Path} (hp : p.Names PlainName) (hq : q.Names PlainName)
    (h : (inside p).toList = (inside q).toList) : p = q := by
  induction p generalizing q with
  | nil =>
    cases q with
    | nil => rfl
    | cons step rest => cases step <;> simp [inside] at h
  | cons step rest ih =>
    have hrest : Path.Names PlainName rest := fun name h => hp name (List.mem_cons_of_mem _ h)
    cases q with
    | nil => cases step <;> simp [inside] at h
    | cons step' rest' =>
      have hrest' : Path.Names PlainName rest' := fun name h => hq name (List.mem_cons_of_mem _ h)
      cases step with
      | field name =>
        cases step' with
        | item i => simp [inside] at h
        | field name' =>
          simp only [inside, String.toList_append, List.append_assoc] at h
          obtain ⟨hname, h⟩ := append_inj_of_stop (hp name List.mem_cons_self).unopened
            (hq name' List.mem_cons_self).unopened (opens_head_inside rest)
            (opens_head_inside rest') (List.append_cancel_left h)
          rw [String.toList_inj.1 hname, ih hrest hrest' h]
      | item i =>
        cases step' with
        | field name => simp [inside] at h
        | item j =>
          simp only [inside, String.toList_append, List.append_assoc] at h
          obtain ⟨hindex, h⟩ := index_inj (List.append_cancel_left h)
          rw [hindex, ih hrest hrest' h]

/-- The text of a path that starts with a field is not that of steps behind others. -/
theorem text_field_ne_inside {name : String} (h : PlainName name) (rest p : Path) :
    (Path.text (.field name :: rest)).toList ≠ (inside p).toList := by
  intro heq
  rw [text_field h.nonempty, String.toList_append] at heq
  obtain ⟨hname, -⟩ := append_inj_of_stop (b := []) h.unopened (by simp) (opens_head_inside rest)
    (opens_head_inside p) heq
  exact h.nonempty (String.toList_inj.1 hname)

theorem text_cases (p : Path) :
    (∃ name rest, p = .field name :: rest) ∨ p.text = inside p := by
  rcases p with _ | ⟨name | i, rest⟩
  · exact .inr rfl
  · exact .inl ⟨name, rest, rfl⟩
  · exact .inr (text_item i rest)

/-- A path can be read back from its text. -/
theorem text_injective {p q : Path} (hp : p.Names PlainName) (hq : q.Names PlainName)
    (h : p.text = q.text) : p = q := by
  have h : p.text.toList = q.text.toList := congrArg String.toList h
  -- the first field comes without its dot, so a path that begins with one is told apart first
  rcases text_cases p with ⟨name, rest, rfl⟩ | hinside
  · have hname := hp name List.mem_cons_self
    rcases text_cases q with ⟨name', rest', rfl⟩ | hinside'
    · have hname' := hq name' List.mem_cons_self
      rw [text_field hname.nonempty, text_field hname'.nonempty, String.toList_append,
        String.toList_append] at h
      obtain ⟨heq, h⟩ := append_inj_of_stop hname.unopened hname'.unopened
        (opens_head_inside rest) (opens_head_inside rest') h
      rw [String.toList_inj.1 heq, inside_injective (fun n hn => hp n (List.mem_cons_of_mem _ hn))
        (fun n hn => hq n (List.mem_cons_of_mem _ hn)) h]
    · rw [hinside'] at h
      exact absurd h (text_field_ne_inside hname rest q)
  · rcases text_cases q with ⟨name', rest', rfl⟩ | hinside'
    · rw [hinside] at h
      exact absurd h.symm (text_field_ne_inside (hq name' List.mem_cons_self) rest' p)
    · rw [hinside, hinside'] at h
      exact inside_injective hp hq h

def shapeNote (found : Shape) : String := "found " ++ found.text ++ ")"

def lack (found : Shape) : String :=
  if found = .null || found = .undefined then " is null or undefined"
  else " is not an object (" ++ shapeNote found

inductive Lead : String → Prop
  | missing : Lead "Missing required field: "
  | field : Lead "Field "
  | item : Lead "Array item at "

/-- How the message of a problem is put together. Only that of a value that is no object, and no item
of an array, begins with the path. -/
inductive Worded (p : Problem) : Prop
  | led {lead : String} (rest : String) (hlead : Lead lead) (h : p.message = lead ++ p.path.text ++ rest) :
      Worded p
  | bare (found : Shape) (hp : p = .mismatch p.path .object found)
      (h : p.message = subject p.path.text ++ lack found) : Worded p

theorem worded (p : Problem) : Worded p := by
  cases p with
  | missing path => exact .led "" .missing (String.append_empty ..).symm
  | mismatch path expected found =>
    have hplace : ∃ lead, Lead lead ∧
        (if isItem path then "Array item at " ++ path.text else "Field " ++ path.text) =
          lead ++ path.text := by
      split
      · exact ⟨_, .item, rfl⟩
      · exact ⟨_, .field, rfl⟩
    obtain ⟨lead, hlead, hplace⟩ := hplace
    cases expected with
    | named type =>
      refine .led (" should be a " ++ type ++ (" (found " ++ found.text ++ ")")) hlead ?_
      show _ ++ " should be a " ++ type ++ (" (found " ++ found.text ++ ")") = _
      rw [hplace]
      simp only [Problem.path, String.append_assoc]
    | array =>
      refine .led " should be an array" hlead ?_
      show _ ++ " should be an array" = _
      rw [hplace]
      rfl
    | object =>
      cases hitem : isItem path with
      | true =>
        refine .led (" should be an object" ++ (" (found " ++ found.text ++ ")")) .item ?_
        unfold Problem.message
        dsimp only
        rw [hitem]
        simp only [Problem.path, String.append_assoc]
        rfl
      | false =>
        refine .bare found rfl ?_
        unfold Problem.message lack
        dsimp only
        rw [hitem, if_neg (by simp)]
        split
        · rfl
        · simp only [Problem.path, shapeNote, String.append_assoc]
          rfl

/-- The text of the path is part of the message. -/
theorem message_eq (p : Problem) : ∃ before after, p.message = before ++ p.path.text ++ after := by
  cases worded p with
  | @led lead rest _ h => exact ⟨lead, rest, h⟩
  | bare found _ h =>
    unfold subject at h
    split at h
    · next hempty => exact ⟨"", "Value" ++ lack found, by rw [h, hempty]; rfl⟩
    · exact ⟨"", lack found, by rw [h, String.empty_append]⟩

end Match

namespace Schema

open Match

inductive PropertyNames (P : String → Prop) : TypeExpr → Prop
  | named {name : String} : PropertyNames P (.named name)
  | array {item : TypeExpr} (h : PropertyNames P item) : PropertyNames P (.array item)
  | object {ps : Definition} (names : ∀ e ∈ ps, P e.1)
      (types : ∀ e ∈ ps, PropertyNames P e.2.type) : PropertyNames P (.object ps)

variable {m : Matcher} {P : String → Prop}

theorem Reaches.names {τ σ : TypeExpr} {v w : Value} {path : Path} (h : Reaches τ v path σ w)
    (hτ : PropertyNames P τ) : path.Names P ∧ PropertyNames P σ := by
  induction h with
  | here => exact ⟨by simp [Path.Names], hτ⟩
  | @field ps v name spec x path σ w hv hp hx rest ih =>
    cases hτ with | object names types =>
    obtain ⟨hpath, hσ⟩ := ih (types _ hp)
    refine ⟨fun other hother => ?_, hσ⟩
    rcases List.mem_cons.1 hother with heq | hother
    · cases heq
      exact names _ hp
    · exact hpath other hother
  | item hv hx rest ih =>
    cases hτ with | array hitem =>
    obtain ⟨hpath, hσ⟩ := ih hitem
    refine ⟨fun other hother => ?_, hσ⟩
    exact hpath other ((List.mem_cons.1 hother).resolve_left (by simp))

theorem Flaw.names {σ : TypeExpr} {w : Value} {q : Problem} (h : Flaw m σ w q)
    (hσ : PropertyNames P σ) : q.path.Names P := by
  cases h with
  | @absent ps w name spec hv hp hx required =>
    cases hσ with | object names types =>
    intro other hother
    cases List.mem_singleton.1 hother
    exact names _ hp
  | notObject hv | notArray hv | notNamed hv => simp [Path.Names, Problem.path]

theorem Violation.names {τ : TypeExpr} {v : Value} {p : Problem} (h : Violation m τ v p)
    (hτ : PropertyNames P τ) : p.path.Names P := by
  obtain ⟨path, σ, w, q, hreach, hflaw, rfl⟩ := h
  obtain ⟨hpath, hσ⟩ := hreach.names hτ
  intro name hname
  rw [Problem.path_under] at hname
  exact (List.mem_append.1 hname).elim (hpath name) (hflaw.names hσ name)

section Completed

def Completes (walk : Matcher.Walk) : Prop := ∃ ps, walk.result = .ok ps

theorem completes_append {x y : Matcher.Walk}
    (h : Completes (do let here ← x; let others ← y; pure (here ++ others))) :
    Completes x ∧ Completes y := by
  obtain ⟨ps, hps⟩ := h
  obtain ⟨here, others, hx, hy, -⟩ := append_result_eq_ok.1 hps
  exact ⟨⟨here, hx⟩, ⟨others, hy⟩⟩

theorem completes_item {walk : Path → Value → Matcher.Walk} {outer : Path} {i : Nat}
    {xs : List Value} (h : Completes (Matcher.items walk outer i xs)) {j : Nat} {x : Value}
    (hx : xs[j]? = some x) : ∃ outer', Completes (walk outer' x) := by
  induction xs generalizing i j with
  | nil => cases hx
  | cons y ys ih =>
    obtain ⟨hhere, hothers⟩ := completes_append h
    cases j with
    | zero =>
      cases hx
      exact ⟨_, hhere⟩
    | succ j => exact ih hothers hx

variable {v : Value} {outer : Path}

theorem completes_property {ps : Definition} (h : Completes (m.walkProperties ps outer v))
    {e : String × Spec TypeExpr} (he : e ∈ ps) :
    Matcher.property v e.1 = .ok (v.field? e.1) ∧
      Completes (propertyWalk m outer e (v.field? e.1)) := by
  induction ps with
  | nil => cases he
  | cons f ps ih =>
    obtain ⟨qs, hqs⟩ := h
    obtain ⟨x, hx⟩ := exists_property_of_walk hqs
    rw [walkProperties_cons hx] at hqs
    obtain ⟨hhere, hothers⟩ := completes_append ⟨qs, hqs⟩
    obtain rfl := property_eq_ok hx
    rcases List.mem_cons.1 he with rfl | he
    · exact ⟨hx, hhere⟩
    · exact ih hothers he

theorem completes_object {ps : Definition} (h : Completes (m.walkType (.object ps) outer v))
    (hv : v.isMapping = true) : Completes (m.walkProperties ps outer v) := by
  rwa [Matcher.walkType, if_pos hv] at h

/-- A walk that comes to its end came to the end of every part. -/
theorem Reaches.completes {τ σ : TypeExpr} {w : Value} {path : Path} (h : Reaches τ v path σ w)
    (hwalk : Completes (m.walkType τ outer v)) :
    ∃ outer', Completes (m.walkType σ outer' w) := by
  induction h generalizing outer with
  | here => exact ⟨outer, hwalk⟩
  | @field ps v name spec x path σ w hv hp hx rest ih =>
    obtain ⟨-, hhere⟩ := completes_property (completes_object hwalk hv) hp
    rw [hx] at hhere
    exact ih hhere
  | @item item v xs i x path σ w hv hx rest ih =>
    rw [Matcher.walkType, hv] at hwalk
    obtain ⟨outer', hitem⟩ := completes_item hwalk hx
    exact ih hitem

theorem walkable_of_completes {τ : TypeExpr} (h : Completes (m.walkType τ outer v)) :
    Walkable m τ v where
  lookup path ps w hreach e he := by
    obtain ⟨outer', hwalk⟩ := hreach.completes h
    cases hw : w.isMapping with
    | true => exact ⟨_, (completes_property (completes_object hwalk hw) he).1⟩
    | false =>
      unfold Matcher.property
      split
      · cases hw
      · exact ⟨_, rfl⟩
  check path name w hreach text hinterrupt := by
    obtain ⟨outer', ps, hps⟩ := hreach.completes h
    rw [Matcher.walkType, Journal.bind_result, hinterrupt] at hps
    cases hps

/-- The problems that a walk lists are the violations, if it comes to its end at all. -/
theorem problems_lists {d : Definition} (distinct : Distinct (.object d)) {ps : List Problem}
    (h : (m.problems d v).result = .ok ps) : Lists m (.object d) v ps := by
  obtain ⟨qs, hqs, hlists⟩ := walkType_lists distinct (walkable_of_completes ⟨ps, h⟩) []
  rw [List.map_id'' Problem.under_nil] at hqs
  obtain rfl : ps = qs := Except.ok.inj (h.symm.trans hqs)
  exact hlists

theorem Lists.nodup_paths {τ : TypeExpr} {ps : List Problem} (h : Lists m τ v ps) :
    (ps.map Problem.path).Nodup := by
  refine List.pairwise_map.2 (h.ordered.imp fun {p q} hlt heq => ?_)
  unfold Before at hlt
  rw [heq] at hlt
  exact List.lt_irrefl _ hlt

end Completed

/-- Where no property name can be taken for more than one step, the text of a path says where a
problem is: it is that of no other path, no two problems of one walk share it, and the message of the
problem has it. A walk that nothing stops comes to its end. -/
theorem problems_identified {d : Definition} (distinct : Distinct (.object d))
    (plain : PropertyNames PlainName (.object d)) (m : Matcher) (v : Value) :
    (∀ ps, (m.problems d v).result = .ok ps →
      (ps.map fun p => p.path.text).Nodup ∧ (ps.map Problem.path).Nodup ∧
        ∀ p ∈ ps, p.path.Names PlainName ∧
          (∀ q : Path, q.Names PlainName → q.text = p.path.text → q = p.path) ∧
          ∃ before after, p.message = before ++ p.path.text ++ after) ∧
      (Walkable m (.object d) v → ∃ ps, (m.problems d v).result = .ok ps) := by
  refine ⟨fun ps hps => ?_, fun walkable => ?_⟩
  · have hlists := problems_lists distinct hps
    have hnames : ∀ p ∈ ps, p.path.Names PlainName :=
      fun p hp => ((hlists.mem_iff p).1 hp).names plain
    refine ⟨?_, hlists.nodup_paths, fun p hp => ⟨hnames p hp, fun q hq heq => ?_, message_eq p⟩⟩
    · have hpaths := List.pairwise_map.1 hlists.nodup_paths
      refine List.pairwise_map.2 (hpaths.imp_of_mem fun {p q} hp hq hne heq => ?_)
      exact hne (text_injective (hnames p hp) (hnames q hq) heq)
    · exact text_injective hq (hnames p hp) heq
  · obtain ⟨ps, hps, -⟩ := walkType_lists distinct walkable []
    exact ⟨_, hps⟩

/-- A name that ends in a bracket and a digit, before an index. -/
theorem problems_identified_items :
    let d : Definition :=
      [("a]1", ⟨.array (.object [("s", ⟨.named "string", false⟩)]), false⟩),
        ("b", ⟨.named "number", false⟩)]
    let v : Value := .map [(.text "a]1", .list [.map [(.text "s", .int 1)], .null])]
    Distinct (.object d) ∧ PropertyNames PlainName (.object d) ∧
      ∃ ps, (Matcher.problems {} d v).result = .ok ps ∧
        (ps.map fun p => p.path.text) = ["a]1[0].s", "a]1[1]", "b"] ∧
        (ps.map fun p => p.path.text).Nodup ∧
        ∀ q : Path, q.Names PlainName → q.text = "a]1[0].s" →
          q = [.field "a]1", .item 0, .field "s"] := by
  intro d v
  have distinct : Distinct (.object d) := by
    refine .object (by decide) (List.forall_mem_cons.2 ⟨?_, List.forall_mem_singleton.2 .named⟩)
    exact .array (.object (by decide) (List.forall_mem_singleton.2 .named))
  have plain : PropertyNames PlainName (.object d) := by
    have name (n : String) (hne : n ≠ "") (h : ∀ c ∈ n.toList, c ≠ '.' ∧ c ≠ '[') : PlainName n :=
      ⟨hne, fun c hc hopens => hopens.elim (h c hc).1 (h c hc).2⟩
    refine .object ?_ ?_
    · exact List.forall_mem_cons.2 ⟨name "a]1" (by decide) (by simp),
        List.forall_mem_singleton.2 (name "b" (by decide) (by simp))⟩
    · refine List.forall_mem_cons.2 ⟨.array (.object ?_ ?_), List.forall_mem_singleton.2 .named⟩
      · exact List.forall_mem_singleton.2 (name "s" (by decide) (by simp))
      · exact List.forall_mem_singleton.2 .named
  have hps : (Matcher.problems {} d v).result =
      .ok [.mismatch [.field "a]1", .item 0, .field "s"] (.named "string") .number,
        .mismatch [.field "a]1", .item 1] .object .null, .missing [.field "b"]] := by
    simp [d, v, Matcher.problems, Matcher.walkType, Matcher.walkProperties, Matcher.property,
      Value.entries?, Value.lookup, Value.isMapping, Value.items?, Matcher.items,
      Matcher.checkNamed, Matcher.builtinCheck?, Value.shape]
  obtain ⟨hnodup, -, hread⟩ := (problems_identified distinct plain {} v).1 _ hps
  refine ⟨distinct, plain, _, hps, rfl, hnodup, fun q hq htext => ?_⟩
  exact (hread _ List.mem_cons_self).2.1 q hq htext

end Schema

end Conform
