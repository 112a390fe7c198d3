import Conform.Proofs.Match.Walk

/-! Two accounts of one walk. A walk may be kept as a list of messages that is handed on from place to
place and grows at its end, with an answer for each place whether anything is wrong there. The answers
and the list never disagree: what is added is what the walk through the place finds, whatever was in
the list before. -/

namespace Conform

open Schema Match Guard

/-- A walk that is handed the messages so far. It answers whether it found nothing, and hands on the
messages with its own. -/
abbrev Collecting := List String → Journal Event Fault (Bool × List String)

namespace Collecting

def report (message : String) : Collecting := fun errors => pure (false, errors ++ [message])

def each (check : Nat → Value → Collecting) : Nat → List Value → Bool → Collecting
  | _, [], valid => fun errors => pure (valid, errors)
  | i, x :: xs, valid => fun errors => do
    let (ok, errors) ← check i x errors
    each check (i + 1) xs (valid && ok) errors

def mapping (path : String) (properties : Collecting) : Value → Collecting
  | .null | .undefined => report (subject path ++ " is null or undefined")
  | v =>
    if v.isMapping then properties
    else report (subject path ++ " is not an object (found " ++ v.shape.text ++ ")")

end Collecting

namespace Matcher

open Collecting

mutual

def collectField (m : Matcher) : TypeExpr → String → Value → Collecting
  | .named name, path, v => fun errors => do
    if ← m.checkNamed name v then pure (true, errors)
    else report ("Field " ++ path ++ " should be a " ++ name ++ " (found " ++ v.shape.text ++ ")") errors
  | .array item, path, v =>
    match v.items? with
    | some xs => each (fun i x => collectItem m item (extend path (.item i)) x) 0 xs true
    | none => report ("Field " ++ path ++ " should be an array")
  | .object ps, path, v => mapping path (collectProperties m ps path v true) v

def collectItem (m : Matcher) : TypeExpr → String → Value → Collecting
  | .named name, path, v => fun errors => do
    if ← m.checkNamed name v then pure (true, errors)
    else
      report ("Array item at " ++ path ++ " should be a " ++ name ++ " (found " ++ v.shape.text ++ ")")
        errors
  | .array item, path, v =>
    match v.items? with
    | some xs => each (fun i x => collectItem m item (extend path (.item i)) x) 0 xs true
    | none => report ("Array item at " ++ path ++ " should be an array")
  | .object ps, path, v =>
    if v.isMapping then mapping path (collectProperties m ps path v true) v
    else report ("Array item at " ++ path ++ " should be an object (found " ++ v.shape.text ++ ")")

def collectProperties (m : Matcher) :
    List (String × Spec TypeExpr) → String → Value → Bool → Collecting
  | [], _, _, valid => fun errors => pure (valid, errors)
  | (name, ⟨type, optional⟩) :: rest, path, v, valid => fun errors => do
    match ← .ofExcept (property v name) with
    | some x =>
      let (ok, errors) ← collectField m type (extend path (.field name)) x errors
      collectProperties m rest path v (valid && ok) errors
    | none =>
      if optional then collectProperties m rest path v valid errors
      else
        collectProperties m rest path v false
          (errors ++ ["Missing required field: " ++ extend path (.field name)])

end

def collectObject (m : Matcher) (d : Definition) (path : String) (v : Value) : Collecting :=
  mapping path (m.collectProperties d path v true) v

def collectItems (m : Matcher) (item : TypeExpr) (path : String) (xs : List Value) : Collecting :=
  each (fun i x => m.collectItem item (extend path (.item i)) x) 0 xs true

end Matcher

namespace Collecting

/-- Adds the messages of the problems that a walk lists, and answers whether there are none. -/
def Adds (collect : Collecting) (walk : Matcher.Walk) : Prop :=
  ∀ errors, collect errors = do
    let ps ← walk
    pure (ps.isEmpty, errors ++ ps.map Problem.message)

def AddsAfter (collect : Bool → Collecting) (walk : Matcher.Walk) : Prop :=
  ∀ valid errors, collect valid errors = do
    let ps ← walk
    pure (valid && ps.isEmpty, errors ++ ps.map Problem.message)

theorem AddsAfter.adds {collect : Bool → Collecting} {walk : Matcher.Walk} (h : AddsAfter collect walk) :
    Adds (collect true) walk := by
  intro errors
  simp only [h true errors, Bool.true_and]

theorem adds_report {message : String} {p : Problem} (h : p.message = message) :
    Adds (report message) (pure [p]) := by
  intro errors
  simp [report, h]

theorem adds_test (test : Verdict) (p : Problem) :
    Adds (fun errors => do if ← test then pure (true, errors) else report p.message errors)
      (do if ← test then pure [] else pure [p]) := by
  intro errors
  simp only [bind_assoc]
  congr 1
  funext ok
  cases ok <;> simp [report]

theorem AddsAfter.cons {check : Collecting} {rest : Bool → Collecting} {here others : Matcher.Walk}
    (hcheck : Adds check here) (hrest : AddsAfter rest others) :
    AddsAfter (fun valid errors => do let (ok, errors) ← check errors; rest (valid && ok) errors)
      (do let here ← here; let others ← others; pure (here ++ others)) := by
  intro valid errors
  simp only [hcheck errors, bind_assoc, pure_bind]
  congr 1
  funext ps
  rw [hrest]
  congr 1
  funext qs
  have hempty : (ps ++ qs).isEmpty = (ps.isEmpty && qs.isEmpty) := by cases ps <;> simp
  simp [hempty, Bool.and_assoc]

theorem each_adds {check : Nat → Value → Collecting} {walk : Path → Value → Matcher.Walk} {p : Path}
    (h : ∀ i x, Adds (check i x) (walk (p ++ [.item i]) x)) (i : Nat) (xs : List Value) :
    AddsAfter (each check i xs) (Matcher.items walk p i xs) := by
  induction xs generalizing i with
  | nil =>
    intro valid errors
    simp [each, Matcher.items]
  | cons x xs ih => exact .cons (h i x) (ih (i + 1))

end Collecting

namespace Match

@[simp] theorem Path.text_concat (p : Path) (step : Step) : (p ++ [step]).text = extend p.text step := by
  simp [Path.text]

@[simp] theorem isItem_field (p : Path) (name : String) : isItem (p ++ [.field name]) = false := by
  simp [isItem]

@[simp] theorem isItem_item (p : Path) (i : Nat) : isItem (p ++ [.item i]) = true := by
  simp [isItem]

section Messages

variable {p : Path} {found : Shape}

def lead (p : Path) : String := if isItem p then "Array item at " else "Field "

theorem lead_field (hp : isItem p = false) : lead p = "Field " := by
  rw [lead, hp]
  rfl

theorem lead_item (hp : isItem p = true) : lead p = "Array item at " := by
  rw [lead, if_pos hp]

theorem lead_text (p : Path) :
    (if isItem p then "Array item at " ++ p.text else "Field " ++ p.text) = lead p ++ p.text := by
  unfold lead
  split <;> rfl

theorem message_named (name : String) : Problem.message (.mismatch p (.named name) found) =
    lead p ++ p.text ++ " should be a " ++ name ++ " (found " ++ found.text ++ ")" := by
  show _ ++ " should be a " ++ name ++ (" (found " ++ found.text ++ ")") = _
  rw [lead_text]
  simp only [String.append_assoc]

theorem message_array :
    Problem.message (.mismatch p .array found) = lead p ++ p.text ++ " should be an array" := by
  show _ ++ " should be an array" = _
  rw [lead_text]

theorem message_object_item (hp : isItem p = true) :
    Problem.message (.mismatch p .object found) =
      "Array item at " ++ p.text ++ " should be an object (found " ++ found.text ++ ")" := by
  unfold Problem.message
  dsimp only
  rw [if_pos hp, if_pos hp]
  simp only [String.append_assoc]
  rfl

theorem message_object (hp : isItem p = false) :
    Problem.message (.mismatch p .object found) =
      if found = .null || found = .undefined then subject p.text ++ " is null or undefined"
      else subject p.text ++ " is not an object (found " ++ found.text ++ ")" := by
  unfold Problem.message
  dsimp only
  rw [hp, if_neg (by simp)]
  simp only [String.append_assoc]
  rfl

end Messages

end Match

namespace Matcher

open Collecting

variable {m : Matcher} {v : Value} {p : Path}

theorem collectProperties_adds {ps : Definition}
    (h : ∀ e ∈ ps, ∀ x p, isItem p = false →
      Adds (m.collectField e.2.type p.text x) (m.walkType e.2.type p x)) :
    AddsAfter (m.collectProperties ps p.text v) (m.walkProperties ps p v) := by
  induction ps with
  | nil =>
    intro valid errors
    simp [collectProperties, walkProperties]
  | cons e ps ih =>
    obtain ⟨he, hps⟩ := List.forall_mem_cons.1 h
    have hrest := ih hps
    obtain ⟨name, type, optional⟩ := e
    intro valid errors
    cases hx : property v name with
    | error fault =>
      rw [collectProperties, walkProperties, hx]
      rfl
    | ok x =>
      rw [@walkProperties_cons m v (name, ⟨type, optional⟩) ps p x hx]
      simp only [collectProperties, hx, Journal.ofExcept_ok, pure_bind]
      cases x with
      | some x =>
        have hhere := he x (p ++ [.field name]) (isItem_field p name)
        rw [Path.text_concat] at hhere
        exact AddsAfter.cons hhere hrest valid errors
      | none =>
        cases optional with
        | true =>
          simp only [propertyWalk, if_true, pure_bind, bind_assoc, hrest valid errors,
            List.nil_append]
        | false =>
          have hmessage : Problem.message (.missing (p ++ [.field name])) =
              "Missing required field: " ++ extend p.text (.field name) := by
            rw [← Path.text_concat]
            rfl
          simp only [propertyWalk, Bool.false_eq_true, if_false, pure_bind, bind_assoc, hrest false,
            List.cons_append, List.nil_append, List.map_cons, hmessage, List.append_assoc,
            List.isEmpty_cons, Bool.and_false, Bool.false_and]

theorem mapping_of_isMapping {path : String} {properties : Collecting} (hv : v.isMapping = true) :
    mapping path properties v = properties := by
  cases v <;> simp_all [mapping, Value.isMapping]

theorem mapping_of_not_isMapping {properties : Collecting} (hv : v.isMapping = false)
    (hp : isItem p = false) :
    mapping p.text properties v = report (Problem.message (.mismatch p .object v.shape)) := by
  rw [message_object hp]
  cases v with
  | map | frozenMap | brokenMap => cases hv
  | _ => rfl

theorem items_adds {item : TypeExpr} {xs : List Value}
    (h : ∀ p v, isItem p = true → Adds (m.collectItem item p.text v) (m.walkType item p v)) :
    Adds (m.collectItems item p.text xs) (items (m.walkType item) p 0 xs) := by
  refine (each_adds (fun i x => ?_) 0 xs).adds
  rw [← Path.text_concat]
  exact h _ x (isItem_item p i)

/-- Both walks through a type: in the place of a property, and in the place of an item. -/
theorem collect_adds (m : Matcher) (τ : TypeExpr) :
    (∀ p v, isItem p = false → Adds (m.collectField τ p.text v) (m.walkType τ p v)) ∧
      ∀ p v, isItem p = true → Adds (m.collectItem τ p.text v) (m.walkType τ p v) := by
  induction τ using TypeExpr.induction with
  | named name =>
    refine ⟨fun p v hp errors => ?_, fun p v hp errors => ?_⟩
    · rw [collectField, walkType, ← lead_field hp, ← message_named]
      exact adds_test _ _ errors
    · rw [collectItem, walkType, ← lead_item hp, ← message_named]
      exact adds_test _ _ errors
  | array item ih =>
    refine ⟨fun p v hp => ?_, fun p v hp => ?_⟩
    · rw [collectField, walkType]
      cases v.items? with
      | some xs => exact items_adds ih.2
      | none => exact adds_report (by rw [message_array, lead_field hp])
    · rw [collectItem, walkType]
      cases v.items? with
      | some xs => exact items_adds ih.2
      | none => exact adds_report (by rw [message_array, lead_item hp])
  | object ps ih =>
    have hproperties (p : Path) (v : Value) :
        Adds (m.collectProperties ps p.text v true) (m.walkProperties ps p v) :=
      (collectProperties_adds fun e he x p => (ih e he).1 p x).adds
    refine ⟨fun p v hp => ?_, fun p v hp => ?_⟩
    · rw [collectField, walkType]
      cases hv : v.isMapping with
      | true =>
        rw [mapping_of_isMapping hv]
        exact hproperties p v
      | false =>
        rw [mapping_of_not_isMapping hv hp]
        exact adds_report rfl
    · rw [collectItem, walkType]
      cases hv : v.isMapping with
      | true =>
        rw [mapping_of_isMapping hv]
        exact hproperties p v
      | false => exact adds_report (message_object_item hp)

/-! ### Coming to an end -/

theorem items_total {walk : Path → Value → Walk} {xs : List Value}
    (h : ∀ x ∈ xs, ∀ p, ∃ ps, (walk p x).result = .ok ps) (p : Path) (i : Nat) :
    ∃ ps, (items walk p i xs).result = .ok ps := by
  induction xs generalizing i with
  | nil => exact ⟨[], rfl⟩
  | cons x xs ih =>
    obtain ⟨hx, hxs⟩ := List.forall_mem_cons.1 h
    obtain ⟨here, hhere⟩ := hx (p ++ [.item i])
    obtain ⟨others, hothers⟩ := ih hxs (i + 1)
    exact ⟨here ++ others, append_result_eq_ok.2 ⟨here, others, hhere, hothers, rfl⟩⟩

theorem properties_total {ps : Definition} (hlookup : ∀ e ∈ ps, ∃ x, property v e.1 = .ok x)
    (h : ∀ e ∈ ps, ∀ x, v.field? e.1 = some x → ∀ p, ∃ qs, (m.walkType e.2.type p x).result = .ok qs)
    (p : Path) : ∃ qs, (m.walkProperties ps p v).result = .ok qs := by
  induction ps with
  | nil => exact ⟨[], rfl⟩
  | cons e ps ih =>
    obtain ⟨⟨x, hx⟩, hlookup⟩ := List.forall_mem_cons.1 hlookup
    obtain ⟨hfirst, hrest⟩ := List.forall_mem_cons.1 h
    obtain ⟨others, hothers⟩ := ih hlookup hrest
    obtain ⟨here, hhere⟩ : ∃ qs, (propertyWalk m p e x).result = .ok qs := by
      cases x with
      | none => exact ⟨_, rfl⟩
      | some x => exact hfirst x (property_eq_ok hx).symm _
    rw [walkProperties_cons hx]
    exact ⟨here ++ others, append_result_eq_ok.2 ⟨here, others, hhere, hothers, rfl⟩⟩

theorem walkType_total {τ : TypeExpr} (walkable : Walkable m τ v) (p : Path) :
    ∃ ps, (m.walkType τ p v).result = .ok ps := by
  induction τ using TypeExpr.induction generalizing v p with
  | named name =>
    obtain ⟨ok, hok⟩ := walkable.answer
    rw [walkType, Journal.bind_result, hok]
    cases ok <;> exact ⟨_, rfl⟩
  | array item ih =>
    rw [walkType]
    cases hv : v.items? with
    | none => exact ⟨_, rfl⟩
    | some xs =>
      refine items_total (fun x hx p => ?_) p 0
      obtain ⟨i, hi⟩ := List.getElem?_of_mem hx
      exact ih (walkable.item hv hi) p
  | object ps ih =>
    rw [walkType]
    cases hv : v.isMapping with
    | false => exact ⟨_, rfl⟩
    | true =>
      refine properties_total (walkable.lookup [] ps v .here) (fun e he x hx p => ?_) p
      exact ih e he (walkable.field hv he hx) p

end Matcher

namespace Collecting

def Appends (collect : Collecting) (new : List String) : Prop :=
  ∀ errors, (collect errors).result = .ok (new.isEmpty, errors ++ new)

theorem Adds.appends {collect : Collecting} {walk : Matcher.Walk} (h : Adds collect walk)
    {ps : List Problem} (hps : walk.result = .ok ps) : Appends collect (ps.map Problem.message) := by
  intro errors
  rw [h errors, Journal.bind_result, hps]
  simp [Except.bind]

/-- The answers and the list tell the same of a walk. Whatever a place is called and whatever is in the
list before, a walk through it ends as the walk that lists its problems does: if no look-up fails, with
their messages behind the others, and with the answer whether there are any. So the answer for the
value as a whole is the verdict. -/
theorem collecting_agrees (m : Matcher) (path : String) :
    (∀ d v, Adds (m.collectObject d path v) (m.walkType (.object d) [.field path] v) ∧
      (Walkable m (.object d) v → ∃ new, Appends (m.collectObject d path v) new)) ∧
    (∀ τ v, Adds (m.collectField τ path v) (m.walkType τ [.field path] v) ∧
      (Walkable m τ v → ∃ new, Appends (m.collectField τ path v) new)) ∧
    (∀ item xs, Adds (m.collectItems item path xs)
        (Matcher.items (m.walkType item) [.field path] 0 xs) ∧
      (Walkable m (.array item) (.list xs) → ∃ new, Appends (m.collectItems item path xs) new)) ∧
    ∀ d v valid errors, (m.collectObject d "" v []).result = .ok (valid, errors) →
      (Session.conclude (m.problems d v)).result = .ok ⟨errors⟩ ∧ MatchResult.valid ⟨errors⟩ = valid := by
  have hpath : Path.text [.field path] = path := by
    simp only [Path.text, List.foldl_cons, List.foldl_nil, extend, if_true]
  have hfield (τ : TypeExpr) (v : Value) :
      Adds (m.collectField τ path v) (m.walkType τ [.field path] v) ∧
        (Walkable m τ v → ∃ new, Appends (m.collectField τ path v) new) := by
    have hadds := (Matcher.collect_adds m τ).1 [.field path] v rfl
    rw [hpath] at hadds
    refine ⟨hadds, fun walkable => ?_⟩
    obtain ⟨ps, hps⟩ := Matcher.walkType_total walkable [.field path]
    exact ⟨_, hadds.appends hps⟩
  refine ⟨fun d v => hfield (.object d) v, hfield, fun item xs => ?_, ?_⟩
  · have hadds := @Matcher.items_adds m [.field path] item xs fun p v => (Matcher.collect_adds m item).2 p v
    rw [hpath] at hadds
    refine ⟨hadds, fun walkable => ?_⟩
    obtain ⟨ps, hps⟩ := Matcher.walkType_total walkable [.field path]
    exact ⟨_, hadds.appends hps⟩
  · intro d v valid errors h
    have hadds : Adds (m.collectObject d "" v) (m.problems d v) :=
      (Matcher.collect_adds m (.object d)).1 [] v rfl
    rw [hadds [], Journal.bind_result_eq_ok] at h
    obtain ⟨ps, hps, h⟩ := h
    cases h
    unfold Session.conclude
    rw [hps]
    exact ⟨rfl, by simp [MatchResult.valid]⟩

/-- The second item is of a wrong type, whatever was wrong before. -/
theorem collecting_agrees_items :
    Appends (Matcher.collectItems {} (.named "string") "a" [.text "x", .null])
      ["Array item at a[1] should be a string (found null)"] := by
  have walkable : Walkable {} (.array (.named "string")) (.list [.text "x", .null]) := by
    refine ⟨fun path ps w h => ?_, fun path name w h text hinterrupt => ?_⟩
    · cases h with
      | item hv hx rest => cases rest
    · cases h with
      | item hv hx rest =>
        cases rest
        cases hinterrupt
  obtain ⟨new, hnew⟩ := ((collecting_agrees {} "a").2.2.1 _ _).2 walkable
  have hrun : (Matcher.collectItems {} (.named "string") "a" [.text "x", .null] []).result =
      .ok (false, ["Array item at a[1] should be a string (found null)"]) := by rfl
  rw [hnew []] at hrun
  obtain rfl : new = ["Array item at a[1] should be a string (found null)"] :=
    (Prod.ext_iff.1 (Except.ok.inj hrun)).2
  exact hnew

end Collecting

end Conform
