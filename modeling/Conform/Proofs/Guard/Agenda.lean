import Conform.Proofs.Guard.Denotation

/-! One form for all checks. Whatever its kind, a check answers by itself, or calls a predicate, or turns
to its parts one after another until one of them decides. If it is a guard, what goes wrong on this way
ends there (`test_of_isGuard`). -/

namespace Conform.Guard

/-- A turn in a sequence: a part is asked about a value, or the value cannot be read. -/
inductive Turn where
  | unread (fault : Fault)
  | part (frame : Frame) (c : Check) (v : Value)

namespace Turn

def ofRead (frame : Frame) (c : Check) : Except Fault Value → Turn
  | .error fault => unread (fault.leave frame)
  | .ok v => part frame c v

def verdict : Turn → Verdict
  | unread fault => .fail fault
  | part frame c v => c.test.inside frame v

def outcome (t : Turn) : Except Fault Bool := t.verdict.result

theorem outcome_part (frame : Frame) (c : Check) (v : Value) :
    (part frame c v).outcome = (c.test v).result.mapError (Fault.leave frame) := rfl

theorem outcome_part_eq_ok_iff {frame : Frame} {c : Check} {v : Value} {b : Bool} :
    (part frame c v).outcome = .ok b ↔ (c.test v).result = .ok b :=
  Journal.mapError_result_eq_ok

end Turn

def goesOn (go : Bool) : Except Fault Bool → Bool
  | .ok b => b == go
  | .error _ => false

theorem goesOn_eq_true_iff {go : Bool} {r : Except Fault Bool} :
    goesOn go r = true ↔ r = .ok go := by
  cases r <;> simp [goesOn]

/-- The turns that are taken: all up to the first that decides. -/
def asked (go : Bool) : List Turn → List Turn
  | [] => []
  | t :: ts => t :: if goesOn go t.outcome then asked go ts else []

/-- Takes one turn after another as long as the answer is `go`. -/
def through (go : Bool) : List Turn → Verdict
  | [] => pure go
  | t :: ts => do if (← t.verdict) = go then through go ts else pure !go

inductive Agenda where
  | answer (r : Except Fault Bool)
  | call (p : Predicate)
  | ask (go : Bool) (turns : List Turn)

def Agenda.run (v : Value) : Agenda → Verdict
  | answer r => .ofExcept r
  | call p => Test.ofPredicate p v
  | ask go turns => through go turns

section Turns

variable {go : Bool} {t : Turn} {before after ts : List Turn}

theorem asked_subset (go : Bool) (ts : List Turn) : asked go ts ⊆ ts := by
  induction ts with
  | nil => exact List.Subset.refl []
  | cons t ts ih =>
    rw [asked]
    split
    · exact List.cons_subset_cons t ih
    · exact List.cons_subset_cons t (List.nil_subset ts)

theorem asked_cons_of_passed (h : t.outcome = .ok go) : asked go (t :: ts) = t :: asked go ts := by
  rw [asked, if_pos (goesOn_eq_true_iff.2 h)]

theorem asked_cons_of_decides (h : t.outcome ≠ .ok go) : asked go (t :: ts) = [t] := by
  rw [asked, if_neg (mt goesOn_eq_true_iff.1 h)]

theorem asked_single (go : Bool) (t : Turn) : asked go [t] = [t] := by
  rw [asked]
  split <;> rfl

theorem asked_of_decides (passed : ∀ s ∈ before, s.outcome = .ok go)
    (decides : t.outcome ≠ .ok go) : asked go (before ++ t :: after) = before ++ [t] := by
  induction before with
  | nil => exact asked_cons_of_decides decides
  | cons s before ih =>
    obtain ⟨hs, passed⟩ := List.forall_mem_cons.1 passed
    rw [List.cons_append, asked_cons_of_passed hs, ih passed, List.cons_append]

theorem asked_of_passed (passed : ∀ s ∈ ts, s.outcome = .ok go) : asked go ts = ts := by
  induction ts with
  | nil => rfl
  | cons t ts ih =>
    obtain ⟨ht, passed⟩ := List.forall_mem_cons.1 passed
    rw [asked_cons_of_passed ht, ih passed]

theorem through_cons_of_passed (h : t.outcome = .ok go) :
    (through go (t :: ts)).result = (through go ts).result := by
  have h : t.verdict.result = .ok go := h
  rw [through, Journal.bind_result, h]
  cases go <;> rfl

theorem through_cons_of_decides (h : t.outcome ≠ .ok go) :
    (through go (t :: ts)).result = t.outcome := by
  rw [through, Journal.bind_result, show t.verdict.result = t.outcome from rfl]
  rcases ht : t.outcome with fault | b
  · rfl
  · obtain rfl : b = !go := Bool.eq_not.2 fun hb => h (by rw [ht, hb])
    cases go <;> rfl

theorem through_result_of_decides (passed : ∀ s ∈ before, s.outcome = .ok go)
    (decides : t.outcome ≠ .ok go) :
    (through go (before ++ t :: after)).result = t.outcome := by
  induction before with
  | nil => exact through_cons_of_decides decides
  | cons s before ih =>
    obtain ⟨hs, passed⟩ := List.forall_mem_cons.1 passed
    rw [List.cons_append, through_cons_of_passed hs, ih passed]

theorem through_result_of_passed (passed : ∀ s ∈ ts, s.outcome = .ok go) :
    (through go ts).result = .ok go := by
  induction ts with
  | nil => rfl
  | cons t ts ih =>
    obtain ⟨ht, passed⟩ := List.forall_mem_cons.1 passed
    rw [through_cons_of_passed ht, ih passed]

/-- Turns that only go on while they accept are asked for agreement, the others for a single
acceptance. -/
theorem through_true (ts : List Turn) : through true ts = ts.allM Turn.verdict := by
  induction ts with
  | nil => rfl
  | cons t ts ih => rw [through, allM_cons, ih]; rfl

theorem through_false (ts : List Turn) : through false ts = ts.anyM Turn.verdict := by
  induction ts with
  | nil => rfl
  | cons t ts ih =>
    rw [through, anyM_cons, ih]
    congr
    funext b
    cases b <;> rfl

theorem through_single (t : Turn) : through true [t] = t.verdict := by
  rw [through_true, allM_cons]
  refine Eq.trans ?_ (bind_pure t.verdict)
  congr
  funext b
  cases b <;> rfl

/-- What goes wrong in a turn that is taken goes wrong in the whole. -/
theorem through_eq_error_iff {fault : Fault} :
    (through go ts).result = .error fault ↔ ∃ t ∈ asked go ts, t.outcome = .error fault := by
  induction ts with
  | nil =>
    constructor
    · intro h
      cases h
    · rintro ⟨t, ht, -⟩
      cases ht
  | cons s ts ih =>
    by_cases hs : s.outcome = .ok go
    · rw [through_cons_of_passed hs, asked_cons_of_passed hs, ih]
      simp [hs]
    · rw [through_cons_of_decides hs, asked_cons_of_decides hs]
      simp

theorem through_notes (go : Bool) (ts : List Turn) :
    (through go ts).notes = (asked go ts).flatMap fun t => t.verdict.notes := by
  induction ts with
  | nil => rfl
  | cons t ts ih =>
    rw [asked, through, Turn.outcome]
    rcases ht : t.verdict with ⟨notes, fault | b⟩
    · simp [goesOn, ht]
    · by_cases hb : b = go
      · simp [goesOn, hb, ih, ht]
      · simp [goesOn, hb, ht]

theorem through_append (ts us : List Turn) :
    through true (ts ++ us) =
      (do if ← through true ts then through true us else pure false) := by
  induction ts with
  | nil =>
    show _ = (pure true : Verdict) >>= _
    rw [pure_bind]
    rfl
  | cons t ts ih =>
    rw [List.cons_append, through, through, ih, bind_assoc]
    congr
    funext b
    cases b <;> rfl

/-- Elements with any number of turns, which are all asked for agreement. -/
theorem through_flatMap {α : Type} {turns : α → List Turn} {f : α → Verdict} {xs : List α}
    (h : ∀ x ∈ xs, through true (turns x) = f x) :
    through true (xs.flatMap turns) = xs.allM f := by
  induction xs with
  | nil => rfl
  | cons x xs ih =>
    obtain ⟨hx, hxs⟩ := List.forall_mem_cons.1 h
    rw [List.flatMap_cons, through_append, hx, ih hxs, allM_cons]

end Turns

namespace Check

variable {c d : Check} {v w : Value} {go : Bool} {ts : List Turn}

def fits : Check → Value → Bool
  | object _, v | partialObject _, v => v.isObject
  | array _, v => v.isArray
  | tuple cs, v => v.items?.any fun xs => xs.length = cs.length
  | record .., v => v.isObject && !v.isArray
  | _, _ => true

def goes : Check → Bool
  | union _ => false
  | _ => true

def entryTurns (turns : Value × Value → List Turn) : Value.Entry → List Turn
  | .ok e => turns e
  | .error fault => [.unread fault]

/-- The parts in the order in which they are asked, each with the value that it is asked about. -/
def turns : Check → Value → List Turn
  | object fs, v => fs.map fun f => .ofRead .generator f.2 (v.getField (.text f.1))
  | partialObject fs, v => v.ownEntries.flatMap <| entryTurns fun e =>
    (declared fs e.1).toList.map fun c => .part .function c e.2
  | array c, v => (v.items?.getD []).map fun x => .part .generator c x
  | tuple cs, v => (cs.zip (v.items?.getD [])).map fun q => .part .generator q.1 q.2
  | record key value, v => v.ownEntries.flatMap <| entryTurns fun e =>
    [.part .closed key e.1, .part .generator value e.2]
  | union cs, v | intersection cs, v => cs.map fun c => .part .generator c v
  | refined base condition, v => [.part .function base v, .part .function condition v]
  | named _ c, v => [.part .function c v]
  | _, _ => []

def agenda (c : Check) (v : Value) : Agenda :=
  match c with
  | predicate p => .call p
  | constant x => .answer (Test.ofValue x v).result
  | primitive p => .answer (.ok (p.accepts v))
  | literal x => .answer (v.strictEqual x)
  | c => if c.fits v then .ask c.goes (c.turns v) else .answer (.ok false)

/-- The evaluation of a check up to the guard that it is itself. -/
def body (c : Check) (v : Value) : Verdict := (c.agenda v).run v

theorem body_of_agenda_ask (h : c.agenda v = .ask go ts) : c.body v = through go ts := by
  rw [body, h, Agenda.run]

theorem body_of_agenda_answer {r : Except Fault Bool} (h : c.agenda v = .answer r) :
    c.body v = .ofExcept r := by
  rw [body, h, Agenda.run]

theorem failClosed_congr {name : Value} {t s : Test} (h : t v = s v) :
    failClosed name t v = failClosed name s v := by
  unfold failClosed
  rw [h]

/-- A composite check turns to its parts if the value has the shape that it wants. -/
theorem body_of_composite
    (h : c.agenda v = if c.fits v then .ask c.goes (c.turns v) else .answer (.ok false)) :
    c.body v = if c.fits v then through c.goes (c.turns v) else pure false := by
  rw [body, h]
  cases c.fits v <;> rfl

theorem verdict_ofRead (frame : Frame) (c : Check) (r : Except Fault Value) :
    (Turn.ofRead frame c r).verdict =
      Journal.mapError (Fault.leave frame) (do c.test (← .ofExcept r)) := by
  cases r <;> rfl

theorem inside_function (t : Test) (v : Value) : t.inside .function v = t v := by
  rw [Test.inside, Journal.mapError]
  rcases t v with ⟨notes, fault | b⟩
  · show Journal.mk notes (Except.error (Fault.leave .function fault)) = ⟨notes, .error fault⟩
    rw [Fault.leave_function]
  · rfl

theorem through_entryTurns {turns : Value × Value → List Turn} {ask : Value × Value → Verdict}
    (h : ∀ e, through true (turns e) = ask e) (v : Value) :
    through true (v.ownEntries.flatMap (entryTurns turns)) = Test.eachEntry ask v := by
  refine through_flatMap fun e _ => ?_
  cases e with
  | error fault => exact through_single (.unread fault)
  | ok e => exact h e

/-- A guard is evaluated as its agenda says, and fails closed. -/
theorem test_of_isGuard (h : c.isGuard = true) (v : Value) :
    c.test v = failClosed c.label c.body v := by
  cases c with
  | predicate p | constant x => cases h
  | primitive p | literal x => rfl
  | object fs =>
    refine failClosed_congr ?_
    rw [body_of_composite rfl]
    simp only [Test.object, turns, goes, through_true, fieldTests_eq_map, allM_map, verdict_ofRead]
    rfl
  | partialObject fs =>
    refine failClosed_congr ?_
    rw [body_of_composite rfl, Test.partialObject]
    simp only [turns, goes]
    refine congrArg (if v.isObject then · else pure false)
      (through_entryTurns (fun e => ?_) v).symm
    rw [declared_fieldTests]
    cases declared fs e.1 with
    | none => rfl
    | some c => exact (through_single _).trans (inside_function c.test e.2)
  | array c =>
    refine failClosed_congr ?_
    rw [body_of_composite rfl]
    simp only [Test.array, turns, goes, through_true, allM_map]
    cases hxs : v.items? <;> simp [fits, Value.isArray, hxs]
    rfl
  | tuple cs =>
    refine failClosed_congr ?_
    rw [body_of_composite rfl]
    simp only [Test.tuple, turns, goes, length_tests, zip_tests, through_true, allM_map]
    cases hxs : v.items? <;> simp [fits, hxs]
    rfl
  | record key value =>
    refine failClosed_congr ?_
    have hentry (e : Value × Value) :
        through true [.part .closed key e.1, .part .generator value e.2] =
          (do if ← key.test.inside .closed e.1 then value.test.inside .generator e.2
              else pure false) := by
      rw [through, through_single]
      rfl
    rw [body_of_composite rfl]
    simp only [turns, goes, through_entryTurns hentry]
    rfl
  | union cs =>
    refine failClosed_congr ?_
    show (tests cs).anyM (fun t => t.inside .generator v) =
      through false (cs.map fun c => .part .generator c v)
    rw [through_false, tests_eq_map, anyM_map, anyM_map]
    rfl
  | intersection cs =>
    refine failClosed_congr ?_
    show (tests cs).allM (fun t => t.inside .generator v) =
      through true (cs.map fun c => .part .generator c v)
    rw [through_true, tests_eq_map, allM_map, allM_map]
    rfl
  | refined base condition =>
    refine failClosed_congr ?_
    show _ = through true [.part .function base v, .part .function condition v]
    rw [through, through_single, Turn.verdict, Turn.verdict, inside_function, inside_function]
    rfl
  | named n c =>
    refine failClosed_congr ?_
    show _ = through true [.part .function c v]
    rw [through_single, Turn.verdict, inside_function]

theorem test_of_not_isGuard (h : c.isGuard = false) (v : Value) : c.test v = c.body v := by
  cases c with
  | predicate p => rfl
  | constant x =>
    show Test.ofValue x v = Journal.ofExcept (Test.ofValue x v).result
    unfold Test.ofValue
    split
    · rfl
    · split <;> rfl
  | _ => cases h

theorem agenda_eq_ask (h : c.agenda v = .ask go ts) :
    c.isGuard = true ∧ c.fits v = true ∧ c.turns v = ts ∧ c.goes = go := by
  have composite (h : (if c.fits v then Agenda.ask c.goes (c.turns v) else .answer (.ok false)) =
      .ask go ts) : c.fits v = true ∧ c.turns v = ts ∧ c.goes = go := by
    split at h
    · next hfits =>
      obtain ⟨hgo, hts⟩ := Agenda.ask.inj h
      exact ⟨hfits, hts, hgo⟩
    · cases h
  cases c with
  | predicate p | constant x | primitive p | literal x => cases h
  | _ => exact ⟨rfl, composite h⟩

theorem mem_entryTurns {turns : Value × Value → List Turn} {e : Value.Entry} {t : Turn}
    (h : t ∈ entryTurns turns e) : (∃ fault, t = .unread fault) ∨ ∃ p, t ∈ turns p := by
  cases e with
  | error fault => exact .inl ⟨fault, List.mem_singleton.1 h⟩
  | ok p => exact .inr ⟨p, h⟩

theorem mem_of_mem_pair {frame frame₁ frame₂ : Frame} {c₁ c₂ : Check} {x₁ x₂ : Value}
    (h : Turn.part frame d w ∈ [.part frame₁ c₁ x₁, .part frame₂ c₂ x₂]) : d ∈ [c₁, c₂] := by
  rcases List.mem_cons.1 h with h | h
  · cases h
    exact List.mem_cons_self
  · cases List.mem_singleton.1 h
    exact List.mem_cons_of_mem _ (List.mem_singleton.2 rfl)

theorem part_mem_parts {frame : Frame} (h : .part frame d w ∈ c.turns v) : d ∈ c.parts := by
  cases c with
  | predicate p | constant x | primitive p | literal x => cases h
  | object fs =>
    obtain ⟨f, hf, hread⟩ := List.mem_map.1 h
    cases hw : v.getField (.text f.1) with
    | error fault => simp [hw, Turn.ofRead] at hread
    | ok x =>
      simp only [hw, Turn.ofRead, Turn.part.injEq] at hread
      exact hread.2.1 ▸ List.mem_map_of_mem hf
  | partialObject fs =>
    obtain ⟨e, -, ht⟩ := List.mem_flatMap.1 h
    obtain ⟨fault, hfault⟩ | ⟨p, hp⟩ := mem_entryTurns ht
    · cases hfault
    · obtain ⟨c, hc, hpart⟩ := List.mem_map.1 hp
      obtain ⟨f, hf, rfl⟩ := mem_of_declared (Option.mem_toList.1 hc)
      cases hpart
      exact List.mem_map_of_mem hf
  | array c =>
    obtain ⟨x, -, hpart⟩ := List.mem_map.1 h
    cases hpart
    exact List.mem_singleton.2 rfl
  | tuple cs =>
    obtain ⟨q, hq, hpart⟩ := List.mem_map.1 h
    cases hpart
    exact (List.of_mem_zip hq).1
  | record key value =>
    obtain ⟨e, -, ht⟩ := List.mem_flatMap.1 h
    obtain ⟨fault, hfault⟩ | ⟨p, hp⟩ := mem_entryTurns ht
    · cases hfault
    · exact mem_of_mem_pair hp
  | union cs | intersection cs =>
    obtain ⟨e, he, hpart⟩ := List.mem_map.1 h
    cases hpart
    exact he
  | refined base condition => exact mem_of_mem_pair h
  | named n c =>
    cases List.mem_singleton.1 h
    exact List.mem_singleton.2 rfl

theorem asked_mem_parts {frame : Frame} (h : c.agenda v = .ask go ts)
    (ht : .part frame d w ∈ asked go ts) : d ∈ c.parts := by
  obtain ⟨-, -, rfl, rfl⟩ := agenda_eq_ask h
  exact part_mem_parts (asked_subset _ _ ht)

theorem sizeOf_lt_of_mem_parts (h : d ∈ c.parts) : sizeOf d < sizeOf c := by
  cases c with
  | predicate p | constant x | primitive p | literal x => cases h
  | object fs | partialObject fs =>
    obtain ⟨f, hf, rfl⟩ := List.mem_map.1 h
    have hlt := sizeOf_field_lt hf
    simp only [object.sizeOf_spec, partialObject.sizeOf_spec]
    omega
  | array c | named n c =>
    obtain rfl := List.mem_singleton.1 h
    simp only [array.sizeOf_spec, named.sizeOf_spec]
    omega
  | tuple cs | union cs | intersection cs =>
    have hlt : sizeOf d < sizeOf cs := List.sizeOf_lt_of_mem h
    simp only [tuple.sizeOf_spec, union.sizeOf_spec, intersection.sizeOf_spec]
    omega
  | record e f | refined e f =>
    simp only [record.sizeOf_spec, refined.sizeOf_spec]
    obtain rfl | rfl : d = e ∨ d = f := by simpa [parts] using h
    · omega
    · omega

theorem parts_induction {P : Check → Prop} (h : ∀ c, (∀ d ∈ c.parts, P d) → P c) (c : Check) : P c :=
  h c fun d hd =>
    have := sizeOf_lt_of_mem_parts hd
    parts_induction h d
termination_by sizeOf c

end Check

end Conform.Guard
