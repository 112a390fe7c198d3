import Conform.Proofs.Guard.History

/-! What goes wrong is reported, once and by the guard that it reaches. An ordinary fault reaches the
innermost guard at work, as it comes out of the frame that it was raised in, and no other guard. This guard
rejects because of it and reports it under its own name; to all guards around it this is a rejection
like any other. What does not reach a guard is not reported: a look-up that ends in absence is none. -/

namespace Conform.Guard.Check

variable {c d g : Check} {v w x : Value} {go : Bool} {ts : List Turn} {fault : Fault} {m : Mishap}

/-- When a check is asked about a value, a guard is asked about another: the check itself, or one that
it comes to by its parts. -/
inductive Consults : Check → Value → Check → Value → Prop
  | self {c : Check} {v : Value} (h : c.isGuard = true) : Consults c v c v
  | part {c d g : Check} {v w x : Value} {go : Bool} {ts : List Turn} {frame : Frame}
      (h : c.agenda v = .ask go ts) (turn : .part frame d w ∈ asked go ts) (inner : Consults d w g x) :
      Consults c v g x

/-- A fault that reaches a guard at work: from what it does itself, from the reading of its value, from a
part that is no guard, or from a guard among the parts that did not hold back what had reached it. -/
inductive Reaches : Fault → Check → Value → Prop
  | own {fault : Fault} {g : Check} {x : Value} (h : g.agenda x = .answer (.error fault)) :
      Reaches fault g x
  | unread {fault : Fault} {g : Check} {x : Value} {go : Bool} {ts : List Turn}
      (h : g.agenda x = .ask go ts) (turn : .unread fault ∈ asked go ts) : Reaches fault g x
  | plain {raised : Fault} {frame : Frame} {g d : Check} {x w : Value} {go : Bool} {ts : List Turn}
      (h : g.agenda x = .ask go ts) (turn : .part frame d w ∈ asked go ts) (hd : d.isGuard = false)
      (fails : (d.test w).result = .error raised) : Reaches (raised.leave frame) g x
  | escaped {first raised : Fault} {frame : Frame} {g d : Check} {x w : Value} {go : Bool}
      {ts : List Turn} (h : g.agenda x = .ask go ts) (turn : .part frame d w ∈ asked go ts)
      (hd : d.isGuard = true) (inner : Reaches first d w)
      (escapes : settle (.error first) = .error raised) : Reaches (raised.leave frame) g x

theorem Reaches.body_result (h : Reaches fault g x) : (g.body x).result = .error fault := by
  induction h with
  | own h =>
    rw [body_of_agenda_answer h]
    rfl
  | unread h turn =>
    rw [body_of_agenda_ask h]
    exact through_eq_error_iff.2 ⟨_, turn, rfl⟩
  | plain h turn _ fails =>
    rw [body_of_agenda_ask h]
    refine through_eq_error_iff.2 ⟨_, turn, ?_⟩
    rw [Turn.outcome_part, fails]
    rfl
  | @escaped first raised frame g d x w _ _ h turn hd _ escapes ih =>
    have fails : (d.test w).result = .error raised := by
      rw [test_of_isGuard hd, failClosed_result, ih, escapes]
    rw [body_of_agenda_ask h]
    refine through_eq_error_iff.2 ⟨_, turn, ?_⟩
    rw [Turn.outcome_part, fails]
    rfl

theorem agenda_ne_call {p : Predicate} (hc : c.isGuard = true) : c.agenda v ≠ .call p := by
  intro h
  obtain rfl := calls_of_agenda_call h
  cases hc

theorem reaches_iff (hg : g.isGuard = true) :
    Reaches fault g x ↔ (g.body x).result = .error fault := by
  refine ⟨Reaches.body_result, fun h => ?_⟩
  induction g using parts_induction generalizing x fault with
  | h g ih =>
    cases hagenda : g.agenda x with
    | call p => exact absurd hagenda (agenda_ne_call hg)
    | answer r =>
      rw [body_of_agenda_answer hagenda] at h
      obtain rfl : r = .error fault := h
      exact .own hagenda
    | ask go ts =>
      rw [body_of_agenda_ask hagenda] at h
      obtain ⟨t, turn, houtcome⟩ := through_eq_error_iff.1 h
      cases t with
      | unread fault' =>
        obtain rfl : fault' = fault := Except.error.inj houtcome
        exact .unread hagenda turn
      | part frame d w =>
        rw [Turn.outcome_part] at houtcome
        cases hr : (d.test w).result with
        | ok b =>
          rw [hr] at houtcome
          cases houtcome
        | error raised =>
          rw [hr] at houtcome
          obtain rfl : raised.leave frame = fault := Except.error.inj houtcome
          cases hd : d.isGuard with
          | false => exact .plain hagenda turn hd hr
          | true =>
            rw [test_of_isGuard hd, failClosed_result] at hr
            obtain ⟨first, hfirst, -⟩ := settle_escapes hr
            rw [hfirst] at hr
            exact .escaped hagenda turn hd (ih d (asked_mem_parts hagenda turn) hd hfirst) hr

theorem Reaches.rejects {kind : FaultKind} {text : String} (h : Reaches (.ordinary kind text) g x)
    (hg : g.isGuard = true) : (g.test x).result = .ok false := by
  rw [test_of_isGuard hg, failClosed_result, h.body_result]
  rfl

theorem Consults.isGuard (h : Consults c v g x) : c.isGuard = true ∧ g.isGuard = true := by
  induction h with
  | self h => exact ⟨h, h⟩
  | part h _ _ ih => exact ⟨(agenda_eq_ask h).1, ih.2⟩

theorem mem_mishaps_iff {r : Except Fault Bool} :
    .mishap m ∈ mishaps g x r ↔
      g = m.guard ∧ x = m.value ∧ r = .error (.ordinary m.kind m.text) := by
  obtain ⟨g', x', kind', text'⟩ := m
  rcases r with (⟨kind, text⟩ | ⟨kind, instead⟩ | text) | b
  · simp [mishaps, eq_comm]
  all_goals simp [mishaps]

/-- A guard that is consulted by way of no part is the check itself. -/
theorem consults_iff_of_no_ask (h : ∀ go ts, c.agenda v ≠ .ask go ts) :
    Consults c v g x ↔ c.isGuard = true ∧ c = g ∧ v = x := by
  constructor
  · intro hconsults
    cases hconsults with
    | self hc => exact ⟨hc, rfl, rfl⟩
    | part hagenda => exact absurd hagenda (h _ _)
  · rintro ⟨hc, rfl, rfl⟩
    exact .self hc

theorem mishap_mem_history_iff : .mishap m ∈ c.history v ↔
    Consults c v m.guard m.value ∧ Reaches (.ordinary m.kind m.text) m.guard m.value := by
  induction c using parts_induction generalizing v with
  | h c ih =>
    cases hagenda : c.agenda v with
    | call p =>
      obtain rfl := calls_of_agenda_call hagenda
      rw [history_of_call hagenda, consults_iff_of_no_ask (by simp [hagenda])]
      simp [isGuard]
    | answer r =>
      rw [history_of_answer hagenda, consults_iff_of_no_ask (by simp [hagenda])]
      cases hc : c.isGuard with
      | false => simp
      | true =>
        rw [if_pos rfl, mem_mishaps_iff]
        constructor
        · rintro ⟨rfl, rfl, rfl⟩
          exact ⟨⟨rfl, rfl, rfl⟩, .own hagenda⟩
        · rintro ⟨⟨-, rfl, rfl⟩, hreaches⟩
          have hbody := hreaches.body_result
          rw [body_of_agenda_answer hagenda] at hbody
          exact ⟨rfl, rfl, hbody⟩
    | ask go ts =>
      have hc := (agenda_eq_ask hagenda).1
      rw [history_of_ask hagenda, List.mem_append, mem_mishaps_iff, List.mem_flatMap]
      constructor
      · rintro (⟨t, turn, hm⟩ | ⟨rfl, rfl, hbody⟩)
        · cases t with
          | unread fault => cases hm
          | part frame d w =>
            obtain ⟨hconsults, hreaches⟩ := (ih d (asked_mem_parts hagenda turn)).1 hm
            exact ⟨.part hagenda turn hconsults, hreaches⟩
        · exact ⟨.self hc, (reaches_iff hc).2 hbody⟩
      · rintro ⟨hconsults, hreaches⟩
        cases hconsults with
        | self => exact .inr ⟨rfl, rfl, hreaches.body_result⟩
        | part h turn inner =>
          obtain ⟨rfl, rfl⟩ := Agenda.ask.inj (h.symm.trans hagenda)
          exact .inl ⟨_, turn, (ih _ (asked_mem_parts hagenda turn)).2 ⟨inner, hreaches⟩⟩

def Asks (g : Check) (x : Value) (frame : Frame) (p : Predicate) (y : Value) : Prop :=
  ∃ go ts, g.agenda x = .ask go ts ∧ .part frame (predicate p) y ∈ asked go ts

/-- Each call that fails is followed by the mishap that this is to the guard that made it. The fault is
that of the predicate, as it comes out of the frame in which this was called. -/
def Owned (os : List Occurrence) : Prop :=
  ∀ before p y after kind text, os = before ++ .call p y :: after →
    p.test y = .error (.ordinary kind text) →
      ∃ m rest frame, after = .mishap m :: rest ∧ Asks m.guard m.value frame p y ∧
        (Fault.ordinary kind text).leave frame = .ordinary m.kind m.text

theorem Owned.append {os os' : List Occurrence} (h : Owned os) (h' : Owned os') :
    Owned (os ++ os') := by
  intro before p y after kind text heq hfault
  rcases List.append_eq_append_iff.1 heq with ⟨l, -, hos'⟩ | ⟨l, hos, hafter⟩
  · exact h' l p y after kind text hos' hfault
  · cases l with
    | nil => exact h' [] p y after kind text hafter.symm hfault
    | cons o l =>
      obtain ⟨rfl, rfl⟩ := List.cons.inj hafter
      obtain ⟨m, rest, frame, rfl, hm⟩ := h before p y l kind text hos hfault
      exact ⟨m, rest ++ os', frame, rfl, hm⟩

theorem owned_mishaps (g : Check) (x : Value) (r : Except Fault Bool) : Owned (mishaps g x r) := by
  intro before p y after kind text heq
  have hcall : .call p y ∈ mishaps g x r := by simp [heq]
  rcases r with (⟨kind, text⟩ | ⟨kind, instead⟩ | text) | b <;> simp [mishaps] at hcall

theorem owned_call {p : Predicate} {y : Value} {frame : Frame} (h : Asks g x frame p y) :
    Owned (.call p y :: mishaps g x ((p.test y).mapError (Fault.leave frame))) := by
  intro before q z after kind text heq hfault
  cases before with
  | nil =>
    obtain ⟨hcall, rfl⟩ := List.cons.inj heq
    obtain ⟨rfl, rfl⟩ := Occurrence.call.inj hcall
    obtain ⟨kind', text', hleave⟩ := Fault.leave_ordinary frame kind text
    refine ⟨⟨g, x, kind', text'⟩, [], frame, ?_, h, hleave⟩
    rw [hfault]
    show mishaps g x (.error (Fault.leave frame (.ordinary kind text))) = _
    rw [hleave]
    rfl
  | cons o before =>
    obtain ⟨-, heq⟩ := List.cons.inj heq
    exact owned_mishaps g x _ before q z after kind text heq hfault

theorem owned_passed {p : Predicate} {y : Value} {b : Bool} (h : p.test y = .ok b) :
    Owned [.call p y] := by
  intro before q z after kind text heq hfault
  have hmem : .call q z ∈ [Occurrence.call p y] := by simp [heq]
  obtain ⟨rfl, rfl⟩ := Occurrence.call.inj (List.mem_singleton.1 hmem)
  rw [h] at hfault
  cases hfault

/-- Of the turns that are taken, only the last one can be a mishap to the guard that takes them. -/
theorem owned_through (guards : ∀ t ∈ asked go ts, ∀ frame d w, t = .part frame d w →
      d.isGuard = true → Owned (d.history w))
    (asks : ∀ frame p y, .part frame (predicate p) y ∈ asked go ts → Asks g x frame p y) :
    Owned ((asked go ts).flatMap Turn.history ++ mishaps g x (through go ts).result) := by
  induction ts with
  | nil => exact owned_mishaps g x (.ok go)
  | cons t ts ih =>
    by_cases ht : t.outcome = .ok go
    · rw [asked_cons_of_passed ht] at guards asks ⊢
      rw [through_cons_of_passed ht, List.flatMap_cons, List.append_assoc]
      obtain ⟨guard, guards⟩ := List.forall_mem_cons.1 guards
      refine Owned.append ?_ (ih guards fun frame p y h => asks frame p y (List.mem_cons_of_mem t h))
      cases t with
      | unread fault => exact owned_mishaps g x (.ok go)
      | part frame d w =>
        cases hd : d.isGuard with
        | true => exact guard frame d w rfl hd
        | false =>
          cases d with
          | predicate p =>
            rw [Turn.history, history_of_call rfl]
            exact owned_passed (Turn.outcome_part_eq_ok_iff.1 ht)
          | constant y =>
            rw [Turn.history, history_of_answer rfl]
            exact owned_mishaps g x (.ok go)
          | _ => cases hd
    · rw [asked_cons_of_decides ht] at guards asks ⊢
      rw [through_cons_of_decides ht, List.flatMap_singleton]
      cases t with
      | unread fault => exact owned_mishaps g x _
      | part frame d w =>
        cases hd : d.isGuard with
        | true =>
          exact Owned.append (guards _ (List.mem_singleton.2 rfl) frame d w rfl hd)
            (owned_mishaps g x _)
        | false =>
          cases d with
          | predicate p =>
            rw [Turn.history, history_of_call rfl]
            exact owned_call (asks frame p w (List.mem_singleton.2 rfl))
          | constant y =>
            rw [Turn.history, history_of_answer rfl]
            exact owned_mishaps g x _
          | _ => cases hd

theorem owned_history (hc : c.isGuard = true) : Owned (c.history v) := by
  induction c using parts_induction generalizing v with
  | h c ih =>
    cases hagenda : c.agenda v with
    | call p => exact absurd hagenda (agenda_ne_call hc)
    | answer r =>
      rw [history_of_answer hagenda, if_pos hc]
      exact owned_mishaps c v r
    | ask go ts =>
      rw [history_of_ask hagenda, body_of_agenda_ask hagenda]
      refine owned_through ?_ fun frame p y turn => ⟨go, ts, hagenda, turn⟩
      rintro t turn frame d w rfl hd
      exact ih d (asked_mem_parts hagenda turn) hd

def isReport : Event → Bool
  | .guardFault .. => true
  | _ => false

theorem reports_noted (os : List Occurrence) :
    (noted os).filter isReport = (os.filterMap Occurrence.mishap?).map Mishap.report := by
  induction os with
  | nil => rfl
  | cons o os ih =>
    cases o with
    | mishap m => exact congrArg (m.report :: ·) ih
    | call p x =>
      rw [List.filterMap_cons_none rfl, ← ih, noted, noted]
      cases hp : p.tag <;> simp [Occurrence.note?, hp, isReport]

structure Accounts (c : Check) (v : Value) : Prop where
  /-- There is one report for each mishap, in order, and no other. -/
  reports : (c.test v).notes.filter isReport =
    ((c.history v).filterMap Occurrence.mishap?).map Mishap.report
  /-- A mishap is an ordinary fault that reaches a guard that is consulted. -/
  mishap_iff : ∀ m, .mishap m ∈ c.history v ↔
    Consults c v m.guard m.value ∧ Reaches (.ordinary m.kind m.text) m.guard m.value
  /-- A predicate that fails when it is called is a mishap to the guard that has called it. -/
  owned : Owned (c.history v)
  /-- This guard rejects. -/
  rejects : ∀ m, .mishap m ∈ c.history v → (m.guard.test m.value).result = .ok false
  /-- A guard that nothing but an interrupt can reach answers what it would if it held back nothing. -/
  spares : ∀ g x, Consults c v g x → (∀ fault, Reaches fault g x → ∃ text, fault = .interrupt text) →
    (g.test x).result = (g.body x).result

/-- Of all that reaches a guard when it, or one around it, is asked about a value, nothing is lost and
nothing is told twice. -/
theorem accounts_for_faults (hc : c.isGuard = true) (v : Value) : Accounts c v where
  reports := by rw [notes_eq_history, reports_noted]
  mishap_iff _ := mishap_mem_history_iff
  owned := owned_history hc
  rejects _ hm := by
    obtain ⟨hconsults, hreaches⟩ := mishap_mem_history_iff.1 hm
    exact hreaches.rejects hconsults.isGuard.2
  spares g x hconsults hspared := by
    rw [test_of_isGuard hconsults.isGuard.2, failClosed_result]
    cases hbody : (g.body x).result with
    | ok b => exact settle_ok b
    | error fault =>
      obtain ⟨text, rfl⟩ := hspared fault ((reaches_iff hconsults.isGuard.2).2 hbody)
      rfl

/-- A union goes on when one of its members has failed, and each member reports under its own name. -/
theorem accounts_for_faults_union :
    let fails : Predicate := ⟨some "fails", "function", some "fails", fun _ =>
      .error (.ordinary .type "no number")⟩
    let c := union [named (.text "first") (predicate fails), array (predicate fails),
      primitive .number, primitive .object]
    let v := Value.list [.int 1, .int 2]
    c.isGuard = true ∧ ((c.history v).filterMap Occurrence.mishap?).map Mishap.report =
      [.guardFault (.text "first") "TypeError" "no number",
        .guardFault (.text "array[fails]") "TypeError" "no number"] := by
  intro fails c v
  exact ⟨rfl, (accounts_for_faults (c := c) rfl v).reports.symm⟩

/-- Not all that is raised reaches a guard as it is. The end of an iteration comes out of a generator as
another fault; and if the fields of an object are not there to be listed, then it has none. -/
theorem reports_of_stopped_and_unlisted :
    let stops : Predicate := ⟨some "stops", "function", none, fun _ =>
      .error (.ordinary (.stop false) "over")⟩
    let v := Value.trap [] { listing := some ⟨.type, "no fields"⟩ }
    stops.test .null = .error (.ordinary (.stop false) "over") ∧
      ((array (predicate stops)).test (.list [.null])).notes =
        [.guardFault (.text "array[stops]") "RuntimeError" "generator raised StopIteration"] ∧
      v.getAttribute "__dict__" = .error (.ordinary .type "no fields") ∧
      (partialObject [("a", primitive .string)]).test v = pure true :=
  ⟨rfl, rfl, rfl, rfl⟩

end Conform.Guard.Check
