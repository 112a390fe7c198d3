import Conform.Proofs.Guard.Agenda

/-! Which predicates a check calls, and on what, and what gets out of a check because of these calls. Reads
of a value bring about ordinary faults only, and these end in the guard at work; so anything else that
comes out of a check comes from a predicate that it has called. -/

namespace Conform

/-- What a fault may turn into on its way out: where its text was to be told, into what was raised in its
place, and so on. -/
inductive Fault.Leads : Fault → Fault → Prop
  | refl (fault : Fault) : Leads fault fault
  | instead {kind : FaultKind} {first fault : Fault} (h : Leads first fault) :
      Leads (.mute kind first) fault

/-- What gets out of a guard that a fault has reached. An ordinary fault does not. -/
inductive Fault.Escapes : Fault → Fault → Prop
  | interrupt (text : String) : Escapes (.interrupt text) (.interrupt text)
  | instead {kind : FaultKind} {first fault : Fault} (h : Leads first fault) :
      Escapes (.mute kind first) fault

namespace Fault

theorem Leads.trans {a b c : Fault} (h : Leads a b) (h' : Leads b c) : Leads a c := by
  induction h with
  | refl => exact h'
  | instead _ ih => exact .instead (ih h')

theorem Escapes.leads {a b : Fault} (h : Escapes a b) : Leads a b := by
  cases h with
  | interrupt text => exact .refl _
  | instead h => exact .instead h

theorem Leads.escapes {a b c : Fault} (h : Leads a b) (h' : Escapes b c) : Escapes a c := by
  cases h with
  | refl => exact h'
  | instead h => exact .instead (h.trans h'.leads)

theorem not_escapes_ordinary {kind : FaultKind} {text : String} {fault : Fault} :
    ¬ Escapes (.ordinary kind text) fault := by
  intro h
  cases h

end Fault

namespace Guard

theorem settle_escapes {r : Except Fault Bool} {escaped : Fault} (h : settle r = .error escaped) :
    ∃ fault, r = .error fault ∧ fault.Escapes escaped := by
  rcases settle_eq_error_iff.1 h with ⟨text, rfl, hr⟩ | ⟨kind, hr⟩
  · exact ⟨_, hr, .interrupt text⟩
  · exact ⟨_, hr, .instead (.refl escaped)⟩

namespace Check

/-- Asked about a value, a check calls the predicate `p` on `x`: it is that predicate, or one of its parts
does when the turn comes to it. -/
inductive Calls (p : Predicate) (x : Value) : Check → Value → Prop
  | predicate : Calls p x (predicate p) x
  | part {c d : Check} {v w : Value} {go : Bool} {ts : List Turn} {frame : Frame}
      (h : c.agenda v = .ask go ts) (turn : .part frame d w ∈ asked go ts) (inner : Calls p x d w) :
      Calls p x c v

variable {c d : Check} {v w x : Value} {go : Bool} {ts : List Turn} {p : Predicate} {fault : Fault}

theorem calls_of_agenda_call (h : c.agenda v = .call p) : c = predicate p := by
  have composite (h : (if c.fits v then Agenda.ask c.goes (c.turns v) else .answer (.ok false)) =
      .call p) : False := by
    split at h <;> cases h
  cases c with
  | predicate q => exact congrArg predicate (Agenda.call.inj h)
  | constant x | primitive q | literal x => cases h
  | _ => exact (composite h).elim

theorem not_calls_of_answer {r : Except Fault Bool} (h : c.agenda v = .answer r) :
    ¬ Calls p x c v := by
  intro hcalls
  cases hcalls with
  | predicate => cases h
  | part h' => cases h.symm.trans h'

theorem quiet_of_answer {r : Except Fault Bool} (h : c.agenda v = .answer r) : Quiet r := by
  have composite (h : (if c.fits v then Agenda.ask c.goes (c.turns v) else .answer (.ok false)) =
      .answer r) : Quiet r := by
    split at h
    · cases h
    · cases h
      exact quiet_ok false
  cases c with
  | predicate q => cases h
  | constant y => exact Agenda.answer.inj h ▸ quiet_ofValue y v
  | primitive q => exact Agenda.answer.inj h ▸ quiet_ok _
  | literal y => exact Agenda.answer.inj h ▸ v.quiet_strictEqual y
  | _ => exact composite h

theorem ordinary_of_unread (h : .unread fault ∈ c.turns v) : ∃ kind text, fault = .ordinary kind text := by
  have entries {turns : Value × Value → List Turn} (h : .unread fault ∈ v.ownEntries.flatMap
      (entryTurns turns)) (hturns : ∀ e, .unread fault ∉ turns e) :
      ∃ kind text, fault = .ordinary kind text := by
    obtain ⟨e, he, hturn⟩ := List.mem_flatMap.1 h
    cases e with
    | ok e => exact absurd hturn (hturns e)
    | error fault' =>
      cases List.mem_singleton.1 hturn
      exact Value.quiet_of_mem_ownEntries he fault rfl
  cases c with
  | object fs =>
    obtain ⟨f, -, hread⟩ := List.mem_map.1 h
    have hquiet := v.quiet_getField (.text f.1)
    cases hw : v.getField (.text f.1) with
    | ok y => simp [hw, Turn.ofRead] at hread
    | error fault' =>
      obtain ⟨kind, text, rfl⟩ := hquiet fault' hw
      rw [hw] at hread
      cases hread
      exact Fault.leave_ordinary _ kind text
  | partialObject fs => exact entries h (by simp)
  | record key value => exact entries h (by simp)
  | _ => simp [turns] at h

def Arises (fault : Fault) (c : Check) (v : Value) : Prop :=
  (∃ kind text, fault = .ordinary kind text) ∨
    ∃ p x raised, Calls p x c v ∧ p.test x = .error raised ∧ raised.Leads fault

theorem arises_of_body
    (part : ∀ d ∈ c.parts, ∀ w fault, (d.test w).result = .error fault → Arises fault d w)
    (h : (c.body v).result = .error fault) : Arises fault c v := by
  cases hagenda : c.agenda v with
  | answer r =>
    rw [body_of_agenda_answer hagenda] at h
    exact .inl (quiet_of_answer hagenda fault h)
  | call p =>
    obtain rfl := calls_of_agenda_call hagenda
    exact .inr ⟨p, v, fault, .predicate, h, .refl fault⟩
  | ask go ts =>
    rw [body_of_agenda_ask hagenda] at h
    obtain ⟨t, ht, houtcome⟩ := through_eq_error_iff.1 h
    cases t with
    | unread fault' =>
      cases houtcome
      refine .inl (ordinary_of_unread (c := c) (v := v) ?_)
      rw [(agenda_eq_ask hagenda).2.2.1]
      exact asked_subset go ts ht
    | part frame d w =>
      rw [Turn.outcome_part] at houtcome
      cases hd : (d.test w).result with
      | ok b =>
        rw [hd] at houtcome
        cases houtcome
      | error inner =>
        rw [hd] at houtcome
        obtain rfl : inner.leave frame = fault := Except.error.inj houtcome
        rcases Fault.leave_eq_or frame inner with hsame | hstopped
        · rw [hsame]
          refine (part d (asked_mem_parts hagenda ht) w inner hd).imp_right ?_
          rintro ⟨p, x, raised, hcalls, hraised, hleads⟩
          exact ⟨p, x, raised, .part hagenda ht hcalls, hraised, hleads⟩
        · exact .inl ⟨_, _, hstopped⟩

/-- What comes out of a guard comes from a fault that does not end in a guard. -/
theorem escapes_of_body (body : ∀ fault, (c.body v).result = .error fault → Arises fault c v)
    (hc : c.isGuard = true) (h : (c.test v).result = .error fault) :
    ∃ p x raised, Calls p x c v ∧ p.test x = .error raised ∧ raised.Escapes fault := by
  rw [test_of_isGuard hc, failClosed_result] at h
  obtain ⟨inner, hinner, hescapes⟩ := settle_escapes h
  rcases body inner hinner with ⟨kind, text, rfl⟩ | ⟨p, x, raised, hcalls, hraised, hleads⟩
  · exact absurd hescapes Fault.not_escapes_ordinary
  · exact ⟨p, x, raised, hcalls, hraised, hleads.escapes hescapes⟩

theorem arises_of_test (h : (c.test v).result = .error fault) : Arises fault c v := by
  induction c using parts_induction generalizing v fault with
  | h c ih =>
    have body (fault : Fault) (h : (c.body v).result = .error fault) : Arises fault c v :=
      arises_of_body (fun d hd w fault h => ih d hd h) h
    cases hguard : c.isGuard with
    | false =>
      rw [test_of_not_isGuard hguard] at h
      exact body fault h
    | true =>
      obtain ⟨p, x, raised, hcalls, hraised, hescapes⟩ := escapes_of_body body hguard h
      exact .inr ⟨p, x, raised, hcalls, hraised, hescapes.leads⟩

theorem escapes_of_test (hc : c.isGuard = true) (h : (c.test v).result = .error fault) :
    ∃ p x raised, Calls p x c v ∧ p.test x = .error raised ∧ raised.Escapes fault :=
  escapes_of_body (fun _ => arises_of_body fun _ _ _ _ => arises_of_test) hc h

/-- An interrupt gets out of every check that calls the predicate that ends in it. -/
theorem Calls.interrupts {text : String} (h : Calls p x c v)
    (hp : p.test x = .error (.interrupt text)) : (c.test v).result = .error (.interrupt text) := by
  induction h with
  | predicate => exact hp
  | @part c d v w go ts frame h turn inner ih =>
    have houtcome : (Turn.part frame d w).outcome = .error (.interrupt text) := by
      rw [Turn.outcome_part, ih]
      rfl
    rw [test_of_isGuard (agenda_eq_ask h).1, failClosed_result, body_of_agenda_ask h,
      through_eq_error_iff.2 ⟨_, turn, houtcome⟩]
    rfl

theorem called_failClosed_iff {tag : String} {name : Value} {t : Test} :
    .called tag ∈ (failClosed name t v).notes ↔ .called tag ∈ (t v).notes := by
  unfold failClosed
  dsimp only
  split <;> simp

/-- A traced call was made, and every call that is to be traced is. -/
theorem called_iff (c : Check) (v : Value) (tag : String) :
    .called tag ∈ (c.test v).notes ↔ ∃ p x, Calls p x c v ∧ p.tag = some tag := by
  induction c using parts_induction generalizing v with
  | h c ih =>
    have htest : .called tag ∈ (c.test v).notes ↔ .called tag ∈ (c.body v).notes := by
      cases hguard : c.isGuard with
      | true => rw [test_of_isGuard hguard, called_failClosed_iff]
      | false => rw [test_of_not_isGuard hguard]
    rw [htest]
    cases hagenda : c.agenda v with
    | answer r =>
      rw [body_of_agenda_answer hagenda]
      refine iff_of_false (by simp [Journal.ofExcept]) ?_
      rintro ⟨p, x, hcalls, -⟩
      exact not_calls_of_answer hagenda hcalls
    | call p =>
      obtain rfl := calls_of_agenda_call hagenda
      have hnotes : .called tag ∈ ((predicate p).body v).notes ↔ p.tag = some tag := by
        simp [body, agenda, Agenda.run, Test.ofPredicate]
      rw [hnotes]
      constructor
      · exact fun htag => ⟨p, v, .predicate, htag⟩
      · rintro ⟨q, x, hcalls, htag⟩
        cases hcalls with
        | predicate => exact htag
        | part h => cases h
    | ask go ts =>
      rw [body_of_agenda_ask hagenda, through_notes, List.mem_flatMap]
      constructor
      · rintro ⟨t, ht, htag⟩
        cases t with
        | unread fault => cases htag
        | part frame d w =>
          obtain ⟨p, x, hcalls, hp⟩ := (ih d (asked_mem_parts hagenda ht) w).1 htag
          exact ⟨p, x, .part hagenda ht hcalls, hp⟩
      · rintro ⟨p, x, hcalls, hp⟩
        cases hcalls with
        | predicate => cases hagenda
        | @part _ d _ w _ _ frame h turn inner =>
          obtain ⟨rfl, rfl⟩ := Agenda.ask.inj (h.symm.trans hagenda)
          exact ⟨_, turn, (ih d (asked_mem_parts hagenda turn) w).2 ⟨p, x, inner, hp⟩⟩

end Check

end Guard

end Conform
