import Conform.Proofs.Guard.Calls
import Mathlib.Data.List.Basic

/-! The course of an evaluation: the calls of predicates, and what goes wrong, in order. The notes that a
check leaves are those of what happens in its evaluation (`notes_eq_history`). -/

namespace Conform.Guard

/-- An ordinary fault in which the evaluation of a guard about a value ends. -/
structure Mishap where
  guard : Check
  value : Value
  kind : FaultKind
  text : String

inductive Occurrence where
  | call (p : Predicate) (x : Value)
  | mishap (m : Mishap)

namespace Occurrence

def mishap? : Occurrence → Option Mishap
  | mishap m => some m
  | call .. => none

def call? : Occurrence → Option (Option String × Value)
  | call p x => some (p.tag, x)
  | mishap _ => none

end Occurrence

def Mishap.report (m : Mishap) : Event := .guardFault m.guard.label m.kind.name m.text

def Occurrence.note? : Occurrence → Option Event
  | call p _ => p.tag.map .called
  | mishap m => some m.report

def noted (os : List Occurrence) : List Event := os.filterMap Occurrence.note?

/-- The mishap that an outcome is to a guard at work on a value, if it is one. Where the text of the fault
cannot be told there is none. -/
def mishaps (guard : Check) (value : Value) : Except Fault Bool → List Occurrence
  | .error (.ordinary kind text) => [.mishap ⟨guard, value, kind, text⟩]
  | _ => []

namespace Check

/-- What happens in the evaluation of a check about a value, in order. What goes wrong in a guard comes
last. -/
def history (c : Check) (v : Value) : List Occurrence :=
  let inner := match _h : c.agenda v with
    | .answer _ => []
    | .call p => [.call p v]
    | .ask go turns => (asked go turns).attach.flatMap fun
      | ⟨.unread _, _⟩ => []
      | ⟨.part _ d w, turn⟩ =>
        have := sizeOf_lt_of_mem_parts (asked_mem_parts _h turn)
        history d w
  inner ++ if c.isGuard then mishaps c v (c.body v).result else []
termination_by sizeOf c

end Check

def Turn.history : Turn → List Occurrence
  | unread _ => []
  | part _ d w => d.history w

namespace Check

variable {c : Check} {v : Value} {go : Bool} {ts : List Turn}

theorem history_of_answer {r : Except Fault Bool} (h : c.agenda v = .answer r) :
    c.history v = if c.isGuard then mishaps c v r else [] := by
  rw [history, body_of_agenda_answer h]
  split <;> simp_all [Journal.ofExcept]

theorem history_of_call {p : Predicate} (h : c.agenda v = .call p) : c.history v = [.call p v] := by
  obtain rfl := calls_of_agenda_call h
  rw [history]
  rfl

theorem history_of_ask (h : c.agenda v = .ask go ts) :
    c.history v = (asked go ts).flatMap Turn.history ++ mishaps c v (c.body v).result := by
  have hattach : (asked go ts).flatMap Turn.history =
      (asked go ts).attach.flatMap fun t => t.1.history := by
    rw [List.flatMap_subtype fun _ _ => rfl, List.unattach_attach]
  rw [history, hattach, if_pos (agenda_eq_ask h).1]
  congr 1
  split
  · simp_all
  · simp_all
  · next go' ts' h' =>
    obtain ⟨rfl, rfl⟩ := Agenda.ask.inj (h'.symm.trans h)
    congr
    funext ⟨t, turn⟩
    cases t <;> rfl

@[simp] theorem mishaps_ok (b : Bool) : mishaps c v (.ok b) = [] := rfl

theorem notes_failClosed (g : Check) (x : Value) (t : Test) (v : Value) :
    (failClosed g.label t v).notes = (t v).notes ++ noted (mishaps g x (t v).result) := by
  unfold failClosed
  generalize t v = r
  obtain ⟨notes, (⟨kind, text⟩ | ⟨kind, instead⟩ | text) | b⟩ := r
  · rfl
  all_goals exact (List.append_nil notes).symm

/-- The notes that a check leaves are those of what happens in its evaluation, in order. -/
theorem notes_eq_history (c : Check) (v : Value) : (c.test v).notes = noted (c.history v) := by
  induction c using parts_induction generalizing v with
  | h c ih =>
    cases hagenda : c.agenda v with
    | answer r =>
      rw [history_of_answer hagenda]
      cases hguard : c.isGuard with
      | true =>
        rw [test_of_isGuard hguard, notes_failClosed c v, body_of_agenda_answer hagenda]
        rfl
      | false =>
        rw [test_of_not_isGuard hguard, body_of_agenda_answer hagenda]
        rfl
    | call p =>
      obtain rfl := calls_of_agenda_call hagenda
      rw [history_of_call hagenda]
      show p.tag.toList.map Event.called = _
      cases hp : p.tag <;> simp [noted, Occurrence.note?, hp]
    | ask go ts =>
      have hturn (t : Turn) (ht : t ∈ asked go ts) : t.verdict.notes = noted t.history := by
        cases t with
        | unread fault => rfl
        | part frame d w => exact ih d (asked_mem_parts hagenda ht) w
      have hnotes : (c.body v).notes = noted ((asked go ts).flatMap Turn.history) := by
        rw [body_of_agenda_ask hagenda, through_notes, noted, List.filterMap_flatMap]
        exact List.flatMap_congr hturn
      rw [test_of_isGuard (agenda_eq_ask hagenda).1, notes_failClosed c v, history_of_ask hagenda,
        hnotes]
      exact List.filterMap_append.symm

end Check

end Conform.Guard
