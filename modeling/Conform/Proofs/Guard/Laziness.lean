import Conform.Proofs.Guard.Acceptance
import Conform.Proofs.Guard.History

/-! No check is asked more than it takes. A check turns to its parts in order up to the first that decides,
so the predicates that it calls are those that these parts call, one part after the other
(`Lazy.decided`). What stands behind that part plays no role, neither for the answer nor for the calls
(`Lazy.agrees`): it may be anything, even a predicate that ends in an interrupt. -/

namespace Conform.Guard

namespace Check

def calls (c : Check) (v : Value) : List (Option String × Value) :=
  (c.history v).filterMap Occurrence.call?

end Check

def Turn.calls : Turn → List (Option String × Value)
  | unread _ => []
  | part _ d w => d.calls w

def tag? : Event → Option String
  | .called tag => some tag
  | _ => none

namespace Check

variable {c d : Check} {v w : Value} {go : Bool} {ts us : List Turn}

theorem call?_mishaps (g : Check) (x : Value) (r : Except Fault Bool) :
    (mishaps g x r).filterMap Occurrence.call? = [] := by
  rcases r with (⟨kind, text⟩ | ⟨kind, instead⟩ | text) | b <;> rfl

theorem calls_of_answer {r : Except Fault Bool} (h : c.agenda v = .answer r) : c.calls v = [] := by
  rw [calls, history_of_answer h]
  split
  · exact call?_mishaps c v r
  · rfl

theorem calls_of_call {p : Predicate} (h : c.agenda v = .call p) : c.calls v = [(p.tag, v)] := by
  rw [calls, history_of_call h]
  rfl

theorem calls_of_ask (h : c.agenda v = .ask go ts) : c.calls v = (asked go ts).flatMap Turn.calls := by
  rw [calls, history_of_ask h, List.filterMap_append, call?_mishaps, List.append_nil,
    List.filterMap_flatMap]
  refine List.flatMap_congr fun t _ => ?_
  cases t <;> rfl

theorem tags_notes (c : Check) (v : Value) :
    (c.test v).notes.filterMap tag? = (c.calls v).filterMap Prod.fst := by
  rw [notes_eq_history, noted, calls, List.filterMap_filterMap, List.filterMap_filterMap]
  congr
  funext o
  cases o with
  | call p x => cases hp : p.tag <;> simp [Occurrence.note?, Occurrence.call?, tag?, hp]
  | mishap m => rfl

theorem agenda_of_not_fits (h : c.fits v = false) :
    c.isGuard = true ∧ c.agenda v = .answer (.ok false) := by
  cases c with
  | object fs | partialObject fs | array c | tuple cs | record key value =>
    exact ⟨rfl, if_neg (by simp [h])⟩
  | _ => cases h

theorem result_of_answer {r : Except Fault Bool} (hc : c.isGuard = true)
    (h : c.agenda v = .answer r) : (c.test v).result = settle r := by
  rw [test_of_isGuard hc, failClosed_result, body_of_agenda_answer h]
  rfl

theorem result_of_ask (h : c.agenda v = .ask go ts) :
    (c.test v).result = settle (through go ts).result := by
  rw [test_of_isGuard (agenda_eq_ask h).1, failClosed_result, body_of_agenda_ask h]

mutual

/-- About a value, two checks do the same as far as they go, though the one may contain anything in the
places that the other does not come to. -/
inductive Agrees : Value → Check → Check → Prop
  | same (v : Value) (c : Check) : Agrees v c c
  | predicate {p q : Predicate} {v : Value} (tag : p.tag = q.tag) (test : p.test v = q.test v) :
      Agrees v (predicate p) (predicate q)
  /-- No part is asked, because the value has the wrong shape. -/
  | answer {c d : Check} {v : Value} {r : Except Fault Bool} (hc : c.isGuard = true)
      (hd : d.isGuard = true) (left : c.agenda v = .answer r) (right : d.agenda v = .answer r) :
      Agrees v c d
  | ask {c d : Check} {v : Value} {go : Bool} {ts us : List Turn} (left : c.agenda v = .ask go ts)
      (right : d.agenda v = .ask go us) (turns : AgreeUntil go ts us) : Agrees v c d

/-- The turns agree one after another up to the first that decides. -/
inductive AgreeUntil : Bool → List Turn → List Turn → Prop
  | nil (go : Bool) : AgreeUntil go [] []
  | passed {go : Bool} {frame : Frame} {c d : Check} {w : Value} {ts us : List Turn}
      (part : Agrees w c d) (goes : (c.test w).result = .ok go) (later : AgreeUntil go ts us) :
      AgreeUntil go (.part frame c w :: ts) (.part frame d w :: us)
  | decided {go : Bool} {frame : Frame} {c d : Check} {w : Value} {ts us : List Turn}
      (part : Agrees w c d) (decides : (c.test w).result ≠ .ok go) :
      AgreeUntil go (.part frame c w :: ts) (.part frame d w :: us)
  | unread {go : Bool} {fault : Fault} {ts us : List Turn} :
      AgreeUntil go (.unread fault :: ts) (.unread fault :: us)

end

theorem Agrees.result_calls (h : Agrees v c d) :
    (c.test v).result = (d.test v).result ∧ c.calls v = d.calls v := by
  induction h using Agrees.rec (motive_2 := fun go ts us _ =>
    (through go ts).result = (through go us).result ∧
      (asked go ts).flatMap Turn.calls = (asked go us).flatMap Turn.calls) with
  | same v c => exact ⟨rfl, rfl⟩
  | @predicate p q v tag test =>
    refine ⟨test, ?_⟩
    rw [calls_of_call rfl, calls_of_call rfl, tag]
  | answer hc hd left right =>
    rw [result_of_answer hc left, result_of_answer hd right, calls_of_answer left,
      calls_of_answer right]
    exact ⟨rfl, rfl⟩
  | ask left right _ ih =>
    rw [result_of_ask left, result_of_ask right, calls_of_ask left, calls_of_ask right, ih.1, ih.2]
    exact ⟨rfl, rfl⟩
  | nil go => exact ⟨rfl, rfl⟩
  | @passed go frame c d w ts us part goes later ih ih' =>
    have hc : (Turn.part frame c w).outcome = .ok go := Turn.outcome_part_eq_ok_iff.2 goes
    have hd : (Turn.part frame d w).outcome = .ok go :=
      Turn.outcome_part_eq_ok_iff.2 (ih.1.symm.trans goes)
    rw [through_cons_of_passed hc, through_cons_of_passed hd, asked_cons_of_passed hc,
      asked_cons_of_passed hd, List.flatMap_cons, List.flatMap_cons, ih'.1, ih'.2]
    exact ⟨rfl, congrArg (· ++ _) ih.2⟩
  | @decided go frame c d w ts us part decides ih =>
    have hc : (Turn.part frame c w).outcome ≠ .ok go := mt Turn.outcome_part_eq_ok_iff.1 decides
    have hd : (Turn.part frame d w).outcome ≠ .ok go :=
      fun h => decides (ih.1.trans (Turn.outcome_part_eq_ok_iff.1 h))
    rw [through_cons_of_decides hc, through_cons_of_decides hd, asked_cons_of_decides hc,
      asked_cons_of_decides hd, List.flatMap_singleton, List.flatMap_singleton, Turn.outcome_part,
      Turn.outcome_part, ih.1]
    exact ⟨rfl, ih.2⟩
  | @unread go fault ts us =>
    have hfault : (Turn.unread fault).outcome ≠ .ok go := nofun
    rw [through_cons_of_decides hfault, through_cons_of_decides hfault,
      asked_cons_of_decides hfault, asked_cons_of_decides hfault]
    exact ⟨rfl, rfl⟩

structure Lazy (c : Check) (v : Value) : Prop where
  /-- The calls are those that the trace shows, in order. -/
  traced : (c.test v).notes.filterMap tag? = (c.calls v).filterMap Prod.fst
  /-- A value of the wrong shape is turned down before any part is asked. -/
  unfit : c.fits v = false → (c.test v).result = .ok false ∧ c.calls v = []
  /-- The first part that decides gives the answer, and the calls end with those that it makes. -/
  decided : ∀ {go before t after}, c.agenda v = .ask go (before ++ t :: after) →
    (∀ s ∈ before, s.outcome = .ok go) → t.outcome ≠ .ok go →
      (c.test v).result = settle t.outcome ∧ c.calls v = before.flatMap Turn.calls ++ t.calls
  /-- If none decides then all are asked. -/
  undecided : ∀ {go ts}, c.agenda v = .ask go ts → (∀ t ∈ ts, t.outcome = .ok go) →
    (c.test v).result = .ok go ∧ c.calls v = ts.flatMap Turn.calls
  /-- A condition is asked about the value itself, if the base has accepted it. -/
  refined : ∀ {base condition}, c = refined base condition →
    (base.Accepts v → c.calls v = base.calls v ++ condition.calls v) ∧
      (¬ base.Accepts v → c.calls v = base.calls v)
  /-- What is behind the part that decides makes no difference, here or anywhere inside. -/
  agrees : ∀ {d}, Agrees v c d → (d.test v).result = (c.test v).result ∧ d.calls v = c.calls v

/-- No check, be it a guard or not and however deep it is nested, is asked more about a value than it
takes to decide, and all is asked in order. -/
theorem asks_until_decided (c : Check) (v : Value) : Lazy c v where
  traced := tags_notes c v
  unfit hfits := by
    obtain ⟨hc, hagenda⟩ := agenda_of_not_fits hfits
    exact ⟨result_of_answer hc hagenda, calls_of_answer hagenda⟩
  decided hagenda passed decides := by
    rw [result_of_ask hagenda, through_result_of_decides passed decides, calls_of_ask hagenda,
      asked_of_decides passed decides, List.flatMap_append, List.flatMap_singleton]
    exact ⟨rfl, rfl⟩
  undecided hagenda passed := by
    rw [result_of_ask hagenda, through_result_of_passed passed, calls_of_ask hagenda,
      asked_of_passed passed]
    exact ⟨rfl, rfl⟩
  refined := by
    rintro base condition rfl
    have hagenda : (Check.refined base condition).agenda v =
      .ask true [.part .function base v, .part .function condition v] := rfl
    constructor
    · intro haccepts
      have hbase : (Turn.part .function base v).outcome = .ok true :=
        Turn.outcome_part_eq_ok_iff.2 haccepts
      rw [calls_of_ask hagenda, asked_cons_of_passed hbase, asked_single, List.flatMap_cons,
        List.flatMap_singleton]
      rfl
    · intro hrejects
      have hbase : (Turn.part .function base v).outcome ≠ .ok true :=
        mt Turn.outcome_part_eq_ok_iff.1 hrejects
      rw [calls_of_ask hagenda, asked_cons_of_decides hbase, List.flatMap_singleton]
      rfl
  agrees h := ⟨h.result_calls.1.symm, h.result_calls.2.symm⟩

/-- Behind an array of even numbers stands a predicate that would end everything, where there was one
that accepts; and the items are asked by a predicate that would fail on larger ones. -/
theorem asks_until_decided_interrupted :
    let even : Predicate := ⟨some "even", "function", some "even", fun v =>
      .ok (v.int?.any (· % 2 = 0))⟩
    let small : Predicate := ⟨some "small", "function", some "even", fun v =>
      if v.int?.any (· < 9) then .ok true else .error (.ordinary .type "too large")⟩
    let stops : Predicate := ⟨some "stops", "function", some "stops", fun _ =>
      .error (.interrupt "stop")⟩
    let c := union [array (predicate even), primitive .object]
    let d := union [array (predicate small), predicate stops]
    let v := Value.list [.int 2, .int 4]
    Agrees v c d ∧ (d.test v).result = .ok true ∧
      (d.calls v).filterMap Prod.fst = ["even", "even"] := by
  intro even small stops c d v
  have item (w : Value) (hw : w = .int 2 ∨ w = .int 4) :
      Agrees w (predicate even) (predicate small) ∧ even.test w = .ok true := by
    rcases hw with rfl | rfl
    · exact ⟨.predicate rfl rfl, rfl⟩
    · exact ⟨.predicate rfl rfl, rfl⟩
  have items : Agrees v (array (predicate even)) (array (predicate small)) := by
    refine .ask rfl rfl (.passed (item _ (.inl rfl)).1 (item _ (.inl rfl)).2 ?_)
    exact .passed (item _ (.inr rfl)).1 (item _ (.inr rfl)).2 (.nil true)
  have haccepts : ((array (predicate even)).test v).result = .ok true := rfl
  have hmembers (e f : Check) : AgreeUntil false
      [.part .generator (array (predicate even)) v, .part .generator e v]
      [.part .generator (array (predicate small)) v, .part .generator f v] :=
    .decided items (by simp [haccepts])
  have hagrees : Agrees v c d := .ask rfl rfl (hmembers _ _)
  refine ⟨hagrees, ((asks_until_decided c v).agrees hagrees).1, ?_⟩
  exact (asks_until_decided d v).traced.symm

end Check

end Conform.Guard
