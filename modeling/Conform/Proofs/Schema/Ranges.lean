import Conform.Proofs.Schema.Asked
import Conform.Proofs.Schema.Nesting
import Conform.Proofs.Schema.Position

/-! What there is to see of strict reading. The scan counts the braces that it holds to be open, and
never gets to the end of a segment that has a brace without a partner; so whatever is taken for a
property or for a type is in balance. -/

namespace Conform.Schema

/-- Every brace that is opened is closed further on, and that is where the search for its partner
ends. -/
def Closes (ts : List Token) : Prop :=
  ∀ before opening after, ts = before ++ opening :: after → opening.kind = .openBrace →
    ∃ inner closing rest, after = inner ++ closing :: rest ∧ closing.kind = .closeBrace ∧
      InBalance tokenBrace inner ∧ closeIndex? tokenBrace 0 after = some inner.length

theorem InBalance.closes {ts : List Token} (h : InBalance tokenBrace ts) : Closes ts := by
  rintro before opening after rfl ho
  obtain ⟨i, hi, -⟩ := h.exists_closeIndex? (show tokenBrace opening = .opening by simp [tokenBrace, ho])
  obtain ⟨inner, closing, rest, rfl, rfl, hc, hinner⟩ := closeIndex?_eq_some_iff.1 hi
  exact ⟨inner, closing, rest, rfl, tokenBrace_eq_closing.1 hc, hinner, hi⟩

def Sight.Sound (o : ParseOptions) (source : List Char) : Sight → Prop
  | .scan depth opened => depth = opened.length
  | .piece s => InBalance tokenBrace s.tokens
  | .type s => InBalance tokenBrace s.tokens ∧ Closes s.tokens ∧
      ∀ room p, (o.typeExpr source room s).result ≠ .error (.malformed .unclosedOpen p)

namespace ParseOptions

open Journal

variable {o : ParseOptions} {source : List Char}

def Sees (o : ParseOptions) (source : List Char) (sight : Sight) : Prop :=
  o.strict = true → sight.Sound o source

theorem sees_piece {s : Segment} (h : Fit source o.strict s) : o.Sees source (.piece s) :=
  fun hs => inBalance_iff_level.2 (h.balanced hs)

theorem sees_type {s : Segment} (h : Fit source o.strict s) : o.Sees source (.type s) := by
  intro hs
  have balanced : InBalance tokenBrace s.tokens := inBalance_iff_level.2 (h.balanced hs)
  refine ⟨balanced, balanced.closes, fun room p herror => ?_⟩
  obtain ⟨-, -, hbrace⟩ := failsOnly_typeExpr room h _ herror
  exact hbrace (.inr rfl)

/-- Strictly, the depth goes up with every brace that is opened, and down only with one that is
closed. -/
theorem shows_watchCut (stop : Nat) {depth : Int} {opened : List Nat}
    (h : o.strict = true → depth = opened.length) (ts : List Token) :
    Shows (o.Sees source) (watchCut o.strict stop depth opened ts) := by
  induction ts generalizing depth opened with
  | nil => exact .see h (.pure _)
  | cons t ts ih =>
    rw [watchCut]
    refine .see h ?_
    cases t.kind with
    | openBrace => exact (ih fun hs => by simp [h hs]).map _
    | closeBrace =>
      dsimp only
      split
      · exact .pure _
      · next hopened =>
        -- strictly, no brace is closed unless one is open
        refine (ih fun hs => ?_).map _
        rw [h hs]
        cases opened with
        | nil => simp [hs] at hopened
        | cons p opened => simp
    | semicolon =>
      dsimp only
      split
      · exact (ih h).bind fun rest _ => .pure _
      · exact (ih h).map _
    | colon | question | arraySuffix | text | eof => exact (ih h).map _

section Lists

variable {typeOf : Segment → Watching TypeExpr}
  (htype : ∀ s, Fit source o.strict s → Shows (o.Sees source) (typeOf s))

include htype

theorem shows_watchProperty {s : Segment} (h : Fit source o.strict s) (sofar : Definition) :
    Shows (o.Sees source) (o.watchProperty source typeOf sofar s) := by
  obtain ⟨ts, stop⟩ := s
  cases propertyForm ts with
  | empty => exact .see (sees_piece h) (.pure sofar)
  | bare hne hcolon =>
    rw [watchProperty_no_colon hne hcolon]
    refine .see (sees_piece h) ?_
    split
    · exact .unseen _
    · exact (Shows.unseen _).bind fun _ _ => .pure sofar
  | @colon before us colon hb hc =>
    rw [watchProperty_colon hb hc]
    refine .see (sees_piece h) ?_
    dsimp only
    split
    · refine (Shows.unseen _).bind fun _ hname => ?_
      have hus : Fit source o.strict ⟨us, stop⟩ := h.behind hc fun _ => checkName_eq_ok hname
      split
      · exact (Shows.unseen _).bind fun _ hok => by cases hok
      · exact (htype _ hus).bind fun τ _ => .pure _
    · next hs =>
      have hus : Fit source o.strict ⟨us, stop⟩ := h.behind hc fun h => absurd h hs
      exact (htype _ hus).bind fun τ _ => .pure _

theorem shows_watchProperties {segments : List Segment}
    (h : ∀ s ∈ segments, Fit source o.strict s) (sofar : Definition) :
    Shows (o.Sees source) (o.watchProperties source typeOf sofar segments) := by
  induction segments generalizing sofar with
  | nil => exact .pure sofar
  | cons s rest ih =>
    obtain ⟨hs, hrest⟩ := List.forall_mem_cons.1 h
    exact (shows_watchProperty htype hs sofar).bind fun d _ => ih hrest d

theorem shows_watchList {s : Segment} (h : Placed source s) :
    Shows (o.Sees source) (o.watchList source typeOf s) := by
  obtain ⟨hfirst, hlast⟩ := h.pieces o.strict
  have hcut := @shows_watchCut o source s.stop 0 [] (fun _ => rfl) s.tokens
  refine hcut.bind fun pieces hpieces => ?_
  obtain rfl := Except.ok.inj ((watchCut_result ..).symm.trans hpieces)
  refine (shows_watchProperties htype hfirst []).bind fun sofar _ => ?_
  refine (Shows.unseen _).bind fun last hok => ?_
  exact shows_watchProperty htype (hlast last hok) sofar

end Lists

theorem shows_watchType (room : Room) {s : Segment} (h : Fit source o.strict s) :
    Shows (o.Sees source) (o.watchType source room s) := by
  induction room generalizing s with
  | spent => exact .see (sees_type h) (.unseen (.fail .nestedTooDeeply))
  | free inside ih =>
    obtain ⟨ts, stop⟩ := s
    cases typeForm ts with
    | empty => exact .see (sees_type h) (.unseen _)
    | @suffix us t ht =>
      rw [watchType_suffix ht]
      exact .see (sees_type h) ((ih .item (h.item ht)).map _)
    | @plain us t ht hopen =>
      rw [watchType_no_brace ht hopen]
      exact .see (sees_type h) (.unseen _)
    | @brace before rest opening last hlast ht hb ho =>
      cases hclose : closeIndex? tokenBrace 0 rest with
      | none =>
        rw [watchType_unclosed hlast ht hb ho hclose]
        exact .see (sees_type h) (.unseen _)
      | some i =>
        obtain ⟨inner, closing, after, rfl, rfl, -, hinner⟩ := closeIndex?_eq_some hclose
        have hinside : Fit source o.strict ⟨inner, closing.start⟩ := h.placed.inside hinner
        have hobject := (shows_watchList (fun _ => ih .property) hinside.placed).map TypeExpr.object
        rw [watchType_closed hlast ht hb ho rfl hclose]
        refine .see (sees_type h) ?_
        dsimp only
        split
        · exact (Shows.unseen _).bind fun _ hok => by cases hok
        split
        · split
          · exact (Shows.unseen _).bind fun _ hok => by cases hok
          · exact (Shows.unseen _).bind fun _ _ => hobject
        · exact hobject

/-- A watched reader reads as the reader does, and what there is to see of it is what is asked for on
the way. Strictly all of this is as it should be: the scan counts the braces that it holds to be open,
and what is taken for a property or for a type is in balance, so the search for the partner of a brace
in a type always ends in the type and no type is refused because a brace was never closed. -/
theorem parse_ranges_balanced (o : ParseOptions) (text : String) :
    (o.watch text).result = (o.parse text).result ∧
      (o.watch text).notes.filterMap Sum.getLeft? = (o.parse text).notes ∧
      (o.strict = true → ∀ sight, .inr sight ∈ (o.watch text).notes →
        sight.Sound o text.toList) ∧
      ∀ sight, .inr sight ∈ (o.watch text).notes ↔
        Ahead o text.toList (.list o.room (o.body text.toList)) sight := by
  have htype (s : Segment) (hs : Fit text.toList o.strict s) := shows_watchType o.room hs
  have hshows : Shows (o.Sees text.toList) (o.watch text) := by
    refine (shows_watchList htype (placed_body o text.toList)).bind fun d _ => ?_
    split
    · exact (Shows.unseen _).bind fun _ hok => by cases hok
    · exact (Shows.unseen _).bind fun _ _ => .pure d
  have hread : unwatched (o.watch text) = o.parse text := unwatched_watch text
  exact ⟨congrArg Journal.result hread, congrArg Journal.notes hread,
    fun hs sight hmem => hshows sight hmem hs, fun sight => sight_mem_watch_iff⟩

/-- The type of `a`, which has a pair of braces. -/
theorem parse_ranges_balanced_object :
    let o : ParseOptions := { strict := true }
    let type : Segment := ⟨(lexemes 0 "a: \x7b b: c \x7d".toList).drop 2, 11⟩
    .inr (.type type) ∈ (o.watch "a: \x7b b: c \x7d").notes ∧ type.tokens.length = 5 ∧
      Closes type.tokens :=
  have hseen : .inr (.type ⟨(lexemes 0 "a: \x7b b: c \x7d".toList).drop 2, 11⟩) ∈
      (ParseOptions.watch { strict := true } "a: \x7b b: c \x7d").notes :=
    List.mem_of_getElem? (i := 9) (by rfl)
  ⟨hseen, by rfl, ((parse_ranges_balanced { strict := true } _).2.2.1 rfl _ hseen).2.1⟩

end ParseOptions

end Conform.Schema
