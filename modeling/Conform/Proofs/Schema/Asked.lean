import Conform.Proofs.Schema.Watched

/-! What is asked of the reader on its way through a text, told by what the reader itself finds: one call
leads to another. A watcher sees these calls, all of them and nothing else. -/

namespace Conform.Schema

/-- What the reader is asked for on its way: to go on with the scan of a list, to read a property list,
to add a property to those before it, to read a type. `room` is what is left for types there. -/
inductive Call where
  | scan (stop : Nat) (depth : Int) (opened : List Nat) (ts : List Token)
  | list (room : Room) (s : Segment)
  | property (room : Room) (sofar : Definition) (s : Segment)
  | type (room : Room) (s : Segment)

def Call.sight? : Call → Option Sight
  | .scan _ depth opened _ => some (.scan depth opened)
  | .list _ _ => none
  | .property _ _ s => some (.piece s)
  | .type _ s => some (.type s)

/-- One call leads to another. A property is added if all before it could be, and a type is read if
nothing that stands before it, or around it, is refused. -/
inductive LeadsTo (o : ParseOptions) (source : List Char) : Call → Call → Prop
  | scan (room : Room) (s : Segment) :
      LeadsTo o source (.list room s) (.scan s.stop 0 [] s.tokens)
  | opening (stop : Nat) (depth : Int) (opened : List Nat) {t : Token} (ts : List Token)
      (h : t.kind = .openBrace) :
      LeadsTo o source (.scan stop depth opened (t :: ts))
        (.scan stop (depth + 1) (t.start :: opened) ts)
  | closing (stop : Nat) (depth : Int) {opened : List Nat} {t : Token} (ts : List Token)
      (h : t.kind = .closeBrace) (partner : (opened.isEmpty && o.strict) = false) :
      LeadsTo o source (.scan stop depth opened (t :: ts)) (.scan stop (depth - 1) opened.tail ts)
  | neither (stop : Nat) (depth : Int) (opened : List Nat) {t : Token} (ts : List Token)
      (ho : t.kind ≠ .openBrace) (hc : t.kind ≠ .closeBrace) :
      LeadsTo o source (.scan stop depth opened (t :: ts)) (.scan stop depth opened ts)
  | piece {room : Room} {s p : Segment} {before after : List Segment} {sofar : Definition}
      (pieces : (cut o.strict s.stop 0 [] s.tokens).1 = before ++ p :: after)
      (read : (o.addProperties source (o.typeExpr source room) [] before).result = .ok sofar) :
      LeadsTo o source (.list room s) (.property room sofar p)
  | last {room : Room} {s p : Segment} {sofar : Definition}
      (last : (cut o.strict s.stop 0 [] s.tokens).2 = .ok p)
      (read : (o.addProperties source (o.typeExpr source room) []
        (cut o.strict s.stop 0 [] s.tokens).1).result = .ok sofar) :
      LeadsTo o source (.list room s) (.property room sofar p)
  | declared (room : Room) {sofar : Definition} {before after : List Token} {colon : Token}
      {stop : Nat} (hb : ∀ t ∈ before, t.kind ≠ .colon) (hc : colon.kind = .colon)
      (new : o.strict = true →
        (ParseOptions.checkName (Segment.mk (before ++ colon :: after) stop).start
          (ParseOptions.bareName (spanText source before)) before).result = .ok () ∧
        Assoc.contains (String.ofList (ParseOptions.bareName (spanText source before))) sofar =
          false) :
      LeadsTo o source (.property room sofar ⟨before ++ colon :: after, stop⟩)
        (.type room ⟨after, stop⟩)
  | item (inside : Level → Room) (ts : List Token) {t : Token} (stop : Nat)
      (h : t.kind = .arraySuffix) :
      LeadsTo o source (.type (.free inside) ⟨ts ++ [t], stop⟩)
        (.type (inside .item) ⟨ts, t.start⟩)
  | object (inside : Level → Room) {before inner after : List Token} {opening closing last : Token}
      (stop : Nat)
      (hlast : (before ++ opening :: (inner ++ closing :: after)).getLast? = some last)
      (ht : last.kind ≠ .arraySuffix) (hb : ∀ u ∈ before, u.kind ≠ .openBrace)
      (ho : opening.kind = .openBrace)
      (partner : closeIndex? tokenBrace 0 (inner ++ closing :: after) = some inner.length)
      (alone : o.strict = true → before = [] ∧ after = []) :
      LeadsTo o source
        (.type (.free inside) ⟨before ++ opening :: (inner ++ closing :: after), stop⟩)
        (.list (inside .property) ⟨inner, closing.start⟩)

section

variable {α β : Type} (x : Watching α) (f : α → Watching β)

theorem notes_bind_left : x.notes ⊆ (x >>= f).notes := by
  obtain ⟨ns, e | a⟩ := x
  · exact List.Subset.refl ns
  · exact List.subset_append_left ns _

variable {x} in
theorem notes_bind_right {a : α} (h : x.result = .ok a) : (f a).notes ⊆ (x >>= f).notes := by
  obtain ⟨ns, r⟩ := x
  cases h
  exact List.subset_append_right ns _

theorem notes_behind (sight : Sight) : x.notes ⊆ (see sight >>= fun _ => x).notes :=
  notes_bind_right (x := see sight) (fun _ => x) rfl

theorem notes_map (f : α → β) : x.notes ⊆ (f <$> x).notes := by
  rw [map_eq_pure_bind]
  exact notes_bind_left x _

end

namespace ParseOptions

variable {o : ParseOptions} {source : List Char}

theorem watchProperties_append {typeOf : Segment → Watching TypeExpr} (sofar : Definition)
    (before after : List Segment) :
    o.watchProperties source typeOf sofar (before ++ after) =
      o.watchProperties source typeOf sofar before >>= fun d =>
        o.watchProperties source typeOf d after := by
  induction before generalizing sofar with
  | nil => rfl
  | cons s rest ih =>
    rw [List.cons_append, watchProperties, watchProperties, bind_assoc]
    simp only [ih]

variable (o source) in
def trail : Call → List (Event ⊕ Sight)
  | .scan stop depth opened ts => (watchCut o.strict stop depth opened ts).notes
  | .list room s => (o.watchList source (o.watchType source room) s).notes
  | .property room sofar s => (o.watchProperty source (o.watchType source room) sofar s).notes
  | .type room s => (o.watchType source room s).notes

theorem sight_mem_trail {call : Call} {sight : Sight} (h : call.sight? = some sight) :
    .inr sight ∈ o.trail source call := by
  cases call with
  | list room s => cases h
  | scan stop depth opened ts =>
    cases h
    cases ts with
    | nil => exact List.mem_cons_self
    | cons t ts => exact notes_bind_left _ _ List.mem_cons_self
  | property room sofar s =>
    cases h
    exact notes_bind_left _ _ List.mem_cons_self
  | type room s =>
    cases h
    cases room
    all_goals exact notes_bind_left _ _ List.mem_cons_self

theorem watchCut_result (strict : Bool) (stop : Nat) (depth : Int) (opened : List Nat)
    (ts : List Token) :
    (watchCut strict stop depth opened ts).result = .ok (cut strict stop depth opened ts) :=
  congrArg Journal.result (unwatched_watchCut strict stop depth opened ts)

theorem watchProperties_result (room : Room) (sofar : Definition) (segments : List Segment) :
    (o.watchProperties source (o.watchType source room) sofar segments).result =
      (o.addProperties source (o.typeExpr source room) sofar segments).result :=
  congrArg Journal.result (unwatched_watchProperties (unwatched_watchType room) sofar segments)

/-- Whatever one call leaves behind belongs to what the call leaves behind that leads to it. -/
theorem trail_subset {call call' : Call} (h : LeadsTo o source call call') :
    o.trail source call' ⊆ o.trail source call := by
  cases h with
  | scan room s => exact notes_bind_left _ _
  | opening stop depth opened ts h =>
    refine List.Subset.trans ?_ (notes_behind _ _)
    rw [h]
    exact notes_map _ _
  | closing stop depth ts h partner =>
    refine List.Subset.trans ?_ (notes_behind _ _)
    rw [h]
    dsimp only
    rw [partner, if_neg (by decide)]
    exact notes_map _ _
  | @neither stop depth opened t ts ho hc =>
    refine List.Subset.trans ?_ (notes_behind _ _)
    cases hk : t.kind with
    | openBrace => exact absurd hk ho
    | closeBrace => exact absurd hk hc
    | semicolon =>
      dsimp only
      split
      · exact notes_bind_left _ _
      · exact notes_map _ _
    | _ => exact notes_map _ _
  | @piece room s p before after sofar pieces read =>
    refine List.Subset.trans ?_ (notes_bind_right _ (watchCut_result ..))
    refine List.Subset.trans ?_ (notes_bind_left _ _)
    rw [pieces, watchProperties_append]
    have hbefore := (watchProperties_result room [] before).trans read
    refine List.Subset.trans ?_ (notes_bind_right _ hbefore)
    exact notes_bind_left (o.watchProperty source (o.watchType source room) sofar p) _
  | @last room s p sofar last read =>
    refine List.Subset.trans ?_ (notes_bind_right _ (watchCut_result ..))
    refine List.Subset.trans ?_ (notes_bind_right _ ((watchProperties_result room [] _).trans read))
    rw [last]
    exact notes_bind_right (x := unseen _) _ rfl
  | @declared room sofar before after colon stop hb hc new =>
    rw [trail, trail, watchProperty_colon hb hc]
    refine List.Subset.trans ?_ (notes_behind _ _)
    dsimp only
    split
    · next hs =>
      obtain ⟨hname, hnew⟩ := new hs
      refine List.Subset.trans ?_ (notes_bind_right (x := unseen _) _ hname)
      rw [hnew, if_neg (by decide)]
      exact notes_bind_left _ _
    · exact notes_bind_left _ _
  | @item inside ts t stop h =>
    rw [trail, trail, watchType_suffix h]
    refine List.Subset.trans ?_ (notes_behind _ _)
    exact notes_map _ _
  | @object inside before inner after opening closing last stop hlast ht hb ho partner alone =>
    rw [trail, trail, watchType_closed hlast ht hb ho rfl partner]
    refine List.Subset.trans ?_ (notes_behind _ _)
    dsimp only
    split
    · next hs =>
      obtain ⟨hstrict, hbefore⟩ := Bool.and_eq_true_iff.1 hs
      simp [(alone hstrict).1] at hbefore
    split
    · next hne =>
      split
      · next hstrict => simp [(alone hstrict).2] at hne
      · refine List.Subset.trans ?_ (notes_bind_right (x := unseen _) _ rfl)
        exact notes_map _ _
    · exact notes_map _ _

end ParseOptions

def Shows {α : Type} (P : Sight → Prop) (x : Watching α) : Prop :=
  ∀ sight, .inr sight ∈ x.notes → P sight

namespace Shows

variable {α β : Type} {P : Sight → Prop} {x : Watching α}

theorem unseen (x : Reading α) : Shows P (unseen x) := by
  intro sight h
  simp [Schema.unseen] at h

theorem pure (a : α) : Shows P (pure a) := unseen (Pure.pure a)

theorem bind {f : α → Watching β} (hx : Shows P x)
    (hf : ∀ a, x.result = .ok a → Shows P (f a)) : Shows P (x >>= f) := by
  obtain ⟨ns, e | a⟩ := x
  · exact hx
  · intro sight h
    rcases List.mem_append.1 h with h | h
    · exact hx sight h
    · exact hf a rfl sight h

theorem map (f : α → β) (hx : Shows P x) : Shows P (f <$> x) := by
  rw [map_eq_pure_bind]
  exact hx.bind fun a _ => pure _

theorem mono {Q : Sight → Prop} (hx : Shows P x) (h : ∀ sight, P sight → Q sight) : Shows Q x :=
  fun sight hmem => h sight (hx sight hmem)

theorem see {sight : Sight} (h : P sight) (hx : Shows P x) :
    Shows P (Schema.see sight >>= fun _ => x) := by
  intro sight' hmem
  rcases List.mem_cons.1 hmem with heq | hmem
  · cases heq
    exact h
  · exact hx sight' hmem

end Shows

/-- What there is to see of the calls that one leads to, itself included. -/
def Ahead (o : ParseOptions) (source : List Char) (call : Call) (sight : Sight) : Prop :=
  ∃ call', Relation.ReflTransGen (LeadsTo o source) call call' ∧ call'.sight? = some sight

section

variable {o : ParseOptions} {source : List Char} {call call' : Call} {sight : Sight}

theorem ahead_self (h : call.sight? = some sight) : Ahead o source call sight := ⟨call, .refl, h⟩

theorem LeadsTo.ahead (h : LeadsTo o source call call') (sight : Sight) :
    Ahead o source call' sight → Ahead o source call sight := by
  rintro ⟨last, path, hlast⟩
  exact ⟨last, path.head h, hlast⟩

end

namespace ParseOptions

variable {o : ParseOptions} {source : List Char}

theorem ahead_watchCut (stop : Nat) (depth : Int) (opened : List Nat) (ts : List Token) :
    Shows (Ahead o source (.scan stop depth opened ts))
      (watchCut o.strict stop depth opened ts) := by
  induction ts generalizing depth opened with
  | nil => exact .see (ahead_self rfl) (.pure _)
  | cons t ts ih =>
    rw [watchCut]
    refine .see (ahead_self rfl) ?_
    have passed (ho : t.kind ≠ .openBrace) (hc : t.kind ≠ .closeBrace) :=
      (ih depth opened).mono (LeadsTo.neither stop depth opened ts ho hc).ahead
    cases hk : t.kind with
    | openBrace => exact ((ih _ _).mono (LeadsTo.opening stop depth opened ts hk).ahead).map _
    | closeBrace =>
      dsimp only
      split
      · exact .pure _
      · next hpartner =>
        have hstep : LeadsTo o source (.scan stop depth opened (t :: ts))
            (.scan stop (depth - 1) opened.tail ts) :=
          .closing stop depth ts hk (by simpa using hpartner)
        exact ((ih _ _).mono hstep.ahead).map _
    | semicolon =>
      have hrest := passed (by simp [hk]) (by simp [hk])
      dsimp only
      split
      · exact hrest.bind fun rest _ => .pure _
      · exact hrest.map _
    | colon | question | arraySuffix | text | eof =>
      exact (passed (by simp [hk]) (by simp [hk])).map _

section Lists

variable {room : Room}
  (htype : ∀ s, Shows (Ahead o source (.type room s)) (o.watchType source room s))

include htype

theorem ahead_watchProperty (sofar : Definition) (s : Segment) :
    Shows (Ahead o source (.property room sofar s))
      (o.watchProperty source (o.watchType source room) sofar s) := by
  obtain ⟨ts, stop⟩ := s
  cases propertyForm ts with
  | empty => exact .see (ahead_self rfl) (.pure sofar)
  | bare hne hcolon =>
    rw [watchProperty_no_colon hne hcolon]
    refine .see (ahead_self rfl) ?_
    split
    · exact .unseen _
    · exact (Shows.unseen _).bind fun _ _ => .pure sofar
  | @colon before us colon hb hc =>
    rw [watchProperty_colon hb hc]
    refine .see (ahead_self rfl) ?_
    dsimp only
    split
    · refine (Shows.unseen _).bind fun _ hname => ?_
      split
      · exact (Shows.unseen _).bind fun _ hok => by cases hok
      · next hnew =>
        have hstep : LeadsTo o source (.property room sofar ⟨before ++ colon :: us, stop⟩)
            (.type room ⟨us, stop⟩) :=
          .declared room hb hc fun _ => ⟨hname, by simpa using hnew⟩
        exact ((htype _).mono hstep.ahead).bind fun τ _ => .pure _
    · next hs =>
      have hstep : LeadsTo o source (.property room sofar ⟨before ++ colon :: us, stop⟩)
          (.type room ⟨us, stop⟩) := .declared room hb hc fun h => absurd h hs
      exact ((htype _).mono hstep.ahead).bind fun τ _ => .pure _

theorem ahead_watchProperties {s : Segment} {before rest : List Segment} {sofar : Definition}
    (hpieces : (cut o.strict s.stop 0 [] s.tokens).1 = before ++ rest)
    (hread : (o.watchProperties source (o.watchType source room) [] before).result = .ok sofar) :
    Shows (Ahead o source (.list room s))
      (o.watchProperties source (o.watchType source room) sofar rest) := by
  induction rest generalizing before sofar with
  | nil => exact .pure sofar
  | cons p rest ih =>
    have hstep : LeadsTo o source (.list room s) (.property room sofar p) :=
      .piece hpieces ((watchProperties_result room [] before).symm.trans hread)
    refine ((ahead_watchProperty htype sofar p).mono hstep.ahead).bind fun d hd => ?_
    refine @ih (before ++ [p]) d (by simp [hpieces]) ?_
    rw [watchProperties_append, Journal.bind_result, hread]
    exact Journal.bind_result_eq_ok.2 ⟨d, hd, rfl⟩

theorem ahead_watchList (s : Segment) :
    Shows (Ahead o source (.list room s)) (o.watchList source (o.watchType source room) s) := by
  have hcut := (@ahead_watchCut o source s.stop 0 [] s.tokens).mono (LeadsTo.scan room s).ahead
  refine hcut.bind fun pieces hpieces => ?_
  obtain rfl := Except.ok.inj ((watchCut_result ..).symm.trans hpieces)
  refine (@ahead_watchProperties o source room htype s [] _ [] rfl rfl).bind fun sofar hsofar => ?_
  refine (Shows.unseen _).bind fun p hp => ?_
  have hstep : LeadsTo o source (.list room s) (.property room sofar p) :=
    .last hp ((watchProperties_result room [] _).symm.trans hsofar)
  exact (ahead_watchProperty htype sofar p).mono hstep.ahead

end Lists

theorem ahead_watchType (room : Room) (s : Segment) :
    Shows (Ahead o source (.type room s)) (o.watchType source room s) := by
  induction room generalizing s with
  | spent => exact .see (ahead_self rfl) (.unseen (.fail .nestedTooDeeply))
  | free inside ih =>
    obtain ⟨ts, stop⟩ := s
    cases typeForm ts with
    | empty => exact .see (ahead_self rfl) (.unseen _)
    | @suffix us t ht =>
      rw [watchType_suffix ht]
      exact .see (ahead_self rfl) (((ih .item _).mono (LeadsTo.item inside us stop ht).ahead).map _)
    | @plain us t ht hopen =>
      rw [watchType_no_brace ht hopen]
      exact .see (ahead_self rfl) (.unseen _)
    | @brace before rest opening last hlast ht hb ho =>
      cases hclose : closeIndex? tokenBrace 0 rest with
      | none =>
        rw [watchType_unclosed hlast ht hb ho hclose]
        exact .see (ahead_self rfl) (.unseen _)
      | some i =>
        obtain ⟨inner, closing, after, rfl, rfl, -⟩ := closeIndex?_eq_some hclose
        have hobject (alone : o.strict = true → before = [] ∧ after = []) :=
          ((ahead_watchList (ih .property) ⟨inner, closing.start⟩).mono
            (LeadsTo.object inside stop hlast ht hb ho hclose alone).ahead).map TypeExpr.object
        rw [watchType_closed hlast ht hb ho rfl hclose]
        refine .see (ahead_self rfl) ?_
        dsimp only
        split
        · exact (Shows.unseen _).bind fun _ hok => by cases hok
        next hbefore =>
        split
        · split
          · exact (Shows.unseen _).bind fun _ hok => by cases hok
          · next hs => exact (Shows.unseen _).bind fun _ _ => hobject fun h => absurd h hs
        · next hafter =>
          exact hobject fun hs => ⟨by simpa [hs] using hbefore, by simpa using hafter⟩

/-- What there is to see is what is asked for when a text is read, and nothing else. -/
theorem sight_mem_watch_iff {text : String} {sight : Sight} : .inr sight ∈ (o.watch text).notes ↔
    Ahead o text.toList (.list o.room (o.body text.toList)) sight := by
  constructor
  · have hshows : Shows (Ahead o text.toList (.list o.room (o.body text.toList))) (o.watch text) := by
      refine (ahead_watchList (ahead_watchType o.room) _).bind fun d _ => ?_
      split
      · exact (Shows.unseen _).bind fun _ hok => by cases hok
      · exact (Shows.unseen _).bind fun _ _ => .pure d
    exact hshows sight
  · rintro ⟨call, path, hsight⟩
    have hsubset : o.trail text.toList call ⊆ (o.watch text).notes := by
      clear hsight
      induction path with
      | refl => exact notes_bind_left _ _
      | tail _ step ih => exact List.Subset.trans (trail_subset step) ih
    exact hsubset (sight_mem_trail hsight)

end ParseOptions

end Conform.Schema
