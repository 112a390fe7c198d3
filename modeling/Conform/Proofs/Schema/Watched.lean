import Conform.Proofs.Schema.Derivation

/-! Reading under watch. A watched reader reads what the reader reads, with the same result and the
same events, and records besides what it was about to do: how far the scan for semicolons has come,
which tokens are taken for a property, and which for a type. -/

namespace Conform.Schema

/-- What there is to see at one moment: the state of a scan, before each token and at the end; the
tokens of a property that is to be added; the tokens of a type that is to be read. -/
inductive Sight where
  | scan (depth : Int) (opened : List Nat)
  | piece (s : Segment)
  | type (s : Segment)

abbrev Watching := Journal (Event ⊕ Sight) ParseError

def see (sight : Sight) : Watching Unit := .note (.inr sight)

def unseen {α : Type} (x : Reading α) : Watching α := ⟨x.notes.map .inl, x.result⟩

def watchCut (strict : Bool) (stop : Nat) : Int → List Nat → List Token → Watching Cut
  | depth, opened, [] => do
    see (.scan depth opened)
    pure (cut strict stop depth opened [])
  | depth, opened, t :: ts => do
    see (.scan depth opened)
    match t.kind with
    | .openBrace => Cut.push t <$> watchCut strict stop (depth + 1) (t.start :: opened) ts
    | .closeBrace =>
      if opened.isEmpty && strict then pure ([], .error (.malformed .unmatchedClose t.start))
      else Cut.push t <$> watchCut strict stop (depth - 1) opened.tail ts
    | .semicolon =>
      if depth = 0 then do
        let rest ← watchCut strict stop depth opened ts
        pure (⟨[], t.start⟩ :: rest.1, rest.2)
      else Cut.push t <$> watchCut strict stop depth opened ts
    | _ => Cut.push t <$> watchCut strict stop depth opened ts

namespace ParseOptions

variable (o : ParseOptions) (source : List Char)

section

variable (typeOf : Segment → Watching TypeExpr)

def watchProperty (sofar : Definition) (s : Segment) : Watching Definition := do
  see (.piece s)
  if s.tokens.isEmpty then pure sofar
  else
    let before := s.tokens.takeWhile (·.kind ≠ .colon)
    match s.tokens.dropWhile (·.kind ≠ .colon) with
    | [] =>
      let text := String.ofList (spanText source s.tokens)
      if o.strict then unseen (refuse (.missingColon text) s.start)
      else do
        unseen (.note (.segmentSkipped text))
        pure sofar
    | _ :: after => do
      let written := spanText source before
      let chars := bareName written
      let name := String.ofList chars
      if o.strict then
        unseen (checkName s.start chars before)
        if Assoc.contains name sofar then unseen (refuse (.duplicateName name) s.start)
      let type ← typeOf ⟨after, s.stop⟩
      pure (Assoc.upsert name ⟨type, written.getLast? = some '?'⟩ sofar)

def watchProperties (sofar : Definition) : List Segment → Watching Definition
  | [] => pure sofar
  | s :: rest => do watchProperties (← o.watchProperty source typeOf sofar s) rest

def watchList (s : Segment) : Watching Definition := do
  let pieces ← watchCut o.strict s.stop 0 [] s.tokens
  let sofar ← o.watchProperties source typeOf [] pieces.1
  o.watchProperty source typeOf sofar (← unseen (.ofExcept pieces.2))

end

def watchType : Room → Segment → Watching TypeExpr
  | .spent, s => do
    see (.type s)
    .fail .nestedTooDeeply
  | .free inside, s => do
    see (.type s)
    match s.tokens.getLast? with
    | none => unseen (if o.strict then refuse .missingType s.start else o.named [] s.start)
    | some last =>
      if last.kind = .arraySuffix then
        .array <$> watchType (inside .item) ⟨s.tokens.dropLast, last.start⟩
      else
        let before := s.tokens.takeWhile (·.kind ≠ .openBrace)
        match s.tokens.dropWhile (·.kind ≠ .openBrace) with
        | [] => unseen (o.named (spanText source s.tokens) s.start)
        | opening :: rest =>
          match closeIndex? tokenBrace 0 rest with
          | none =>
            unseen (if o.strict then refuse .unclosedOpen opening.start
              else o.named (spanText source s.tokens) s.start)
          | some i => do
            let after := rest.drop (i + 1)
            if o.strict && !before.isEmpty then
              unseen (refuse (.contentBefore (String.ofList (spanText source before))) s.start)
            if !after.isEmpty then
              let content := String.ofList (spanText source after)
              if o.strict then unseen (refuse (.contentAfter content) (Segment.mk after s.stop).start)
              else unseen (.note (.contentDiscarded content))
            let stop := (Segment.mk (rest.drop i) s.stop).start
            .object <$> o.watchList source (watchType (inside .property)) ⟨rest.take i, stop⟩

section

variable {o source} {typeOf : Segment → Watching TypeExpr} {sofar : Definition} {stop : Nat}
  {inside : Level → Room}

theorem watchProperty_no_colon {ts : List Token} (hne : ts ≠ []) (h : ∀ t ∈ ts, t.kind ≠ .colon) :
    o.watchProperty source typeOf sofar ⟨ts, stop⟩ = (do
      see (.piece ⟨ts, stop⟩)
      if o.strict then
        unseen (refuse (.missingColon (String.ofList (spanText source ts))) (Segment.mk ts stop).start)
      else do
        unseen (.note (.segmentSkipped (String.ofList (spanText source ts))))
        pure sofar) := by
  have hempty : ts.isEmpty = false := by simpa using hne
  unfold watchProperty
  simp only [hempty, dropWhile_of_forall h]
  rfl

theorem watchProperty_colon {before after : List Token} {colon : Token}
    (hb : ∀ t ∈ before, t.kind ≠ .colon) (hc : colon.kind = .colon) :
    o.watchProperty source typeOf sofar ⟨before ++ colon :: after, stop⟩ = (do
      see (.piece ⟨before ++ colon :: after, stop⟩)
      let chars := bareName (spanText source before)
      let name := String.ofList chars
      if o.strict then
        unseen (checkName (Segment.mk (before ++ colon :: after) stop).start chars before)
        if Assoc.contains name sofar then
          unseen (refuse (.duplicateName name) (Segment.mk (before ++ colon :: after) stop).start)
      let type ← typeOf ⟨after, stop⟩
      pure (Assoc.upsert name ⟨type, (spanText source before).getLast? = some '?'⟩ sofar)) := by
  have hne : (before ++ colon :: after).isEmpty = false := by simp
  unfold watchProperty
  simp only [hne, takeWhile_until hb hc, dropWhile_until hb hc]
  rfl

theorem watchType_suffix {ts : List Token} {t : Token} (ht : t.kind = .arraySuffix) :
    o.watchType source (.free inside) ⟨ts ++ [t], stop⟩ = (do
      see (.type ⟨ts ++ [t], stop⟩)
      .array <$> o.watchType source (inside .item) ⟨ts, t.start⟩) := by
  simp [watchType, ht]

theorem watchType_no_brace {ts : List Token} {t : Token} (ht : t.kind ≠ .arraySuffix)
    (h : ∀ u ∈ ts ++ [t], u.kind ≠ .openBrace) :
    o.watchType source (.free inside) ⟨ts ++ [t], stop⟩ = (do
      see (.type ⟨ts ++ [t], stop⟩)
      unseen (o.named (spanText source (ts ++ [t])) (Segment.mk (ts ++ [t]) stop).start)) := by
  rw [watchType]
  simp only [List.getLast?_append, List.getLast?_singleton, Option.some_or, if_neg ht,
    dropWhile_of_forall h]

section Brace

variable {before rest : List Token} {opening last : Token}
  (hlast : (before ++ opening :: rest).getLast? = some last) (ht : last.kind ≠ .arraySuffix)
  (hb : ∀ u ∈ before, u.kind ≠ .openBrace) (ho : opening.kind = .openBrace)

include hlast ht hb ho

theorem watchType_unclosed (hnone : closeIndex? tokenBrace 0 rest = none) :
    o.watchType source (.free inside) ⟨before ++ opening :: rest, stop⟩ = (do
      see (.type ⟨before ++ opening :: rest, stop⟩)
      unseen (if o.strict then refuse .unclosedOpen opening.start
        else o.named (spanText source (before ++ opening :: rest))
          (Segment.mk (before ++ opening :: rest) stop).start)) := by
  rw [watchType]
  simp only [hlast, if_neg ht, dropWhile_until hb ho, hnone]

theorem watchType_closed {inner after : List Token} {closing : Token}
    (hrest : rest = inner ++ closing :: after)
    (hsome : closeIndex? tokenBrace 0 rest = some inner.length) :
    o.watchType source (.free inside) ⟨before ++ opening :: rest, stop⟩ = (do
      see (.type ⟨before ++ opening :: rest, stop⟩)
      if o.strict && !before.isEmpty then
        unseen (refuse (.contentBefore (String.ofList (spanText source before)))
          (Segment.mk (before ++ opening :: rest) stop).start)
      if !after.isEmpty then
        let content := String.ofList (spanText source after)
        if o.strict then unseen (refuse (.contentAfter content) (Segment.mk after stop).start)
        else unseen (.note (.contentDiscarded content))
      .object <$> o.watchList source (o.watchType source (inside .property))
        ⟨inner, closing.start⟩) := by
  have hafter : rest.drop (inner.length + 1) = after := by simp [hrest]
  have hclosing : rest.drop inner.length = closing :: after := by simp [hrest]
  have hinner : rest.take inner.length = inner := by simp [hrest]
  rw [watchType]
  simp only [hlast, if_neg ht, takeWhile_until hb ho, dropWhile_until hb ho, hsome]
  rw [hafter, hclosing, hinner]
  rfl

end Brace

end

def watch (text : String) : Watching Definition := do
  let source := text.toList
  let definition ← o.watchList source (o.watchType source o.room) (o.body source)
  if o.strict && definition.isEmpty then unseen (refuse .noProperties 0)
  unseen (.note (.schemaParsed definition.length o.strict))
  pure definition

end ParseOptions

def unwatched {α : Type} (x : Watching α) : Reading α := ⟨x.notes.filterMap Sum.getLeft?, x.result⟩

section

variable {α β : Type}

@[simp] theorem unwatched_pure (a : α) : unwatched (pure a) = pure a := rfl

@[simp] theorem unwatched_see (sight : Sight) : unwatched (see sight) = pure () := rfl

@[simp] theorem unwatched_unseen (x : Reading α) : unwatched (unseen x) = x := by
  simp [unwatched, unseen, Function.comp_def]

@[simp] theorem unwatched_bind (x : Watching α) (f : α → Watching β) :
    unwatched (x >>= f) = unwatched x >>= fun a => unwatched (f a) := by
  obtain ⟨ns, r⟩ := x
  cases r <;> simp [unwatched]

@[simp] theorem unwatched_map (f : α → β) (x : Watching α) :
    unwatched (f <$> x) = f <$> unwatched x := by
  rw [map_eq_pure_bind, map_eq_pure_bind, unwatched_bind]
  rfl

end

theorem unwatched_watchCut (strict : Bool) (stop : Nat) (depth : Int) (opened : List Nat)
    (ts : List Token) : unwatched (watchCut strict stop depth opened ts) =
      pure (cut strict stop depth opened ts) := by
  induction ts generalizing depth opened with
  | nil => rfl
  | cons t ts ih =>
    rw [watchCut, cut, unwatched_bind, unwatched_see, pure_bind]
    cases t.kind with
    | closeBrace | semicolon =>
      dsimp only
      split
      all_goals simp only [unwatched_bind, unwatched_map, unwatched_pure, ih, map_pure, pure_bind]
    | _ => simp only [unwatched_map, ih, map_pure]

namespace ParseOptions

variable {o : ParseOptions} {source : List Char}

section

variable {typeOf' : Segment → Watching TypeExpr} {typeOf : Segment → Reading TypeExpr}
  (htype : ∀ s, unwatched (typeOf' s) = typeOf s)

include htype

theorem unwatched_watchProperty (sofar : Definition) (s : Segment) :
    unwatched (o.watchProperty source typeOf' sofar s) = o.addProperty source typeOf sofar s := by
  obtain ⟨ts, stop⟩ := s
  cases propertyForm ts with
  | empty => rfl
  | bare hne hcolon =>
    rw [watchProperty_no_colon hne hcolon, addProperty_no_colon hne hcolon, unwatched_bind,
      unwatched_see, pure_bind]
    split
    · exact unwatched_unseen _
    · simp only [unwatched_bind, unwatched_unseen, unwatched_pure]
  | @colon before us colon hb hc =>
    rw [watchProperty_colon hb hc, addProperty_colon hb hc, unwatched_bind, unwatched_see, pure_bind]
    dsimp only
    split
    · rw [unwatched_bind, unwatched_unseen]
      refine congrArg _ (funext fun _ => ?_)
      split
      all_goals simp only [unwatched_bind, unwatched_unseen, unwatched_pure, htype]
    · simp only [unwatched_bind, unwatched_pure, htype]

theorem unwatched_watchProperties (sofar : Definition) (segments : List Segment) :
    unwatched (o.watchProperties source typeOf' sofar segments) =
      o.addProperties source typeOf sofar segments := by
  induction segments generalizing sofar with
  | nil => rfl
  | cons s rest ih =>
    rw [watchProperties, addProperties, unwatched_bind, unwatched_watchProperty htype]
    simp only [ih]

theorem unwatched_watchList (s : Segment) :
    unwatched (o.watchList source typeOf' s) = o.properties source typeOf s := by
  rw [watchList, properties, unwatched_bind, unwatched_watchCut, pure_bind]
  simp only [unwatched_bind, unwatched_unseen, unwatched_watchProperties htype,
    unwatched_watchProperty htype]

end

theorem unwatched_watchType (room : Room) (s : Segment) :
    unwatched (o.watchType source room s) = o.typeExpr source room s := by
  induction room generalizing s with
  | spent => rfl
  | free inside ih =>
    obtain ⟨ts, stop⟩ := s
    cases typeForm ts with
    | empty =>
      rw [watchType, typeExpr, unwatched_bind, unwatched_see, pure_bind]
      exact unwatched_unseen _
    | @suffix us t ht =>
      rw [watchType_suffix ht, typeExpr_suffix ht, unwatched_bind, unwatched_see, pure_bind,
        unwatched_map, ih]
    | @plain us t ht hopen =>
      rw [watchType_no_brace ht hopen, typeExpr_no_brace ht hopen, unwatched_bind, unwatched_see,
        pure_bind, unwatched_unseen]
    | @brace before rest opening last hlast ht hb ho =>
      rw [typeExpr_brace hlast ht hb ho]
      cases hclose : closeIndex? tokenBrace 0 rest with
      | none =>
        rw [watchType_unclosed hlast ht hb ho hclose, unwatched_bind, unwatched_see, pure_bind]
        exact unwatched_unseen _
      | some i =>
        obtain ⟨inner, closing, after, hrest, rfl, -⟩ := closeIndex?_eq_some hclose
        have hafter : rest.drop (inner.length + 1) = after := by simp [hrest]
        have hclosing : rest.drop inner.length = closing :: after := by simp [hrest]
        have hinner : rest.take inner.length = inner := by simp [hrest]
        have hobject := @unwatched_watchList o source _ _ (ih .property)
        rw [watchType_closed hlast ht hb ho hrest hclose, unwatched_bind, unwatched_see, pure_bind]
        dsimp only
        rw [hafter, hclosing, hinner]
        split
        · rw [unwatched_bind, unwatched_unseen]
          rfl
        split
        · split
          · rw [unwatched_bind, unwatched_unseen]
            rfl
          · rw [unwatched_bind, unwatched_unseen, unwatched_map, hobject]
            rfl
        · rw [unwatched_map, hobject]
          rfl

/-- Watching changes nothing. -/
theorem unwatched_watch (text : String) : unwatched (o.watch text) = o.parse text := by
  rw [watch, parse]
  simp only [unwatched_bind, unwatched_watchList (unwatched_watchType o.room)]
  refine congrArg _ (funext fun d => ?_)
  split
  all_goals simp only [unwatched_bind, unwatched_unseen, unwatched_pure]

end ParseOptions

end Conform.Schema
