import Conform.Proofs.Schema.Depth
import Conform.Proofs.Schema.Tokenization

/-! Texts with something between them. Blanks or a structural character keep the tokens of both sides
as they are, however the one ends and the other begins: a bracket at the end of a text is no array
suffix with one at the beginning of the next. So what stands between two tokens tells them apart, and
how many blanks it has does not matter. -/

namespace Conform.Schema

def content (source : List Char) : List Token := (tokenize source).filter (·.kind ≠ .eof)

theorem content_eq_lexemes (source : List Char) : content source = lexemes 0 source := by
  have hkind : ∀ t ∈ lexemes 0 source, decide (t.kind ≠ .eof) = true := fun t ht => by
    simpa using ((covers_lexemes source).unended t ht)
  rw [content, tokenize, List.filter_append, List.filter_eq_self.2 hkind]
  exact List.append_nil _

structure IsSeparator (w : List Char) : Prop where
  ne_nil : w ≠ []
  blank : ∀ c ∈ w, isBlank c = true

instance (w : List Char) : Decidable (IsSeparator w) :=
  decidable_of_iff (w ≠ [] ∧ w.all isBlank = true) (by
    rw [List.all_eq_true]
    exact ⟨fun h => ⟨h.1, h.2⟩, fun h => ⟨h.ne_nil, h.blank⟩⟩)

def Token.symbol (t : Token) : TokenKind × List Char := (t.kind, t.text)

theorem map_symbol_shift (k : Nat) (ts : List Token) :
    (ts.map (Token.shift k)).map Token.symbol = ts.map Token.symbol := by
  rw [List.map_map]
  rfl

variable {a b w : List Char}

/-- Blanks before a text move its tokens, and change nothing else. -/
theorem lexemes_blanks (hw : ∀ c ∈ w, isBlank c = true) (n : Nat) (cs : List Char) :
    lexemes n (w ++ cs) = lexemes (n + w.length) cs :=
  ((spelled_lexemes _ cs).blanks hw).eq_lexemes (maximal_lexemes _ cs)

theorem lexemes_separated (h : IsSeparator w) :
    lexemes 0 (a ++ (w ++ b)) = lexemes 0 a ++ lexemes (a.length + w.length) b := by
  have hblanks := lexemes_blanks h.blank a.length b
  have hpos := List.length_pos_iff.2 h.ne_nil
  rw [lexemes_append, Nat.zero_add, hblanks]
  rw [Nat.zero_add, hblanks]
  intro t ht u hu _ _
  -- the first ends before the separator, the second begins behind it
  have hstop := (run_lexemes a).stop_le_length (List.mem_of_mem_getLast? ht)
  have hstart := (spelled_lexemes (a.length + w.length) b).le_start u (List.mem_of_mem_head? hu)
  omega

/-- The place where two texts meet lies within no token of both together. -/
def MeetBetweenTokens (a b : List Char) : Prop :=
  ∀ t ∈ content (a ++ b), t.stop ≤ a.length ∨ a.length ≤ t.start

/-- A text is spelled out in two parts if no token stands over the place where they meet. -/
theorem Spelled.split {n : Nat} {cs : List Char} {ts : List Token} (h : Spelled n cs ts)
    (hcs : cs = a ++ b) (hts : ∀ t ∈ ts, t.stop ≤ n + a.length ∨ n + a.length ≤ t.start) :
    ∃ us vs, ts = us ++ vs ∧ Spelled n a us ∧ Spelled (n + a.length) b vs := by
  induction h generalizing a with
  | nil =>
    obtain ⟨rfl, rfl⟩ := List.append_eq_nil_iff.1 hcs.symm
    exact ⟨[], [], rfl, .nil, .nil⟩
  | @blank n c cs ts hc rest ih =>
    cases a with
    | nil =>
      obtain rfl : c :: cs = b := hcs
      exact ⟨[], ts, rfl, .nil, .blank hc rest⟩
    | cons d a =>
      obtain ⟨rfl, rfl⟩ := List.cons.inj hcs
      have hlength : n + 1 + a.length = n + (c :: a).length := by
        rw [List.length_cons]
        omega
      rw [← hlength] at hts ⊢
      obtain ⟨us, vs, rfl, hus, hvs⟩ := ih rfl hts
      exact ⟨us, vs, rfl, .blank hc hus, hvs⟩
  | @token n t cs ts hn formed rest ih =>
    by_cases ha : a = []
    · subst ha
      obtain rfl : t.text ++ cs = b := hcs
      exact ⟨[], t :: ts, rfl, .nil, .token hn formed rest⟩
    · -- the token begins within the first part, and so it ends there
      have hpos := List.length_pos_iff.2 ha
      have hstop : t.stop ≤ n + a.length := by
        rcases hts t List.mem_cons_self with hstop | hstart
        · exact hstop
        · omega
      have hprefix : t.text <+: a :=
        List.prefix_of_prefix_length_le ⟨cs, hcs⟩ (List.prefix_append a b) (by
          rw [Token.stop, hn] at hstop
          omega)
      obtain ⟨a, rfl⟩ := hprefix
      rw [List.append_assoc] at hcs
      obtain rfl := List.append_cancel_left hcs
      have hlength : t.stop + a.length = n + (t.text ++ a).length := by
        rw [Token.stop, hn, List.length_append, Nat.add_assoc]
      rw [← hlength] at hts ⊢
      obtain ⟨us, vs, rfl, hus, hvs⟩ := ih rfl fun u hu => hts u (List.mem_cons_of_mem t hu)
      exact ⟨t :: us, vs, rfl, .token hn formed hus, hvs⟩

theorem lexemes_between (h : MeetBetweenTokens a b) :
    lexemes 0 (a ++ b) = lexemes 0 a ++ lexemes a.length b := by
  rw [MeetBetweenTokens, content_eq_lexemes] at h
  obtain ⟨us, vs, hsplit, hus, hvs⟩ :=
    (spelled_lexemes 0 (a ++ b)).split rfl (by simpa using h)
  have hmax := hsplit ▸ maximal_lexemes 0 (a ++ b)
  rw [Nat.zero_add] at hvs
  rw [hsplit, hus.eq_lexemes (hmax.subrun (List.prefix_append us vs).isInfix),
    hvs.eq_lexemes (hmax.subrun (List.suffix_append us vs).isInfix)]

theorem exists_kind_of_mem {c : Char} (hc : c ∈ ['{', '}', ';', ':', '?']) :
    ∃ k, structural? c = some k := by
  simp only [List.mem_cons, List.not_mem_nil, or_false] at hc
  rcases hc with rfl | rfl | rfl | rfl | rfl <;> exact ⟨_, rfl⟩

section Content

theorem content_separated (h : IsSeparator w) : content (a ++ w ++ b) =
    content a ++ (content b).map (Token.shift (a.length + w.length)) := by
  simp only [content_eq_lexemes, List.append_assoc]
  rw [lexemes_separated h, lexemes_eq_shift (a.length + w.length)]

theorem content_structural {c : Char} {k : TokenKind} (hk : structural? c = some k) :
    content (a ++ [c] ++ b) =
      content a ++ [⟨k, [c], a.length⟩] ++ (content b).map (Token.shift (a.length + 1)) := by
  simp only [content_eq_lexemes, List.append_assoc, List.singleton_append]
  rw [lexemes_structural hk, Nat.zero_add, lexemes_eq_shift (a.length + 1)]

theorem content_between (h : MeetBetweenTokens a b) :
    content (a ++ b) = content a ++ (content b).map (Token.shift a.length) := by
  simp only [content_eq_lexemes]
  rw [lexemes_between h, lexemes_eq_shift a.length]

/-- Apart from where they stand, a separator leaves the tokens of both sides. -/
theorem symbols_separated (h : IsSeparator w) : (content (a ++ w ++ b)).map Token.symbol =
    (content a).map Token.symbol ++ (content b).map Token.symbol := by
  rw [content_separated h, List.map_append, map_symbol_shift]

theorem symbols_between (h : MeetBetweenTokens a b) : (content (a ++ b)).map Token.symbol =
    (content a).map Token.symbol ++ (content b).map Token.symbol := by
  rw [content_between h, List.map_append, map_symbol_shift]

end Content

/-- Blanks or a structural character between two texts leave the tokens of both, those of the second
further on. So it changes the kind and the text of no token to put blanks in the place of others, or
to put them in where no token stands. -/
theorem content_compositional (a b : List Char) :
    (∀ w, IsSeparator w → content (a ++ w ++ b) =
      content a ++ (content b).map (Token.shift (a.length + w.length))) ∧
    (∀ c ∈ ['{', '}', ';', ':', '?'], ∃ k, structural? c = some k ∧ content (a ++ [c] ++ b) =
      content a ++ [⟨k, [c], a.length⟩] ++ (content b).map (Token.shift (a.length + 1))) ∧
    (∀ w w', IsSeparator w → IsSeparator w' →
      (content (a ++ w ++ b)).map Token.symbol = (content (a ++ w' ++ b)).map Token.symbol) ∧
    (MeetBetweenTokens a b → ∀ w, (∀ c ∈ w, isBlank c = true) →
      (content (a ++ w ++ b)).map Token.symbol = (content (a ++ b)).map Token.symbol) := by
  refine ⟨fun w => content_separated, fun c hc => ?_, fun w w' hw hw' => ?_, fun h w hw => ?_⟩
  · obtain ⟨k, hk⟩ := exists_kind_of_mem hc
    exact ⟨k, hk, content_structural hk⟩
  · rw [symbols_separated hw, symbols_separated hw']
  · by_cases hne : w = []
    · rw [hne, List.append_nil]
    · rw [symbols_separated ⟨hne, hw⟩, symbols_between h]

/-- Two brackets that blanks or a colon keep from being an array suffix, and blanks put in between a
suffix and a bracket. -/
theorem content_compositional_brackets :
    IsSeparator [' ', '\t'] ∧ IsSeparator ['\n'] ∧
      content "a[ \t] b".toList = [⟨.text, ['a', '['], 0⟩, ⟨.text, [']'], 4⟩, ⟨.text, ['b'], 6⟩] ∧
      content "a[:] b".toList =
        [⟨.text, ['a', '['], 0⟩, ⟨.colon, [':'], 2⟩, ⟨.text, [']'], 3⟩, ⟨.text, ['b'], 5⟩] ∧
      (content "a[ \t] b".toList).map Token.symbol = (content "a[\n] b".toList).map Token.symbol ∧
      MeetBetweenTokens "a[]".toList "] b".toList ∧
      (content "a[] \t] b".toList).map Token.symbol = (content "a[]] b".toList).map Token.symbol := by
  have hw : IsSeparator [' ', '\t'] := by decide
  have hw' : IsSeparator ['\n'] := by decide
  have hmeet : MeetBetweenTokens "a[]".toList "] b".toList := by
    unfold MeetBetweenTokens
    decide
  obtain ⟨separated, structural, changed, -⟩ := content_compositional "a[".toList "] b".toList
  obtain ⟨-, -, -, inserted⟩ := content_compositional "a[]".toList "] b".toList
  obtain ⟨k, hk, hcolon⟩ := structural ':' (by simp)
  obtain rfl : .colon = k := Option.some.inj hk
  exact ⟨hw, hw', separated _ hw, hcolon, changed _ _ hw hw', hmeet, inserted hmeet _ hw.blank⟩

end Conform.Schema
