import Conform.Proofs.Schema.Balance
import Conform.Proofs.Schema.Maximal

/-! Running depth: how many braces more are opened than closed. It may be negative, and a text has
the same as its tokens. Read leniently, a property list is cut at a semicolon just if the running
depth is zero there, however broken the braces are. -/

namespace Conform.Schema

def Brace.weight : Brace → Int
  | .opening => 1
  | .closing => -1
  | .neither => 0

section Balance

variable {α : Type} {brace : α → Brace}

variable (brace) in
/-- How many braces more are opened than closed. -/
def balance : List α → Int
  | [] => 0
  | x :: xs => (brace x).weight + balance xs

@[simp] theorem balance_nil : balance brace [] = 0 := rfl

@[simp] theorem balance_cons (x : α) (xs : List α) :
    balance brace (x :: xs) = (brace x).weight + balance brace xs := rfl

@[simp] theorem balance_append (xs ys : List α) :
    balance brace (xs ++ ys) = balance brace xs + balance brace ys := by
  induction xs with
  | nil => simp
  | cons x xs ih => rw [List.cons_append, balance_cons, balance_cons, ih, Int.add_assoc]

theorem balance_of_neither {xs : List α} (h : ∀ x ∈ xs, brace x = .neither) :
    balance brace xs = 0 := by
  induction xs with
  | nil => rfl
  | cons x xs ih =>
    obtain ⟨hx, hxs⟩ := List.forall_mem_cons.1 h
    rw [balance_cons, hx, ih hxs]
    rfl

theorem level_cons {d e : Nat} {x : α} (h : (e : Int) = d + (brace x).weight) (xs : List α) :
    level brace d (x :: xs) = level brace e xs := by
  cases hx : brace x <;> simp only [hx, Brace.weight] at h
  case opening =>
    obtain rfl : e = d + 1 := by omega
    simp [level, hx]
  case closing =>
    obtain rfl : d = e + 1 := by omega
    simp [level, hx]
  case neither =>
    obtain rfl : e = d := by omega
    simp [level, hx]

/-- A list that never closes more than was opened has a level, which is the running depth. -/
theorem exists_level_of_balance {d : Nat} {xs : List α}
    (h : ∀ ys, ys <+: xs → 0 ≤ d + balance brace ys) :
    ∃ e : Nat, level brace d xs = some e ∧ (e : Int) = d + balance brace xs := by
  induction xs generalizing d with
  | nil => exact ⟨d, rfl, by simp⟩
  | cons x xs ih =>
    have hx : 0 ≤ d + (brace x).weight := by simpa using h [x] (by simp)
    obtain ⟨d', hd'⟩ := Int.eq_ofNat_of_zero_le hx
    obtain ⟨e, hlevel, he⟩ := @ih d' fun ys hys => by
      rw [← hd', Int.add_assoc, ← balance_cons]
      exact h _ (List.cons_prefix_cons.2 ⟨rfl, hys⟩)
    refine ⟨e, (level_cons hd'.symm xs).trans hlevel, ?_⟩
    rw [he, ← hd', Int.add_assoc, ← balance_cons]

end Balance

section Text

theorem charBrace_eq_neither {c : Char} (h : c ≠ '{' ∧ c ≠ '}') : charBrace c = .neither := by
  unfold charBrace
  split <;> simp_all

theorem charBrace_of_blank {c : Char} (h : isBlank c = true) : charBrace c = .neither := by
  refine charBrace_eq_neither ⟨?_, ?_⟩ <;> rintro rfl <;> cases h

theorem charBrace_of_plain {c : Char} (h : structural? c = none) : charBrace c = .neither := by
  refine charBrace_eq_neither ⟨?_, ?_⟩ <;> rintro rfl <;> cases h

theorem balance_charBrace (cs : List Char) :
    balance charBrace cs = cs.count '{' - cs.count '}' := by
  induction cs with
  | nil => rfl
  | cons c cs ih =>
    rw [balance_cons, ih, List.count_cons, List.count_cons]
    by_cases ho : c = '{'
    · subst ho
      simp [charBrace, Brace.weight]
      omega
    by_cases hc : c = '}'
    · subst hc
      simp [charBrace, Brace.weight]
      omega
    · simp [charBrace_eq_neither ⟨ho, hc⟩, Brace.weight, ho, hc]

theorem balance_blanks {gap : List Char} (h : ∀ c ∈ gap, isBlank c = true) :
    balance charBrace gap = 0 :=
  balance_of_neither fun c hc => charBrace_of_blank (h c hc)

theorem Token.Formed.balance_text {t : Token} (h : t.Formed) :
    balance charBrace t.text = (tokenBrace t).weight := by
  cases h with
  | structural h =>
    unfold structural? at h
    split at h <;> cases h <;> rfl
  | arraySuffix => rfl
  | text hne h => exact balance_of_neither fun c hc => charBrace_of_plain (h c hc).2

variable {n : Nat} {cs : List Char} {ts us : List Token}

theorem Spelled.balance_eq (h : Spelled n cs ts) :
    balance charBrace cs = balance tokenBrace ts := by
  induction h with
  | nil => rfl
  | @blank n c cs ts hc _ ih =>
    rw [← ih, ← List.singleton_append, balance_append, balance_blanks (by simpa using hc), Int.zero_add]
  | token hn formed _ ih => rw [balance_append, balance_cons, formed.balance_text, ih]

theorem Spelled.append_inv (h : Spelled n cs (ts ++ us)) :
    ∃ xs ys, cs = xs ++ ys ∧ Spelled n xs ts ∧ Spelled (n + xs.length) ys us := by
  induction ts generalizing n cs with
  | nil => exact ⟨[], cs, rfl, .nil, h⟩
  | cons t ts ih =>
    obtain ⟨gap, rest, hgap, rfl, hstart, formed, hrest⟩ := h.cons_inv
    obtain ⟨xs, ys, rfl, hxs, hys⟩ := ih hrest
    refine ⟨gap ++ (t.text ++ xs), ys, by simp, .blanks hgap (.token hstart formed hxs), ?_⟩
    rw [Token.stop, hstart] at hys
    simpa [Nat.add_assoc] using hys

theorem level_lexemes (hfront : ∀ xs, xs <+: cs → 0 ≤ balance charBrace xs)
    (h : balance charBrace cs = 0) : level tokenBrace 0 (lexemes n cs) = some 0 := by
  have hspelled := spelled_lexemes n cs
  obtain ⟨e, hlevel, he⟩ := @exists_level_of_balance Token tokenBrace 0 (lexemes n cs) (by
    rintro ts ⟨us, htokens⟩
    rw [← htokens] at hspelled
    obtain ⟨xs, ys, rfl, hxs, -⟩ := hspelled.append_inv
    simpa [hxs.balance_eq] using hfront xs (List.prefix_append xs ys))
  rw [← hspelled.balance_eq, h] at he
  rw [hlevel]
  simpa using he

/-- Where the text has a semicolon, the running depth is that of the tokens before it. -/
theorem exists_semicolon_of_lexemes {t : Token} (h : lexemes n cs = ts ++ t :: us)
    (ht : t.kind = .semicolon) :
    ∃ before after, cs = before ++ ';' :: after ∧ balance charBrace before = balance tokenBrace ts := by
  have hspelled := spelled_lexemes n cs
  rw [h] at hspelled
  obtain ⟨xs, ys, rfl, hxs, hys⟩ := hspelled.append_inv
  obtain ⟨gap, rest, hgap, rfl, -, formed, -⟩ := hys.cons_inv
  refine ⟨xs ++ gap, rest, ?_, ?_⟩
  · rw [formed.text_of_structural (c := ';') rfl ht]
    simp
  · rw [balance_append, hxs.balance_eq, balance_blanks hgap, Int.add_zero]

end Text

section Lenient

variable (stop : Nat) (depth : Int) (opened : List Nat) (t : Token) (ts : List Token)

theorem cut_lenient_nil : cut false stop depth opened [] = ([], .ok ⟨[], stop⟩) := by
  unfold cut
  split
  · contradiction
  · rfl

theorem cut_lenient_opened : cut false stop depth opened ts = cut false stop depth [] ts := by
  induction ts generalizing depth opened with
  | nil => rw [cut_lenient_nil, cut_lenient_nil]
  | cons t ts ih =>
    rw [cut, cut]
    simp only [Bool.and_false, Bool.false_eq_true, if_false]
    rw [ih _ (t.start :: opened), ih _ [t.start], ih _ opened.tail, ih _ opened]
    rfl

/-- Read leniently, a token goes to the first piece unless it is a semicolon at depth zero. -/
theorem cut_lenient_cons :
    cut false stop depth [] (t :: ts) =
      if t.kind = .semicolon ∧ depth = 0 then
        (⟨[], t.start⟩ :: (cut false stop 0 [] ts).1, (cut false stop 0 [] ts).2)
      else (cut false stop (depth + (tokenBrace t).weight) [] ts).push t := by
  rw [cut]
  simp only [Bool.and_false, Bool.false_eq_true, if_false]
  rw [cut_lenient_opened stop _ [t.start]]
  cases hk : t.kind
  case semicolon =>
    by_cases hd : depth = 0
    · simp [hd]
    · simp [hd, tokenBrace, hk, Brace.weight]
  all_goals simp [tokenBrace, hk, Brace.weight, Int.sub_eq_add_neg]

variable {stop depth t ts}

/-- At a semicolon at depth zero the list falls into two that are cut each on its own. -/
theorem cut_lenient_append (ht : t.kind = .semicolon) (h : depth + balance tokenBrace ts = 0)
    (us : List Token) :
    ∃ last, (cut false t.start depth [] ts).2 = .ok last ∧
      cut false stop depth [] (ts ++ t :: us) =
        ((cut false t.start depth [] ts).1 ++ last :: (cut false stop 0 [] us).1,
          (cut false stop 0 [] us).2) := by
  -- on the tokens before the semicolon; `h` is kept as the depth runs along them
  induction ts generalizing depth with
  | nil =>
    obtain rfl : depth = 0 := by simpa using h
    refine ⟨⟨[], t.start⟩, by rw [cut_lenient_nil], ?_⟩
    rw [List.nil_append, cut_lenient_cons, if_pos ⟨ht, rfl⟩, cut_lenient_nil]
    rfl
  | cons u ts ih =>
    rw [List.cons_append, cut_lenient_cons, cut_lenient_cons]
    by_cases hu : u.kind = .semicolon ∧ depth = 0
    · obtain ⟨hk, rfl⟩ := hu
      have hbrace : tokenBrace u = .neither := by rw [tokenBrace, hk]
      obtain ⟨last, hlast, hcut⟩ := @ih 0 (by simpa [hbrace, Brace.weight] using h)
      rw [if_pos ⟨hk, rfl⟩, if_pos ⟨hk, rfl⟩, hcut]
      exact ⟨last, hlast, rfl⟩
    · obtain ⟨last, hlast, hcut⟩ := @ih (depth + (tokenBrace u).weight) (by
        rw [balance_cons] at h
        omega)
      rw [if_neg hu, if_neg hu, hcut]
      generalize cut false t.start (depth + (tokenBrace u).weight) [] ts = c at hlast ⊢
      obtain ⟨pieces, r⟩ := c
      cases hlast
      cases pieces with
      | nil => exact ⟨_, rfl, rfl⟩
      | cons s rest => exact ⟨last, rfl, rfl⟩

/-- Without a semicolon at depth zero the list is one piece. -/
theorem cut_lenient_guarded
    (h : ∀ before t after, ts = before ++ t :: after → t.kind = .semicolon →
      depth + balance tokenBrace before ≠ 0) :
    cut false stop depth [] ts = ([], .ok ⟨ts, stop⟩) := by
  induction ts generalizing depth with
  | nil => exact cut_lenient_nil stop depth []
  | cons u ts ih =>
    have hu : ¬ (u.kind = .semicolon ∧ depth = 0) := by
      rintro ⟨hk, rfl⟩
      exact h [] u ts rfl hk rfl
    rw [cut_lenient_cons, if_neg hu, ih]
    · rfl
    · rintro before t after rfl ht
      have := h (u :: before) t after rfl ht
      rwa [balance_cons, ← Int.add_assoc] at this

end Lenient

end Conform.Schema
