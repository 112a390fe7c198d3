/-!
Patterns of texts without repetition of groups: each describes a set of texts, and a text matches
as a whole or not at all.
-/

namespace Conform

inductive Pattern where
  /-- Exactly `n` characters of a class. -/
  | times (n : Nat) (ok : Char → Bool)
  /-- One or more characters of a class. -/
  | some (ok : Char → Bool)
  | seq (first second : Pattern)
  | either (first second : Pattern)
  | optional (p : Pattern)

namespace Pattern

def char (c : Char) : Pattern := times 1 (· = c)

/-- One after another. -/
def chain (p : Pattern) : List Pattern → Pattern
  | [] => p
  | q :: qs => seq p (chain q qs)

/-- Whether the whole text matches. -/
def accepts : Pattern → List Char → Bool
  | times n ok, cs => cs.length = n && cs.all ok
  | some ok, cs => !cs.isEmpty && cs.all ok
  | seq p q, cs =>
    (List.range (cs.length + 1)).any fun i => p.accepts (cs.take i) && q.accepts (cs.drop i)
  | either p q, cs => p.accepts cs || q.accepts cs
  | optional p, cs => cs.isEmpty || p.accepts cs

variable {ok : Char → Bool} {p q : Pattern} {cs : List Char}

theorem accepts_times_iff {n : Nat} :
    (times n ok).accepts cs = true ↔ cs.length = n ∧ ∀ c ∈ cs, ok c = true := by
  simp [accepts]

theorem accepts_some_iff : (some ok).accepts cs = true ↔ cs ≠ [] ∧ ∀ c ∈ cs, ok c = true := by
  simp [accepts]

theorem accepts_char_iff {c : Char} : (char c).accepts cs = true ↔ cs = [c] := by
  rw [char, accepts_times_iff]
  constructor
  · rintro ⟨hlength, hc⟩
    obtain ⟨d, rfl⟩ := List.length_eq_one_iff.1 hlength
    simpa using hc
  · rintro rfl
    simp

/-- A sequence matches a text that falls into two parts that match. -/
theorem accepts_seq_iff : (seq p q).accepts cs = true ↔
    ∃ xs ys, cs = xs ++ ys ∧ p.accepts xs = true ∧ q.accepts ys = true := by
  rw [accepts, List.any_eq_true]
  constructor
  · rintro ⟨i, -, h⟩
    exact ⟨cs.take i, cs.drop i, (List.take_append_drop i cs).symm, by simpa using h⟩
  · rintro ⟨xs, ys, rfl, hxs, hys⟩
    have hlength : xs.length < (xs ++ ys).length + 1 := by
      rw [List.length_append]
      omega
    exact ⟨xs.length, List.mem_range.2 hlength, by simp [hxs, hys]⟩

theorem accepts_chain_cons_iff {qs : List Pattern} : (chain p (q :: qs)).accepts cs = true ↔
    ∃ xs ys, cs = xs ++ ys ∧ p.accepts xs = true ∧ (chain q qs).accepts ys = true :=
  accepts_seq_iff

theorem accepts_chain_nil_iff : (chain p []).accepts cs = true ↔ p.accepts cs = true := Iff.rfl

theorem accepts_either_iff :
    (either p q).accepts cs = true ↔ p.accepts cs = true ∨ q.accepts cs = true := by
  simp [accepts]

theorem accepts_optional_iff : (optional p).accepts cs = true ↔ cs = [] ∨ p.accepts cs = true := by
  simp [accepts]

end Pattern

end Conform
