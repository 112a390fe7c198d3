/-!
A bounded cache that gives up what was used least recently.
-/

namespace Conform

/-- The entries are in order of last use, the latest first. -/
structure Cache (κ α : Type) where
  capacity : Nat
  entries : List (κ × α) := []
  hits : Nat := 0
  misses : Nat := 0

namespace Cache

variable {κ α : Type} [BEq κ]

/-- Moves the entry of a key to the front, if there is one. -/
def touch? (c : Cache κ α) (k : κ) : Option (α × Cache κ α) :=
  match c.entries.find? (·.1 == k) with
  | some (_, a) =>
    let others := c.entries.filter fun e => !(e.1 == k)
    some (a, { c with entries := (k, a) :: others, hits := c.hits + 1 })
  | none => none

/-- A key was asked for in vain. -/
def miss (c : Cache κ α) : Cache κ α := { c with misses := c.misses + 1 }

/-- Stores what a missing key stands for; the least recently used entry makes room. -/
def store (c : Cache κ α) (k : κ) (a : α) : Cache κ α :=
  { c with entries := ((k, a) :: c.entries).take c.capacity }

theorem touch?_eq_some [LawfulBEq κ] {c c' : Cache κ α} {k : κ} {a : α}
    (h : c.touch? k = some (a, c')) : (k, a) ∈ c.entries ∧ ∀ e ∈ c'.entries, e ∈ c.entries := by
  unfold touch? at h
  split at h
  · next k' a' hfind =>
    obtain rfl : k' = k := by simpa using List.find?_some hfind
    have hmem := List.mem_of_find?_eq_some hfind
    cases h
    refine ⟨hmem, fun e he => ?_⟩
    rcases List.mem_cons.1 he with rfl | he
    · exact hmem
    · exact (List.mem_filter.1 he).1
  · cases h

omit [BEq κ] in
theorem mem_store {c : Cache κ α} {k : κ} {a : α} {e : κ × α}
    (h : e ∈ (c.store k a).entries) : e = (k, a) ∨ e ∈ c.entries :=
  List.mem_cons.1 (List.mem_of_mem_take h)

end Cache

end Conform
