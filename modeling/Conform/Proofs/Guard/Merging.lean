import Conform.Proofs.Guard.Acceptance

/-! Objects with the fields of two. To ask one guard for the fields `fs` and another for the fields `gs`
is to ask a single guard for all of them, in which a name that both declare has both of its checks.
The two read the fields in different orders, and a field that is declared twice is read twice or
once; but a field that cannot be read, a check that fails and one that rejects all end in the same
answer. -/

namespace Conform.Guard.Check

def joined (c : Check) : Option Check → Check
  | some d => intersection [c, d]
  | none => c

/-- The fields of both. A name of both is guarded by its two checks together. -/
def merged (fs gs : List (String × Check)) : List (String × Check) :=
  fs.map (fun f => (f.1, f.2.joined (Assoc.get? f.1 gs))) ++
    gs.filter fun g => !Assoc.contains g.1 fs

variable {c : Check} {fs gs ms : List (String × Check)} {v w : Value}

theorem Everywhere.joined {P : Check → Prop} {d? : Option Check} (own : ∀ cs, P (intersection cs))
    (hc : Everywhere P c) (hd : ∀ d, d? = some d → Everywhere P d) :
    Everywhere P (c.joined d?) := by
  cases d? with
  | none => exact hc
  | some d =>
    exact .intro (own _) (List.forall_mem_cons.2 ⟨hc, List.forall_mem_singleton.2 (hd d rfl)⟩)

theorem Everywhere.merged {P : Check → Prop} (own : ∀ cs, P (intersection cs))
    (hfs : ∀ f ∈ fs, Everywhere P f.2) (hgs : ∀ g ∈ gs, Everywhere P g.2) :
    ∀ m ∈ merged fs gs, Everywhere P m.2 := by
  refine List.forall_mem_append.2 ⟨List.forall_mem_map.2 fun f hf => ?_, fun g hg => ?_⟩
  · exact (hfs f hf).joined own fun d hd => hgs (f.1, d) (Assoc.mem_of_get?_eq_some hd)
  · exact hgs g (List.mem_filter.1 hg).1

end Conform.Guard.Check
