import Conform.Proofs.Schema.Tree
import Conform.Schema.Room

/-! What there is room for. A tree fits if there is room for each of its types where it stands; rooms
are ordered by what they leave, and any number of levels has room if enough frames are left. -/

namespace Conform.Schema

namespace Room

def inside : Room → Level → Room
  | .spent, _ => .spent
  | .free inside, level => inside level

/-- There is room for `n` types inside one another, on whatever levels they stand. -/
def Allows : Room → Nat → Prop
  | _, 0 => True
  | .spent, _ + 1 => False
  | .free inside, n + 1 => ∀ level, (inside level).Allows n

inductive Le : Room → Room → Prop
  | spent (room : Room) : Le .spent room
  | free {inside' inside : Level → Room} (h : ∀ level, Le (inside' level) (inside level)) :
      Le (.free inside') (.free inside)

instance : LE Room := ⟨Le⟩

def Narrows (room : Room) : Prop := ∀ level, room.inside level ≤ room

theorem Allows.mono {room : Room} {m n : Nat} (h : room.Allows n) (hle : m ≤ n) :
    room.Allows m := by
  induction room generalizing m n with
  | spent =>
    cases n with
    | zero =>
      obtain rfl : m = 0 := by omega
      trivial
    | succ n => cases h
  | free inside ih =>
    cases m with
    | zero => trivial
    | succ m =>
      cases n with
      | zero => omega
      | succ n => exact fun level => ih level (h level) (by omega)

theorem le_refl (room : Room) : room ≤ room := by
  induction room with
  | spent => exact .spent _
  | free inside ih => exact .free ih

theorem after_eq (pending frames : Nat) : after pending frames = ofFrames (frames - pending) := by
  induction frames generalizing pending with
  | zero =>
    rw [Nat.zero_sub]
    cases pending <;> rfl
  | succ frames ih =>
    cases pending with
    | zero => rfl
    | succ pending =>
      rw [Nat.add_sub_add_right]
      exact ih pending

theorem ofFrames_succ (frames : Nat) :
    ofFrames (frames + 1) = .free fun level => ofFrames (frames + 1 - level.frames) := by
  have hinside (level : Level) :
      after (level.frames - 1) frames = ofFrames (frames + 1 - level.frames) := by
    rw [after_eq]
    cases level <;> congr 1
  exact congrArg Room.free (funext hinside)

theorem inside_ofFrames (frames : Nat) (level : Level) :
    (ofFrames frames).inside level = ofFrames (frames - level.frames) := by
  cases frames with
  | zero =>
    rw [Nat.zero_sub]
    rfl
  | succ frames => rw [ofFrames_succ, inside]

theorem ofFrames_mono {m n : Nat} (h : m ≤ n) : ofFrames m ≤ ofFrames n := by
  induction m using Nat.strongRecOn generalizing n with
  | _ m ih =>
    cases m with
    | zero => exact .spent _
    | succ m =>
      obtain ⟨n, rfl⟩ := Nat.exists_eq_succ_of_ne_zero (by omega : n ≠ 0)
      rw [ofFrames_succ, ofFrames_succ]
      refine .free fun level => ih _ ?_ (Nat.sub_le_sub_right h _)
      cases level <;> simp only [Level.frames] <;> omega

theorem narrows_ofFrames (frames : Nat) : (ofFrames frames).Narrows := by
  intro level
  rw [inside_ofFrames]
  exact ofFrames_mono (Nat.sub_le _ _)

theorem allows_ofFrames {n frames : Nat} (h : 4 * n ≤ frames) : (ofFrames frames).Allows n := by
  induction n generalizing frames with
  | zero => simp [Allows]
  | succ n ih =>
    obtain ⟨frames, rfl⟩ := Nat.exists_eq_succ_of_ne_zero (by omega : frames ≠ 0)
    rw [ofFrames_succ]
    intro level
    refine ih ?_
    cases level <;> simp only [Level.frames] <;> omega

end Room

mutual

def TypeExpr.fits : TypeExpr → Room → Bool
  | _, .spent => false
  | .named _, .free _ => true
  | .array item, .free inside => item.fits (inside .item)
  | .object ps, .free inside => propertiesFit ps (inside .property)

def propertiesFit : List (String × Spec TypeExpr) → Room → Bool
  | [], _ => true
  | (_, ⟨type, _⟩) :: rest, room => type.fits room && propertiesFit rest room

end

theorem propertiesFit_eq_true_iff {ps : Definition} {room : Room} :
    propertiesFit ps room = true ↔ ∀ p ∈ ps, p.2.type.fits room = true := by
  induction ps with
  | nil => simp [propertiesFit]
  | cons p ps ih => simp [propertiesFit, ih]

theorem le_propertiesHeight {ps : Definition} {p : String × Spec TypeExpr} (h : p ∈ ps) :
    p.2.type.height ≤ propertiesHeight ps := by
  induction ps with
  | nil => cases h
  | cons q ps ih =>
    obtain ⟨name, type, optional⟩ := q
    rw [propertiesHeight]
    rcases List.mem_cons.1 h with rfl | h
    · exact Nat.le_max_left _ _
    · exact Nat.le_trans (ih h) (Nat.le_max_right _ _)

theorem TypeExpr.fits_of_allows {τ : TypeExpr} {room : Room} (h : room.Allows τ.height) :
    τ.fits room = true := by
  induction τ using TypeExpr.induction generalizing room with
  | named name =>
    cases room with
    | spent => cases h
    | free inside => simp [TypeExpr.fits]
  | array item ih =>
    cases room with
    | spent => cases h
    | free inside =>
      rw [TypeExpr.fits]
      exact ih (h .item)
  | object ps ih =>
    cases room with
    | spent => cases h
    | free inside =>
      rw [TypeExpr.fits, propertiesFit_eq_true_iff]
      exact fun p hp => ih p hp ((h .property).mono (le_propertiesHeight hp))

theorem propertiesFit_of_allows {d : Definition} {room : Room}
    (h : room.Allows (propertiesHeight d)) : propertiesFit d room = true :=
  propertiesFit_eq_true_iff.2 fun _ hp => TypeExpr.fits_of_allows (h.mono (le_propertiesHeight hp))

end Conform.Schema
