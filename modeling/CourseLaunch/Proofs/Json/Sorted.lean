import Mathlib.Order.Lattice
/-!
# Sorted entries

Entries with keys, sorted by the rank of the key. Setting a key keeps the order, and sets a key that
ranks above all others at the end.
-/

namespace CourseLaunch.Sorted

variable {κ ρ β : Type} [LinearOrder ρ] {rank : κ → ρ} {key : κ} {value : β} {l : List (κ × β)}

/-- Whether the ranks of the keys ascend. -/
def Ascending (rank : κ → ρ) (l : List (κ × β)) : Prop := l.Pairwise fun p q => rank p.1 < rank q.1

/-- The keys before an entry rank below it. -/
theorem Ascending.below {before : List (κ × β)} {p : κ × β} {behind : List (κ × β)}
    (h : Ascending rank (before ++ p :: behind)) : ∀ q ∈ before, rank q.1 < rank p.1 :=
  fun q known => (List.pairwise_append.mp h).2.2 q known p (.head _)

variable [DecidableEq κ]

/-- Sets the value of a key in a list sorted by the rank of the keys. -/
def set (rank : κ → ρ) (key : κ) (value : β) : List (κ × β) → List (κ × β)
  | [] => [(key, value)]
  | (k, v) :: rest =>
    if key = k then (key, value) :: rest
    else if rank key < rank k then (key, value) :: (k, v) :: rest
    else (k, v) :: set rank key value rest

/-- Nothing but the new value comes to a list that is changed at a key. -/
theorem mem_set {p : κ × β} (known : p ∈ set rank key value l) : p = (key, value) ∨ p ∈ l := by
  induction l with
  | nil => simpa [set] using known
  | cons q l ih =>
    rw [set] at known
    split at known
    · rcases List.mem_cons.mp known with rfl | later
      · exact .inl rfl
      · exact .inr (.tail _ later)
    · split at known
      · exact List.mem_cons.mp known
      · rcases List.mem_cons.mp known with rfl | later
        · exact .inr (.head _)
        · exact (ih later).imp_right (.tail _)

/-- The keys still ascend when one of them is set. -/
theorem Ascending.set (h : Ascending rank l) (apart : ∀ k k', rank k = rank k' → k = k')
    (key : κ) (value : β) : Ascending rank (Sorted.set rank key value l) := by
  induction l with
  | nil => simp [Sorted.set, Ascending]
  | cons p l ih =>
    obtain ⟨above, ascending⟩ := List.pairwise_cons.mp h
    rw [Sorted.set]
    split
    case isTrue same =>
      exact List.pairwise_cons.mpr ⟨fun q known => same ▸ above q known, ascending⟩
    case isFalse other =>
      split
      case isTrue below =>
        refine List.pairwise_cons.mpr ⟨fun q known => ?_, h⟩
        rcases List.mem_cons.mp known with rfl | later
        · exact below
        · exact lt_trans below (above q later)
      case isFalse notBelow =>
        -- further behind, the key is still above the first one, because ranks tell keys apart
        refine List.pairwise_cons.mpr ⟨fun q known => ?_, ih ascending⟩
        rcases mem_set known with rfl | later
        · exact lt_of_le_of_ne (not_lt.mp notBelow) fun same => other (apart _ _ same).symm
        · exact above q later

/-- A key that ranks above all others is set at the end. -/
theorem set_last (last : ∀ p ∈ l, rank p.1 < rank key) :
    set rank key value l = l ++ [(key, value)] := by
  induction l with
  | nil => rfl
  | cons p l ih =>
    have above : rank p.1 < rank key := last p (.head _)
    have other : key ≠ p.1 := by
      rintro rfl
      exact lt_irrefl _ above
    rw [set, if_neg other, if_neg (lt_asymm above), ih fun q known => last q (.tail _ known)]
    rfl

end CourseLaunch.Sorted
