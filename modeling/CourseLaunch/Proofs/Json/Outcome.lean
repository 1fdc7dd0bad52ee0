import CourseLaunch.Json.Reader.Basic
import Mathlib.Data.List.DropRight
/-!
# What a reader gives

An outcome gives a value and a rest when reading succeeded with both. The facts about lengths that
outcomes carry do not matter here, so an outcome may be moved in front of more symbols.
-/

namespace CourseLaunch.Json

/-- The symbols of a list of characters. -/
def Source.of (cs : List Char) : Source := cs.map .char

namespace Source

theorem ofString_eq (s : String) : ofString s = of s.toList := rfl
@[simp] theorem of_nil : of [] = [] := rfl
@[simp] theorem of_cons (c : Char) (cs : List Char) : of (c :: cs) = .char c :: of cs := rfl
@[simp] theorem of_append (cs ds : List Char) : of (cs ++ ds) = of cs ++ of ds := List.map_append

end Source

section Gives

variable {α β : Type} {s : Source}

/-- Whether an outcome is the value `x` with `rest` behind it. -/
def Outcome.Gives (o : Outcome α s) (x : α) (rest : Source) : Prop :=
  ∃ h : rest.length < s.length, o = .ok (x, ⟨rest, h⟩)

namespace Outcome

variable {o : Outcome α s} {x y : α} {rest : Source}

@[simp]
theorem gives_ok {r : Rest s} : Gives (.ok (x, r)) y rest ↔ x = y ∧ r.1 = rest := by
  constructor
  · rintro ⟨h, same⟩
    cases same
    exact ⟨rfl, rfl⟩
  · rintro ⟨rfl, rfl⟩
    exact ⟨r.2, rfl⟩

@[simp]
theorem not_gives_error {f : Fault} : ¬ Gives (.error f : Outcome α s) x rest := by
  rintro ⟨h, same⟩
  cases same

@[simp]
theorem not_gives_stop {t : Source} {cause : Cause} :
    ¬ Gives (stop t cause : Outcome α s) x rest := not_gives_error

@[simp]
theorem not_gives_refuse {t : Source} {cause : Cause} :
    ¬ Gives (refuse t cause : Outcome α s) x rest := not_gives_error

@[simp]
theorem gives_behind {u : Text.Symbol} : (o.behind u).Gives x rest ↔ o.Gives x rest := by
  rcases o with f | ⟨y, r⟩ <;> simp [behind, Except.map, Rest.behind, Rest.left, Left.behind]

@[simp]
theorem gives_outcome {r : Left s} {o : Outcome α r.1} :
    Gives (r.outcome o) x rest ↔ o.Gives x rest := by
  rcases o with f | ⟨y, q⟩ <;> simp [Left.outcome, Except.map, Left.thenRest]

@[simp]
theorem gives_mapValue {f : α → β} {y : β} :
    (o.mapValue f).Gives y rest ↔ ∃ x, o.Gives x rest ∧ f x = y := by
  rcases o with e | ⟨x, r⟩
  · simp [mapValue, Except.map]
  · simp only [mapValue, Except.map, gives_ok]
    constructor
    · rintro ⟨value, behind⟩
      exact ⟨x, ⟨rfl, behind⟩, value⟩
    · rintro ⟨x', ⟨rfl, behind⟩, value⟩
      exact ⟨value, behind⟩

/-- Two readers in a row give what the second one makes of the value of the first. -/
@[simp]
theorem gives_andThen {next : α → Reader β} {y : β} :
    (o.andThen next).Gives y rest ↔
      ∃ x mid, o.Gives x mid ∧ Gives (next x mid) y rest := by
  rcases o with e | ⟨x, r⟩
  · simp [andThen]
  · simp only [andThen, gives_ok]
    constructor
    · intro given
      exact ⟨x, r.1, ⟨rfl, rfl⟩, gives_outcome.mp given⟩
    · rintro ⟨x', mid, ⟨rfl, rfl⟩, given⟩
      exact gives_outcome.mpr given

end Outcome
end Gives

/-! ### Blanks and words -/

variable {s rest : Source}

@[simp]
theorem skipBlank_cons {u : Text.Symbol} (full : isSpace u = false) :
    skipBlank (u :: s) = u :: s := by
  rw [skipBlank, List.dropWhile_cons_of_neg (by simp [full])]

@[simp]
theorem skipBlank_skipBlank : skipBlank (skipBlank s) = skipBlank s :=
  List.dropWhile_idempotent _ _

/-- A word that stands there is skipped. -/
theorem skipWord_of (word : List Char) (rest : Source) :
    ∃ h, skipWord word (Source.of word ++ rest) = .ok ⟨rest, h⟩ := by
  induction word with
  | nil => exact ⟨Nat.le_refl _, rfl⟩
  | cons c word ih =>
    obtain ⟨h, read⟩ := ih
    refine ⟨Nat.le_succ_of_le h, ?_⟩
    simp only [Source.of_cons, List.cons_append, skipWord, if_pos, read, Except.map]
    rfl

end CourseLaunch.Json
