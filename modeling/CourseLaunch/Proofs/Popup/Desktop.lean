import CourseLaunch.Popup.Authorization
/-!
# What happens to popups

Popups are never taken off a desktop, and only an open one is brought to the front or closed. So a
popup that is closed stays as it is, whoever closed it.
-/

namespace CourseLaunch.Popup
open Web

/-- A popup was closed once at most by the page that opened it, and is closed if it was. -/
def Window.ClosedOnce (w : Window) : Prop := w.closes ≤ w.isClosed.toNat

namespace Desktop

variable {d e : Desktop} {p q : Nat}

theorem isOpen_iff : d.isOpen p ↔ ∃ w, d.windows[p]? = some w ∧ w.isClosed = false := by
  simp [isOpen, Option.any_eq_true]

theorem isOpen_of_length_le (beyond : d.windows.length ≤ p) : d.isOpen p = false := by
  simp [isOpen, List.getElem?_eq_none beyond]

theorem length_of_isOpen (isOpen : d.isOpen p) : p < d.windows.length := by
  obtain ⟨w, found, -⟩ := isOpen_iff.mp isOpen
  exact (List.getElem?_eq_some_iff.mp found).1

theorem getElem?_modify (d : Desktop) (popup : Nat) (change : Window → Window) (p : Nat) :
    (d.modify popup change).windows[p]? =
      if popup = p then d.windows[p]?.map change else d.windows[p]? := by
  unfold modify
  simp only [List.getElem?_modify]
  split <;> simp

/-- A change that leaves a popup open or closed leaves all of them open or closed. -/
theorem isOpen_modify_of_same {change : Window → Window}
    (same : ∀ w, (change w).isClosed = w.isClosed) : (d.modify p change).isOpen q = d.isOpen q := by
  unfold isOpen
  rw [getElem?_modify]
  split
  · cases d.windows[q]? <;> simp [same]
  · rfl

/-- A change that closes a popup closes no other one. -/
theorem isOpen_modify_of_closes {change : Window → Window} (closes : ∀ w, (change w).isClosed) :
    (d.modify p change).isOpen q = (d.isOpen q && decide (p ≠ q)) := by
  unfold isOpen
  rw [getElem?_modify]
  split
  case isTrue same => cases d.windows[q]? <;> simp [closes, same]
  case isFalse other => simp [other]

@[simp] theorem isOpen_focus : (d.focus p).isOpen q = d.isOpen q :=
  isOpen_modify_of_same fun _ => rfl

@[simp] theorem isOpen_close : (d.close p).isOpen q = (d.isOpen q && decide (p ≠ q)) :=
  isOpen_modify_of_closes fun _ => rfl

@[simp] theorem isOpen_userCloses :
    (d.userCloses p).isOpen q = (d.isOpen q && decide (p ≠ q)) :=
  isOpen_modify_of_closes fun _ => rfl

/-! ### New popups -/

/-- The popup that opens at an address. -/
def fresh (d : Desktop) (address : Url) : Window :=
  ⟨address, d.screen.centered width height, false, 0, 0⟩

/-- A desktop that blocks popups stays as it is. -/
theorem openPopup_of_blocked (address : Url) (blocked : d.blocked) :
    d.openPopup address = (none, d) := by
  simp [openPopup, blocked]

/-- A new popup stands behind all others. -/
theorem openPopup_of_allowed (address : Url) (allowed : d.blocked = false) :
    d.openPopup address =
      (some d.windows.length, { d with windows := d.windows ++ [d.fresh address] }) := by
  simp [openPopup, allowed, fresh]

theorem isOpen_append (address : Url) :
    { d with windows := d.windows ++ [d.fresh address] }.isOpen q =
      (d.isOpen q || decide (q = d.windows.length)) := by
  unfold isOpen
  rcases Nat.lt_trichotomy q d.windows.length with old | rfl | beyond
  · simp [List.getElem?_append_left old, Nat.ne_of_lt old]
  · simp [fresh]
  · rw [List.getElem?_eq_none (by simp; omega), List.getElem?_eq_none (by omega)]
    simp [Nat.ne_of_gt beyond]

/-! ### Closed popups -/

/-- No popup is taken off the desktop, and every one that is closed stays as it is. -/
structure Keeps (d e : Desktop) : Prop where
  length : d.windows.length ≤ e.windows.length
  closed : ∀ (p : Nat) (w : Window), d.windows[p]? = some w → w.isClosed → e.windows[p]? = some w

theorem Keeps.refl (d : Desktop) : d.Keeps d := ⟨Nat.le_refl _, fun _ _ found _ => found⟩

theorem Keeps.trans {f : Desktop} (h : d.Keeps e) (h' : e.Keeps f) : d.Keeps f :=
  ⟨Nat.le_trans h.length h'.length,
    fun p w found isClosed => h'.closed p w (h.closed p w found isClosed) isClosed⟩

/-- A popup that was closed is still closed. -/
theorem Keeps.isOpen (h : d.Keeps e) (known : p < d.windows.length) (closed : d.isOpen p = false) :
    e.isOpen p = false := by
  have found : d.windows[p]? = some d.windows[p] := List.getElem?_eq_getElem known
  have isClosed : d.windows[p].isClosed := by simpa [Desktop.isOpen, found] using closed
  simp [Desktop.isOpen, h.closed p _ found isClosed, isClosed]

/-- A change of a popup keeps the closed ones if it makes no difference to them. -/
theorem keeps_modify {change : Window → Window}
    (same : ∀ w, d.windows[p]? = some w → w.isClosed → change w = w) :
    d.Keeps (d.modify p change) := by
  refine ⟨by simp [modify], fun q w found closed => ?_⟩
  rw [getElem?_modify]
  split
  case isTrue own =>
    subst own
    rw [found, Option.map_some, same w found closed]
  case isFalse => exact found

theorem not_isClosed_of_isOpen (isOpen : d.isOpen p) {w : Window} (found : d.windows[p]? = some w) :
    w.isClosed = false := by
  obtain ⟨v, found', opened⟩ := isOpen_iff.mp isOpen
  rw [found, Option.some_inj] at found'
  exact found' ▸ opened

theorem keeps_focus (isOpen : d.isOpen p) : d.Keeps (d.focus p) :=
  keeps_modify fun _ found closed => by simp [not_isClosed_of_isOpen isOpen found] at closed

theorem keeps_close (isOpen : d.isOpen p) : d.Keeps (d.close p) :=
  keeps_modify fun _ found closed => by simp [not_isClosed_of_isOpen isOpen found] at closed

theorem keeps_userCloses (d : Desktop) (p : Nat) : d.Keeps (d.userCloses p) :=
  keeps_modify fun w _ closed => by cases w; simp_all

theorem keeps_block (d : Desktop) (blocked : Bool) : d.Keeps (d.block blocked) :=
  ⟨Nat.le_refl _, fun _ _ found _ => found⟩

theorem keeps_append (d : Desktop) (w : Window) :
    d.Keeps { d with windows := d.windows ++ [w] } := by
  refine ⟨by simp, fun p v found _ => ?_⟩
  obtain ⟨known, -⟩ := List.getElem?_eq_some_iff.mp found
  exact (List.getElem?_append_left known).trans found

/-! ### How often popups are closed -/

/-- The popups from a number on were closed once at most. -/
def ClosedOnce (d : Desktop) (first : Nat) : Prop :=
  ∀ (p : Nat) (w : Window), first ≤ p → d.windows[p]? = some w → w.ClosedOnce

variable {first : Nat}

/-- A change of one popup leaves the others closed as often as they were. -/
theorem ClosedOnce.modify (once : d.ClosedOnce first) {change : Window → Window}
    (keeps : ∀ w, d.windows[p]? = some w → w.ClosedOnce → (change w).ClosedOnce) :
    (d.modify p change).ClosedOnce first := by
  intro q w own found
  rw [getElem?_modify] at found
  split at found
  case isTrue same =>
    subst same
    obtain ⟨v, known, rfl⟩ := Option.map_eq_some_iff.mp found
    exact keeps v known (once p v own known)
  case isFalse => exact once q w own found

theorem ClosedOnce.focus (once : d.ClosedOnce first) (p : Nat) : (d.focus p).ClosedOnce first :=
  once.modify fun _ _ before => before

theorem ClosedOnce.userCloses (once : d.ClosedOnce first) (p : Nat) :
    (d.userCloses p).ClosedOnce first := by
  refine once.modify fun w _ before => ?_
  simp only [Window.ClosedOnce, Bool.toNat_true] at *
  exact Nat.le_trans before (Bool.toNat_le w.isClosed)

/-- Closing an open popup is the first time that it is closed. -/
theorem ClosedOnce.close (once : d.ClosedOnce first) (isOpen : d.isOpen p) :
    (d.close p).ClosedOnce first := by
  refine once.modify fun w found before => ?_
  simp only [Window.ClosedOnce, not_isClosed_of_isOpen isOpen found, Bool.toNat_false,
    Bool.toNat_true] at *
  omega

/-- A new popup was never closed. -/
theorem ClosedOnce.openPopup (once : d.ClosedOnce first) (address : Url) :
    (d.openPopup address).2.ClosedOnce first := by
  cases blocked : d.blocked with
  | true => simpa [openPopup_of_blocked address blocked] using once
  | false =>
    rw [openPopup_of_allowed address blocked]
    intro p w own found
    simp only [List.getElem?_append] at found
    split at found
    case isTrue => exact once p w own found
    case isFalse =>
      obtain rfl := List.mem_singleton.mp (List.mem_of_getElem? found)
      simp [Window.ClosedOnce, fresh]

end Desktop

end CourseLaunch.Popup
