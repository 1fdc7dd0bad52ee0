import CourseLaunch.Popup.Authorization
import Mathlib.Data.List.Forall2
/-!
# The token in popups

The session token is in the address of a popup, as the value of a pair behind the page for
authorization, and nowhere else. Two desktops that differ in the token of their addresses only go on
doing so.
-/

namespace CourseLaunch.Popup
open Web

/-- Two popups that differ at most in the token in their addresses. -/
inductive Window.Alike (token token' : String) : Window → Window → Prop where
  | same (w : Window) : Alike token token' w w
  | retokened (page : Url) (place : Area) (isClosed : Bool) (focuses closes : Nat) :
      Alike token token' ⟨page.withPair (tokenKey, token), place, isClosed, focuses, closes⟩
        ⟨page.withPair (tokenKey, token'), place, isClosed, focuses, closes⟩

/-- Two desktops that differ at most in the token in the addresses of their popups. -/
structure Desktop.Alike (token token' : String) (d d' : Desktop) : Prop where
  screen : d'.screen = d.screen
  blocked : d'.blocked = d.blocked
  windows : List.Forall₂ (Window.Alike token token') d.windows d'.windows

variable {token token' : String} {d d' : Desktop}

namespace Desktop

theorem Alike.refl (d : Desktop) : d.Alike token token' d :=
  ⟨rfl, rfl, List.forall₂_same.mpr fun w _ => .same w⟩

theorem isClosed_of_forall₂ {ws ws' : List Window}
    (alike : List.Forall₂ (Window.Alike token token') ws ws') :
    ws'.map Window.isClosed = ws.map Window.isClosed := by
  induction alike with
  | nil => rfl
  | cons alike _ ih =>
    rw [List.map_cons, List.map_cons, ih]
    cases alike <;> rfl

/-- A change that does not look at addresses keeps popups alike. -/
theorem forall₂_modify {ws ws' : List Window}
    (alike : List.Forall₂ (Window.Alike token token') ws ws') {change : Window → Window}
    (keeps : ∀ w w', Window.Alike token token' w w' →
      Window.Alike token token' (change w) (change w')) (popup : Nat) :
    List.Forall₂ (Window.Alike token token') (ws.modify popup change)
      (ws'.modify popup change) := by
  induction alike generalizing popup with
  | nil => cases popup <;> exact .nil
  | cons alike rest ih =>
    cases popup with
    | zero => exact .cons (keeps _ _ alike) rest
    | succ popup => exact .cons alike (ih popup)

theorem isOpen_eq (d : Desktop) (popup : Nat) :
    d.isOpen popup = (d.windows.map Window.isClosed)[popup]?.any fun isClosed => !isClosed := by
  unfold isOpen
  rw [List.getElem?_map, Option.any_map]

theorem Alike.isOpen (h : d.Alike token token' d') (popup : Nat) :
    d'.isOpen popup = d.isOpen popup := by
  rw [isOpen_eq, isOpen_eq, isClosed_of_forall₂ h.windows]

theorem Alike.modify (h : d.Alike token token' d') {change : Window → Window}
    (keeps : ∀ w w', Window.Alike token token' w w' →
      Window.Alike token token' (change w) (change w')) (popup : Nat) :
    (d.modify popup change).Alike token token' (d'.modify popup change) :=
  ⟨h.screen, h.blocked, forall₂_modify h.windows keeps popup⟩

theorem Alike.focus (h : d.Alike token token' d') (popup : Nat) :
    (d.focus popup).Alike token token' (d'.focus popup) :=
  h.modify (fun _ _ alike => by cases alike <;> constructor) popup

theorem Alike.close (h : d.Alike token token' d') (popup : Nat) :
    (d.close popup).Alike token token' (d'.close popup) :=
  h.modify (fun _ _ alike => by cases alike <;> constructor) popup

theorem Alike.userCloses (h : d.Alike token token' d') (popup : Nat) :
    (d.userCloses popup).Alike token token' (d'.userCloses popup) :=
  h.modify (fun _ _ alike => by cases alike <;> constructor) popup

theorem Alike.block (h : d.Alike token token' d') (blocked : Bool) :
    (d.block blocked).Alike token token' (d'.block blocked) := ⟨h.screen, rfl, h.windows⟩

/-- The page for authorization opens in both, or in none. -/
theorem Alike.openPopup (h : d.Alike token token' d') (page : Url) :
    (d'.openPopup (page.withPair (tokenKey, token'))).1 =
        (d.openPopup (page.withPair (tokenKey, token))).1 ∧
      (d.openPopup (page.withPair (tokenKey, token))).2.Alike token token'
        (d'.openPopup (page.withPair (tokenKey, token'))).2 := by
  unfold Desktop.openPopup
  rw [h.blocked, h.screen, h.windows.length_eq]
  split
  · exact ⟨rfl, h⟩
  · refine ⟨rfl, rfl, rfl, ?_⟩
    exact List.rel_append h.windows (.cons (.retokened page _ _ _ _) .nil)

end Desktop

namespace Authorization

theorem openPopup?_of_alike (h : d.Alike token token' d') (a : Authorization) :
    a.openPopup? d' = a.openPopup? d := by
  unfold openPopup?
  rw [funext h.isOpen]

/-- A popup is closed on both desktops, or on neither. -/
theorem alike_close (h : d.Alike token token' d') (a : Authorization) :
    (a.close d').1 = (a.close d).1 ∧ (a.close d).2.Alike token token' (a.close d').2 := by
  unfold close
  rw [openPopup?_of_alike h]
  refine ⟨rfl, ?_⟩
  cases a.openPopup? d with
  | none => exact h
  | some popup => exact h.close popup

/-- With either token the same popup is opened or joined, or none is. -/
theorem alike_openOrFocus (h : d.Alike token token' d') (a : Authorization) :
    ∃ popup b e e', a.openOrFocus token d = (popup, b, e) ∧
      a.openOrFocus token' d' = (popup, b, e') ∧ e.Alike token token' e' := by
  unfold openOrFocus
  rw [openPopup?_of_alike h]
  cases a.openPopup? d with
  | none =>
    obtain ⟨same, alike⟩ := h.openPopup a.page
    refine ⟨(d.openPopup (a.address token)).1, _, _, _, rfl, ?_, alike⟩
    exact congrArg (fun popup => (popup, { a with popup := popup },
      (d'.openPopup (a.address token')).2)) same
  | some popup => exact ⟨some popup, a, d.focus popup, d'.focus popup, rfl, rfl, h.focus popup⟩

end Authorization

end CourseLaunch.Popup
