import CourseLaunch.Proofs.Popup.Desktop
import Mathlib.Logic.Relation
/-!
# One popup at a time

Who holds an authorization is in charge of its popup. A popup is only opened when the one that is
held is not open, and before another authorization is held the popup of the old one is closed. So
of all popups that were ever opened, none is open but the one that is held. `Step` says what may
happen to popups; what holds of them follows from it.
-/

namespace CourseLaunch.Popup
open Web

namespace Authorization

variable {a : Authorization} {d : Desktop} {p q : Nat}

theorem openPopup?_eq_some : a.openPopup? d = some p ↔ a.popup = some p ∧ d.isOpen p := by
  simp [openPopup?, Option.filter_eq_some_iff]

theorem openPopup?_eq_none :
    a.openPopup? d = none ↔ ∀ p, a.popup = some p → d.isOpen p = false := by
  simp [openPopup?, Option.filter_eq_none_iff]

theorem isOpen_iff : a.isOpen d ↔ ∃ p, a.popup = some p ∧ d.isOpen p := by
  simp [isOpen, Option.isSome_iff_exists, openPopup?_eq_some]

/-! ### Asking for a popup -/

theorem openOrFocus_of_open (token : String) (isOpen : a.openPopup? d = some p) :
    a.openOrFocus token d = (some p, a, d.focus p) := by
  simp [openOrFocus, isOpen]

theorem openOrFocus_of_closed (token : String) (closed : a.openPopup? d = none) :
    a.openOrFocus token d =
      ((d.openPopup (a.address token)).1, { a with popup := (d.openPopup (a.address token)).1 },
        (d.openPopup (a.address token)).2) := by
  simp [openOrFocus, closed]

theorem openOrFocus_of_blocked (token : String) (closed : a.openPopup? d = none)
    (blocked : d.blocked) : a.openOrFocus token d = (none, { a with popup := none }, d) := by
  simp [openOrFocus_of_closed token closed, Desktop.openPopup_of_blocked _ blocked]

theorem openOrFocus_of_allowed (token : String) (closed : a.openPopup? d = none)
    (allowed : d.blocked = false) :
    a.openOrFocus token d = (some d.windows.length, { a with popup := some d.windows.length },
      { d with windows := d.windows ++ [d.fresh (a.address token)] }) := by
  simp [openOrFocus_of_closed token closed, Desktop.openPopup_of_allowed _ allowed]

/-- The ways in which a wish for a popup ends. -/
inductive Asks (a : Authorization) (token : String) (d : Desktop) :
    Option Nat × Authorization × Desktop → Prop where
  | joined (popup : Nat) (held : a.popup = some popup) (isOpen : d.isOpen popup) :
      Asks a token d (some popup, a, d.focus popup)
  | opened (closed : a.openPopup? d = none) (allowed : d.blocked = false) :
      Asks a token d (some d.windows.length, { a with popup := some d.windows.length },
        { d with windows := d.windows ++ [d.fresh (a.address token)] })
  | refused (closed : a.openPopup? d = none) (blocked : d.blocked) :
      Asks a token d (none, { a with popup := none }, d)

/-- Whoever asks for a popup joins the one that is open, gets a new one, or is refused. -/
theorem openOrFocus_asks (a : Authorization) (token : String) (d : Desktop) :
    a.Asks token d (a.openOrFocus token d) := by
  cases shown : a.openPopup? d with
  | some popup =>
    obtain ⟨held, isOpen⟩ := openPopup?_eq_some.mp shown
    rw [openOrFocus_of_open token shown]
    exact .joined popup held isOpen
  | none =>
    cases blocked : d.blocked with
    | true =>
      rw [openOrFocus_of_blocked token shown blocked]
      exact .refused shown blocked
    | false =>
      rw [openOrFocus_of_allowed token shown blocked]
      exact .opened shown blocked

theorem Asks.keeps {token : String} {asked : Option Nat × Authorization × Desktop}
    (h : a.Asks token d asked) : d.Keeps asked.2.2 := by
  cases h with
  | joined popup held isOpen => exact Desktop.keeps_focus isOpen
  | opened closed allowed => exact Desktop.keeps_append _ _
  | refused closed blocked => exact .refl _

/-- The popup that was opened or joined is open. -/
theorem Asks.isOpen {token : String} {b : Authorization} {e : Desktop}
    (h : a.Asks token d (some p, b, e)) : e.isOpen p := by
  cases h with
  | joined popup held isOpen => simpa using isOpen
  | opened closed allowed => simp [Desktop.isOpen_append]

/-- Without a popup none was open, and none could be opened. -/
theorem Asks.blocked {token : String} {b : Authorization} {e : Desktop}
    (h : a.Asks token d (none, b, e)) : a.openPopup? d = none ∧ d.blocked := by
  cases h with
  | refused closed blocked => exact ⟨closed, blocked⟩

/-! ### Closing, bringing to the front, forgetting -/

/-- Closing an authorization closes its own popup and no other. -/
theorem isOpen_close : (a.close d).2.isOpen q ↔ d.isOpen q ∧ a.popup ≠ some q := by
  unfold close
  simp only
  split
  case h_1 popup shown =>
    obtain ⟨held, -⟩ := openPopup?_eq_some.mp shown
    simp [held]
  case h_2 shown =>
    refine ⟨fun isOpen => ⟨isOpen, fun held => ?_⟩, And.left⟩
    rw [openPopup?_eq_none.mp shown q held] at isOpen
    cases isOpen

theorem isOpen_focus : (a.focus d).isOpen q = d.isOpen q := by
  unfold focus
  split <;> simp

theorem keeps_close (a : Authorization) (d : Desktop) : d.Keeps (a.close d).2 := by
  unfold close
  simp only
  split
  case h_1 popup shown => exact Desktop.keeps_close (openPopup?_eq_some.mp shown).2
  case h_2 => exact .refl d

theorem keeps_focus (a : Authorization) (d : Desktop) : d.Keeps (a.focus d) := by
  unfold focus
  split
  case h_1 popup shown => exact Desktop.keeps_focus (openPopup?_eq_some.mp shown).2
  case h_2 => exact .refl d

/-- Only a popup that is open is closed, so none is closed twice. -/
theorem closedOnce_close {first : Nat} (once : d.ClosedOnce first) :
    (a.close d).2.ClosedOnce first := by
  unfold close
  simp only
  split
  case h_1 popup shown => exact once.close (openPopup?_eq_some.mp shown).2
  case h_2 => exact once

theorem closedOnce_focus {first : Nat} (once : d.ClosedOnce first) :
    (a.focus d).ClosedOnce first := by
  unfold focus
  split
  · exact once.focus _
  · exact once

theorem page_release (a : Authorization) (p : Nat) : (a.release p).page = a.page := by
  unfold release
  split <;> rfl

/-- A popup that is over is forgotten, and any other one is kept. -/
theorem popup_release (a : Authorization) (p : Nat) :
    (a.release p).popup = if a.popup = some p then none else a.popup := by
  unfold release
  split <;> rfl

end Authorization

/-- The popups of an application: the authorization that is held, if there is one, and the
desktop. -/
structure Custody where
  held : Option Authorization
  desktop : Desktop

namespace Custody

/-- Something that happens to popups. -/
inductive Step (c : Custody) : Custody → Prop where
  | take (page : Url) (none : c.held = none) : Step c ⟨some (.ofPage page), c.desktop⟩
  | turn (a : Authorization) (page : Url) (held : c.held = some a) :
      Step c ⟨some (.ofPage page), (a.close c.desktop).2⟩
  | ask (a : Authorization) (token : String) (held : c.held = some a) :
      Step c ⟨some (a.openOrFocus token c.desktop).2.1, (a.openOrFocus token c.desktop).2.2⟩
  | release (a : Authorization) (popup : Nat) (held : c.held = some a)
      (closed : c.desktop.isOpen popup = false) : Step c ⟨some (a.release popup), c.desktop⟩
  | focus (a : Authorization) (held : c.held = some a) : Step c ⟨c.held, a.focus c.desktop⟩
  | close (a : Authorization) (held : c.held = some a) :
      Step c ⟨some (a.close c.desktop).1, (a.close c.desktop).2⟩
  | dismiss (popup : Nat) : Step c ⟨c.held, c.desktop.userCloses popup⟩
  | block (blocked : Bool) : Step c ⟨c.held, c.desktop.block blocked⟩

def Steps : Custody → Custody → Prop := Relation.ReflTransGen Step

variable {c e : Custody} {first : Nat}

theorem Step.steps (h : Step c e) : c.Steps e := .single h

/-- The popup that is held, if there is one, is over. -/
theorem steps_release {popup : Nat} (closed : c.desktop.isOpen popup = false) :
    c.Steps ⟨c.held.map fun a => a.release popup, c.desktop⟩ := by
  cases held : c.held with
  | none =>
    have same : c = ⟨none, c.desktop⟩ := by rw [← held]
    exact same ▸ .refl
  | some a => exact Step.steps (.release a popup held closed)

/-! ### Closed popups stay as they are -/

theorem Step.keeps (h : Step c e) : c.desktop.Keeps e.desktop := by
  cases h with
  | take page none => exact .refl _
  | turn a page held => exact a.keeps_close _
  | ask a token held => exact (a.openOrFocus_asks token c.desktop).keeps
  | release a popup held closed => exact .refl _
  | focus a held => exact a.keeps_focus _
  | close a held => exact a.keeps_close _
  | dismiss popup => exact Desktop.keeps_userCloses _ _
  | block blocked => exact Desktop.keeps_block _ _

/-- No popup that was closed opens again. -/
theorem Steps.keeps (h : c.Steps e) : c.desktop.Keeps e.desktop := by
  induction h with
  | refl => exact .refl _
  | tail _ step ih => exact ih.trans step.keeps

/-! ### The popup that is held -/

/-- Of the popups from a number on, none is open but the one that is held, and none was closed
twice. -/
structure Single (first : Nat) (c : Custody) : Prop where
  since : first ≤ c.desktop.windows.length
  own : ∀ popup, c.held.bind Authorization.popup = some popup →
    first ≤ popup ∧ popup < c.desktop.windows.length
  held : ∀ popup, first ≤ popup → c.desktop.isOpen popup →
    c.held.bind Authorization.popup = some popup
  once : c.desktop.ClosedOnce first

theorem single_start {held : Option Authorization} (d : Desktop)
    (none : held.bind Authorization.popup = none) : Single d.windows.length ⟨held, d⟩ where
  since := Nat.le_refl _
  own popup shown := by simp [none] at shown
  held popup new isOpen := by simp [Desktop.isOpen_of_length_le new] at isOpen
  once popup w new found := by simp [List.getElem?_eq_none new] at found

/-- When the popup that is held is not open, none is. -/
theorem Single.none_open (single : Single first c) {a : Authorization} (held : c.held = some a)
    (closed : a.openPopup? c.desktop = none) {popup : Nat} (own : first ≤ popup) :
    c.desktop.isOpen popup = false := by
  rw [Bool.eq_false_iff]
  intro isOpen
  have shown := single.held popup own isOpen
  rw [held, Option.bind_some] at shown
  rw [Authorization.openPopup?_eq_none.mp closed popup shown] at isOpen
  cases isOpen

/-- When the popup that is held was closed, none is open. -/
theorem Single.none_open_close (single : Single first c) {a : Authorization}
    (held : c.held = some a) {popup : Nat} (own : first ≤ popup) :
    (a.close c.desktop).2.isOpen popup = false := by
  rw [Bool.eq_false_iff]
  intro isOpen
  obtain ⟨isOpen, other⟩ := Authorization.isOpen_close.mp isOpen
  have shown := single.held popup own isOpen
  rw [held, Option.bind_some] at shown
  exact other shown

/-- A custody in which no popup is held, and none is open. -/
theorem Single.let_go (single : Single first c) {a : Authorization} (none : a.popup = none)
    {d : Desktop} (keeps : c.desktop.Keeps d) (closed : ∀ popup, first ≤ popup →
      d.isOpen popup = false) (once : d.ClosedOnce first) : Single first ⟨some a, d⟩ where
  since := Nat.le_trans single.since keeps.length
  own popup shown := by simp [none] at shown
  held popup own isOpen := by simp [closed popup own] at isOpen
  once := once

/-- There is one popup at most after somebody asked for it. -/
theorem Single.asks (single : Single first c) {a : Authorization} (held : c.held = some a)
    {token : String} {asked : Option Nat × Authorization × Desktop}
    (asks : a.Asks token c.desktop asked) : Single first ⟨some asked.2.1, asked.2.2⟩ := by
  have keeps := asks.keeps
  cases asks with
  -- to join changes no popup but how often it was brought to the front
  | joined popup shown isOpen =>
    refine ⟨Nat.le_trans single.since keeps.length, fun q shown => ?_, fun q own isOpen => ?_,
      single.once.focus popup⟩
    · obtain ⟨own, known⟩ := single.own q (held ▸ shown)
      exact ⟨own, Nat.lt_of_lt_of_le known keeps.length⟩
    · rw [Desktop.isOpen_focus] at isOpen
      exact held ▸ single.held q own isOpen
  | opened closed allowed =>
    refine ⟨Nat.le_trans single.since keeps.length, fun q shown => ?_, fun q own isOpen => ?_, ?_⟩
    · obtain rfl : c.desktop.windows.length = q := by simpa using shown
      exact ⟨single.since, by simp⟩
    · -- the old popups are closed, so the one that is open is the new one
      simp only [Desktop.isOpen_append, single.none_open held closed own, Bool.false_or,
        decide_eq_true_eq] at isOpen
      simp [isOpen]
    · have once := single.once.openPopup (a.address token)
      rwa [Desktop.openPopup_of_allowed _ allowed] at once
  | refused closed blocked =>
    exact single.let_go rfl keeps (fun q own => single.none_open held closed own) single.once

/-- There is no popup of the authorization after it was closed. -/
theorem Single.close (single : Single first c) {a b : Authorization} (held : c.held = some a)
    (none : b.popup = none) : Single first ⟨some b, (a.close c.desktop).2⟩ :=
  single.let_go none (a.keeps_close _) (fun _ own => single.none_open_close held own)
    (Authorization.closedOnce_close single.once)

/-- There is one open popup at most after every step. -/
theorem Step.single (h : Step c e) (single : Single first c) : Single first e := by
  have since := Nat.le_trans single.since h.keeps.length
  -- what is held stays the same in most steps, and the desktop only grows
  have stays (same : e.held = c.held) : ∀ popup, e.held.bind Authorization.popup = some popup →
      first ≤ popup ∧ popup < e.desktop.windows.length := fun popup shown =>
    (single.own popup (same ▸ shown)).imp_right fun known =>
      Nat.lt_of_lt_of_le known h.keeps.length
  cases h with
  | take page none =>
    refine single.let_go rfl (.refl _) (fun q own => ?_) single.once
    rw [Bool.eq_false_iff]
    intro isOpen
    have shown := single.held q own isOpen
    simp [none] at shown
  | turn a page held => exact single.close held rfl
  | ask a token held => exact single.asks held (a.openOrFocus_asks token c.desktop)
  | release a popup held closed =>
    refine ⟨since, fun q shown => ?_, fun q own isOpen => ?_, single.once⟩
    · rw [Option.bind_some, Authorization.popup_release] at shown
      split at shown
      · cases shown
      · exact single.own q (by rw [held, Option.bind_some, shown])
    · have shown := single.held q own isOpen
      rw [held, Option.bind_some] at shown
      have other : q ≠ popup := by
        rintro rfl
        simp [closed] at isOpen
      simp [Authorization.popup_release, shown, other]
  | focus a held =>
    refine ⟨since, stays rfl, fun q own isOpen => ?_, Authorization.closedOnce_focus single.once⟩
    rw [Authorization.isOpen_focus] at isOpen
    exact single.held q own isOpen
  | close a held => exact single.close held rfl
  | dismiss popup =>
    refine ⟨since, stays rfl, fun q own isOpen => ?_, single.once.userCloses popup⟩
    simp only [Desktop.isOpen_userCloses, Bool.and_eq_true] at isOpen
    exact single.held q own isOpen.1
  | block blocked => exact ⟨single.since, single.own, single.held, single.once⟩

/-- There is one open popup at most on the whole way. -/
theorem Steps.single (h : c.Steps e) (single : Single first c) : Single first e := by
  induction h with
  | refl => exact single
  | tail _ step ih => exact step.single ih

/-! ### Turning to a page -/

/-- How an authorization for a page comes to be held: it is the first one, it is held already, or
the popup of another one is closed for it. -/
inductive Turns (c : Custody) (page : Url) : Authorization → Desktop → Prop where
  | first (none : c.held = none) : Turns c page (.ofPage page) c.desktop
  | held (a : Authorization) (held : c.held = some a) (same : a.page = page) :
      Turns c page a c.desktop
  | instead (a : Authorization) (held : c.held = some a) (other : a.page ≠ page) :
      Turns c page (.ofPage page) (a.close c.desktop).2

/-- A page for which no popup is open. -/
def Lacks (c : Custody) (page : Url) : Prop :=
  ∀ a, c.held = some a → a.page = page → a.openPopup? c.desktop = none

/-- No popup can be had at a page: there is none, and new ones are blocked. -/
def Refuses (c : Custody) (page : Url) : Prop := c.Lacks page ∧ c.desktop.blocked

variable {page : Url} {a b : Authorization} {d d' : Desktop} {token : String} {popup : Option Nat}

/-- Turning to a page takes one step at most. -/
theorem Turns.steps (h : c.Turns page a d) : c.Steps ⟨some a, d⟩ := by
  cases h with
  | first none => exact Step.steps (.take page none)
  | held a held same =>
    rw [← held]
    exact .refl
  | instead a held other => exact Step.steps (.turn a page held)

/-- Turning to a page and asking for its popup are steps. -/
theorem Turns.asked (turns : c.Turns page a d) (asked : a.openOrFocus token d = (popup, b, d')) :
    c.Steps ⟨some b, d'⟩ := by
  have step : Step ⟨some a, d⟩ _ := .ask a token rfl
  rw [asked] at step
  exact .tail turns.steps step

theorem Turns.page_eq (h : c.Turns page a d) : a.page = page := by
  cases h with
  | held a held same => exact same
  | _ => rfl

theorem Turns.blocked (h : c.Turns page a d) : d.blocked = c.desktop.blocked := by
  cases h with
  | instead a held other =>
    unfold Authorization.close
    simp only
    split <;> rfl
  | _ => rfl

theorem Turns.closed (h : c.Turns page a d) (lacks : c.Lacks page) : a.openPopup? d = none := by
  cases h with
  | held a held same => exact lacks a held same
  | _ => rfl

/-- A page that has no popup after the turn had none before. -/
theorem Turns.lacks (h : c.Turns page a d) (closed : a.openPopup? d = none) : c.Lacks page := by
  intro current held' same'
  cases h with
  | first none => simp [none] at held'
  | held a held same =>
    obtain rfl : a = current := by simpa [held] using held'
    exact closed
  | instead a held other =>
    obtain rfl : a = current := by simpa [held] using held'
    exact absurd same' other

/-- Where no popup can be had none is opened or joined. -/
theorem Refuses.not_opened (h : c.Refuses page) {popup : Nat} (turns : c.Turns page a d)
    (asked : a.openOrFocus token d = (some popup, b, d')) : False := by
  rw [Authorization.openOrFocus_of_blocked _ (turns.closed h.1) (turns.blocked.trans h.2)] at asked
  cases asked

/-- Whoever is refused had no popup, and could have none. -/
theorem Turns.refuses (turns : c.Turns page a d) (asked : a.openOrFocus token d = (none, b, d')) :
    c.Refuses page := by
  obtain ⟨closed, blocked⟩ := (asked ▸ a.openOrFocus_asks token d).blocked
  exact ⟨turns.lacks closed, turns.blocked ▸ blocked⟩

/-- A page for which no popup is open is asked for, unless another one has to be closed. -/
theorem Turns.openPopup (turns : c.Turns page a d) (same : ∀ a, c.held = some a → a.page = page)
    (lacks : c.Lacks page) (asked : a.openOrFocus token d = (popup, b, d')) :
    c.desktop.openPopup (page.withPair (tokenKey, token)) = (popup, d') := by
  rw [Authorization.openOrFocus_of_closed _ (turns.closed lacks), Authorization.address,
    turns.page_eq] at asked
  obtain ⟨rfl, -, rfl⟩ : _ ∧ _ ∧ _ := by simpa using asked
  cases turns with
  | instead a held other => exact absurd (same a held) other
  | _ => rfl

/-- Steps that turn to no other page. -/
structure Stays (c e : Custody) : Prop where
  steps : c.Steps e
  page : e.held.map Authorization.page = c.held.map Authorization.page

theorem stays_of_eq (same : e = c) : c.Stays e := same ▸ ⟨.refl, rfl⟩

/-- Asking for a popup does not change the page. -/
theorem stays_ask (held : c.held = some a) (token : String) :
    c.Stays ⟨some (a.openOrFocus token c.desktop).2.1, (a.openOrFocus token c.desktop).2.2⟩ := by
  refine ⟨Step.steps (.ask a token held), ?_⟩
  have asks := a.openOrFocus_asks token c.desktop
  generalize a.openOrFocus token c.desktop = asked at asks
  rw [held]
  cases asks <;> rfl

theorem stays_release {popup : Nat} (closed : c.desktop.isOpen popup = false) :
    c.Stays ⟨c.held.map fun a => a.release popup, c.desktop⟩ := by
  refine ⟨steps_release closed, ?_⟩
  rw [Option.map_map]
  exact congrArg (c.held.map ·) (funext fun a => a.page_release popup)

/-! ### One open popup at most -/

/-- Two popups that are open are the same. -/
theorem Single.unique (single : Single first c) {p q : Nat} (ownP : first ≤ p) (ownQ : first ≤ q)
    (openP : c.desktop.isOpen p) (openQ : c.desktop.isOpen q) : p = q :=
  Option.some.inj ((single.held p ownP openP).symm.trans (single.held q ownQ openQ))

end Custody

end CourseLaunch.Popup
