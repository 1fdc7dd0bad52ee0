import CourseLaunch.Popup.Waiting
import CourseLaunch.Proofs.Popup.Machine
/-!
# Sharing an authorization

Any number of tasks ask for one authorization, in any order, while the user closes popups and
blocks or allows new ones. They share one popup at a time: a task that asks while it is open joins
those that wait for it, every task ends with its own popup, and a task that ends leaves a newer
popup alone. When the authorization is closed, or gone, its popup is too.
-/

namespace CourseLaunch.Popup
open Web

/-- How a waiter stands to popups. -/
def Waiter.stance : Waiter → Stance
  | .watching popup => .waits popup
  | .abandoned => .gaveUp
  | .finished | .blocked => .done

namespace Waiting

/-- Something that happens to an authorization. -/
inductive Move where
  | authorize
  | focus
  | close
  | disown
  | look (task : Nat)
  | abandon (task : Nat)
  | dismiss (popup : Nat)
  | block (blocked : Bool)

/-- What only the owner of an authorization can do. -/
def byOwner (w : Waiting) (change : Waiting → Waiting) : Waiting :=
  if w.isOwned then change w else w

/-- The authorization after a move. -/
def after (w : Waiting) : Move → Waiting
  | .authorize => w.byOwner authorize
  | .focus => w.byOwner focus
  | .close => w.byOwner close
  | .disown => w.disown
  | .look task => w.look task
  | .abandon task => w.abandon task
  | .dismiss popup => { w with desktop := w.desktop.userCloses popup }
  | .block blocked => { w with desktop := w.desktop.block blocked }

def afterAll (w : Waiting) (moves : List Move) : Waiting := moves.foldl after w

variable {w : Waiting} {first : Nat}

theorem afterAll_append (w : Waiting) (moves more : List Move) :
    w.afterAll (moves ++ more) = (w.afterAll moves).afterAll more := List.foldl_append

theorem byOwner_of {P : Waiting → Prop} {change : Waiting → Waiting} (same : P w)
    (changed : P (change w)) : P (w.byOwner change) := by
  unfold byOwner
  split
  · exact changed
  · exact same

/-! ### What a move does to the popups -/

def custody (w : Waiting) : Custody := ⟨some w.authorization, w.desktop⟩

/-- The popups of an authorization and its tasks. -/
def watch (w : Waiting) : Watch :=
  ⟨w.custody, fun task => w.waiters[task]?.elim .active Waiter.stance⟩

theorem stance_watch {task : Nat} {waiter : Waiter} (found : w.waiters[task]? = some waiter) :
    w.watch.stance task = waiter.stance := by
  simp [watch, found]

/-- The popup goes when nobody holds the authorization any more. -/
theorem reap_steps (w : Waiting) : w.custody.Steps w.reap.custody := by
  unfold reap
  split
  · exact .refl
  · exact Custody.Step.steps (.close _ rfl)

/-- A look at a popup is a step, after which the popup may go. -/
theorem look_steps (w : Waiting) (task : Nat) : w.custody.Steps (w.look task).custody := by
  unfold look
  cases w.watched? task with
  | none => exact .refl
  | some popup =>
    simp only
    split
    · exact .refl
    case isFalse closed =>
      let ended : Waiting :=
        { w with
          authorization := w.authorization.release popup
          waiters := w.waiters.set task .finished }
      have released : Custody.Step w.custody ended.custody :=
        .release w.authorization popup rfl ((Bool.not_eq_true _).mp closed)
      exact .head released (reap_steps ended)

/-- A task that is given up leaves its popup alone, unless nobody else is left. -/
theorem abandon_steps (w : Waiting) (task : Nat) : w.custody.Steps (w.abandon task).custody := by
  unfold abandon
  split
  · exact reap_steps { w with waiters := w.waiters.set task .abandoned }
  · exact .refl

/-- Every move takes some steps with the popup. -/
theorem steps_after (w : Waiting) (m : Move) : w.custody.Steps (w.after m).custody := by
  cases m with
  | authorize =>
    refine byOwner_of (P := fun v => w.custody.Steps v.custody) .refl ?_
    exact Custody.Step.steps (.ask w.authorization w.token rfl)
  | focus =>
    refine byOwner_of (P := fun v => w.custody.Steps v.custody) .refl ?_
    exact Custody.Step.steps (.focus w.authorization rfl)
  | close =>
    refine byOwner_of (P := fun v => w.custody.Steps v.custody) .refl ?_
    exact Custody.Step.steps (.close w.authorization rfl)
  | disown => exact reap_steps { w with isOwned := false }
  | look task => exact look_steps w task
  | abandon task => exact abandon_steps w task
  | dismiss popup => exact Custody.Step.steps (.dismiss popup)
  | block blocked => exact Custody.Step.steps (.block blocked)

/-! ### What a move does to the tasks -/

/-- What a move makes of a task: it ends when its popup is closed, or it is given up, or it is new
and waits for the popup that is held. -/
inductive TaskStep (w v : Waiting) : Option Waiter → Option Waiter → Prop where
  | same (waiter : Option Waiter) : TaskStep w v waiter waiter
  | finish (popup : Nat) (closed : w.desktop.isOpen popup = false) :
      TaskStep w v (some (.watching popup)) (some .finished)
  | abandon (popup : Nat) : TaskStep w v (some (.watching popup)) (some .abandoned)
  | begin (waiter : Option Waiter)
      (held : ∀ popup, waiter = some (.watching popup) → v.authorization.popup = some popup) :
      TaskStep w v none waiter

variable {v : Waiting}

theorem waiters_reap (w : Waiting) : w.reap.waiters = w.waiters := by
  unfold reap
  split <;> rfl

theorem watched?_eq_some {task popup : Nat} :
    w.watched? task = some popup ↔ w.waiters[task]? = some (.watching popup) := by
  unfold watched?
  split
  case h_1 found => simp [found]
  case h_2 other =>
    simp only [reduceCtorEq, false_iff]
    exact other popup

/-- Only the task that is looked at, or given up, changes. -/
theorem taskStep_set {waiters : List Waiter} {task : Nat} {before after : Waiter}
    (found : waiters[task]? = some before) (own : TaskStep w v (some before) (some after))
    (k : Nat) : TaskStep w v waiters[k]? (waiters.set task after)[k]? := by
  by_cases same : task = k
  · obtain ⟨known, -⟩ := List.getElem?_eq_some_iff.mp found
    rwa [← same, found, List.getElem?_set_self known]
  · rw [List.getElem?_set_ne same]
    exact .same _

/-- A new task waits for the popup that it opened or joined. -/
theorem authorize_task (w : Waiting) (k : Nat) :
    TaskStep w w.authorize w.waiters[k]? w.authorize.waiters[k]? := by
  rcases Nat.lt_or_ge k w.waiters.length with known | new
  · have same : w.authorize.waiters[k]? = w.waiters[k]? := List.getElem?_append_left known
    exact same ▸ .same _
  · rw [List.getElem?_eq_none new]
    refine .begin _ fun popup watches => ?_
    have asks := w.authorization.openOrFocus_asks w.token w.desktop
    unfold authorize at watches ⊢
    generalize w.authorization.openOrFocus w.token w.desktop = asked at asks watches ⊢
    simp only [List.getElem?_append_right new] at watches
    have last := List.mem_singleton.mp (List.mem_of_getElem? watches)
    cases asks with
    | joined shown held isOpen => simp_all
    | opened closed allowed => simp_all
    | refused closed blocked => simp at last

/-- A task that looks goes on waiting, or ends when its popup was closed. -/
theorem look_task (w : Waiting) (task k : Nat) :
    TaskStep w v w.waiters[k]? (w.look task).waiters[k]? := by
  unfold look
  cases watched : w.watched? task with
  | none => exact .same _
  | some popup =>
    simp only
    split
    · exact .same _
    case isFalse closed =>
      rw [waiters_reap]
      exact taskStep_set (watched?_eq_some.mp watched)
        (.finish popup ((Bool.not_eq_true _).mp closed)) k

/-- Only the task that is given up ends. -/
theorem abandon_task (w : Waiting) (task k : Nat) :
    TaskStep w v w.waiters[k]? (w.abandon task).waiters[k]? := by
  unfold abandon
  split
  case isTrue watches =>
    obtain ⟨popup, watched⟩ := Option.isSome_iff_exists.mp watches
    rw [waiters_reap]
    exact taskStep_set (watched?_eq_some.mp watched) (.abandon popup) k
  case isFalse => exact .same _

/-- A move takes each task one step on at most. -/
theorem task_after (w : Waiting) (m : Move) (k : Nat) :
    TaskStep w (w.after m) w.waiters[k]? (w.after m).waiters[k]? := by
  cases m with
  | authorize =>
    exact byOwner_of (P := fun v => TaskStep w v w.waiters[k]? v.waiters[k]?) (.same _)
      (authorize_task w k)
  | focus =>
    exact byOwner_of (P := fun v => TaskStep w v w.waiters[k]? v.waiters[k]?) (.same _) (.same _)
  | close =>
    exact byOwner_of (P := fun v => TaskStep w v w.waiters[k]? v.waiters[k]?) (.same _) (.same _)
  | disown =>
    show TaskStep _ _ _ w.disown.waiters[k]?
    unfold disown
    rw [waiters_reap]
    exact .same _
  | look task => exact look_task w task k
  | abandon task => exact abandon_task w task k
  | dismiss popup => exact .same _
  | block blocked => exact .same _

/-- Every move handles the popup as a machine does. -/
theorem handles_after (w : Waiting) (m : Move) : w.watch.Handles (w.after m).watch where
  custody := steps_after w m
  stance task idle := by
    have step := task_after w m task
    cases found : w.waiters[task]? with
    | none => simp [watch, found] at idle
    | some waiter =>
      rw [found] at step
      rw [stance_watch found]
      generalize found' : (w.after m).waiters[task]? = waiter' at step
      cases step with
      | same => exact .inl (stance_watch found')
      | finish popup closed => exact .inr ⟨popup, rfl, .inl closed⟩
      | abandon popup => exact .inr ⟨popup, rfl, .inr (stance_watch found')⟩

/-! ### When nobody waits any more -/

/-- An authorization that is gone has no open popup. -/
def Released (first : Nat) (w : Waiting) : Prop :=
  w.isAlive = false → ∀ popup, first ≤ popup → w.desktop.isOpen popup = false

theorem isAlive_reap (w : Waiting) : w.reap.isAlive = w.isAlive := by
  unfold reap
  split <;> rfl

theorem released_reap (single : w.custody.Single first) : w.reap.Released first := by
  intro gone popup own
  rw [isAlive_reap] at gone
  unfold reap
  rw [if_neg (by simp [gone])]
  exact single.none_open_close rfl own

theorem released_of_owned (owned : w.isOwned) : w.Released first := by
  intro gone
  simp [isAlive, owned] at gone

theorem byOwner_released {change : Waiting → Waiting} (released : w.Released first)
    (owned : (change w).isOwned = w.isOwned) : (w.byOwner change).Released first := by
  unfold byOwner
  split
  case isTrue own => exact released_of_owned (owned.trans own)
  case isFalse => exact released

theorem released_look (single : w.custody.Single first) (released : w.Released first)
    (task : Nat) : (w.look task).Released first := by
  unfold look
  cases w.watched? task with
  | none => exact released
  | some popup =>
    simp only
    split
    · exact released
    case isFalse closed =>
      refine released_reap (Custody.Step.single ?_ single)
      exact .release w.authorization popup rfl ((Bool.not_eq_true _).mp closed)

theorem released_abandon (single : w.custody.Single first) (released : w.Released first)
    (task : Nat) : (w.abandon task).Released first := by
  unfold abandon
  split
  · exact released_reap (w := { w with waiters := w.waiters.set task .abandoned }) single
  · exact released

/-- After every move no popup is left to an authorization that is gone. -/
theorem released_after (single : w.custody.Single first) (released : w.Released first) (m : Move) :
    (w.after m).Released first := by
  cases m with
  | authorize => exact byOwner_released released rfl
  | focus => exact byOwner_released released rfl
  | close => exact byOwner_released released rfl
  | disown => exact released_reap (w := { w with isOwned := false }) single
  | look task => exact released_look single released task
  | abandon task => exact released_abandon single released task
  | dismiss popup =>
    intro gone q own
    have closed := released gone q own
    simp [after, closed]
  | block blocked => exact released

/-! ### Histories -/

/-- What holds between moves: nobody waits for a popup that was not opened for the authorization. -/
structure Valid (first : Nat) (w : Waiting) : Prop where
  single : w.custody.Single first
  watched : ∀ task popup, w.watched? task = some popup →
    first ≤ popup ∧ popup < w.desktop.windows.length
  released : w.Released first

theorem valid_ofPage (page : Url) (token : String) (d : Desktop) :
    (ofPage page token d).Valid d.windows.length where
  single := Custody.single_start d rfl
  watched task popup watches := by simp [watched?, ofPage] at watches
  released := released_of_owned rfl

/-- A shared authorization stays valid after every move. -/
theorem Valid.after (valid : w.Valid first) (m : Move) : (w.after m).Valid first where
  single := (steps_after w m).single valid.single
  watched task popup watches := by
    have step := task_after w m task
    rw [watched?_eq_some.mp watches] at step
    cases before : w.waiters[task]? with
    | none =>
      rw [before] at step
      cases step with
      | begin waiter held =>
        exact ((steps_after w m).single valid.single).own popup (held popup rfl)
    | some waiter =>
      rw [before] at step
      cases step with
      | same =>
        obtain ⟨own, known⟩ := valid.watched task popup (watched?_eq_some.mpr before)
        exact ⟨own, Nat.lt_of_lt_of_le known (steps_after w m).keeps.length⟩
  released := released_after valid.single valid.released m

theorem Valid.afterAll (valid : w.Valid first) (moves : List Move) :
    (w.afterAll moves).Valid first := by
  induction moves using List.reverseRecOn with
  | nil => exact valid
  | append_singleton moves m ih =>
    rw [afterAll_append]
    exact ih.after m

/-- An authorization as a machine. A task of it goes on when it ends with its popup. -/
def machine : Machine Waiting Move where
  after := after
  watch := watch
  WentOn w task := w.waiters[task]? = some .finished
  Valid _ := True
  valid_after _ _ := trivial
  handles := handles_after
  not_waits _ finished popup := by simp [stance_watch finished, Waiter.stance]
  not_gaveUp _ finished := by simp [stance_watch finished, Waiter.stance]

/-! ### What can be relied on -/

/-- A task that asks now joins those that wait for a popup. -/
def JoinsNext (w : Waiting) (popup : Nat) : Prop :=
  w.authorize.desktop = w.desktop.focus popup ∧
    w.authorize.watched? w.waiters.length = some popup

/-- A task that asks now gets a new popup. -/
def OpensNext (w : Waiting) : Prop :=
  w.authorize.desktop.windows =
      w.desktop.windows ++ [w.desktop.fresh (w.authorization.address w.token)] ∧
    w.authorize.watched? w.waiters.length = some w.desktop.windows.length

/-- A task that asks now gets no popup. -/
def RefusedNext (w : Waiting) : Prop :=
  w.authorize.desktop = w.desktop ∧ w.authorize.waiters[w.waiters.length]? = some .blocked

/-- A task that asks while the popup is open joins the others. -/
theorem joinsNext {popup : Nat} (shown : w.authorization.openPopup? w.desktop = some popup) :
    w.JoinsNext popup := by
  simp [JoinsNext, authorize, watched?_eq_some, Authorization.openOrFocus_of_open _ shown]

/-- A task that asks while no popup is open gets a new one. -/
theorem opensNext (closed : w.authorization.openPopup? w.desktop = none)
    (allowed : w.desktop.blocked = false) : w.OpensNext := by
  simp [OpensNext, authorize, watched?_eq_some,
    Authorization.openOrFocus_of_allowed _ closed allowed]

/-- A task that asks while popups are blocked is refused. -/
theorem refusedNext (closed : w.authorization.openPopup? w.desktop = none)
    (blocked : w.desktop.blocked) : w.RefusedNext := by
  simp [RefusedNext, authorize, Authorization.openOrFocus_of_blocked _ closed blocked]

/-- What those can rely on who share an authorization. Its popups are numbered from `first` on. -/
structure Shared (first : Nat) (w : Waiting) : Prop where
  /-- It counts as open when one of its popups is. -/
  isOpen_iff : w.isOpen ↔ ∃ popup, first ≤ popup ∧ w.desktop.isOpen popup
  /-- One of them is open at most. -/
  unique : ∀ p q, first ≤ p → first ≤ q → w.desktop.isOpen p → w.desktop.isOpen q → p = q
  /-- Who asks while one is open brings it to the front, and waits for it. -/
  joins : ∀ popup, first ≤ popup → w.desktop.isOpen popup → w.JoinsNext popup
  /-- Who asks while none is open gets a new one if popups are allowed. -/
  opens : w.isOpen = false → w.desktop.blocked = false → w.OpensNext
  /-- Otherwise nothing changes, and who asks next gets a new one when popups are allowed again. -/
  refuses : w.isOpen = false → w.desktop.blocked →
    w.RefusedNext ∧ w.authorize.RefusedNext ∧ (w.authorize.after (.block false)).OpensNext
  /-- A task ends only when the popup that it waited for is closed. -/
  waits : ∀ task popup, w.watched? task = some popup → ∀ more,
    (w.afterAll more).waiters[task]? = some .finished →
      (w.afterAll more).desktop.isOpen popup = false
  /-- A task that ends leaves the popup that is open now as it is. -/
  spares : ∀ task, (w.look task).isAlive →
    (w.look task).desktop = w.desktop ∧ (w.look task).isOpen = w.isOpen
  /-- No popup is open after it was closed. -/
  closes : ∀ popup, first ≤ popup → w.close.desktop.isOpen popup = false
  /-- Nor when it is gone. -/
  released : w.isAlive = false → ∀ popup, first ≤ popup → w.desktop.isOpen popup = false

theorem openPopup?_of_not_isOpen (closed : w.isOpen = false) :
    w.authorization.openPopup? w.desktop = none := by
  simpa [isOpen, Authorization.isOpen] using closed

theorem Valid.openPopup? (valid : w.Valid first) {popup : Nat} (own : first ≤ popup)
    (isOpen : w.desktop.isOpen popup) : w.authorization.openPopup? w.desktop = some popup :=
  Authorization.openPopup?_eq_some.mpr ⟨valid.single.held popup own isOpen, isOpen⟩

/-- The authorization knows whether a popup of its own is open. -/
theorem Valid.isOpen_iff (valid : w.Valid first) :
    w.isOpen ↔ ∃ popup, first ≤ popup ∧ w.desktop.isOpen popup := by
  rw [isOpen, Authorization.isOpen_iff]
  constructor
  · rintro ⟨popup, shown, isOpen⟩
    exact ⟨popup, (valid.single.own popup shown).1, isOpen⟩
  · rintro ⟨popup, own, isOpen⟩
    exact ⟨popup, valid.single.held popup own isOpen, isOpen⟩

/-- Whoever is refused may ask again. -/
theorem refuses (closed : w.isOpen = false) (blocked : w.desktop.blocked) :
    w.RefusedNext ∧ w.authorize.RefusedNext ∧ (w.authorize.after (.block false)).OpensNext := by
  have shown := openPopup?_of_not_isOpen closed
  have refused := refusedNext shown blocked
  have again : w.authorize.authorization.openPopup? w.authorize.desktop = none := by
    simp [authorize, Authorization.openOrFocus_of_blocked _ shown blocked,
      Authorization.openPopup?]
  exact ⟨refused, refusedNext again (by rw [refused.1, blocked]), opensNext again rfl⟩

/-- A task that ends forgets its own popup only. -/
theorem look_spares (w : Waiting) {task : Nat} (alive : (w.look task).isAlive) :
    (w.look task).desktop = w.desktop ∧ (w.look task).isOpen = w.isOpen := by
  unfold look at alive ⊢
  cases watched : w.watched? task with
  | none => exact ⟨rfl, rfl⟩
  | some popup =>
    simp only [watched] at alive ⊢
    split
    · exact ⟨rfl, rfl⟩
    case isFalse closed =>
      rw [if_neg closed, isAlive_reap] at alive
      unfold reap
      rw [if_pos alive]
      -- only a popup that is closed is forgotten, so an open one is still known
      refine ⟨rfl, Bool.eq_iff_iff.mpr ?_⟩
      simp only [isOpen, Authorization.isOpen_iff, Authorization.popup_release]
      refine exists_congr fun q => and_congr_left fun isOpen => ?_
      have other : q ≠ popup := by
        rintro rfl
        exact closed isOpen
      split
      case isTrue own => simp [own, other.symm]
      case isFalse => rfl

/-- A valid authorization is shared as it should be. -/
theorem Valid.shared (valid : w.Valid first) : w.Shared first where
  isOpen_iff := valid.isOpen_iff
  unique _ _ := valid.single.unique
  joins popup own isOpen := joinsNext (valid.openPopup? own isOpen)
  opens closed allowed := opensNext (openPopup?_of_not_isOpen closed) allowed
  refuses := refuses
  waits task popup watches more ended := by
    have known := (valid.watched task popup watches).2
    have waits : w.watch.stance task = .waits popup := stance_watch (watched?_eq_some.mp watches)
    exact machine.closed_of_wentOn trivial waits known ended
  spares _ := look_spares w
  closes popup own := valid.single.none_open_close rfl own
  released := valid.released

/-- However tasks ask for an authorization and end, and whatever the user does, they share one popup
at a time. -/
theorem popup_shared (page : Url) (token : String) (desktop : Desktop) (moves : List Move) :
    ((ofPage page token desktop).afterAll moves).Shared desktop.windows.length :=
  ((valid_ofPage page token desktop).afterAll moves).shared

/-- The second popup is opened before the first task sees that its own is closed, and stays open. -/
example :
    let w := (ofPage ⟨"https", some ⟨"", "", .named "lms.example.com", none⟩, .rooted ["allow"],
      none, none⟩ "token" (.empty ⟨0, 0, 800, 600⟩)).afterAll
        [.authorize, .dismiss 0, .authorize, .authorize, .look 0]
    w.waiters = [.finished, .watching 1, .watching 1] ∧ w.isOpen := by
  decide +kernel

end Waiting

end CourseLaunch.Popup
