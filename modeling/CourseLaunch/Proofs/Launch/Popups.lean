import CourseLaunch.Proofs.Launch.Publication
import CourseLaunch.Proofs.Popup.Machine
/-!
# The popups of a launch

Retries may ask for different pages while older ones still wait for theirs. Turning to another page
closes the popup of the one before, so a launch never has two popups, and leaving it leaves none.
All else that tasks do is aside from this: it touches no popup, and leaves alone the tasks that wait
for one and those that have given up.
-/

namespace CourseLaunch.Launch
open Activity Backend Popup

namespace Task

/-- How a task stands to popups. -/
def stance : Task → Stance
  | .authorizing popup => .waits popup
  | .abandoned => .done
  | _ => .active

theorem stance_ne_active {t : Task} : t.stance ≠ .active ↔ t.isIdle := by
  cases t <;> simp [stance, isIdle]

theorem mapRound_of_isIdle {t : Task} (idle : t.isIdle) (change : Round → Round) :
    t.mapRound change = t := by cases t <;> simp_all [isIdle, mapRound]

theorem setReporter_of_isIdle {t : Task} (idle : t.isIdle) (r : Reporter) :
    t.setReporter r = t := by cases t <;> simp_all [isIdle, setReporter]

end Task

namespace Session

variable {s t u : Session}

/-- The popups of a launch and its tasks. -/
def watch (s : Session) : Watch := ⟨s.custody, fun task => s.tasks[task]?.elim .active Task.stance⟩

theorem stance_watch {k : Nat} {task : Task} (found : s.tasks[k]? = some task) :
    s.watch.stance k = task.stance := by
  simp [watch, found]

theorem found_of_stance {k : Nat} (idle : s.watch.stance k ≠ .active) :
    ∃ task, s.tasks[k]? = some task ∧ task.isIdle := by
  cases found : s.tasks[k]? with
  | none => simp [watch, found] at idle
  | some task => exact ⟨task, rfl, Task.stance_ne_active.mp (stance_watch found ▸ idle)⟩

/-- Idle tasks that stay what they are stand to popups as before. -/
theorem stance_of_idle (idle : ∀ (k : Nat) (task : Task), s.tasks[k]? = some task → task.isIdle →
    t.tasks[k]? = some task) (k : Nat) (active : s.watch.stance k ≠ .active) :
    t.watch.stance k = s.watch.stance k := by
  obtain ⟨task, found, known⟩ := found_of_stance active
  rw [stance_watch (idle k task found known), stance_watch found]

theorem aside_of (custody : t.custody = s.custody) (idle : ∀ (k : Nat) (task : Task),
    s.tasks[k]? = some task → task.isIdle → t.tasks[k]? = some task) : s.watch.Aside t.watch :=
  ⟨custody, stance_of_idle idle⟩

/-! ### Functions that leave the popups alone -/

theorem getElem?_modify_of_isIdle {tasks : List Task} {change : Task → Task}
    (same : ∀ t, t.isIdle → change t = t) (task k : Nat) {t : Task} (found : tasks[k]? = some t)
    (idle : t.isIdle) : (tasks.modify task change)[k]? = some t := by
  rw [List.getElem?_modify, found]
  split
  · exact congrArg some (same t idle)
  · rfl

theorem aside_onTask {change : Task → Task} (same : ∀ t, t.isIdle → change t = t) (s : Session)
    (task : Nat) : s.watch.Aside (s.onTask task change).watch :=
  aside_of rfl fun k _ found idle => getElem?_modify_of_isIdle same task k found idle

theorem aside_report (s : Session) (task : Nat) (r : Reporter) :
    s.watch.Aside (s.onTask task (Task.setReporter r)).watch :=
  aside_onTask (fun _ idle => Task.setReporter_of_isIdle idle r) s task

theorem aside_ended (s : Session) (task : Nat) (part : Part) (ok : Bool) (page : Page)
    (groups : Option (List String)) : s.watch.Aside (s.ended task part ok page groups).watch :=
  aside_of rfl fun k _ found idle =>
    getElem?_modify_of_isIdle (fun _ idle => Task.mapRound_of_isIdle idle _) task k found idle

/-- A call that goes on leaves the popups alone. -/
theorem Follows.aside {id : CallId} {p : Progress CallId} (h : s.Follows id p t) :
    s.watch.Aside t.watch := by
  cases h with
  | underWay c => exact ⟨rfl, fun _ _ => rfl⟩
  | fetched c result ok page groups fetches settles =>
    exact ⟨rfl, (aside_ended s id.task id.part ok page groups).stance⟩
  | submitted c result page submits settles => exact ⟨rfl, (aside_report s id.task .ended).stance⟩

theorem beginFetch_aside (s : Session) (task : Nat) (part : Part) :
    s.watch.Aside (s.beginFetch task part).watch := by
  unfold beginFetch
  cases s.endpoint? part with
  | none =>
    simp only [finishFetch_eq]
    exact aside_ended s task part true _ s.groups
  | some e =>
    have begun : s.watch.Aside (s.onPage Page.beginFetch).watch := ⟨rfl, fun _ _ => rfl⟩
    exact begun.trans (follow_follows _ _ _).aside

theorem beginRound_aside (s : Session) (task : Nat) : s.watch.Aside (s.beginRound task).watch :=
  (beginFetch_aside s task .content).trans (beginFetch_aside _ task .groups)

theorem submit_aside (s : Session) (task : Nat) : s.watch.Aside (s.submit task).watch := by
  unfold submit
  cases s.config.grading with
  | none => exact aside_report s task .ended
  | some grading =>
    simp only
    split
    · exact aside_report s task .ended
    · have begun : s.watch.Aside ({ s with isSubmitted := true }.onTask task
          (Task.setReporter .submitting)).watch := ⟨rfl, (aside_report s task .submitting).stance⟩
      exact begun.trans (follow_follows _ _ _).aside

theorem listen_aside (patience : Nat) (s : Session) (task receiver : Nat) :
    s.watch.Aside (s.listen patience task receiver).watch := by
  -- receiving changes the channel only, so every session on the way is any one
  induction patience generalizing s with
  | zero => exact .refl _
  | succ patience ih =>
    have heard (channel : Channel) :
        s.watch.Aside ({ s with channel := channel } : Session).watch :=
      ⟨rfl, fun _ _ => rfl⟩
    unfold listen
    split
    case h_1 e channel receives =>
      simp only
      split
      · have left : s.watch.Aside (unsubscribe { s with channel := channel } receiver).watch :=
          ⟨rfl, fun _ _ => rfl⟩
        exact left.trans (submit_aside _ task)
      · exact (heard channel).trans (ih _)
    case h_2 lost channel receives => exact (heard channel).trans (ih _)
    case h_3 =>
      have left : s.watch.Aside (s.unsubscribe receiver).watch := ⟨rfl, fun _ _ => rfl⟩
      exact left.trans (aside_report _ task .ended)
    case h_4 => exact .refl _

/-- A report that goes on leaves the popups alone. -/
theorem reportFor_aside (s : Session) (task patience : Nat) :
    s.watch.Aside (s.reportFor task patience).watch := by
  unfold reportFor
  split
  case h_1 receiver known =>
    split
    · cases receiver with
      | some receiver =>
        exact (aside_report s task (.listening receiver)).trans
          (listen_aside patience _ task receiver)
      | none => exact submit_aside s task
    · exact .refl _
  case h_2 receiver known => exact listen_aside patience s task receiver
  case h_3 => exact .refl _

theorem beginReport_aside (s : Session) (task : Nat) :
    s.watch.Aside (s.beginReport task).watch := by
  unfold beginReport
  cases s.config.grading with
  | none => exact aside_report s task .ended
  | some grading =>
    simp only
    split
    · have subscribed : s.watch.Aside (s.subscribed task).watch :=
        ⟨rfl, (aside_report s task _).stance⟩
      exact subscribed.trans (reportFor_aside _ task _)
    · exact (aside_report s task (.awaitingContent none)).trans (reportFor_aside _ task _)

theorem ne_nextTask {k : Nat} {task : Task} (found : s.tasks[k]? = some task) :
    k ≠ s.nextTask := Nat.ne_of_lt (List.getElem?_eq_some_iff.mp found).1

theorem tasks_of_add {k : Nat} {t : Task} (found : s.tasks[k]? = some t) (task : Task) :
    (s.add task).tasks[k]? = some t := by
  rw [getElem?_add, if_neg (ne_nextTask found), found]

theorem aside_add (s : Session) (task : Task) : s.watch.Aside (s.add task).watch :=
  aside_of rfl fun _ _ found _ => tasks_of_add found task

/-- What a new task becomes is no matter of the tasks before it. -/
theorem aside_new (s : Session) (task : Task) (change : Task → Task) :
    s.watch.Aside ((s.add task).onTask s.nextTask change).watch := by
  refine aside_of rfl fun k t found _ => ?_
  rw [tasks_onTask, List.getElem?_modify_ne change _ (ne_nextTask found).symm, tasks_of_add found]

/-! ### Moves -/

/-- Whoever asks the user to authorize takes one step with the popups at most. -/
theorem Authorizes.custody {task : Nat} {path : String} (h : s.Authorizes task path t) :
    s.custody.Steps t.custody := by
  cases h with
  | unresolved fault named => exact .refl
  | opened page a b d d' popup named turns asked => exact turns.asked asked
  | blocked page a b d d' named turns asked => exact turns.asked asked

theorem Authorizes.others {task k : Nat} {path : String} (h : s.Authorizes task path t)
    (other : k ≠ task) : t.tasks[k]? = s.tasks[k]? := by
  cases h with
  | opened => exact List.getElem?_modify_ne _ _ other.symm
  | _ => rfl

/-- A retry turns to one popup at most. -/
theorem retry_handles (s : Session) : s.watch.Handles s.retry.watch := by
  unfold retry tryAgain
  split
  · exact (aside_add s _).handles
  · split
    case h_1 path page =>
      have authorizes := authorize_authorizes (s.add .abandoned) s.nextTask path
      generalize (s.add .abandoned).authorize s.nextTask path = t at authorizes
      refine ⟨authorizes.custody, fun k active => .inl (stance_of_idle (fun j task found _ => ?_) k
        active)⟩
      rw [authorizes.others (ne_nextTask found), tasks_of_add found]
    case h_2 => exact ((aside_new s .abandoned _).trans (beginRound_aside _ _)).handles

theorem handles_release {task popup : Nat} (closed : s.desktop.isOpen popup = false)
    (watching : s.tasks[task]? = some (.authorizing popup)) :
    s.watch.Handles (({ s with
      authorization := s.authorization.map fun (a : Authorization) => a.release popup }.onPage
        Page.endAuthorization).onTask task fun _ => .recovering .begun).watch := by
  refine ⟨Custody.steps_release closed, fun k active => ?_⟩
  by_cases same : k = task
  · exact .inr ⟨popup, same ▸ stance_watch watching, .inl closed⟩
  · obtain ⟨t, found, -⟩ := found_of_stance active
    have kept := List.getElem?_modify_ne (fun _ => Task.recovering .begun) s.tasks (Ne.symm same)
    exact .inl ((stance_watch (kept.trans found)).trans (stance_watch found).symm)

/-- A look lets go of a popup that is closed, and touches no other one. -/
theorem look_handles (s : Session) (task : Nat) : s.watch.Handles (s.look task).watch := by
  unfold look
  cases watched : s.watched? task with
  | none => exact (Watch.Aside.refl _).handles
  | some popup =>
    simp only
    split
    · exact (Watch.Aside.refl _).handles
    case isFalse closed =>
      have watching : s.tasks[task]? = some (.authorizing popup) := by
        obtain ⟨t, found, watches⟩ := Option.bind_eq_some_iff.mp watched
        cases t <;> simp_all [Task.watched?]
      exact (handles_release ((Bool.not_eq_true _).mp closed) watching).aside
        (beginRound_aside _ task)

/-- The end of a session closes its popup. -/
theorem close_handles (s : Session) : s.watch.Handles s.close.watch := by
  unfold close
  split
  case h_1 => exact (Watch.Aside.refl _).handles
  case h_2 a held => exact ⟨Custody.Step.steps (.close a held), fun _ _ => .inl rfl⟩

/-- Every move of a session handles popups as a machine does. -/
theorem handles_after (s : Session) (m : Move) : s.watch.Handles (s.after m).watch := by
  cases m with
  | fetchAll => exact ((aside_add s _).trans (beginRound_aside _ _)).handles
  | retry => exact retry_handles s
  | reportSubmission => exact ((aside_add s _).trans (beginReport_aside _ _)).handles
  | run =>
    exact (((aside_add s _).trans (beginRound_aside _ _)).trans (beginReport_aside _ _)).handles
  | answer id a => exact (follow_follows s id _).aside.handles
  | resume id => exact (follow_follows s id _).aside.handles
  | report task patience => exact (reportFor_aside s task patience).handles
  | look task => exact look_handles s task
  | close => exact close_handles s
  | publish e => exact ⟨.refl, fun _ _ => .inl rfl⟩
  | endActivity => exact ⟨.refl, fun _ _ => .inl rfl⟩
  | dismiss popup => exact ⟨Custody.Step.steps (.dismiss popup), fun _ _ => .inl rfl⟩
  | block blocked => exact ⟨Custody.Step.steps (.block blocked), fun _ _ => .inl rfl⟩

/-- A task with a call is not one that waits for the user or has given up. -/
theorem Sound.stance_eq_active (sound : s.Sound) {task : Nat} {part : Part}
    (begun : ⟨task, part⟩ ∈ s.begunIds) : s.watch.stance task = .active := by
  obtain ⟨t, found, active⟩ := sound.busy _ begun
  rw [stance_watch found]
  simpa [active] using Task.stance_ne_active.not (b := t.isIdle = true)

/-- A launch as a machine that opens popups. A task of it goes on when it makes a call. -/
def machine : Machine Session Move where
  after := after
  watch := watch
  WentOn s task := ∃ part, ⟨task, part⟩ ∈ s.begunIds
  Valid := Sound
  valid_after := sound_after
  handles := handles_after
  not_waits sound := fun ⟨_, begun⟩ popup => by simp [sound.stance_eq_active begun]
  not_gaveUp sound := fun ⟨_, begun⟩ => by simp [sound.stance_eq_active begun]

theorem steps_afterAll (s : Session) (moves : List Move) :
    s.custody.Steps (s.afterAll moves).custody := machine.steps_afterAll s moves

/-! ### What can be relied on -/

/-- The popups that a launch opens are those after the ones that were there before. -/
theorem single_afterAll (config : Config) (base : Web.Url) (token : String) (desktop : Desktop)
    (moves : List Move) : Custody.Single desktop.windows.length
      ((initial config base token desktop).afterAll moves).custody :=
  (steps_afterAll _ moves).single (Custody.single_start desktop rfl)

/-- Leaving a launch leaves no popup open. -/
theorem close_closes {first popup : Nat} (single : s.custody.Single first)
    (own : first ≤ popup) : s.close.desktop.isOpen popup = false := by
  unfold close
  split
  case h_1 none =>
    rw [Bool.eq_false_iff]
    intro isOpen
    have shown := single.held popup own isOpen
    simp [custody, none] at shown
  case h_2 a held => exact single.none_open_close held own

/-- A launch has one open popup at most, whatever pages its retries ask for, and none once it was
left. It closes no popup twice, and none that was closed before. -/
theorem one_popup_at_most (config : Config) (base : Web.Url) (token : String) (desktop : Desktop)
    (moves : List Move) :
    let first := desktop.windows.length
    let s := (initial config base token desktop).afterAll moves
    (∀ p q, first ≤ p → first ≤ q → s.desktop.isOpen p → s.desktop.isOpen q → p = q) ∧
    (∀ p, first ≤ p → s.close.desktop.isOpen p = false) ∧
    (∀ p w, first ≤ p → s.desktop.windows[p]? = some w → w.closes ≤ 1) ∧
    (∀ (p : Nat) (w : Window), s.desktop.windows[p]? = some w → w.isClosed →
      ∀ more, (s.afterAll more).desktop.windows[p]? = some w) := by
  have single := single_afterAll config base token desktop moves
  refine ⟨fun p q => single.unique, fun p => close_closes single, fun p w own found => ?_,
    fun p w found closed more => (steps_afterAll _ more).keeps.closed p w found closed⟩
  exact Nat.le_trans (single.once p w own found) (Bool.toNat_le w.isClosed)

/-- A retry for another page closes the popup of the one before, whose task still waits. -/
example :
    let s := (initial ⟨⟨"token", some ⟨"/content", some "/one", none⟩,
        some ⟨"/groups", some "/two", none⟩⟩, none, none, none, []⟩
        ⟨"http", some ⟨"", "", .named "localhost", none⟩, .rooted [""], none, none⟩ "token"
        (.empty ⟨0, 0, 800, 600⟩)).afterAll
      [.fetchAll, .answer ⟨0, .content⟩ (.whole 403 (Text.octets "{}")), .retry,
        .answer ⟨0, .groups⟩ (.whole 403 (Text.octets "{}")), .retry]
    s.tasks.drop 1 = [.authorizing 0, .authorizing 1] ∧
      s.desktop.windows.map Window.isClosed = [true, false] := by
  decide +kernel

end Session

end CourseLaunch.Launch
