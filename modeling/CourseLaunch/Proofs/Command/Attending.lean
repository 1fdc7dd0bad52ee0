import CourseLaunch.Command.Run
import CourseLaunch.Proofs.Course.Opening
import CourseLaunch.Proofs.Launch.Settling
/-!
# Waiting for everything to end

The program waits until nothing goes on by itself, lets the user close the popups that tasks wait
for, and waits again. Whatever the network does this is a history, in which no task is started and
no folder is gone to. A launch is at rest afterwards.
-/

namespace CourseLaunch.Command
open Backend Course Popup Schedule

/-! ### Histories -/

section Events

variable {σ : Type} [Tasks σ] {R : σ → σ → Prop}

/-- What relates a state to all that follows when popups are closed that tasks wait for, relates it
to the state after all of them are closed. -/
theorem dismiss_of_events (refl : ∀ s, R s s) (trans : ∀ s t u, R s t → R t u → R s u)
    (close : ∀ s task popup, R s (Tasks.look (Tasks.onDesktop s fun d => d.userCloses popup) task))
    (state : σ) : R state (dismiss state) := by
  unfold dismiss
  generalize List.range (Tasks.count state) = tasks
  induction tasks generalizing state with
  | nil => exact refl state
  | cons task tasks ih =>
    refine trans _ _ _ ?_ (ih (dismissFor state task))
    unfold dismissFor
    split
    · exact close state task _
    · exact refl state

/-- What also relates a state to what follows when tasks go on, relates it to the state after the
program has waited. -/
theorem attend_of_events (refl : ∀ s, R s s) (trans : ∀ s t u, R s t → R t u → R s u)
    (wake : ∀ s task, R s (Tasks.wake s task))
    (answer : ∀ s label a, R s (Tasks.answer s label a))
    (close : ∀ s task popup, R s (Tasks.look (Tasks.onDesktop s fun d => d.userCloses popup) task))
    (network : Network) (scene : Scene σ) (event : σ → σ) :
    R (event scene.state) (attend network scene event).state := by
  have settles (scene : Scene σ) : R scene.state (scene.settle network).state :=
    Scene.steps_of_events refl trans wake answer network _ scene
  let began : Scene σ := { scene with state := event scene.state }
  let waiting := began.settle network
  have closed : R waiting.state (dismiss waiting.state) := dismiss_of_events refl trans close _
  exact trans _ _ _ (trans _ _ _ (settles began) closed)
    (settles { waiting with state := dismiss waiting.state })

end Events

theorem browser_continues_attend (network : Network) (scene : Scene Browser)
    (event : Browser → Browser) :
    (event scene.state).Continues (attend network scene event).state :=
  attend_of_events Browser.Continues.refl (fun _ _ _ h h' => h.trans h')
    (fun b task => b.continues_after (m := .wake task) rfl)
    (fun b task a => b.continues_after (m := .answer task a) rfl)
    (fun b task popup => ⟨[.dismiss popup, .look task], by simp [Course.Move.goes], rfl⟩)
    network scene event

/-! ### Launches at rest -/

section Launch
open Launch

variable {submitted : Bool}

theorem watched?_dismiss_look {s : Session} {task popup : Nat}
    (watched : s.watched? task = some popup) (k : Nat) :
    ((s.after (.dismiss popup)).look task).watched? k =
      if k = task then none else s.watched? k := by
  have still : (s.after (.dismiss popup)).watched? task = some popup := watched
  have closed : (s.after (.dismiss popup)).desktop.isOpen popup = false := by
    show (s.desktop.userCloses popup).isOpen popup = false
    simp
  unfold Session.look
  rw [still]
  simp only [closed]
  exact Session.watched?_recover _ task k

/-- No task waits for a popup that the user closed, and all others wait as before. -/
theorem watched?_dismissFor (s : Session) (task k : Nat) :
    (dismissFor s task).watched? k = if k = task then none else s.watched? k := by
  unfold dismissFor
  cases watched : Tasks.watched? s task with
  | some popup => exact watched?_dismiss_look watched k
  | none =>
    show s.watched? k = _
    split
    case isTrue own => exact own ▸ watched
    case isFalse => rfl

/-- No task waits for a popup any more. -/
theorem watched?_dismiss (s : Session) (k : Nat) : (dismiss s).watched? k = none := by
  have closed (tasks : List Nat) (s : Session) :
      (tasks.foldl dismissFor s).watched? k = if k ∈ tasks then none else s.watched? k := by
    induction tasks generalizing s with
    | nil => rfl
    | cons task tasks ih =>
      rw [List.foldl_cons, ih, watched?_dismissFor]
      by_cases later : k ∈ tasks <;> simp [later]
  refine (closed _ s).trans ?_
  split
  · rfl
  case isFalse beyond =>
    have unknown : s.tasks.length ≤ k := Nat.le_of_not_lt fun old =>
      beyond (List.mem_range.mpr old)
    unfold Session.watched?
    rw [List.getElem?_eq_none unknown]
    rfl

theorem continues_close (s : Session) (task popup : Nat) :
    s.Continues ((s.after (.dismiss popup)).after (.look task)) :=
  ⟨[.dismiss popup, .look task], by simp [Move.starts, Move.task?], rfl⟩

/-- The program starts nothing while it waits for a task, beyond what the event has started. -/
theorem continues_attend (network : Network) (scene : Scene Session) (event : Session → Session) :
    (event scene.state).Continues (attend network scene event).state :=
  attend_of_events (fun s => ⟨[], by simp, rfl⟩) (fun _ _ _ h h' => h.trans h')
    Session.continues_wake (fun s id a => s.continues_after (m := .answer id a) rfl)
    continues_close network scene event

/-- After the program has waited, nothing goes on any more. -/
theorem attend_rests (network : Network) (scene : Scene Session) (event : Session → Session)
    (calm : (event scene.state).Calm submitted) :
    (attend network scene event).state.Calm submitted ∧
      (attend network scene event).state.Rests := by
  let began : Scene Session := { scene with state := event scene.state }
  let waiting := began.settle network
  let dismissed : Scene Session := { waiting with state := dismiss waiting.state }
  have waits : waiting.state.Calm submitted :=
    calm.continues (Session.continues_steps network _ began)
  have closed : waiting.state.Continues dismissed.state :=
    dismiss_of_events (fun s => ⟨[], by simp, rfl⟩) (fun _ _ _ h h' => h.trans h')
      continues_close waiting.state
  have still : dismissed.state.Calm submitted := waits.continues closed
  obtain ⟨kept, calls⟩ := still.settle network
  refine ⟨kept, kept.rests calls fun task => ?_⟩
  rw [Session.watched?_settle]
  exact watched?_dismiss waiting.state task

end Launch

end CourseLaunch.Command
