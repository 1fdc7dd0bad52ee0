import CourseLaunch.Proofs.Launch.History
/-!
# What every move keeps

Moves are made of a few things: a task is started, begins its round, waits for a popup or goes on
with a call, a report goes on, and much is changed that neither calls nor tasks depend on. What is
kept by each of these things is kept by every move.
-/

namespace CourseLaunch.Launch
open Activity Backend Popup

namespace Session

variable {s : Session} {P : Session → Prop}

/-! ### Reports -/

/-- What is kept by each of the things that a report does. -/
structure KeptByReports (P : Session → Prop) : Prop where
  hear : ∀ s channel, P s → P { s with channel := channel }
  goOn : ∀ s task r, r ≠ .submitting → P s → P (s.onTask task (Task.setReporter r))
  submit : ∀ s task request, s.isSubmitted = false → P s →
    P (({ s with isSubmitted := true }.onTask task (Task.setReporter .submitting)).call
      ⟨task, .submission⟩ request)

namespace KeptByReports

variable (kept : KeptByReports P)
include kept

theorem submitted (h : P s) (task : Nat) : P (s.submit task) := by
  unfold Session.submit
  cases s.config.grading with
  | none => exact kept.goOn s task _ (by simp) h
  | some grading =>
    simp only
    split
    · exact kept.goOn s task _ (by simp) h
    case isFalse first => exact kept.submit s task _ (by simpa using first) h

/-- A property of reports is kept while one listens. -/
theorem listen (h : P s) (task receiver patience : Nat) : P (s.listen patience task receiver) := by
  induction patience generalizing s with
  | zero => exact h
  | succ patience ih =>
    unfold Session.listen
    split
    case h_1 e channel receives =>
      have heard := kept.hear s channel h
      simp only
      split
      · exact kept.submitted (kept.hear _ _ heard) task
      · exact ih heard
    case h_2 lost channel receives => exact ih (kept.hear s channel h)
    case h_3 => exact kept.goOn _ task _ (by simp) (kept.hear _ _ h)
    case h_4 => exact h

/-- A property of reports is kept while one goes on. -/
theorem reportFor (h : P s) (task patience : Nat) : P (s.reportFor task patience) := by
  unfold Session.reportFor
  split
  case h_1 receiver known =>
    split
    · cases receiver with
      | some receiver => exact kept.listen (kept.goOn s task _ (by simp) h) task receiver patience
      | none => exact kept.submitted h task
    · exact h
  case h_2 receiver known => exact kept.listen h task receiver patience
  case h_3 => exact h

theorem beginReport (h : P s) (task : Nat) : P (s.beginReport task) := by
  unfold Session.beginReport
  cases s.config.grading with
  | none => exact kept.goOn s task _ (by simp) h
  | some grading =>
    simp only
    split
    · exact kept.reportFor (kept.goOn _ task _ (by simp) (kept.hear s _ h)) task _
    · exact kept.reportFor (kept.goOn s task _ (by simp) h) task _

end KeptByReports

/-! ### Tasks -/

/-- What is kept by each of the things that a move does, unless it starts a report. -/
structure KeptByTasks (P : Session → Prop) : Prop where
  aside : ∀ s t, t.client = s.client → t.tasks = s.tasks → t.isSubmitted = s.isSubmitted →
    P s → P t
  fetchAll : ∀ s, s.Sound → P s → P s.fetchAll
  abandon : ∀ s, P s → P (s.add .abandoned)
  watch : ∀ s task popup, s.tasks[task]? = some .abandoned → P s →
    P (s.onTask task fun _ => .authorizing popup)
  recover : ∀ s task t, s.tasks[task]? = some t → t.isIdle →
    (∀ id ∈ s.begunIds, id.task ≠ task) → P s → P (s.recover task)
  answer : ∀ s id a, s.Sound → P s → P (s.answer id a)
  resume : ∀ s id, s.Sound → P s → P (s.resume id)
  report : ∀ s task patience, P s → P (s.reportFor task patience)

namespace KeptByTasks

variable (kept : KeptByTasks P)
include kept

theorem authorize (h : P s) {task : Nat} (idle : s.tasks[task]? = some .abandoned)
    (path : String) : P (s.authorize task path) := by
  have authorizes := authorize_authorizes s task path
  generalize s.authorize task path = t at authorizes ⊢
  cases authorizes with
  | opened q a b d d' popup named turns asked =>
    exact kept.watch _ task popup idle (kept.aside s _ rfl rfl rfl h)
  | _ => exact kept.aside s _ rfl rfl rfl h

theorem retry (sound : s.Sound) (h : P s) : P s.retry := by
  have added : P (s.add .abandoned) := kept.abandon s h
  have found := found_add s .abandoned
  show P ((s.add .abandoned).tryAgain s.nextTask)
  unfold tryAgain
  split
  · exact added
  · cases (s.add .abandoned).page.authorizationUrl with
    | none => exact kept.recover _ _ _ found rfl (new_of_add sound _) added
    | some path => exact kept.authorize added found path

theorem look (sound : s.Sound) (h : P s) (task : Nat) : P (s.look task) := by
  unfold Session.look
  cases watched : s.watched? task with
  | none => exact h
  | some popup =>
    have found : s.tasks[task]? = some (.authorizing popup) := by
      obtain ⟨t, found, watches⟩ := Option.bind_eq_some_iff.mp watched
      cases t <;> simp_all [Task.watched?]
    simp only
    split
    · exact h
    · exact kept.recover _ task _ found rfl (new_of_idle sound found rfl)
        (kept.aside s _ rfl rfl rfl h)

theorem close (h : P s) : P s.close := by
  unfold Session.close
  cases s.authorization with
  | none => exact h
  | some a => exact kept.aside s _ rfl rfl rfl h

/-- A property of moves is kept by every move that starts no report. -/
theorem after (sound : s.Sound) (h : P s) {m : Move} (silent : m.reports = false) :
    P (s.after m) := by
  cases m with
  | reportSubmission => cases silent
  | run => cases silent
  | fetchAll => exact kept.fetchAll s sound h
  | retry => exact kept.retry sound h
  | answer id a => exact kept.answer s id a sound h
  | resume id => exact kept.resume s id sound h
  | report task patience => exact kept.report s task patience h
  | look task => exact kept.look sound h task
  | close => exact kept.close h
  | _ => exact kept.aside s _ rfl rfl rfl h

end KeptByTasks

/-- What is kept by each of the things that a move does. -/
structure KeptByMoves (P : Session → Prop) : Prop extends KeptByTasks P, KeptByReports P where
  startReport : ∀ s, s.Sound → P s → P (s.add (.reporting .starting))
  startRun : ∀ s, s.Sound → P s → P ((s.add (.running .begun .starting)).beginRound s.nextTask)

/-- A property of moves is kept by every move. -/
theorem KeptByMoves.after (kept : KeptByMoves P) (sound : s.Sound) (h : P s) (m : Move) :
    P (s.after m) := by
  cases m with
  | reportSubmission => exact kept.beginReport (kept.startReport s sound h) s.nextTask
  | run => exact kept.beginReport (kept.startRun s sound h) s.nextTask
  | _ => exact kept.toKeptByTasks.after sound h rfl

end Session

end CourseLaunch.Launch
