import CourseLaunch.Proofs.Activity.Ahead
import CourseLaunch.Proofs.Launch.Submission
/-!
# What happens to the receivers of the reports

Every move but a publication leaves the receivers of most reports alone. It may give one to a new
report, let one report receive, and take the receiver from a report that has submitted, or that has
come to the end of the activity. So an event that is ahead of a report stays ahead of it until
something is submitted.
-/

namespace CourseLaunch.Launch
open Activity Backend Popup

namespace Session

variable {s t u : Session}

/-- What happens to the receivers of the reports, step by step. -/
inductive Heeds (s t : Session) : Prop where
  | apart (channel : t.channel = s.channel) (receivers : ∀ k, t.receiver? k = s.receiver? k)
      (submitted : s.isSubmitted → t.isSubmitted)
  | takes (task : Nat) (channel : t.channel = s.channel.subscribe.2)
      (own : t.receiver? task = some s.channel.nextReceiver)
      (others : ∀ k, k ≠ task → t.receiver? k = s.receiver? k)
      (first : s.receiver? task = none) (submitted : s.isSubmitted → t.isSubmitted)
  | receives (task receiver : Nat) (received : Received)
      (holds : s.receiver? task = some receiver)
      (receives : s.channel.receive? receiver = some (received, t.channel))
      (idle : ∀ e, received = .event e → e.qualifies = false)
      (receivers : ∀ k, t.receiver? k = s.receiver? k)
      (submitted : s.isSubmitted → t.isSubmitted)
  | submits (task receiver : Nat) (e : Event) (c : Channel)
      (holds : s.receiver? task = some receiver)
      (receives : s.channel.receive? receiver = some (.event e, c))
      (channel : t.channel = c.unsubscribe receiver) (own : t.receiver? task = none)
      (others : ∀ k, k ≠ task → t.receiver? k = s.receiver? k) (submitted : t.isSubmitted)
  | retires (task receiver : Nat) (c : Channel) (holds : s.receiver? task = some receiver)
      (closed : s.channel.receive? receiver = some (.closed, c))
      (channel : t.channel = s.channel.unsubscribe receiver) (own : t.receiver? task = none)
      (others : ∀ k, k ≠ task → t.receiver? k = s.receiver? k)
      (submitted : s.isSubmitted → t.isSubmitted)
  | ends (task : Nat) (channel : t.channel = s.channel) (own : t.receiver? task = none)
      (others : ∀ k, k ≠ task → t.receiver? k = s.receiver? k) (submitted : t.isSubmitted)
  | closes (channel : t.channel = s.channel.close) (receivers : ∀ k, t.receiver? k = s.receiver? k)
      (submitted : s.isSubmitted → t.isSubmitted)

def Heeding : Session → Session → Prop := Relation.ReflTransGen Heeds

theorem Heeds.heeding (h : s.Heeds t) : s.Heeding t := .single h

/-! ### Submissions -/

/-- A task holds no receiver, and nothing else has happened to the receivers. -/
structure Quits (s : Session) (task : Nat) (t : Session) : Prop where
  channel : t.channel = s.channel
  own : t.receiver? task = none
  others : ∀ k, k ≠ task → t.receiver? k = s.receiver? k
  submitted : s.isSubmitted → t.isSubmitted

theorem quits_setReporter (s : Session) (task : Nat) {r : Reporter} (free : r.receiver? = none) :
    s.Quits task (s.onTask task (Task.setReporter r)) := by
  refine ⟨rfl, ?_, fun k other => ?_, id⟩
  · unfold receiver?
    rw [reporter?_onTask_setReporter, if_pos rfl]
    cases s.reporter? task with
    | none => rfl
    | some _ => exact free
  · unfold receiver?
    rw [reporter?_onTask_setReporter, if_neg fun same => other same.symm]

theorem Quits.trans {task : Nat} (h : s.Quits task t) (h' : t.Quits task u) : s.Quits task u where
  channel := h'.channel.trans h.channel
  own := h'.own
  others k other := (h'.others k other).trans (h.others k other)
  submitted before := h'.submitted (h.submitted before)

/-- What becomes of a submission leaves its task without a receiver. -/
theorem Follows.quits {task : Nat} {p : Progress CallId}
    (h : s.Follows ⟨task, .submission⟩ p t) (free : s.receiver? task = none) : s.Quits task t := by
  cases h with
  | underWay c => exact ⟨rfl, free, fun _ _ => rfl, id⟩
  | fetched c result ok page groups fetches settles => exact absurd rfl fetches
  | submitted c result page submits settles =>
    have quits := quits_setReporter s task (r := .ended) rfl
    exact ⟨quits.channel, quits.own, quits.others, quits.submitted⟩

/-- A submission lets the receiver of its task go, and begins the call if there is something to
report. -/
theorem submit_quits (s : Session) (task : Nat) : s.Quits task (s.submit task) := by
  unfold submit
  cases s.config.grading with
  | none => exact quits_setReporter s task rfl
  | some grading =>
    simp only
    split
    · exact quits_setReporter s task rfl
    · have begins : s.Quits task
          ({ s with isSubmitted := true }.onTask task (Task.setReporter .submitting)) := by
        have quits := quits_setReporter s task (r := .submitting) rfl
        exact ⟨quits.channel, quits.own, quits.others, fun _ => rfl⟩
      exact begins.trans ((follow_follows _ _ _).quits begins.own)

theorem isSubmitted_submit {task : Nat} (graded : s.config.grading.isSome) :
    (s.submit task).isSubmitted := by
  obtain ⟨grading, graded⟩ := Option.isSome_iff_exists.mp graded
  simp only [submit, graded]
  split
  case isTrue before => exact before
  case isFalse => exact (follow_follows _ _ _).isSubmitted

/-! ### Reports -/

/-- A report that listens takes one event after the other, and submits when one qualifies. -/
theorem listen_heeds (patience : Nat) {task receiver : Nat} (graded : s.config.grading.isSome)
    (holds : s.receiver? task = some receiver) : s.Heeding (s.listen patience task receiver) := by
  induction patience generalizing s with
  | zero => exact .refl
  | succ patience ih =>
    unfold listen
    cases receives : s.channel.receive? receiver with
    | none => exact .refl
    | some got =>
      obtain ⟨received, c⟩ := got
      -- whatever else was received, the report listens on
      have goOn (idle : ∀ e, received = .event e → e.qualifies = false) :
          s.Heeding (listen patience { s with channel := c } task receiver) := by
        have heeds : s.Heeds { s with channel := c } :=
          .receives task receiver received holds receives idle (fun _ => rfl) id
        exact .head heeds (ih (s := { s with channel := c }) graded holds)
      cases received with
      | event e =>
        simp only
        split
        case isTrue qualifies =>
          have quits := submit_quits (unsubscribe { s with channel := c } receiver) task
          exact Heeds.heeding (.submits task receiver e c holds receives quits.channel quits.own
            quits.others (isSubmitted_submit graded))
        case isFalse idle =>
          refine goOn fun e' same => ?_
          obtain rfl : e = e' := by simpa using same
          simpa using idle
      | lagged lost => exact goOn fun e same => by cases same
      | empty => exact .refl
      | closed =>
        have quits := quits_setReporter (s.unsubscribe receiver) task (r := .ended) rfl
        exact Heeds.heeding (.retires task receiver c holds receives quits.channel quits.own
          quits.others quits.submitted)

/-- A report that holds no receiver leaves the receivers alone. -/
theorem Quits.apart {task : Nat} (h : s.Quits task t) (free : s.receiver? task = none) :
    s.Heeds t := by
  refine .apart h.channel (fun k => ?_) h.submitted
  by_cases own : k = task
  · rw [own, h.own, free]
  · exact h.others k own

theorem receiver?_setReporter {task : Nat} (r : Reporter) (reports : (s.reporter? task).isSome)
    (k : Nat) : (s.onTask task (Task.setReporter r)).receiver? k =
      if task = k then r.receiver? else s.receiver? k := by
  obtain ⟨old, known⟩ := Option.isSome_iff_exists.mp reports
  unfold receiver?
  rw [reporter?_onTask_setReporter]
  split
  case isTrue own => rw [← own, known]; rfl
  case isFalse => rfl

/-- A report that goes on only receives, submits, or stops. -/
theorem reportFor_heeds (task patience : Nat) (graded : s.config.grading.isSome) :
    s.Heeding (s.reportFor task patience) := by
  unfold reportFor
  cases reporter : s.tasks[task]?.bind Task.reporter? with
  | none => exact .refl
  | some r =>
    have known : s.reporter? task = some r := reporter
    cases r with
    | awaitingContent receiver =>
      simp only
      split
      case isFalse => exact .refl
      case isTrue ready =>
        cases receiver with
        | none =>
          have free : s.receiver? task = none := by simp [receiver?, known, Reporter.receiver?]
          exact ((submit_quits s task).apart free).heeding
        | some receiver =>
          have holds : s.receiver? task = some receiver := by
            simp [receiver?, known, Reporter.receiver?]
          -- to begin to listen does not change who holds which receiver
          have receivers (k : Nat) :
              (s.onTask task (Task.setReporter (.listening receiver))).receiver? k =
                s.receiver? k := by
            rw [receiver?_setReporter _ (by simp [known])]
            split
            case isTrue own => exact holds.symm.trans (congrArg s.receiver? own)
            case isFalse => rfl
          have begins : s.Heeds (s.onTask task (Task.setReporter (.listening receiver))) :=
            .apart rfl receivers id
          exact .head begins (listen_heeds patience graded ((receivers task).trans holds))
    | listening receiver =>
      exact listen_heeds patience graded (by simp [receiver?, known, Reporter.receiver?])
    | _ => exact .refl

/-- A report subscribes before it waits for anything. -/
theorem beginReport_heeds {task : Nat} (deferred : s.submitsOnAnnotation)
    (starting : s.reporter? task = some .starting) : s.Heeding (s.beginReport task) := by
  have reports : (s.reporter? task).isSome := by simp [starting]
  obtain ⟨grading, graded, deferred⟩ := (Option.any_eq_true _ _).mp deferred
  have takes : s.Heeds (s.subscribed task) := by
    refine .takes task rfl (receiver?_subscribed reports) (fun k other => ?_) ?_ id
    · exact (receiver?_setReporter (s := { s with channel := s.channel.subscribe.2 }) _ reports
        k).trans (if_neg fun same => other same.symm)
    · simp [receiver?, starting, Reporter.receiver?]
  have rest : (s.subscribed task).Heeding ((s.subscribed task).report task) :=
    reportFor_heeds task _ (Option.isSome_iff_exists.mpr ⟨grading, graded⟩)
  unfold beginReport
  simp only [graded, deferred, if_true]
  exact .head takes rest

/-! ### Fetches and retries -/

/-- A fetch has nothing to do with the receivers. -/
theorem Follows.heeds {id : CallId} {p : Progress CallId} (h : s.Follows id p t)
    (fetches : id.part ≠ .submission) : s.Heeds t := by
  refine .apart h.channel (fun k => ?_) fun before => h.isSubmitted.trans before
  exact congrArg (fun reporter => reporter.bind Reporter.receiver?) (h.reporter? fetches k)

theorem beginFetch_heeds {part : Part} (fetches : part ≠ .submission) (s : Session) (task : Nat) :
    s.Heeding (s.beginFetch task part) := by
  unfold beginFetch
  cases s.endpoint? part with
  | none =>
    simp only [finishFetch_eq]
    refine Heeds.heeding (.apart rfl (fun k => ?_) id)
    exact congrArg (fun reporter => reporter.bind Reporter.receiver?) (reporter?_mapRound task k _)
  | some e =>
    have begins : s.Heeds (s.onPage Page.beginFetch) := .apart rfl (fun _ => rfl) id
    exact .head begins ((follow_follows _ _ _).heeds fetches).heeding

theorem beginRound_heeds (s : Session) (task : Nat) : s.Heeding (s.beginRound task) :=
  (beginFetch_heeds (by simp) s task).trans (beginFetch_heeds (by simp) _ task)

/-- A task that reports nothing becomes another one that reports nothing. -/
theorem becomes_heeds {task : Nat} {old new : Task} (found : s.tasks[task]? = some old)
    (silent : old.reporter? = none) (silent' : new.reporter? = none) :
    s.Heeds (s.onTask task fun _ => new) := by
  refine .apart rfl (fun k => ?_) id
  unfold receiver? reporter?
  rw [tasks_onTask, List.getElem?_modify]
  split
  case isTrue own => rw [← own, found]; simp [silent, silent']
  case isFalse => simp

theorem recover_heeds {task : Nat} {old : Task} (found : s.tasks[task]? = some old)
    (silent : old.reporter? = none) : s.Heeding (s.recover task) :=
  .head (becomes_heeds found silent rfl) (beginRound_heeds _ task)

theorem authorize_heeds {task : Nat} {path : String} (idle : s.tasks[task]? = some .abandoned) :
    s.Heeding (s.authorize task path) := by
  have authorizes := authorize_authorizes s task path
  generalize s.authorize task path = t at authorizes ⊢
  cases authorizes with
  | opened q a b d d' popup named turns asked =>
    let asking := { s with authorization := some b, desktop := d' }.onPage
      Page.askAuthorization
    have asks : s.Heeds asking := .apart rfl (fun _ => rfl) id
    have waits : asking.Heeds (asking.onTask task fun _ => .authorizing popup) :=
      becomes_heeds idle rfl rfl
    exact .head asks waits.heeding
  | _ => exact Heeds.heeding (.apart rfl (fun _ => rfl) id)

/-- A retry has nothing to do with the receivers. -/
theorem tryAgain_heeds {task : Nat} (idle : s.tasks[task]? = some .abandoned) :
    s.Heeding (s.tryAgain task) := by
  unfold tryAgain
  split
  · exact .refl
  · cases s.page.authorizationUrl with
    | some path => exact authorize_heeds idle
    | none => exact recover_heeds idle rfl

/-- A look at a popup has nothing to do with the receivers. -/
theorem look_heeds (s : Session) (task : Nat) : s.Heeding (s.look task) := by
  unfold look
  cases watched : s.watched? task with
  | none => exact .refl
  | some popup =>
    obtain ⟨t, found, watches⟩ := Option.bind_eq_some_iff.mp watched
    obtain rfl : t = .authorizing popup := by cases t <;> simp_all [Task.watched?]
    simp only
    split
    · exact .refl
    · have ends : s.Heeds ({ s with
          authorization := s.authorization.map fun (a : Authorization) => a.release popup }.onPage
            Page.endAuthorization) := .apart rfl (fun _ => rfl) id
      exact .head ends (recover_heeds found rfl)

/-! ### Moves -/

/-- A new task holds no receiver. -/
theorem add_heeds (s : Session) {task : Task} {m : Move} (start : m.task? = some task) :
    s.Heeds (s.add task) := by
  refine .apart rfl (fun k => ?_) id
  unfold receiver?
  rw [reporter?_add]
  split
  case isTrue own =>
    have unknown : s.reporter? k = none := by simp [reporter?, own, nextTask]
    rw [unknown]
    cases reports : task.reporter? with
    | none => rfl
    | some r =>
      obtain rfl := Move.reporter?_of_task? start reports
      rfl
  case isFalse => rfl

/-- What becomes of a call. A submission that ends was begun. -/
theorem follow_heeds (sound : s.Sound) {id : CallId} {p : Progress CallId}
    (advances : s.client.Advances id p) : s.Heeding (s.follow id p) := by
  have follows := follow_follows s id p
  generalize s.follow id p = t at follows ⊢
  cases follows with
  | underWay c => exact Heeds.heeding (.apart rfl (fun _ => rfl) fun before => before)
  | fetched c result ok page groups fetches settles =>
    have follows := Follows.fetched (s := s) c result ok page groups fetches settles
    exact (follows.heeds fetches).heeding
  | submitted c result page submits settles =>
    have begun := sound.client.begun_of_label (advances.known rfl)
    have submitted : s.isSubmitted := by
      by_contra first
      exact sound.unsubmitted (by simpa using first) id begun submits
    have quits := quits_setReporter s id.task (r := .ended) rfl
    exact Heeds.heeding (.ends id.task rfl quits.own quits.others submitted)

theorem round_heeds (s : Session) {task : Task} {m : Move} (start : m.task? = some task) :
    s.Heeding ((s.add task).beginRound s.nextTask) :=
  .head (add_heeds s start) (beginRound_heeds _ _)

/-- Every move but a publication leaves most receivers alone. -/
theorem after_heeds (sound : s.Sound) (deferred : s.submitsOnAnnotation) (m : Move)
    (silent : ∀ e, m ≠ .publish e) : s.Heeding (s.after m) := by
  have graded : s.config.grading.isSome := by
    obtain ⟨grading, graded, -⟩ := (Option.any_eq_true _ _).mp deferred
    exact Option.isSome_iff_exists.mpr ⟨grading, graded⟩
  cases m with
  | fetchAll => exact round_heeds s (m := .fetchAll) rfl
  | retry => exact .head (add_heeds s (m := .retry) rfl) (tryAgain_heeds (found_add s .abandoned))
  | reportSubmission =>
    have starting : (s.add (.reporting .starting)).reporter? s.nextTask = some .starting := by
      rw [reporter?_add, if_pos rfl]
      rfl
    exact .head (add_heeds s (m := .reportSubmission) rfl) (beginReport_heeds deferred starting)
  | run =>
    have starting : ((s.add (.running .begun .starting)).beginRound s.nextTask).reporter?
        s.nextTask = some .starting := by
      rw [reporter?_beginRound, reporter?_add, if_pos rfl]
      rfl
    have busy : ((s.add (.running .begun .starting)).round? s.nextTask).isSome := by
      simp [Session.round?, found_add, Task.round?]
    have config : ((s.add (.running .begun .starting)).beginRound s.nextTask).config = s.config :=
      (beginRound_steps busy (new_of_add sound _)).acts.config
    exact (round_heeds s (m := .run) rfl).trans
      (beginReport_heeds ((deferred_congr config).trans deferred) starting)
  | answer id a => exact follow_heeds sound (Client.answer_advances sound.client.labels_nodup id a)
  | resume id => exact follow_heeds sound (Client.resume_advances sound.client.labels_nodup id)
  | report task patience => exact reportFor_heeds task patience graded
  | look task => exact look_heeds s task
  | close =>
    refine Heeds.heeding (.apart ?_ (fun k => ?_) ?_)
    all_goals
      simp only [after, close]
      split <;> first | rfl | exact id
  | publish e => exact absurd rfl (silent e)
  | endActivity => exact Heeds.heeding (.closes rfl (fun _ => rfl) id)
  | dismiss popup => exact Heeds.heeding (.apart rfl (fun _ => rfl) id)
  | block blocked => exact Heeds.heeding (.apart rfl (fun _ => rfl) id)

end Session

end CourseLaunch.Launch
