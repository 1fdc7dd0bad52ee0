import CourseLaunch.Proofs.Backend.Progress
import CourseLaunch.Proofs.Launch.Display
import CourseLaunch.Proofs.Launch.Fetching
import CourseLaunch.Proofs.Schedule.Runs
import CourseLaunch.Proofs.Schedule.Settling
/-!
# A launch comes to rest

The calls of a launch are calls of one client, so nobody waits in vain. While no report waits for
anything but its submission, every answer and every turn leaves less to do, and when nothing is left
no call is under way. Then all rounds are over, and only tasks that wait for the user still run.
-/

namespace CourseLaunch.Launch
open Activity Backend Popup Schedule

namespace Task

@[simp] theorem watched?_mapRound (t : Task) (change : Round → Round) :
    (t.mapRound change).watched? = t.watched? := by cases t <;> rfl

@[simp] theorem watched?_setReporter (t : Task) (r : Reporter) :
    (t.setReporter r).watched? = t.watched? := by cases t <;> rfl

end Task

namespace Session

variable {s t : Session}

/-! ### The client -/

/-- The calls of a session are served by a lawful client, and each was begun once. -/
structure Serves (s : Session) : Prop where
  unsubmitted : s.isSubmitted = false → ∀ id ∈ s.begunIds, id.part ≠ .submission
  lawful : s.client.Lawful
  queued : s.client.Queued

namespace Serves

theorem congr (serves : s.Serves) (client : t.client = s.client)
    (isSubmitted : t.isSubmitted = s.isSubmitted) : t.Serves := by
  have begun : t.begunIds = s.begunIds := congrArg (fun c => c.begun.map Prod.fst) client
  exact ⟨fun first id known => serves.unsubmitted (isSubmitted ▸ first) id (begun ▸ known),
    client ▸ serves.lawful, client ▸ serves.queued⟩

theorem moved (serves : s.Serves) (m : Client.Move CallId) (client : t.client = s.client.after m)
    (unsubmitted : t.isSubmitted = false → ∀ id ∈ t.begunIds, id.part ≠ .submission) :
    t.Serves where
  unsubmitted := unsubmitted
  lawful := client ▸ serves.lawful.after m
  queued := client ▸ serves.queued.steps serves.lawful (serves.lawful.after_steps m)

theorem call (serves : s.Serves) {id : CallId} (new : id ∉ s.begunIds)
    (noted : s.isSubmitted = false → id.part ≠ .submission) (request : Request) :
    (s.call id request).Serves := by
  have follows := follow_follows s id (s.client.begin id request)
  refine serves.moved (.start id request) ?_ fun first l known => ?_
  · rw [show (s.call id request).client = _ from follows.client]
    exact (if_neg new).symm
  · rw [show (s.call id request).isSubmitted = _ from follows.isSubmitted] at first
    rw [begunIds, show (s.call id request).client = _ from follows.client,
      (Client.begin_begins _ _ _).begun_eq, List.map_append, List.mem_append] at known
    rcases known with old | own
    · exact serves.unsubmitted first l old
    · obtain rfl : l = id := by simpa using own
      exact noted first

theorem advance (serves : s.Serves) {id : CallId} {p : Progress CallId} {m : Client.Move CallId}
    (client : p.1 = s.client.after m) (begun : p.1.begun = s.client.begun) :
    (s.follow id p).Serves := by
  have follows := follow_follows s id p
  refine serves.moved m (follows.client.trans client) fun first l known => ?_
  rw [begunIds, follows.client, begun] at known
  exact serves.unsubmitted (follows.isSubmitted ▸ first) l known

theorem answer (serves : s.Serves) (id : CallId) (a : Answer) : (s.answer id a).Serves :=
  serves.advance (m := .answer id a) rfl
    (Client.answer_advances serves.lawful.once id a).begun_eq

theorem resume (serves : s.Serves) (id : CallId) : (s.resume id).Serves :=
  serves.advance (m := .resume id) rfl (Client.resume_advances serves.lawful.once id).begun_eq

theorem beginFetch (serves : s.Serves) {task : Nat} {part : Part} (fetches : part ≠ .submission)
    (new : ⟨task, part⟩ ∉ s.begunIds) : (s.beginFetch task part).Serves := by
  unfold Session.beginFetch
  cases s.endpoint? part with
  | none =>
    simp only [finishFetch_eq]
    exact serves.congr rfl rfl
  | some e =>
    have begun : (s.onPage Page.beginFetch).Serves := serves.congr rfl rfl
    exact begun.call new (fun _ => fetches) _

theorem beginRound (serves : s.Serves) {task : Nat} (new : ∀ id ∈ s.begunIds, id.task ≠ task) :
    (s.beginRound task).Serves := by
  have content : (s.beginFetch task .content).Serves :=
    serves.beginFetch (by simp) fun known => new _ known rfl
  refine content.beginFetch (by simp) fun known => ?_
  rcases begunIds_beginFetch s task .content _ known with old | same
  · exact new _ old rfl
  · exact absurd same (by simp)

theorem recover (serves : s.Serves) {task : Nat} (new : ∀ id ∈ s.begunIds, id.task ≠ task) :
    (s.recover task).Serves := by
  have idle : (s.onTask task fun _ => .recovering .begun).Serves := serves.congr rfl rfl
  exact idle.beginRound new

end Serves

theorem serves_kept : KeptByReports Serves where
  hear _ _ serves := serves.congr rfl rfl
  goOn _ _ _ _ serves := serves.congr rfl rfl
  submit s task request first serves := by
    have noted :
        ({ s with isSubmitted := true }.onTask task (Task.setReporter .submitting)).Serves :=
      ⟨fun unsubmitted => (by cases unsubmitted), serves.lawful, serves.queued⟩
    refine noted.call (fun known => ?_) (fun unsubmitted => (by cases unsubmitted)) request
    exact serves.unsubmitted first _ known rfl

/-- A session serves its calls from the start. -/
theorem serves_initial (config : Config) (base : Web.Url) (token : String) (desktop : Desktop) :
    (initial config base token desktop).Serves where
  unsubmitted _ id known := by simp [begunIds, initial, ofConfig] at known
  lawful := Client.lawful_fresh base token
  queued := Client.queued_fresh base token

theorem Serves.addRound (serves : s.Serves) (sound : s.Sound) (task : Task) :
    ((s.add task).beginRound s.nextTask).Serves := by
  have added : (s.add task).Serves := serves.congr rfl rfl
  exact added.beginRound (new_of_add sound task)

theorem serves_moves : KeptByMoves Serves where
  toKeptByReports := serves_kept
  aside _ _ client _ isSubmitted serves := serves.congr client isSubmitted
  fetchAll _ sound serves := serves.addRound sound _
  abandon _ serves := serves.congr rfl rfl
  watch _ _ _ _ serves := serves.congr rfl rfl
  recover _ _ _ _ _ new serves := serves.recover new
  answer _ id a _ serves := serves.answer id a
  resume _ id _ serves := serves.resume id
  report _ task patience serves := serves_kept.reportFor serves task patience
  startReport _ _ serves := serves.congr rfl rfl
  startRun _ sound serves := serves.addRound sound _

/-! ### Reports that wait for nothing but their submission -/

/-- Every report is at its submission or over. -/
structure Quiet (submitted : Bool) (s : Session) : Prop where
  reports : ∀ task r, s.reporter? task = some r → r = .submitting ∨ r = .ended
  isSubmitted : s.isSubmitted = submitted

variable {submitted : Bool}

theorem quiet_initial (config : Config) (base : Web.Url) (token : String) (desktop : Desktop) :
    (initial config base token desktop).Quiet false :=
  ⟨fun task r known => by simp [Session.reporter?, initial, ofConfig] at known, rfl⟩

theorem Quiet.congr (quiet : s.Quiet submitted) (reports : ∀ k r, t.reporter? k = some r →
      s.reporter? k = some r) (isSubmitted : t.isSubmitted = s.isSubmitted) : t.Quiet submitted :=
  ⟨fun task r known => quiet.reports task r (reports task r known),
    isSubmitted.trans quiet.isSubmitted⟩

/-- A call that goes on starts no report. -/
theorem Quiet.follow (quiet : s.Quiet submitted) (id : CallId) (p : Progress CallId) :
    (s.follow id p).Quiet submitted := by
  have follows := follow_follows s id p
  generalize s.follow id p = t at follows ⊢
  cases follows with
  | underWay c => exact quiet.congr (fun _ _ known => known) rfl
  | fetched c result ok page groups fetches settles =>
    refine quiet.congr (fun k r known => ?_) rfl
    exact (reporter?_mapRound (s := s) id.task k _).symm.trans known
  | submitted c result page submits settles =>
    refine ⟨fun k r known => ?_, quiet.isSubmitted⟩
    replace known : (s.onTask id.task (Task.setReporter .ended)).reporter? k = some r := known
    by_cases ended : r = .ended
    · exact .inr ended
    · exact quiet.reports k r (reporter?_of_setReporter (Ne.symm ended) known)

theorem isSubmitted_beginFetch (s : Session) (task : Nat) (part : Part) :
    (s.beginFetch task part).isSubmitted = s.isSubmitted := by
  unfold beginFetch
  cases s.endpoint? part with
  | none =>
    simp only [finishFetch_eq]
    rfl
  | some e => exact (follow_follows _ _ _).isSubmitted

theorem Quiet.beginRound (quiet : s.Quiet submitted) (task : Nat) :
    (s.beginRound task).Quiet submitted :=
  quiet.congr (fun k _ known => reporter?_beginRound (s := s) task k ▸ known)
    ((isSubmitted_beginFetch _ task .groups).trans (isSubmitted_beginFetch s task .content))

theorem Quiet.add (quiet : s.Quiet submitted) {task : Task} (silent : task.reporter? = none) :
    (s.add task).Quiet submitted := by
  refine quiet.congr (fun k r known => ?_) rfl
  rw [reporter?_add] at known
  split at known
  · simp [silent] at known
  · exact known

theorem Quiet.recover (quiet : s.Quiet submitted) (task : Nat) :
    (s.recover task).Quiet submitted := by
  have idle : (s.onTask task fun _ => .recovering .begun).Quiet submitted :=
    quiet.congr (fun _ _ known => reporter?_onTask_const rfl known) rfl
  exact idle.beginRound task

/-- No task has a report that could go on. -/
theorem Quiet.reportFor_eq (quiet : s.Quiet submitted) (task patience : Nat) :
    s.reportFor task patience = s := by
  unfold reportFor
  cases known : s.tasks[task]?.bind Task.reporter? with
  | none => rfl
  | some r => rcases quiet.reports task r known with rfl | rfl <;> rfl

theorem Quiet.canReport_eq (quiet : s.Quiet submitted) (task : Nat) :
    s.canReport task = false := by
  unfold canReport
  cases known : s.tasks[task]?.bind Task.reporter? with
  | none => rfl
  | some r => rcases quiet.reports task r known with rfl | rfl <;> rfl

theorem quiet_tasks (submitted : Bool) : KeptByTasks (Quiet submitted) where
  aside s t _ tasks isSubmitted quiet := by
    refine quiet.congr (fun k r known => ?_) isSubmitted
    unfold Session.reporter? at known ⊢
    rwa [← tasks]
  fetchAll s _ quiet := by
    have added : (s.add (.fetching .begun)).Quiet submitted := quiet.add rfl
    exact added.beginRound s.nextTask
  abandon _ quiet := quiet.add rfl
  watch _ _ _ _ quiet :=
    quiet.congr (fun _ _ known => reporter?_onTask_const rfl known) rfl
  recover _ task _ _ _ _ quiet := quiet.recover task
  answer _ id _ _ quiet := quiet.follow id _
  resume _ id _ quiet := quiet.follow id _
  report _ task patience quiet := (quiet.reportFor_eq task patience).symm ▸ quiet

/-- A report that sets out among reports that are at their submission or over joins them. -/
theorem quiet_setReporter {task : Nat} {r : Reporter} (joins : r = .submitting ∨ r = .ended)
    (others : ∀ k r, k ≠ task → s.reporter? k = some r → r = .submitting ∨ r = .ended)
    (isSubmitted : s.isSubmitted = submitted) :
    (s.onTask task (Task.setReporter r)).Quiet submitted := by
  refine ⟨fun k r' known => ?_, isSubmitted⟩
  rw [reporter?_onTask_setReporter] at known
  split at known
  · obtain ⟨_, -, rfl⟩ := Option.map_eq_some_iff.mp known
    exact joins
  case isFalse other => exact others k r' (Ne.symm other) known

/-- A report that may submit submits, unless there is nothing to report. -/
theorem quiet_submit {task : Nat} (first : s.isSubmitted = false)
    (others : ∀ k r, k ≠ task → s.reporter? k = some r → r = .submitting ∨ r = .ended) :
    (s.submit task).Quiet s.config.grading.isSome ∧
      (s.config.grading.isSome → (s.submit task).submissions ≠ []) := by
  cases graded : s.config.grading with
  | none =>
    have ends : s.submit task = s.onTask task (Task.setReporter .ended) := by
      unfold Session.submit
      rw [graded]
    exact ends ▸ ⟨quiet_setReporter (.inr rfl) others first, fun graded => (by cases graded)⟩
  | some grading =>
    let request : Request := .post grading.path grading.submissionParams
    let noted := { s with isSubmitted := true }.onTask task (Task.setReporter .submitting)
    -- nothing was submitted before, so the call is begun
    have submits : s.submit task = noted.call ⟨task, .submission⟩ request := by
      unfold Session.submit
      rw [graded]
      exact if_neg (by simp [first])
    have quiet : noted.Quiet true :=
      quiet_setReporter (s := { s with isSubmitted := true }) (.inl rfl) others rfl
    have begun : (noted.call ⟨task, .submission⟩ request).submissions =
        noted.submissions ++ [⟨task, .submission⟩] :=
      submissions_of_begins rfl (Client.begin_begins _ _ request) (follow_follows _ _ _).client
    rw [submits]
    exact ⟨quiet.follow ⟨task, .submission⟩ _, fun _ => by simp [begun]⟩

/-- A report that may submit at once submits, unless there is nothing to report. -/
theorem Quiet.reportSubmission (quiet : s.Quiet false) (ready : s.page.contentReady)
    (atOnce : s.submitsOnAnnotation = false) :
    s.reportSubmission.Quiet s.config.grading.isSome ∧
      (s.config.grading.isSome → s.reportSubmission.submissions ≠ []) := by
  let added := s.add (.reporting .starting)
  have others (k : Nat) (r : Reporter) (other : k ≠ s.nextTask)
      (known : added.reporter? k = some r) : r = .submitting ∨ r = .ended := by
    rw [reporter?_add, if_neg other] at known
    exact quiet.reports k r known
  show (added.beginReport s.nextTask).Quiet added.config.grading.isSome ∧
    (added.config.grading.isSome → (added.beginReport s.nextTask).submissions ≠ [])
  unfold beginReport
  cases graded : added.config.grading with
  | none =>
    exact ⟨quiet_setReporter (.inr rfl) others quiet.isSubmitted, fun graded => (by cases graded)⟩
  | some grading =>
    have now : grading.submitOnAnnotation = false := (deferred_of_grading graded).symm.trans atOnce
    let waiting := added.onTask s.nextTask (Task.setReporter (.awaitingContent none))
    have starting : added.reporter? s.nextTask = some .starting := by
      rw [reporter?_add, if_pos rfl]
      rfl
    have waits : waiting.tasks[s.nextTask]?.bind Task.reporter? = some (.awaitingContent none) := by
      show waiting.reporter? s.nextTask = _
      rw [reporter?_onTask_setReporter, if_pos rfl, starting]
      rfl
    -- the content is known and nothing is deferred, so the report submits at once
    have submits : waiting.report s.nextTask = waiting.submit s.nextTask := by
      unfold report reportFor
      rw [waits]
      exact if_pos ready
    simp only [now]
    show (waiting.report s.nextTask).Quiet true ∧
      (true → (waiting.report s.nextTask).submissions ≠ [])
    rw [submits]
    have still (k : Nat) (r : Reporter) (other : k ≠ s.nextTask)
        (known : waiting.reporter? k = some r) : r = .submitting ∨ r = .ended := by
      rw [reporter?_onTask_setReporter, if_neg (Ne.symm other)] at known
      exact others k r other known
    have config : waiting.config.grading = some grading := graded
    have submitted := quiet_submit (s := waiting) quiet.isSubmitted still
    rwa [config] at submitted

/-- Whatever is done, a submission that was begun stays begun. -/
theorem Acts.submissions_ne_nil (h : s.Acts t) (sound : s.Sound) (begun : s.submissions ≠ []) :
    t.submissions ≠ [] := by
  induction h with
  | refl => exact begun
  | tail acts act ih =>
    rcases act.submissions (Acts.sound acts sound) with same | ⟨none, -⟩
    · exact same ▸ ih
    · exact absurd none ih

/-! ### Rest -/

/-- What a launch keeps while no report waits for anything but its submission. -/
structure Calm (submitted : Bool) (s : Session) : Prop where
  shown : s.Shown
  attends : s.Attends []
  serves : s.Serves
  quiet : s.Quiet submitted

theorem calm_initial (config : Config) (base : Web.Url) (token : String) (desktop : Desktop)
    (accepted : config.flaw? = none) : (initial config base token desktop).Calm false :=
  ⟨shown_initial config base token desktop accepted, attends_initial config base token desktop,
    serves_initial config base token desktop, quiet_initial config base token desktop⟩

/-- A session stays calm with every move that starts no report. -/
theorem Calm.after (calm : s.Calm submitted) {m : Move} (silent : m.reports = false) :
    (s.after m).Calm submitted where
  shown := calm.shown.after m
  attends := attends_moves.after calm.shown.sound calm.attends m
  serves := serves_moves.after calm.shown.sound calm.serves m
  quiet := (quiet_tasks submitted).after calm.shown.sound calm.quiet silent

/-- A report that may submit at once leaves a launch calm. -/
theorem Calm.reportSubmission (calm : s.Calm false) (ready : s.page.contentReady)
    (atOnce : s.submitsOnAnnotation = false) :
    s.reportSubmission.Calm s.config.grading.isSome where
  shown := calm.shown.after .reportSubmission
  attends := attends_moves.after calm.shown.sound calm.attends .reportSubmission
  serves := serves_moves.after calm.shown.sound calm.serves .reportSubmission
  quiet := (calm.quiet.reportSubmission ready atOnce).1

/-- A session stays calm while it goes on without new tasks. -/
theorem Calm.continues (calm : s.Calm submitted) (h : s.Continues t) : t.Calm submitted := by
  obtain ⟨moves, alone, rfl⟩ := h
  induction moves generalizing s with
  | nil => exact calm
  | cons m moves ih =>
    have silent : m.reports = false := by
      have alone := alone m List.mem_cons_self
      cases m <;> first | rfl | cases alone
    exact ih (calm.after silent) fun m' later => alone m' (List.mem_cons_of_mem m later)

theorem resume_eq_self {id : CallId} (stuck : s.client.canResume id = false) : s.resume id = s := by
  unfold resume
  rw [Client.resume_of_canResume stuck]
  rfl

theorem client_resume (s : Session) (id : CallId) : (s.resume id).client = (s.client.resume id).1 :=
  (follow_follows s id _).client

/-- When one of some calls has its turn, less is left when all of them were offered theirs. -/
theorem Serves.resumes (serves : s.Serves) (ids : List CallId) :
    (ids.foldl Session.resume s).client.remaining ≤ s.client.remaining ∧
      (ids.any s.client.canResume →
        (ids.foldl Session.resume s).client.remaining < s.client.remaining) := by
  induction ids generalizing s with
  | nil => exact ⟨Nat.le_refl _, fun can => by cases can⟩
  | cons id ids ih =>
    obtain ⟨rest, less⟩ := ih (serves.resume id)
    rw [List.foldl_cons]
    cases can : s.client.canResume id with
    | true =>
      have first := Client.remaining_resume_lt serves.lawful.once can
      rw [← client_resume] at first
      exact ⟨by omega, fun _ => by omega⟩
    | false =>
      rw [resume_eq_self can] at rest less ⊢
      exact ⟨rest, fun any => less (by simpa [can] using any)⟩

/-- Every event leaves less for the calls of a calm launch to do. -/
theorem winds_calm (submitted : Bool) :
    Winds (Calm submitted) fun s => s.client.remaining where
  wake s task calm ready := by
    refine ⟨calm.continues (continues_wake s task), ?_⟩
    have can : (callIds task).any s.client.canResume := by
      have ready : ((callIds task).any s.client.canResume || s.canReport task) = true := ready
      rwa [calm.quiet.canReport_eq, Bool.or_false] at ready
    have resumed : ((callIds task).foldl resume s).Quiet submitted := by
      have quiet := calm.quiet
      generalize callIds task = ids
      clear ready can calm
      induction ids generalizing s with
      | nil => exact quiet
      | cons id ids ih => exact ih _ (quiet.follow id _)
    -- the report does nothing, so all that happens is that a call goes on
    show (((callIds task).foldl resume s).report task).client.remaining < _
    unfold report
    rw [resumed.reportFor_eq]
    exact (calm.serves.resumes (callIds task)).2 can
  answer s flight a calm flies := by
    refine ⟨calm.after (m := .answer flight.1 a) rfl, ?_⟩
    show (s.answer flight.1 a).client.remaining < _
    rw [show (s.answer flight.1 a).client = _ from (follow_follows s flight.1 _).client]
    exact Client.remaining_answer_lt calm.serves.lawful.once flies a

/-- A calm launch goes on until no call is under way. -/
theorem Calm.settle {scene : Scene Session} (calm : scene.state.Calm submitted)
    (network : Network) : (scene.settle network).state.Calm submitted ∧
      (scene.settle network).state.client.calls = [] := by
  have enough : scene.state.client.remaining ≤ Tasks.budget scene.state := by
    have bound := scene.state.client.remaining_le_budget
    show _ ≤ scene.state.client.budget + scene.state.tasks.length + Client.eventsPerCall
    omega
  obtain ⟨kept, rests⟩ := Scene.steps_winds (winds_calm submitted) _ scene calm enough
  refine ⟨kept, ?_⟩
  obtain ⟨stuck, landed⟩ := Scene.rests_of_next? rests
  refine kept.serves.queued.calls_eq_nil kept.serves.lawful.once landed fun id underWay => ?_
  obtain ⟨t, found, -⟩ :=
    kept.shown.sound.busy id (kept.shown.sound.client.begun_of_label underWay)
  have unready : ((callIds id.task).any (scene.settle network).state.client.canResume ||
      (scene.settle network).state.canReport id.task) = false :=
    stuck id.task (List.getElem?_eq_some_iff.mp found).1
  rw [Bool.or_eq_false_iff, List.any_eq_false] at unready
  refine Bool.eq_false_iff.mpr (unready.1 id ?_)
  obtain ⟨task, part⟩ := id
  cases part <;> simp [callIds]

/-! ### Popups -/

theorem watched?_modify {change : Task → Task} (same : ∀ t, (change t).watched? = t.watched?)
    (task k : Nat) : (s.onTask task change).watched? k = s.watched? k := by
  unfold watched?
  rw [tasks_onTask, List.getElem?_modify]
  split <;> cases s.tasks[k]? <;> simp [same]

/-- A call that goes on has nothing to do with popups. -/
theorem Follows.watched? {id : CallId} {p : Progress CallId} (h : s.Follows id p t) (k : Nat) :
    t.watched? k = s.watched? k := by
  cases h with
  | underWay c => rfl
  | fetched c result ok page groups fetches settles =>
    exact watched?_modify (s := s) (fun t => t.watched?_mapRound _) id.task k
  | submitted c result page submits settles =>
    exact watched?_modify (s := s) (fun t => t.watched?_setReporter .ended) id.task k

theorem watched?_beginFetch (s : Session) (task : Nat) (part : Part) (k : Nat) :
    (s.beginFetch task part).watched? k = s.watched? k := by
  unfold beginFetch
  cases s.endpoint? part with
  | none =>
    simp only [finishFetch_eq]
    exact watched?_modify (fun t => t.watched?_mapRound _) task k
  | some e => exact (follow_follows _ _ _).watched? k

theorem watched?_beginRound (s : Session) (task k : Nat) :
    (s.beginRound task).watched? k = s.watched? k :=
  (watched?_beginFetch _ task .groups k).trans (watched?_beginFetch s task .content k)

/-- A task that fetches everything again waits for no popup. -/
theorem watched?_recover (s : Session) (task k : Nat) :
    (s.recover task).watched? k = if k = task then none else s.watched? k := by
  unfold recover
  rw [watched?_beginRound]
  unfold watched?
  rw [tasks_onTask, List.getElem?_modify]
  by_cases own : k = task
  · subst own
    cases s.tasks[k]? <;> simp [Task.watched?]
  · simp [own, Ne.symm own]

theorem watched?_kept (watchers : Nat → Option Nat) :
    KeptByReports fun s => ∀ k, s.watched? k = watchers k where
  hear _ _ same := same
  goOn _ task r _ same k :=
    (watched?_modify (fun t => t.watched?_setReporter r) task k).trans (same k)
  submit s task _ _ same k :=
    ((follow_follows _ _ _).watched? k).trans
      ((watched?_modify (s := { s with isSubmitted := true })
        (fun t => t.watched?_setReporter .submitting) task k).trans (same k))

/-- Popups are opened and closed only by the user and by tasks that look at them. -/
theorem watched?_settle (network : Network) (scene : Scene Session) (k : Nat) :
    (scene.settle network).state.watched? k = scene.state.watched? k := by
  refine Scene.steps_of_events (R := fun (s t : Session) => ∀ k, t.watched? k = s.watched? k)
    (fun _ _ => rfl) (fun _ _ _ h h' k => Eq.trans (h' k) (h k)) (fun s task => ?_)
    (fun s id a k => (follow_follows s id _).watched? k) network _ scene k
  refine (watched?_kept s.watched?).reportFor (fun k => ?_) task _
  exact (((follow_follows _ _ _).watched? k).trans ((follow_follows _ _ _).watched? k)).trans
    ((follow_follows s ⟨task, .content⟩ _).watched? k)

/-- Nothing goes on: no call is under way, and no task runs. -/
structure Rests (s : Session) : Prop where
  calls : s.client.calls = []
  tasks : ∀ task, s.isRunning task = false

theorem client_close (s : Session) : s.close.client = s.client := by
  unfold close
  cases s.authorization <;> rfl

theorem tasks_close (s : Session) : s.close.tasks = s.tasks := by
  unfold close
  cases s.authorization <;> rfl

theorem submissions_close (s : Session) : s.close.submissions = s.submissions := by
  unfold submissions begunIds
  rw [client_close]

/-- A session that has come to rest is at rest when it is closed. -/
theorem Rests.close (rests : s.Rests) : s.close.Rests := by
  refine ⟨(congrArg Client.calls s.client_close).trans rests.calls, fun task => ?_⟩
  unfold isRunning
  rw [tasks_close]
  exact rests.tasks task

/-- When no call is under way and nobody waits for a popup, all tasks are over. -/
theorem Calm.rests (calm : s.Calm submitted) (calls : s.client.calls = [])
    (alone : ∀ task, s.watched? task = none) : s.Rests := by
  refine ⟨calls, fun task => ?_⟩
  -- no call is under way, so no task is inside of one
  have outside (id : CallId) : ¬ s.Inside id := fun inside => by
    simpa [Client.labels, calls] using calm.attends id inside
  unfold isRunning
  cases found : s.tasks[task]? with
  | none => rfl
  | some t =>
    have round (r : Round) (known : t.round? = some r) : r.outcome?.isSome := by
      have ended (part : Part) (fetches : part ≠ .submission) : (r.part? part).isSome := by
        by_contra waits
        exact outside ⟨task, part⟩ (.fetch task part r fetches
          (by simp [Session.round?, found, known]) (by simpa using waits))
      obtain ⟨content, fetched⟩ := Option.isSome_iff_exists.mp (ended .content (by simp))
      obtain ⟨groups, fetched'⟩ := Option.isSome_iff_exists.mp (ended .groups (by simp))
      unfold Round.part? at fetched fetched'
      simp [Round.outcome?, fetched, fetched']
    have report (r : Reporter) (known : t.reporter? = some r) : r = .ended := by
      have reports : s.reporter? task = some r := by simp [Session.reporter?, found, known]
      refine (calm.quiet.reports task r reports).resolve_left fun submits => ?_
      exact outside _ (.submission task (submits ▸ reports))
    have unwatched := alone task
    unfold watched? at unwatched
    rw [found] at unwatched
    cases t with
    | authorizing popup => cases unwatched
    | _ => simp_all [Task.isRunning, Task.round?, Task.reporter?]

/-- A task that has a round keeps it through every history. -/
theorem round?_afterAll (sound : s.Sound) {task : Nat} (fetched : (s.round? task).isSome)
    (moves : List Move) : ((s.afterAll moves).round? task).isSome := by
  have acts := acts_afterAll sound moves
  generalize s.afterAll moves = t at acts ⊢
  induction acts with
  | refl => exact fetched
  | tail _ act ih => exact act.round?_isSome ih

/-- At rest the page shows the content or a dialog, when something was to be fetched. -/
theorem Calm.ready (calm : s.Calm submitted) (rests : s.Rests) {task : Nat}
    (fetched : (s.round? task).isSome) (silent : s.page.view.dialog = none) :
    s.page.contentReady := by
  obtain ⟨r, known⟩ := Option.isSome_iff_exists.mp fetched
  obtain ⟨t, found, has⟩ := Option.bind_eq_some_iff.mp known
  have none : s.page.problem = none := by
    cases shown : s.page.problem with
    | none => rfl
    | some problem => simp [Page.view, shown] at silent
  by_contra unknown
  have spins : s.page.view.showSpinner :=
    (Page.showSpinner_iff _).mpr ⟨none, by simpa [Page.contentReady] using unknown⟩
  have waits : r.part? .content = .none :=
    calm.shown.grounded.round_waits calm.shown.accepted calm.shown.accounted spins known
  have runs : s.isRunning task := by
    unfold isRunning
    rw [found]
    exact t.isRunning_of_round? has (Round.outcome?_eq_none (by simp) waits)
  simp [rests.tasks task] at runs

end Session

end CourseLaunch.Launch
