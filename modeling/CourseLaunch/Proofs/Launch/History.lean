import CourseLaunch.Proofs.Launch.Report
/-!
# Moves as acts

Every move of a sound session is a sequence of acts (`after_after`), so what every act keeps is
kept by every history, and no proof about a session has to look into its functions again. A move
makes steps after its task was added; only a publication, a submission and a subscription are more
than that.
-/

namespace CourseLaunch.Launch
open Activity Backend Popup

namespace Session

variable {s t : Session}

/-! ### Fetches -/

theorem TaskStep.round? {deferred ready : Bool} {a b : Option Task}
    (h : TaskStep deferred ready a b)
    (busy : (a.bind Task.round?).isSome) : (b.bind Task.round?).isSome := by
  cases h with
  | same => exact busy
  | round t change => simpa using busy
  | report t r may => simpa using busy
  | watch popup => simp [Task.round?] at busy
  | recover t idle => rfl

/-- To begin a fetch is one step. -/
theorem beginFetch_steps {task : Nat} {part : Part} (fetches : part ≠ .submission)
    (busy : (s.round? task).isSome) (new : ⟨task, part⟩ ∉ s.begunIds) :
    Step s (s.beginFetch task part) := by
  unfold beginFetch
  cases endpoint : s.endpoint? part with
  | none =>
    simp only [finishFetch_eq]
    exact .skip task part fetches endpoint
  | some e =>
    exact .fetch ⟨task, part⟩ e _ _ fetches endpoint busy new (Client.begin_begins _ _ _)
      (follow_follows _ _ _)

theorem begunIds_beginFetch (s : Session) (task : Nat) (part : Part) :
    ∀ id ∈ (s.beginFetch task part).begunIds, id ∈ s.begunIds ∨ id = ⟨task, part⟩ := by
  intro id known
  unfold beginFetch at known
  cases endpoint : s.endpoint? part with
  | none =>
    rw [endpoint] at known
    simp only [finishFetch_eq] at known
    exact .inl known
  | some e =>
    rw [endpoint] at known
    unfold begunIds at known
    rw [show ((s.onPage Page.beginFetch).call ⟨task, part⟩ (.ofEndpoint e)).client = _ from
      (follow_follows _ _ _).client, (Client.begin_begins _ _ _).begun_eq] at known
    simpa [begunIds] using known

/-- To begin a round is two steps, one for each fetch. -/
theorem beginRound_steps {task : Nat} (busy : (s.round? task).isSome)
    (new : ∀ id ∈ s.begunIds, id.task ≠ task) : s.Steps (s.beginRound task) := by
  have content : Step s (s.beginFetch task .content) :=
    beginFetch_steps (by simp) busy fun known => new _ known rfl
  -- the call for the groups is new, because the first fetch begins no call but its own
  refine .tail content.steps (beginFetch_steps (by simp) ((content.task task).round? busy) ?_)
  intro known
  rcases begunIds_beginFetch s task .content _ known with old | same
  · exact new _ old rfl
  · exact absurd same (by simp)

/-! ### Authorization -/

/-- A session turns to a page that has an address. -/
theorem turnTo_turns {path : String} {page : Web.Url}
    (named : s.client.base.join path = .ok page) :
    ∃ a d, s.turnTo path = .ok (a, { s with desktop := d }) ∧ s.custody.Turns page a d := by
  unfold turnTo
  rw [named]
  simp only
  split
  case h_1 none => exact ⟨_, _, rfl, .first none⟩
  case h_2 a held =>
    split
    case isTrue same => exact ⟨_, _, rfl, .held a held same⟩
    case isFalse other => exact ⟨_, _, rfl, .instead a held other⟩

/-- A session cannot turn to a page without an address. -/
theorem turnTo_error {path : String} {fault : Web.Fault}
    (named : s.client.base.join path = .error fault) :
    s.turnTo path = .error (.unresolved path fault) := by
  unfold turnTo
  rw [named]

/-- A task that asks the user to authorize ends in one of three ways. -/
theorem authorize_authorizes (s : Session) (task : Nat) (path : String) :
    s.Authorizes task path (s.authorize task path) := by
  unfold authorize
  cases named : s.client.base.join path with
  | error fault =>
    simp only [turnTo_error (s := s.onPage Page.askAuthorization) named]
    exact .unresolved fault named
  | ok page =>
    obtain ⟨a, d, turned, turns⟩ := turnTo_turns (s := s.onPage Page.askAuthorization) named
    rcases asked : a.openOrFocus s.client.token d with ⟨popup, b, d'⟩
    simp only [turned]
    simp only [onPage, asked]
    cases popup with
    | some popup => exact .opened page a b d d' popup named turns asked
    | none => exact .blocked page a b d d' named turns asked

/-! ### Rounds after a popup -/

theorem new_of_idle (sound : s.Sound) {task : Nat} {t : Task} (found : s.tasks[task]? = some t)
    (idle : t.isIdle) : ∀ id ∈ s.begunIds, id.task ≠ task := by
  intro id known same
  obtain ⟨t', found', active⟩ := sound.busy id known
  rw [same, found] at found'
  obtain rfl := Option.some.inj found'
  simp [idle] at active

theorem round?_recovering {task : Nat} {t : Task} (found : s.tasks[task]? = some t) :
    ((s.onTask task fun _ => .recovering .begun).round? task).isSome := by
  simp [round?, found, Task.round?]

/-- A retry takes some steps: it opens a popup or begins a round. -/
theorem tryAgain_steps (sound : s.Sound) {task : Nat} (idle : s.tasks[task]? = some .abandoned) :
    s.Steps (s.tryAgain task) := by
  -- a retry of a final page does nothing, and one with a page for authorization asks first
  unfold tryAgain
  split
  · exact .refl
  case isFalse allowed =>
    have allowed := Problem.all_allowsRetry allowed
    cases page : s.page.authorizationUrl with
    | some path =>
      exact (Step.authorize task path _ idle allowed page (authorize_authorizes s task path)).steps
    | none =>
      exact .head (.recover task idle allowed page)
        (beginRound_steps (round?_recovering idle) (new_of_idle sound idle rfl))

/-- A look at a popup takes some steps: when the popup was closed, everything is fetched again. -/
theorem look_steps (sound : s.Sound) (task : Nat) : s.Steps (s.look task) := by
  unfold look
  cases watched : s.watched? task with
  | none => exact .refl
  | some popup =>
    have watching : s.tasks[task]? = some (.authorizing popup) := by
      obtain ⟨t, found, watches⟩ := Option.bind_eq_some_iff.mp watched
      cases t <;> simp_all [Task.watched?]
    simp only
    split
    · exact .refl
    case isFalse closed =>
      exact .head (.authorized task popup watching (by simpa using closed))
        (beginRound_steps (round?_recovering watching) (new_of_idle sound watching rfl))

/-! ### New tasks -/

theorem new_of_add (sound : s.Sound) (task : Task) :
    ∀ id ∈ (s.add task).begunIds, id.task ≠ s.nextTask := by
  intro id known same
  obtain ⟨t, found, -⟩ := sound.busy id known
  obtain ⟨old, -⟩ := List.getElem?_eq_some_iff.mp found
  exact absurd same (Nat.ne_of_lt old)

theorem found_add (s : Session) (task : Task) : (s.add task).tasks[s.nextTask]? = some task := by
  rw [getElem?_add, if_pos rfl]

theorem reporter?_mapRound (task k : Nat) (change : Round → Round) :
    (s.onTask task (Task.mapRound change)).reporter? k = s.reporter? k := by
  unfold reporter?
  rw [tasks_onTask, List.getElem?_modify]
  split <;> cases s.tasks[k]? <;> simp

theorem Follows.reporter? {id : CallId} {p : Progress CallId} (h : s.Follows id p t)
    (fetches : id.part ≠ .submission) (k : Nat) : t.reporter? k = s.reporter? k := by
  cases h with
  | underWay c => rfl
  | fetched c result ok page groups fetches settles => exact reporter?_mapRound id.task k _
  | submitted c result page submits settles => exact absurd submits fetches

theorem reporter?_beginFetch {part : Part} (fetches : part ≠ .submission) (task k : Nat) :
    (s.beginFetch task part).reporter? k = s.reporter? k := by
  unfold beginFetch
  cases s.endpoint? part with
  | none =>
    simp only [finishFetch_eq]
    exact reporter?_mapRound task k _
  | some e => exact (follow_follows _ _ _).reporter? fetches k

theorem reporter?_beginRound (task k : Nat) :
    (s.beginRound task).reporter? k = s.reporter? k := by
  unfold beginRound
  rw [reporter?_beginFetch (by simp), reporter?_beginFetch (by simp)]

/-! ### Moves -/

/-- What a move makes of a session. -/
inductive After (s : Session) (m : Move) : Session → Prop where
  | steps (t : Session) (steps : (s.opened m).Steps t) : After s m t
  | publishes (e : Event) (publishes : m = .publish e) :
      After s m { s with channel := (s.channel.publish e).2 }
  | submits (task : Nat) (u : Session) (steps : (s.opened m).Steps u) (submits : u.Submits task)
      (cause : (s.opened m).Cause task u) : After s m (u.submit task)
  | subscribes (u t : Session) (reports : m.reports) (steps : (s.opened m).Steps u)
      (starting : u.reporter? s.nextTask = some .starting) (deferred : u.submitsOnAnnotation)
      (rest : (u.subscribed s.nextTask).Steps t) : After s m t

theorem Reports.after {task : Nat} {m : Move} (h : s.Reports task t)
    (continues : s.opened m = s) : s.After m t := by
  cases h with
  | waits t steps => exact .steps t (by rwa [continues])
  | submits u steps submits cause =>
    exact .submits task u (by rwa [continues]) submits (by rwa [continues])

theorem BeginsReport.after {u : Session} {m : Move} (h : u.BeginsReport s.nextTask t)
    (reports : m.reports) (steps : (s.opened m).Steps u)
    (starting : u.reporter? s.nextTask = some .starting)
    (config : u.config = (s.opened m).config) : s.After m t := by
  cases h with
  | waits t rest => exact .steps t (steps.trans rest)
  | submits v rest submits atOnce =>
    exact .submits s.nextTask v (steps.trans rest) submits
      (.atOnce (deferred_congr config ▸ atOnce))
  | subscribes t deferred rest => exact .subscribes u t reports steps starting deferred rest

/-- A report on its own does what its move is said to do. -/
theorem reportSubmission_after (sound : s.Sound) :
    s.After .reportSubmission s.reportSubmission := by
  have opened : (s.add (.reporting .starting)).Sound :=
    (Act.join .reportSubmission _ rfl).sound sound
  have starting : (s.add (.reporting .starting)).reporter? s.nextTask = some .starting := by
    rw [reporter?_add, if_pos rfl]
    rfl
  exact (beginReport_begins opened starting).after (m := .reportSubmission) rfl .refl starting rfl

/-- A run does what its move is said to do: a round, and then a report. -/
theorem run_after (sound : s.Sound) : s.After .run s.run := by
  have opened : (s.add (.running .begun .starting)).Sound := (Act.join .run _ rfl).sound sound
  have busy : ((s.add (.running .begun .starting)).round? s.nextTask).isSome := by
    simp [round?, found_add, Task.round?]
  have round := beginRound_steps busy (new_of_add sound _)
  have starting : ((s.add (.running .begun .starting)).beginRound s.nextTask).reporter?
      s.nextTask = some .starting := by
    rw [reporter?_beginRound, reporter?_add, if_pos rfl]
    rfl
  exact (beginReport_begins (round.sound opened) starting).after (m := .run) rfl round starting
    round.acts.config

/-- Every move makes its session step on, and does more only where `After` says so. -/
theorem after_after (sound : s.Sound) (m : Move) : s.After m (s.after m) := by
  cases m with
  | fetchAll =>
    have busy : ((s.add (.fetching .begun)).round? s.nextTask).isSome := by
      simp [round?, found_add, Task.round?]
    exact .steps _ (beginRound_steps busy (new_of_add sound _))
  | retry =>
    exact .steps _ (tryAgain_steps ((Act.join .retry _ rfl).sound sound) (found_add s _))
  | reportSubmission => exact reportSubmission_after sound
  | run => exact run_after sound
  | answer id a =>
    have advance : Step s (s.answer id a) :=
      .advance id _ _ (Client.answer_advances sound.client.labels_nodup id a)
        (follow_follows _ _ _)
    exact .steps _ advance.steps
  | resume id =>
    have advance : Step s (s.resume id) :=
      .advance id _ _ (Client.resume_advances sound.client.labels_nodup id) (follow_follows _ _ _)
    exact .steps _ advance.steps
  | report task patience => exact (reportFor_reports sound task patience).after rfl
  | look task => exact .steps _ (look_steps sound task)
  | close =>
    refine .steps _ ?_
    show s.Steps s.close
    unfold close
    cases current : s.authorization with
    | none => exact .refl
    | some a => exact (Step.close a current).steps
  | publish e => exact .publishes e rfl
  | endActivity => exact .steps _ (Step.steps .endActivity)
  | dismiss popup => exact .steps _ (Step.steps (.dismiss popup))
  | block blocked => exact .steps _ (Step.steps (.block blocked))

theorem opened_acts (s : Session) (m : Move) : s.Acts (s.opened m) := by
  unfold opened
  cases start : m.task? with
  | none => exact .refl
  | some task => exact (Act.join m task start).acts

/-- What a move does is made of acts. -/
theorem After.acts {m : Move} (h : s.After m t) : s.Acts t := by
  cases h with
  | steps t steps => exact (s.opened_acts m).trans steps.acts
  | publishes e publishes => exact (Act.publish e).acts
  | submits task u steps submits cause =>
    exact ((s.opened_acts m).trans steps.acts).tail submits.act
  | subscribes u t reports steps starting deferred rest =>
    have subscribes : Act u (u.subscribed s.nextTask) := .subscribe _ starting deferred
    exact (((s.opened_acts m).trans steps.acts).tail subscribes).trans rest.acts

/-- Every move is made of acts. -/
theorem acts_after (sound : s.Sound) (m : Move) : s.Acts (s.after m) := (after_after sound m).acts

theorem sound_after (sound : s.Sound) (m : Move) : (s.after m).Sound :=
  (acts_after sound m).sound sound

/-- Sessions are sound after every history. -/
theorem sound_afterAll (sound : s.Sound) (moves : List Move) : (s.afterAll moves).Sound :=
  afterAll_induction sound (fun _ m sound => sound_after sound m) moves

/-- Every history is made of acts. -/
theorem acts_afterAll (sound : s.Sound) (moves : List Move) : s.Acts (s.afterAll moves) := by
  induction moves using List.reverseRecOn with
  | nil => exact .refl
  | append_singleton moves m ih =>
    rw [afterAll_append]
    exact ih.trans (acts_after (sound_afterAll sound moves) m)

end Session

end CourseLaunch.Launch
