import CourseLaunch.Proofs.Launch.Display
/-!
# Authorization pages that are left over

A retry that has fetched everything takes the error away, but not the page for authorization that
the error came with. It begins without such a page, and none of its own fetches names one, for they
were all successful. So a page is left over only when a fetch of another task failed while the retry
was fetching.
-/

namespace CourseLaunch.Launch
open Activity Backend Popup

theorem Round.outcome?_of_finish {r : Round} {part : Part} {ok : Bool}
    (waits : (r.finish part ok).outcome? = none) : r.outcome? = none := by
  unfold Round.outcome? at waits ⊢
  cases part <;> cases content : r.content <;> cases groups : r.groups <;>
    simp_all [Round.finish]

namespace Page

variable {p q : Page}

theorem authorizationUrl_recover (p : Page) : p.recover.authorizationUrl = p.authorizationUrl := by
  unfold recover
  split <;> rfl

/-- A page for authorization that stands on a page without an error stood there before. -/
def Leaves (p q : Page) : Prop :=
  q.problem = none → p.problem = none ∧
    ∀ path, q.authorizationUrl = some path → p.authorizationUrl = some path

theorem Leaves.refl (p : Page) : p.Leaves p := fun silent => ⟨silent, fun _ => id⟩

theorem Leaves.trans {r : Page} (h : p.Leaves q) (h' : q.Leaves r) : p.Leaves r := by
  intro silent
  obtain ⟨silent', kept'⟩ := h' silent
  obtain ⟨silent'', kept⟩ := h silent'
  exact ⟨silent'', fun path known => kept path (kept' path known)⟩

/-- No change leaves a page for authorization behind without an error, the recovery of a retry
apart. -/
theorem Alters.leaves (h : p.Alters q) : p.Leaves q := by
  intro silent
  cases h with
  | failFetch f authorizationUrl =>
    have shown := isSome_problem_fail p (.ofFailure f true) f.report authorizationUrl
    rw [show (p.fail _ f.report authorizationUrl).problem = none from silent] at shown
    cases shown
  | failAuthorization f =>
    have shown := isSome_problem_fail p (.ofFailure f false) f.report none
    rw [show (p.fail _ f.report none).problem = none from silent] at shown
    cases shown
  | failSubmission f first => cases silent
  | askAuthorization allowed => cases silent
  | endAuthorization => exact ⟨silent, fun _ known => by cases known⟩
  | _ => exact ⟨silent, fun _ => id⟩

/-- Pages that follow one another by changes leave nothing over that was not there. -/
theorem Path.leaves {pages : List Page} (h : p.Path Alters pages q) :
    ∀ x ∈ p :: pages, p.Leaves x :=
  (h.mono fun _ _ alters => alters.leaves).related Leaves.refl fun _ _ _ => Leaves.trans

end Page

namespace Session

variable {s t u : Session} {task : Nat}

/-! ### What a task changes -/

/-- The calls that end on the way from a session to a later one. -/
def endedUntil (s t : Session) : List (CallId × Except Failure Reply) :=
  t.client.ended.drop s.client.ended.length

/-- On the way from a session to a later one a fetch fails, and it has a page for authorization. -/
structure FailsUntil (s t : Session) (id : CallId) (path : String) : Prop where
  fetches : id.part ≠ .submission
  failed : ∃ result, (id, result) ∈ s.endedUntil t ∧ (failure? id.part result).isSome
  page : (s.endpoint? id.part).bind Endpoint.authUrl = some path

/-- What a task may change while it goes on. Other tasks are left alone, and the page for
authorization comes from a fetch of this task that failed, if it was not there before. When the task
only begins to fetch everything again, it was not there before. -/
structure Goes (task : Nat) (s t : Session) : Prop where
  config : t.config = s.config
  ended : s.client.ended <+: t.client.ended
  others : ∀ k, k ≠ task → t.tasks[k]? = s.tasks[k]?
  page : ∀ path, t.page.authorizationUrl = some path → s.page.authorizationUrl = some path ∨
    ∃ part, FailsUntil s t ⟨task, part⟩ path
  again : ∀ r, t.tasks[task]? = some (.recovering r) →
    (∃ r', s.tasks[task]? = some (.recovering r') ∧ (r.outcome? = none → r'.outcome? = none)) ∨
      ∀ path, t.page.authorizationUrl = some path → ∃ part, FailsUntil s t ⟨task, part⟩ path

/-- A fetch that has failed until now has failed until later. -/
theorem FailsUntil.later {id : CallId} {path : String} (h : FailsUntil s t id path)
    (ended : t.client.ended <+: u.client.ended) : FailsUntil s u id path := by
  obtain ⟨result, known, failed⟩ := h.failed
  exact ⟨h.fetches, ⟨result, (ended.sublist.drop _).subset known, failed⟩, h.page⟩

/-- A fetch that fails from now on fails from earlier on. -/
theorem FailsUntil.earlier {id : CallId} {path : String} (h : FailsUntil t u id path)
    (ended : s.client.ended <+: t.client.ended) (config : t.config = s.config) :
    FailsUntil s u id path := by
  obtain ⟨result, known, failed⟩ := h.failed
  exact ⟨h.fetches, ⟨result, List.drop_subset_drop_left _ ended.length_le known, failed⟩,
    (endpoint?_congr config id.part) ▸ h.page⟩

namespace Goes

theorem refl (task : Nat) (s : Session) : Goes task s s :=
  ⟨rfl, List.prefix_rfl, fun _ _ => rfl, fun _ => .inl, fun r found => .inl ⟨r, found, id⟩⟩

/-- Two ways of a task in a row are one. -/
theorem trans (h : Goes task s t) (h' : Goes task t u) : Goes task s u where
  config := h'.config.trans h.config
  ended := h.ended.trans h'.ended
  others k other := (h'.others k other).trans (h.others k other)
  page path known := by
    rcases h'.page path known with old | ⟨part, failed⟩
    · exact (h.page path old).imp_right fun ⟨part, failed⟩ => ⟨part, failed.later h'.ended⟩
    · exact .inr ⟨part, failed.earlier h.ended h.config⟩
  again r found := by
    rcases h'.again r found with ⟨r', found', waits⟩ | fresh
    · rcases h.again r' found' with ⟨r'', found'', waits'⟩ | fresh
      · exact .inl ⟨r'', found'', fun none => waits' (waits none)⟩
      · refine .inr fun path known => ?_
        rcases h'.page path known with old | ⟨part, failed⟩
        · exact (fresh path old).imp fun _ failed => failed.later h'.ended
        · exact ⟨part, failed.earlier h.ended h.config⟩
    · exact .inr fun path known =>
        (fresh path known).imp fun _ failed => failed.earlier h.ended h.config

end Goes

theorem goes_aside (task : Nat) (config : t.config = s.config)
    (ended : t.client.ended = s.client.ended) (tasks : t.tasks = s.tasks)
    (page : ∀ path, t.page.authorizationUrl = some path → s.page.authorizationUrl = some path) :
    Goes task s t where
  config := config
  ended := ended ▸ List.prefix_rfl
  others k _ := by rw [tasks]
  page path known := .inl (page path known)
  again r found := .inl ⟨r, tasks ▸ found, id⟩

/-- A change of a task does not make a retry of it, and does not take a retry back. -/
def KeepsRetries (change : Task → Task) : Prop :=
  ∀ t r, change t = .recovering r →
    ∃ r', t = .recovering r' ∧ (r.outcome? = none → r'.outcome? = none)

theorem keepsRetries_setReporter (reporter : Reporter) :
    KeepsRetries (Task.setReporter reporter) := by
  intro t r same
  cases t with
  | recovering r' => exact ⟨r', rfl, by cases same; exact id⟩
  | _ => cases same

theorem keepsRetries_mapRound (part : Part) (ok : Bool) :
    KeepsRetries (Task.mapRound fun round => round.finish part ok) := by
  intro t r same
  cases t with
  | recovering r' =>
    obtain rfl := Task.recovering.inj same
    exact ⟨r', rfl, Round.outcome?_of_finish⟩
  | _ => cases same

/-- The calls that ended and the page after a change of a task decide whether the task went on. -/
theorem goes_modify {change : Task → Task} (keeps : KeepsRetries change)
    (config : t.config = s.config) (ended : s.client.ended <+: t.client.ended)
    (tasks : t.tasks = s.tasks.modify task change)
    (page : ∀ path, t.page.authorizationUrl = some path → s.page.authorizationUrl = some path ∨
      ∃ part, FailsUntil s t ⟨task, part⟩ path) : Goes task s t where
  config := config
  ended := ended
  others k other := by rw [tasks, List.getElem?_modify_ne change _ (Ne.symm other)]
  page := page
  again r found := by
    rw [tasks, List.getElem?_modify_eq] at found
    obtain ⟨before, known, same⟩ := Option.map_eq_some_iff.mp found
    obtain ⟨r', rfl, waits⟩ := keeps before r same
    exact .inl ⟨r', known, waits⟩

theorem goes_onTask (task : Nat) {change : Task → Task} (keeps : KeepsRetries change)
    (s : Session) : Goes task s (s.onTask task change) :=
  goes_modify keeps rfl List.prefix_rfl rfl fun _ => .inl

theorem authorizationUrl_pageAfter (s : Session) (task : Nat) (part : Part) (ok : Bool)
    (page : Page) : (s.pageAfter task part ok page).authorizationUrl = page.authorizationUrl := by
  unfold pageAfter
  split
  · exact page.authorizationUrl_recover
  · rfl

/-- A fetch names a page for authorization when it fails. -/
theorem Settles.page {part : Part} {result : Except Failure Reply} {ok : Bool} {page : Page}
    {groups : Option (List String)} (h : s.Settles part result ok page groups) {path : String}
    (known : page.authorizationUrl = some path) : s.page.authorizationUrl = some path ∨
      (failure? part result).isSome ∧ (s.endpoint? part).bind Endpoint.authUrl = some path := by
  cases h with
  | content result url read => exact .inl known
  | groups result groups read => exact .inl known
  | failed part result failure failed =>
    simp only [Page.endFetch, Page.failFetch, Page.fail] at known
    split at known
    · exact .inl known
    · exact .inr ⟨by simp [failed], known⟩

/-- A task whose call goes on leaves a page for authorization only when its fetch fails. -/
theorem Follows.goes {id : CallId} {p : Progress CallId} (h : s.Follows id p t)
    (ended : p.1.ended = s.client.ended ++ (p.2.map fun result => (id, result)).toList) :
    Goes id.task s t := by
  have more : s.client.ended <+: t.client.ended := by
    rw [h.client, ended]
    exact List.prefix_append _ _
  cases h with
  | underWay c => exact goes_aside id.task rfl (by simpa using ended) rfl fun _ known => known
  | fetched c result ok page groups fetches settles =>
    refine goes_modify (keepsRetries_mapRound id.part ok) rfl more rfl fun path known => ?_
    have known : (s.pageAfter id.task id.part ok page).authorizationUrl = some path := known
    rw [authorizationUrl_pageAfter] at known
    refine (settles.page known).imp_right fun ⟨failed, page⟩ => ⟨id.part, fetches, ?_, page⟩
    refine ⟨result, ?_, failed⟩
    have ended : c.ended = s.client.ended ++ [(id, result)] := ended
    show (id, result) ∈ c.ended.drop s.client.ended.length
    simp [ended]
  | submitted c result page submits settles =>
    refine goes_modify (keepsRetries_setReporter .ended) rfl more rfl fun path known => .inl ?_
    cases settles with
    | reported done => exact known
    | failed failure failed => cases known

theorem call_goes (s : Session) (id : CallId) (request : Request) :
    Goes id.task s (s.call id request) :=
  (follow_follows s id _).goes (Client.begin_begins s.client id request).ended_eq

/-- A task that begins a fetch leaves a page for authorization only when the fetch fails at once. -/
theorem beginFetch_goes (s : Session) (task : Nat) (part : Part) :
    Goes task s (s.beginFetch task part) := by
  unfold beginFetch
  cases s.endpoint? part with
  | none =>
    simp only [finishFetch_eq]
    refine goes_modify (keepsRetries_mapRound part true) rfl List.prefix_rfl rfl
      fun path known => ?_
    have known : (s.pageAfter task part true s.page).authorizationUrl = some path := known
    exact .inl (authorizationUrl_pageAfter s task part true s.page ▸ known)
  | some e =>
    have begun : Goes task s (s.onPage Page.beginFetch) :=
      goes_aside task rfl rfl rfl fun _ known => known
    exact begun.trans (call_goes _ ⟨task, part⟩ _)

theorem beginRound_goes (s : Session) (task : Nat) : Goes task s (s.beginRound task) :=
  (beginFetch_goes s task .content).trans (beginFetch_goes _ task .groups)

/-! ### Reports -/

theorem submit_goes (s : Session) (task : Nat) : Goes task s (s.submit task) := by
  unfold submit
  cases s.config.grading with
  | none => exact goes_onTask task (keepsRetries_setReporter .ended) s
  | some grading =>
    simp only
    split
    · exact goes_onTask task (keepsRetries_setReporter .ended) s
    · have begun : Goes task s ({ s with isSubmitted := true }.onTask task
          (Task.setReporter .submitting)) :=
        goes_modify (keepsRetries_setReporter .submitting) rfl List.prefix_rfl rfl fun _ => .inl
      exact begun.trans (call_goes _ ⟨task, .submission⟩ _)

theorem listen_goes (patience : Nat) (s : Session) (task receiver : Nat) :
    Goes task s (s.listen patience task receiver) := by
  induction patience generalizing s with
  | zero => exact .refl task s
  | succ patience ih =>
    have heard (channel : Channel) : Goes task s { s with channel := channel } :=
      goes_aside task rfl rfl rfl fun _ known => known
    have left (s : Session) : Goes task s (s.unsubscribe receiver) :=
      goes_aside task rfl rfl rfl fun _ known => known
    unfold listen
    split
    case h_1 e channel receives =>
      simp only
      split
      · exact (heard channel).trans ((left _).trans (submit_goes _ task))
      · exact (heard channel).trans (ih _)
    case h_2 lost channel receives => exact (heard channel).trans (ih _)
    case h_3 => exact (left s).trans (goes_onTask task (keepsRetries_setReporter .ended) _)
    case h_4 => exact .refl task s

theorem reportFor_goes (s : Session) (task patience : Nat) :
    Goes task s (s.reportFor task patience) := by
  unfold reportFor
  split
  case h_1 receiver known =>
    split
    · cases receiver with
      | some receiver =>
        exact (goes_onTask task (keepsRetries_setReporter (.listening receiver)) s).trans
          (listen_goes patience _ task receiver)
      | none => exact submit_goes s task
    · exact .refl task s
  case h_2 receiver known => exact listen_goes patience s task receiver
  case h_3 => exact .refl task s

theorem beginReport_goes (s : Session) (task : Nat) : Goes task s (s.beginReport task) := by
  unfold beginReport
  cases s.config.grading with
  | none => exact goes_onTask task (keepsRetries_setReporter .ended) s
  | some grading =>
    simp only
    split
    · have subscribed : Goes task s (s.subscribed task) :=
        goes_modify (keepsRetries_setReporter _) rfl List.prefix_rfl rfl fun _ => .inl
      exact subscribed.trans (reportFor_goes _ task _)
    · exact (goes_onTask task (keepsRetries_setReporter (.awaitingContent none)) s).trans
        (reportFor_goes _ task _)

/-! ### Retries -/

/-- A retry begins to fetch everything again on a page without a page for authorization. -/
theorem recover_goes (s : Session) (task : Nat) (cleared : s.page.authorizationUrl = none) :
    Goes task s (s.recover task) := by
  have begun : Goes task s (s.onTask task fun _ => .recovering .begun) := by
    refine ⟨rfl, List.prefix_rfl, fun k other => ?_, fun _ => .inl,
      fun _ _ => .inr fun path known => ?_⟩
    · rw [tasks_onTask, List.getElem?_modify_ne _ _ (Ne.symm other)]
    · have known : s.page.authorizationUrl = some path := known
      simp [cleared] at known
  exact begun.trans (beginRound_goes _ task)

theorem authorize_goes (s : Session) (task : Nat) (path : String) :
    Goes task s (s.authorize task path) := by
  have authorizes := authorize_authorizes s task path
  generalize s.authorize task path = t at authorizes
  cases authorizes with
  | unresolved fault named =>
    refine goes_aside task rfl rfl rfl fun path known => ?_
    simp only [page_onPage, Page.failAuthorization, Page.fail] at known
    split at known
    · exact known
    · cases known
  | opened q a b d d' popup named turns asked =>
    exact goes_modify (fun _ _ same => by cases same) rfl List.prefix_rfl rfl fun _ => .inl
  | blocked q a b d d' named turns asked => exact goes_aside task rfl rfl rfl fun _ known => known

theorem add_goes (s : Session) (task : Task) (new : ∀ r, task ≠ .recovering r) :
    Goes s.nextTask s (s.add task) where
  config := rfl
  ended := List.prefix_rfl
  others k other := (getElem?_add s task k).trans (if_neg other)
  page _ := .inl
  again r found := by
    rw [found_add] at found
    exact absurd (Option.some.inj found) (new r)

/-- A retry leaves a page for authorization only when one of its fetches fails at once. -/
theorem retry_goes (s : Session) : Goes s.nextTask s s.retry := by
  refine (add_goes s .abandoned (by simp)).trans ?_
  show Goes s.nextTask (s.add .abandoned) ((s.add .abandoned).tryAgain s.nextTask)
  unfold tryAgain
  split
  · exact .refl _ _
  · cases cleared : (s.add .abandoned).page.authorizationUrl with
    | some path => exact authorize_goes _ _ path
    | none => exact recover_goes _ _ cleared

/-- A task that looks at its popup either takes the page for authorization away, or leaves all as it
was, until its own fetches fail. -/
theorem look_goes (s : Session) (task : Nat) : Goes task s (s.look task) := by
  unfold look
  split
  · exact .refl task s
  · simp only
    split
    · exact .refl task s
    · refine Goes.trans ?_ (recover_goes _ task rfl)
      exact goes_aside task rfl rfl rfl fun _ known => by cases known

/-- Every move lets one task go on. -/
theorem goes_after (sound : s.Sound) (m : Move) : ∃ task, Goes task s (s.after m) := by
  have once := sound.client.labels_nodup
  cases m with
  | fetchAll => exact ⟨_, (add_goes s _ (by simp)).trans (beginRound_goes _ _)⟩
  | retry => exact ⟨_, retry_goes s⟩
  | reportSubmission => exact ⟨_, (add_goes s _ (by simp)).trans (beginReport_goes _ _)⟩
  | run =>
    exact ⟨_, (add_goes s _ (by simp)).trans ((beginRound_goes _ _).trans (beginReport_goes _ _))⟩
  | answer id a =>
    exact ⟨_, (follow_follows s id _).goes (Client.answer_advances once id a).ended_eq⟩
  | resume id => exact ⟨_, (follow_follows s id _).goes (Client.resume_advances once id).ended_eq⟩
  | report task patience => exact ⟨task, reportFor_goes s task patience⟩
  | look task => exact ⟨task, look_goes s task⟩
  | close =>
    refine ⟨0, ?_⟩
    show Goes 0 s s.close
    unfold close
    cases s.authorization <;> exact goes_aside 0 rfl rfl rfl fun _ known => known
  | publish | endActivity | dismiss | block =>
    exact ⟨0, goes_aside 0 rfl rfl rfl fun _ known => known⟩

/-! ### Histories -/

/-- While a retry was fetching, a move let a fetch of another task fail, and that fetch has a page
for authorization. -/
inductive Disturbed (start : Session) (moves : List Move) (task : Nat) (path : String) : Prop where
  | overlapped (before : List Move) (m : Move) (since : List Move) (id : CallId) (r : Round)
      (split : moves = before ++ m :: since)
      (fetching : (start.afterAll before).tasks[task]? = some (.recovering r))
      (waits : r.outcome? = none) (other : id.task ≠ task)
      (fails : FailsUntil (start.afterAll before) ((start.afterAll before).after m) id path)

theorem Disturbed.append {start : Session} {moves : List Move} {path : String}
    (h : start.Disturbed moves task path) (more : List Move) :
    start.Disturbed (moves ++ more) task path := by
  obtain ⟨before, m, since, id, r, split, fetching, waits, other, fails⟩ := h
  exact ⟨before, m, since ++ more, id, r, by simp [split], fetching, waits, other, fails⟩

/-- No fetch of a task has failed so far. -/
def Unharmed (s : Session) (task : Nat) : Prop :=
  ∀ part result, part ≠ .submission → (⟨task, part⟩, result) ∈ s.client.ended →
    failure? part result = none

theorem Unharmed.of_goes {k : Nat} (goes : Goes task s t) (unharmed : t.Unharmed k) :
    s.Unharmed k :=
  fun part result fetches known => unharmed part result fetches (goes.ended.subset known)

theorem Unharmed.not_failsUntil {part : Part} {path : String} (unharmed : t.Unharmed task) :
    ¬ FailsUntil s t ⟨task, part⟩ path := by
  rintro ⟨fetches, ⟨result, known, failed⟩, -⟩
  simp [unharmed part result fetches ((List.drop_sublist _ _).subset known)] at failed

/-- A page for authorization that a retry leaves standing, with none of its fetches failed, stood
there before, and so did the retry. -/
theorem Goes.page_before (goes : Goes task s t) {r : Round} {path : String}
    (found : t.tasks[task]? = some (.recovering r)) (unharmed : t.Unharmed task)
    (page : t.page.authorizationUrl = some path) :
    (∃ r', s.tasks[task]? = some (.recovering r') ∧ (r.outcome? = none → r'.outcome? = none)) ∧
      s.page.authorizationUrl = some path := by
  constructor
  · rcases goes.again r found with before | fresh
    · exact before
    · obtain ⟨part, fails⟩ := fresh path page
      exact absurd fails unharmed.not_failsUntil
  · rcases goes.page path page with old | ⟨part, fails⟩
    · exact old
    · exact absurd fails unharmed.not_failsUntil

/-- A retry that is fetching, and of which no fetch has failed, sees a page for authorization only
when it was disturbed. -/
theorem disturbed_of_page {start : Session} (sound : start.Sound) (tasks : start.tasks = [])
    (moves : List Move) {k : Nat} {r : Round} {path : String}
    (found : (start.afterAll moves).tasks[k]? = some (.recovering r)) (waits : r.outcome? = none)
    (unharmed : (start.afterAll moves).Unharmed k)
    (page : (start.afterAll moves).page.authorizationUrl = some path) :
    start.Disturbed moves k path := by
  induction moves using List.reverseRecOn generalizing r with
  | nil => simp [tasks] at found
  | append_singleton moves m ih =>
    rw [afterAll_append] at found unharmed page
    obtain ⟨task, goes⟩ := goes_after (sound_afterAll sound moves) m
    replace goes : Goes task (start.afterAll moves) ((start.afterAll moves).afterAll [m]) := goes
    have before := unharmed.of_goes goes
    by_cases own : k = task
    · subst own
      obtain ⟨⟨r', found', waits'⟩, old⟩ := goes.page_before found unharmed page
      exact (ih found' (waits' waits) before old).append [m]
    · rw [goes.others k own] at found
      rcases goes.page path page with old | ⟨part, fails⟩
      · exact (ih found waits before old).append [m]
      · exact .overlapped moves m [] ⟨task, part⟩ r rfl found waits (Ne.symm own) fails

/-- A retry that has fetched everything has no fetch that failed. -/
theorem unharmed_of_recovered (sound : s.Sound) (accounted : s.Accounted) {k : Nat} {r : Round}
    (found : s.tasks[k]? = some (.recovering r)) (settled : r.outcome? = some true) :
    s.Unharmed k := by
  intro part result fetches known
  have fetched : s.Fetched ⟨k, part⟩ true := accounted.ends k r part true
    (by simp [Session.round?, found, Task.round?]) (Round.part?_of_outcome? settled fetches)
  generalize worked : true = ok at fetched
  cases fetched with
  | skipped missing =>
    have endpoint := (accounted.calls _ (sound.client.begun_of_ended known) fetches).2
    simp [missing] at endpoint
  | ended result' known' =>
    obtain rfl := sound.client.result_unique known known'
    exact Option.isNone_iff_eq_none.mp worked.symm

/-- A page for authorization that is still there after a recovery is there because the retry was
disturbed. -/
theorem Recovery.disturbed {start : Session} {moves : List Move} {m : Move} {k : Nat}
    {before : List Page} {p : Page} {path : String}
    (recovery : (start.afterAll moves).Recovery m k before p)
    (sound : start.Sound) (accounted : start.Accounted) (tasks : start.tasks = [])
    (page : ((start.afterAll moves).after m).page.authorizationUrl = some path) :
    start.Disturbed moves k path := by
  have sound' := sound_afterAll sound moves
  have accounted' := (acts_afterAll sound moves).accounted accounted
  obtain ⟨r, found, settled⟩ := recovery.settled
  have unharmed := unharmed_of_recovered (sound_after sound' m)
    ((acts_after sound' m).accounted accounted') found settled
  have running := accounted'.running sound' recovery.awaits
  obtain ⟨task, goes⟩ := goes_after sound' m
  -- the retry was still running, so it is the task that the move let go on
  have waits {r' : Round} (before : (start.afterAll moves).tasks[k]? = some (.recovering r')) :
      r'.outcome? = none := by
    rcases running with new | running
    · exact absurd new (Nat.ne_of_gt (List.getElem?_eq_some_iff.mp before).1)
    · simpa [isRunning, before, Task.isRunning, Task.round?, Task.reporter?] using running
  obtain rfl : k = task := by
    by_contra other
    simp [waits (goes.others k other ▸ found)] at settled
  obtain ⟨⟨r', before, -⟩, old⟩ := goes.page_before found unharmed page
  exact disturbed_of_page sound tasks moves before (waits before) (unharmed.of_goes goes) old

/-- In a history a retry took the error away, and it had been disturbed by a fetch that has the
given page for authorization. -/
def Leftover (start : Session) (moves : List Move) (path : String) : Prop :=
  ∃ done next later task, moves = done ++ next :: later ∧ start.Recovers done next task ∧
    start.Disturbed done task path

theorem Leftover.append {start : Session} {moves : List Move} {path : String}
    (h : start.Leftover moves path) (more : List Move) : start.Leftover (moves ++ more) path := by
  obtain ⟨done, next, later, task, split, recovers, disturbed⟩ := h
  exact ⟨done, next, later ++ more, task, by simp [split], recovers, disturbed⟩

/-- A move leaves no page for authorization over, unless it lets a retry recover. -/
theorem leftover_published {start : Session} (orderly : start.Orderly) (accounted : start.Accounted)
    (tasks : start.tasks = []) (moves : List Move) (m : Move) {path : String}
    (before : (start.afterAll moves).page.problem = none →
      (start.afterAll moves).page.authorizationUrl = some path → start.Leftover moves path)
    {p : Page} (shown : p ∈ (start.afterAll moves).page :: (start.afterAll moves).published m)
    (silent : p.problem = none) (page : p.authorizationUrl = some path) :
    start.Leftover (moves ++ [m]) path := by
  have kept (leaves : (start.afterAll moves).page.Leaves p) :
      start.Leftover (moves ++ [m]) path := by
    obtain ⟨silent', old⟩ := leaves silent
    exact (before silent' (old path page)).append [m]
  rcases after_unfolds (orderly.afterAll moves) m with way | ⟨k, pages, q, recovery⟩
  · exact kept (way.leaves p shown)
  · rw [recovery.published, ← List.cons_append, List.mem_append, List.mem_singleton] at shown
    rcases shown with earlier | rfl
    · exact kept (recovery.path.leaves p earlier)
    · exact ⟨moves, m, [], k, rfl, recovery.recovers orderly.sound accounted tasks,
        recovery.disturbed orderly.sound accounted tasks (recovery.recovered ▸ page)⟩

/-- A page for authorization without an error is left over by the recovery of a retry. -/
theorem leftover_afterAll {start : Session} (orderly : start.Orderly) (accounted : start.Accounted)
    (tasks : start.tasks = []) (fresh : start.page.authorizationUrl = none) (moves : List Move)
    {path : String} (silent : (start.afterAll moves).page.problem = none)
    (page : (start.afterAll moves).page.authorizationUrl = some path) :
    start.Leftover moves path := by
  -- by the last move: either the page was left over before, or it is the one that recovers
  induction moves using List.reverseRecOn with
  | nil => simp [fresh] at page
  | append_singleton moves m ih =>
    rw [afterAll_append] at silent page
    have last := List.mem_of_getLast? ((orderly.afterAll moves).published m).last
    exact leftover_published orderly accounted tasks moves m ih last silent page

variable (config : Config) (base : Web.Url) (token : String) (desktop : Desktop)

/-- When a page that is published shows no error but still names a page for authorization, then a
retry has recovered, and while it was fetching a fetch of another task failed that has this page. -/
theorem page_left_over (moves : List Move) (m : Move) (p : Page)
    (shown : p ∈ ((initial config base token desktop).afterAll moves).page ::
      ((initial config base token desktop).afterAll moves).published m)
    (silent : p.problem = none) (path : String) (page : p.authorizationUrl = some path) :
    (initial config base token desktop).Leftover (moves ++ [m]) path := by
  have orderly := orderly_initial config base token desktop
  have accounted := accounted_initial config base token desktop
  exact leftover_published orderly accounted rfl moves m
    (leftover_afterAll orderly accounted rfl rfl moves) shown silent page

/-- The content has to be authorized and the user does so. While everything is fetched again, the
groups of the first round fail, and then the retry is successful. -/
def rejoined : List Move :=
  let refused := Answer.whole 403 (Text.octets "\x7b\x7d")
  [.fetchAll, .answer ⟨0, .content⟩ refused, .retry, .dismiss 0, .look 1,
    .answer ⟨0, .groups⟩ refused,
    .answer ⟨1, .content⟩ (.whole 200 (Text.octets "\x7b\"via_url\": \"/book\"\x7d"))]

/-- The retry that recovers leaves the page for the groups over. -/
theorem rejoined_left_over :
    apart.Leftover (rejoined ++ [.answer ⟨1, .groups⟩ (.whole 200 (Text.octets "[]"))])
      "/join" := by
  let s := apart.afterAll rejoined
  let m := Move.answer ⟨1, .groups⟩ (.whole 200 (Text.octets "[]"))
  have orderly : s.Orderly := (orderly_initial _ _ _ _).afterAll rejoined
  have last := List.mem_of_getLast? (orderly.published m).last
  exact page_left_over apart.config apart.client.base apart.client.token apart.desktop
    rejoined m (s.after m).page last (by decide +kernel) "/join" (by decide +kernel)

/-- The retry has recovered and the content is shown without an error, and yet the next retry opens
a popup for the page that was left over. -/
theorem recovered_page_asks_again :
    let s := (apart.afterAll rejoined).after
      (.answer ⟨1, .groups⟩ (.whole 200 (Text.octets "[]")))
    s.tasks[1]? = some (.recovering ⟨some true, some true⟩) ∧
      s.page.problem = none ∧ s.page.view.iframeUrl = some "/book" ∧
      s.page.authorizationUrl = some "/join" ∧
      s.retry.page.problem = some .authorizing ∧
      s.retry.desktop.windows.length = s.desktop.windows.length + 1 := by
  decide +kernel

end Session

end CourseLaunch.Launch
