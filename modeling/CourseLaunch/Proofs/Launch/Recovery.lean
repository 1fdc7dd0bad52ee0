import CourseLaunch.Proofs.Launch.Publication
/-!
# Only a retry takes an error away

A round knows how each of its fetches came to an end, so a retry that recovers has fetched
everything itself, and was not over before. No other task ever recovers, because a task is a retry
from its start or never becomes one.
-/

namespace CourseLaunch.Launch
open Activity Backend Popup

namespace Task

/-- Whether a task is a retry. -/
def isRetry : Task → Bool
  | authorizing _ | recovering _ | abandoned => true
  | _ => false

@[simp] theorem isRetry_mapRound (t : Task) (change : Round → Round) :
    (t.mapRound change).isRetry = t.isRetry := by cases t <;> rfl

@[simp] theorem isRetry_setReporter (t : Task) (r : Reporter) :
    (t.setReporter r).isRetry = t.isRetry := by cases t <;> rfl

theorem isRetry_of_isIdle {t : Task} (idle : t.isIdle) : t.isRetry := by
  cases t <;> simp_all [isIdle, isRetry]

theorem isRunning_of_round? {t : Task} {r : Round} (has : t.round? = some r)
    (waits : r.outcome? = none) : t.isRunning := by
  cases t <;> simp_all [round?, isRunning]

end Task

/-- A round is not over before both of its fetches are. -/
theorem Round.outcome?_eq_none {r : Round} {part : Part} (fetches : part ≠ .submission)
    (waits : r.part? part = none) : r.outcome? = none := by
  cases part with
  | submission => exact absurd rfl fetches
  | content =>
    have content : r.content = none := waits
    simp [outcome?, content]
  | groups =>
    have groups : r.groups = none := waits
    cases known : r.content <;> simp [outcome?, groups, known]

theorem Round.part?_of_outcome? {r : Round} (settled : r.outcome? = some true) {part : Part}
    (fetches : part ≠ .submission) : r.part? part = some true := by
  unfold outcome? at settled
  split at settled
  case h_1 content groups known known' =>
    simp only [Option.some.injEq, Bool.and_eq_true] at settled
    cases part with
    | submission => exact absurd rfl fetches
    | content => exact known.trans (congrArg some settled.1)
    | groups => exact known'.trans (congrArg some settled.2)
  case h_2 => cases settled

namespace Session

variable {s t : Session}

/-! ### How fetches come to an end -/

/-- A fetch came to an end: it has no endpoint, or a result. It was successful or it was not. -/
inductive Fetched (s : Session) (id : CallId) : Bool → Prop where
  | skipped (missing : s.endpoint? id.part = none) : Fetched s id true
  | ended (result : Except Failure Reply) (known : (id, result) ∈ s.client.ended) :
      Fetched s id (failure? id.part result).isNone

/-- Rounds and calls agree. Only rounds with an endpoint make calls, and a round knows how its
fetches came to an end. -/
structure Accounted (s : Session) : Prop where
  calls : ∀ id ∈ s.begunIds, id.part ≠ .submission →
    (s.round? id.task).isSome ∧ (s.endpoint? id.part).isSome
  ends : ∀ task r part ok, s.round? task = some r → r.part? part = some ok →
    s.Fetched ⟨task, part⟩ ok

theorem endpoint?_congr (config : t.config = s.config) (part : Part) :
    t.endpoint? part = s.endpoint? part := by
  cases part <;> simp [endpoint?, config]

theorem Fetched.mono {id : CallId} {ok : Bool} (h : s.Fetched id ok)
    (config : t.config = s.config) (ended : s.client.ended ⊆ t.client.ended) : t.Fetched id ok := by
  cases h with
  | skipped missing => exact .skipped ((endpoint?_congr config id.part).trans missing)
  | ended result known => exact .ended result (ended known)

theorem ended_subset_of_begins {c : Client CallId} {id : CallId} {request : Request}
    {p : Progress CallId} (h : c.Begins id request p) : c.ended ⊆ p.1.ended := by
  rw [h.ended_eq]
  exact List.subset_append_left _ _

theorem ended_subset_of_advances {c : Client CallId} {id : CallId} {p : Progress CallId}
    (h : c.Advances id p) : c.ended ⊆ p.1.ended := by
  rw [h.ended_eq]
  exact List.subset_append_left _ _

/-- No result is ever forgotten. -/
theorem Act.ended_subset (h : Act s t) : s.client.ended ⊆ t.client.ended := by
  cases h with
  | step t step =>
    have client := step.client
    generalize t.client = c at client ⊢
    cases client with
    | same => exact List.Subset.refl _
    | begins id e p fetches busy new begins => exact ended_subset_of_begins begins
    | advances id p advances => exact ended_subset_of_advances advances
  | submit task grading p t reports graded first ready begins follows =>
    rw [follows.client]
    exact ended_subset_of_begins begins
  | _ => exact List.Subset.refl _

/-- What an act makes of the round of a task. -/
inductive RoundStep (s t : Session) (task : Nat) : Prop where
  | same (same : t.round? task = s.round? task)
  | begins (begun : t.round? task = none ∨ t.round? task = some .begun)
  | finishes (part : Part) (ok : Bool) (fetches : part ≠ .submission)
      (finished : t.round? task = (s.round? task).map fun r => r.finish part ok)
      (fetched : t.Fetched ⟨task, part⟩ ok)

theorem Follows.roundStep {u : Session} {id : CallId} {p : Progress CallId} (h : u.Follows id p t)
    (ended : ∀ result, p.2 = some result → (id, result) ∈ p.1.ended) (task : Nat)
    (rounds : u.round? task = s.round? task) : s.RoundStep t task := by
  rcases h.round? task with same | ⟨result, settled, own, fetches, finished⟩
  · exact .same (same.trans rounds)
  · subst own
    refine .finishes id.part _ fetches (rounds ▸ finished) (.ended result ?_)
    rw [h.client]
    exact ended result settled

theorem round?_onTask_const (task k : Nat) (new : Task) :
    (s.onTask task fun _ => new).round? k = s.round? k ∨
      (s.onTask task fun _ => new).round? k = new.round? := by
  unfold round?
  rw [tasks_onTask, List.getElem?_modify]
  split
  case isTrue own =>
    subst own
    cases s.tasks[task]? with
    | none => exact .inl rfl
    | some t => exact .inr rfl
  case isFalse => exact .inl (by simp)

/-- A step changes a round only by the end of a fetch, or begins it anew. -/
theorem Step.roundStep (h : Step s t) (task : Nat) : s.RoundStep t task := by
  cases h with
  | skip k part fetches missing =>
    -- rounds of other tasks are left alone
    by_cases own : k = task
    · subst own
      exact .finishes part true fetches ((round?_ended _ _ _ _ _ _).trans (if_pos rfl))
        (.skipped missing)
    · exact .same ((round?_ended _ _ _ _ _ _).trans (if_neg own))
  | fetch id e p t fetches endpoint busy new begins follows =>
    refine follows.roundStep (fun result settled => ?_) task rfl
    rw [begins.ended_eq, settled]
    simp
  | advance id p t advances follows =>
    refine follows.roundStep (fun result settled => ?_) task rfl
    rw [advances.ended_eq, settled]
    simp
  | await k starting atOnce => exact .same (round?_onTask_setReporter _ _ _)
  | listen k receiver waiting ready => exact .same (round?_onTask_setReporter _ _ _)
  | retire k finished => exact .same (round?_onTask_setReporter _ _ _)
  | authorize k path t idle allowed page authorizes =>
    cases authorizes with
    | opened q a b d d' popup named turns asked =>
      rcases round?_onTask_const k task (.authorizing popup) with same | begun
      · exact .same same
      · exact .begins (.inl begun)
    | _ => exact .same rfl
  | recover k idle allowed page =>
    rcases round?_onTask_const k task (.recovering .begun) with same | begun
    · exact .same same
    · exact .begins (.inr begun)
  | authorized k popup watching closed =>
    rcases round?_onTask_const k task (.recovering .begun) with same | begun
    · exact .same same
    · exact .begins (.inr begun)
  | _ => exact .same rfl

theorem round?_add (s : Session) (task : Task) (k : Nat) :
    (s.add task).round? k = if k = s.nextTask then task.round? else s.round? k := by
  unfold round?
  rw [getElem?_add]
  split <;> rfl

theorem round?_of_task? {m : Move} {new : Task} (start : m.task? = some new) :
    new.round? = none ∨ new.round? = some .begun := by
  cases m <;> simp only [Move.task?, Option.some.injEq, reduceCtorEq] at start <;> subst start <;>
    simp [Task.round?]

theorem Act.roundStep (h : Act s t) (task : Nat) : s.RoundStep t task := by
  cases h with
  | step t step => exact step.roundStep task
  | join m new start =>
    by_cases own : task = s.nextTask
    · refine .begins ?_
      rw [round?_add, if_pos own]
      exact round?_of_task? start
    · exact .same ((round?_add _ _ _).trans (if_neg own))
  | publish e => exact .same rfl
  | subscribe k starting deferred => exact .same (round?_onTask_setReporter _ _ _)
  | submit k grading p t reports graded first ready begins follows =>
    refine follows.roundStep (fun result settled => ?_) task (round?_onTask_setReporter _ _ _)
    rw [begins.ended_eq, settled]
    simp

/-- A task that has a round keeps one. -/
theorem Act.round?_isSome (h : Act s t) {task : Nat} (busy : (s.round? task).isSome) :
    (t.round? task).isSome := by
  cases h with
  | step t step => exact (step.task task).round? busy
  | join m new start =>
    have old : task < s.nextTask := by
      obtain ⟨r, known⟩ := Option.isSome_iff_exists.mp busy
      obtain ⟨t, found, -⟩ := Option.bind_eq_some_iff.mp known
      exact (List.getElem?_eq_some_iff.mp found).1
    rwa [round?_add, if_neg (Nat.ne_of_lt old)]
  | publish e => exact busy
  | subscribe k starting deferred => rwa [subscribed, round?_onTask_setReporter]
  | submit k grading p t reports graded first ready begins follows =>
    refine (follows.task false false task).round? ?_
    show ((s.onTask k (Task.setReporter .submitting)).round? task).isSome
    rwa [round?_onTask_setReporter]

/-- An act begins the fetches of tasks with rounds, and only those that have an endpoint. -/
theorem Act.fetches (h : Act s t) : ∀ id ∈ t.begunIds, id ∈ s.begunIds ∨
    id.part = .submission ∨ (s.round? id.task).isSome ∧ (s.endpoint? id.part).isSome := by
  intro id' known
  cases h with
  | step t step =>
    cases step with
    | fetch id e p t fetches endpoint busy new begins follows =>
      rw [Session.begunIds, follows.client, begins.begun_eq, List.map_append,
        List.mem_append] at known
      refine known.imp_right fun own => .inr ?_
      obtain rfl : id' = id := by simpa using own
      exact ⟨busy, Option.isSome_iff_exists.mpr ⟨e, endpoint⟩⟩
    | advance id p t advances follows =>
      rw [Session.begunIds, follows.client, advances.begun_eq] at known
      exact .inl known
    | authorize task path t idle allowed page authorizes =>
      cases authorizes <;> exact .inl known
    | _ => exact .inl known
  | submit task grading p t reports graded first ready begins follows =>
    rw [Session.begunIds, follows.client, begins.begun_eq, List.map_append,
      List.mem_append] at known
    refine known.imp_right fun own => .inl ?_
    obtain rfl : id' = ⟨task, .submission⟩ := by simpa using own
    rfl
  | _ => exact .inl known

/-- All calls and rounds are accounted for after every act. -/
theorem Act.accounted (h : Act s t) (accounted : s.Accounted) : t.Accounted where
  calls id known fetches := by
    rw [endpoint?_congr h.config]
    rcases h.fetches id known with old | submits | ⟨busy, configured⟩
    · obtain ⟨busy, configured⟩ := accounted.calls id old fetches
      exact ⟨h.round?_isSome busy, configured⟩
    · exact absurd submits fetches
    · exact ⟨h.round?_isSome busy, configured⟩
  ends task r part ok known settled := by
    have earlier : ∀ r', s.round? task = some r' → r'.part? part = some ok →
        t.Fetched ⟨task, part⟩ ok := fun r' known settled =>
      (accounted.ends task r' part ok known settled).mono h.config h.ended_subset
    cases h.roundStep task with
    | same same => exact earlier r (same ▸ known) settled
    | begins begun =>
      rcases begun with none | begun
      · simp [none] at known
      · obtain rfl := Option.some.inj (begun.symm.trans known)
        cases part <;> cases settled
    -- the part that ended now was fetched now, and the other one before
    | finishes part' ok' fetches finished fetched =>
      cases before : s.round? task with
      | none => simp [finished, before] at known
      | some r' =>
        obtain rfl : r'.finish part' ok' = r := by simpa [finished, before] using known
        rw [Round.part?_finish r' fetches] at settled
        split at settled
        case isTrue own =>
          subst own
          obtain rfl := Option.some.inj settled
          exact fetched
        case isFalse => exact earlier r' before settled

/-- All calls and rounds are accounted for on the whole way. -/
theorem Acts.accounted (h : s.Acts t) (accounted : s.Accounted) : t.Accounted := by
  induction h with
  | refl => exact accounted
  | tail _ act ih => exact act.accounted ih

theorem accounted_initial (config : Config) (base : Web.Url) (token : String) (desktop : Desktop) :
    (initial config base token desktop).Accounted where
  calls id known := by simp [begunIds, initial, ofConfig] at known
  ends task r part ok known := by simp [Session.round?, initial, ofConfig] at known

/-- A fetch that is under way has not ended in its round. -/
theorem Accounted.part?_eq_none (accounted : s.Accounted) (sound : s.Sound) {id : CallId}
    (fetches : id.part ≠ .submission) (underWay : id ∈ s.client.labels) :
    ∃ r, s.round? id.task = some r ∧ r.part? id.part = none := by
  obtain ⟨busy, configured⟩ := accounted.calls id (sound.client.begun_of_label underWay) fetches
  obtain ⟨r, known⟩ := Option.isSome_iff_exists.mp busy
  refine ⟨r, known, ?_⟩
  cases settled : r.part? id.part with
  | none => rfl
  | some ok =>
    cases accounted.ends id.task r id.part ok known settled with
    | skipped missing => simp [missing] at configured
    | ended result ended => exact absurd ended (sound.client.not_ended_of_label underWay result)

/-- A task that a move lets go on was not over. -/
theorem Accounted.running (accounted : s.Accounted) (sound : s.Sound) {task : Nat}
    (awaits : s.Awaits task) : s.nextTask = task ∨ s.isRunning task := by
  cases awaits with
  | start same => exact .inl same
  | popup popup found => exact .inr (by simp [isRunning, found, Task.isRunning])
  | fetch part fetches underWay =>
    obtain ⟨r, known, waits⟩ := accounted.part?_eq_none sound fetches underWay
    obtain ⟨t, found, has⟩ := Option.bind_eq_some_iff.mp known
    have running := Task.isRunning_of_round? has (Round.outcome?_eq_none fetches waits)
    exact .inr (by simpa [isRunning, found] using running)

/-! ### Retries -/

/-- No task becomes a retry, and none stops being one. -/
theorem TaskStep.isRetry {deferred ready : Bool} {a b : Option Task}
    (h : TaskStep deferred ready a b) : b.map Task.isRetry = a.map Task.isRetry := by
  cases h with
  | same => rfl
  | round t change => simp
  | report t r may => simp
  | watch popup => rfl
  | recover t idle => exact congrArg some (Task.isRetry_of_isIdle idle).symm

theorem Steps.isRetry (h : s.Steps t) (k : Nat) :
    t.tasks[k]?.map Task.isRetry = s.tasks[k]?.map Task.isRetry := by
  induction h with
  | refl => rfl
  | tail _ step ih => exact (step.task k).isRetry.trans ih

theorem isRetry_onTask_setReporter (task k : Nat) (r : Reporter) :
    (s.onTask task (Task.setReporter r)).tasks[k]?.map Task.isRetry =
      s.tasks[k]?.map Task.isRetry := by
  rw [tasks_onTask, List.getElem?_modify]
  split <;> cases s.tasks[k]? <;> simp

/-- After a move the tasks are what they were when the new one was added. -/
theorem After.isRetry {m : Move} (h : s.After m t) (k : Nat) :
    t.tasks[k]?.map Task.isRetry = (s.opened m).tasks[k]?.map Task.isRetry := by
  cases h with
  | steps t steps => exact steps.isRetry k
  | publishes e publishes =>
    subst publishes
    rfl
  | submits task u steps submits cause =>
    obtain ⟨grading, -, follows⟩ := submits.follows
    have before := isRetry_onTask_setReporter (s := { u with isSubmitted := true }) task k
      .submitting
    exact ((follows.task false false k).isRetry.trans before).trans (steps.isRetry k)
  | subscribes u t reports steps starting deferred rest =>
    have before := isRetry_onTask_setReporter (s := { u with channel := u.channel.subscribe.2 })
      s.nextTask k (.awaitingContent (some u.channel.subscribe.1))
    exact ((rest.isRetry k).trans before).trans (steps.isRetry k)

theorem eq_retry_of_isRetry {m : Move} {new : Task} (start : m.task? = some new)
    (retries : new.isRetry) : m = .retry := by
  cases m <;> simp only [Move.task?, Option.some.injEq, reduceCtorEq] at start <;> subst start <;>
    simp_all [Task.isRetry]

/-- A retry was started as one. -/
theorem exists_retry {start : Session} (sound : start.Sound) (tasks : start.tasks = [])
    (moves : List Move) {task : Nat}
    (retries : (start.afterAll moves).tasks[task]?.map Task.isRetry = some true) :
    ∃ before since, moves = before ++ .retry :: since ∧
      (start.afterAll before).nextTask = task := by
  -- no task becomes a retry later, so it is one from its start on
  induction moves using List.reverseRecOn with
  | nil => simp [tasks] at retries
  | append_singleton moves m ih =>
    have kept := (after_after (sound_afterAll sound moves) m).isRetry task
    rw [afterAll_append] at retries
    replace retries : ((start.afterAll moves).opened m).tasks[task]?.map Task.isRetry = some true :=
      kept.symm.trans retries
    have old (known : (start.afterAll moves).tasks[task]?.map Task.isRetry = some true) :
        ∃ before since, moves ++ [m] = before ++ .retry :: since ∧
          (start.afterAll before).nextTask = task := by
      obtain ⟨before, since, rfl, same⟩ := ih known
      exact ⟨before, since ++ [m], by simp, same⟩
    unfold opened at retries
    cases begins : m.task? with
    | none => exact old (by simpa only [begins] using retries)
    | some new =>
      simp only [begins] at retries
      rw [getElem?_add] at retries
      split at retries
      case isTrue own =>
        obtain rfl := eq_retry_of_isRetry begins (by simpa using retries)
        exact ⟨moves, [], rfl, own.symm⟩
      case isFalse => exact old retries

/-! ### Histories -/

/-- A retry was successful with the last move of a history: it has fetched everything itself, and
that move ended it. -/
structure Recovers (start : Session) (moves : List Move) (m : Move) (task : Nat) : Prop where
  retry : ∃ before since, moves ++ [m] = before ++ .retry :: since ∧
    (start.afterAll before).nextTask = task
  fetched : ∀ part, part ≠ .submission →
    ((start.afterAll moves).after m).Fetched ⟨task, part⟩ true
  running : (start.afterAll moves).nextTask = task ∨ (start.afterAll moves).isRunning task
  settled : ((start.afterAll moves).after m).isRunning task = false

/-- A page clears its error only when a retry recovers: it has run until now, and both of its
fetches were successful. -/
theorem Recovery.recovers {start : Session} {moves : List Move} {m : Move} {task : Nat}
    {before : List Page} {p : Page}
    (recovery : (start.afterAll moves).Recovery m task before p)
    (sound : start.Sound) (accounted : start.Accounted) (tasks : start.tasks = []) :
    start.Recovers moves m task where
  retry := by
    obtain ⟨r, found, -⟩ := recovery.settled
    refine exists_retry sound tasks (moves ++ [m]) ?_
    rw [afterAll_append]
    exact congrArg (Option.map Task.isRetry) found
  fetched part fetches := by
    obtain ⟨r, found, settled⟩ := recovery.settled
    have acts := (acts_afterAll sound moves).trans (acts_after (sound_afterAll sound moves) m)
    exact (Acts.accounted acts accounted).ends task r part true
      (by simp [Session.round?, found, Task.round?]) (Round.part?_of_outcome? settled fetches)
  running := ((acts_afterAll sound moves).accounted accounted).running
    (sound_afterAll sound moves) recovery.awaits
  settled := by
    obtain ⟨r, found, settled⟩ := recovery.settled
    simp [isRunning, found, Task.isRunning, Task.round?, Task.reporter?, settled]

/-- On the pages that a move publishes an error is followed by an error, but for the last of them,
with which a retry may recover. -/
theorem Orderly.recovers {start : Session} (orderly : start.Orderly)
    (accounted : start.Accounted) (tasks : start.tasks = []) {moves : List Move} {m : Move}
    {before later : List Page} {p q : Page}
    (split : (start.afterAll moves).page :: (start.afterAll moves).published m =
      before ++ p :: q :: later)
    (shown : p.problem.isSome) (cleared : q.problem = none) :
    later = [] ∧ ∃ task, start.Recovers moves m task := by
  have kept {pages : List Page} {last : Page}
      (path : (start.afterAll moves).page.Path Page.Alters pages last) {front back : List Page}
      (among : (start.afterAll moves).page :: pages = front ++ p :: q :: back) : False := by
    simpa [cleared] using (path.pair among).problem shown
  rcases after_unfolds (orderly.afterAll moves) m with path | ⟨task, front, r, recovery⟩
  · exact (kept path split).elim
  · refine ⟨?_, task, recovery.recovers orderly.sound accounted tasks⟩
    rcases List.eq_nil_or_concat later with none | ⟨back, z, rfl⟩
    · exact none
    · -- the pair stands among the pages before the recovery
      rw [recovery.published, List.concat_eq_append] at split
      have ends : ((start.afterAll moves).page :: front) ++ [r.recover] =
          (before ++ p :: q :: back) ++ [z] := by simpa using split
      exact (kept recovery.path (List.append_inj' ends rfl).1).elim

variable (config : Config) (base : Web.Url) (token : String) (desktop : Desktop)

/-- Every move publishes its pages one after the other. An error that is on one of them is on the
next one too, except that the last page may be without it: then the error was not final, its report
goes with it, and the move ended a retry that had fetched everything itself. The same holds of the
page before the move and the one after it. -/
theorem error_until_recovery (moves : List Move) (m : Move) :
    let start := initial config base token desktop
    let s := start.afterAll moves
    let t := s.after m
    s.page.Path Page.Publishes (s.published m) t.page ∧
      (∀ before p q later, s.page :: s.published m = before ++ p :: q :: later →
        p.problem.isSome → q.problem = none →
          later = [] ∧ p.problem ≠ some .reportingSubmission ∧ q.lastError = none ∧
            ∃ task, start.Recovers moves m task) ∧
      (s.page.problem.isSome → t.page.problem = none →
        s.page.problem ≠ some .reportingSubmission ∧ t.page.lastError = none ∧
          ∃ task, start.Recovers moves m task) := by
  intro start s t
  have initially : start.Orderly := orderly_initial config base token desktop
  have accounted : start.Accounted := accounted_initial config base token desktop
  have orderly : s.Orderly := initially.afterAll moves
  refine ⟨orderly.published m, fun before p q later split shown cleared => ?_,
    fun shown cleared => ?_⟩
  · obtain ⟨last, recovers⟩ := initially.recovers accounted rfl split shown cleared
    -- two pages in a row differ by one change, and only the recovery clears an error
    have publishes := (orderly.published m).pair split
    cases publishes with
    | change q alters => simpa [cleared] using alters.problem shown
    | recover =>
      obtain ⟨notFinal, forgotten⟩ := Page.recover_clears cleared
      exact ⟨last, notFinal, forgotten, recovers⟩
  · rcases after_unfolds orderly m with path | ⟨task, before, p, recovery⟩
    · have still : t.page.problem.isSome := path.problem shown _ (List.mem_of_getLast? path.last)
      simp [cleared] at still
    · have recovered : t.page = p.recover := recovery.recovered
      rw [recovered] at cleared ⊢
      refine ⟨fun failed => ?_, (Page.recover_clears cleared).2, task,
        recovery.recovers initially.sound accounted rfl⟩
      have final := ((acts_after orderly.sound m).final (orderly.final failed)).1.page.problem
      rw [show (s.after m).page = p.recover from recovered, cleared] at final
      cases final

/-- A retry that gets the groups at last takes the error away. -/
theorem answered_groups_recover :
    (((sample false).afterAll [.fetchAll, .answer ⟨0, .groups⟩ .missing, .retry]).after
        (.answer ⟨1, .groups⟩ (.whole 200 (Text.octets "[]")))).page.lastError = none ∧
      ∃ task, (sample false).Recovers [.fetchAll, .answer ⟨0, .groups⟩ .missing, .retry]
        (.answer ⟨1, .groups⟩ (.whole 200 (Text.octets "[]"))) task := by
  obtain ⟨-, -, cleared⟩ := error_until_recovery (sample false).config (sample false).client.base
    (sample false).client.token (sample false).desktop
    [.fetchAll, .answer ⟨0, .groups⟩ .missing, .retry]
    (.answer ⟨1, .groups⟩ (.whole 200 (Text.octets "[]")))
  exact (cleared (by decide +kernel) (by decide +kernel)).2

end Session

end CourseLaunch.Launch
