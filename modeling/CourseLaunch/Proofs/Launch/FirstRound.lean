import CourseLaunch.Proofs.Launch.Page
import CourseLaunch.Proofs.Launch.Pending
/-!
# A single round of fetches

The calls for the content and for the groups may end in any order and in any way. While no other
task is started, the round, the page and the groups are determined by the results in the journal:
the round knows which fetches failed, and the page tells of the failure that came last.
-/

namespace CourseLaunch.Launch
open Activity Backend Popup

/-- How a fetch of a round has ended, if it has. -/
def Round.part? (r : Round) : Part → Option Bool
  | .content => r.content
  | .groups => r.groups
  | .submission => none

theorem Round.part?_finish (r : Round) {part : Part} (fetches : part ≠ .submission) (ok : Bool)
    (k : Part) : (r.finish part ok).part? k = if k = part then some ok else r.part? k := by
  cases part with
  | submission => exact absurd rfl fetches
  | _ => cases k <;> rfl

/-- A fetch that has ended in a round has ended in a later one. -/
def Round.Grows (r r' : Round) : Prop := ∀ part, (r.part? part).isSome → (r'.part? part).isSome

theorem Round.grows_finish (r : Round) {part : Part} (fetches : part ≠ .submission) (ok : Bool) :
    r.Grows (r.finish part ok) := by
  intro k ended
  rw [r.part?_finish fetches]
  split
  · rfl
  · exact ended

/-! ### What a page tells of a failed fetch -/

/-- A page tells of a failed fetch: a code that the server explains counts first, then a missing
authorization, of which nothing more is told. -/
structure Page.TellsOf (p : Page) (f : Failure) (authorizationUrl : Option String) : Prop where
  explained : ∀ problem : ServerProblem, problem.Explains f → p.problem = some (.server problem)
  unauthorized : (∀ problem : ServerProblem, ¬ problem.Explains f) → f.needsAuthorization →
    p.problem = some .authorizing
  otherwise : (∀ problem : ServerProblem, ¬ problem.Explains f) →
    f.needsAuthorization = false → p.problem = some .fetching
  authorizationUrl : p.authorizationUrl = authorizationUrl
  lastError : p.lastError = if p.problem = some .authorizing then none else some f.report

namespace Page

variable {p : Page} {f : Failure} {authorizationUrl : Option String}

theorem TellsOf.of_error {q : Page} (tells : p.TellsOf f authorizationUrl)
    (same : q.error = p.error) : q.TellsOf f authorizationUrl := by
  simp only [error, Prod.mk.injEq] at same
  obtain ⟨problem, url, report⟩ := same
  refine ⟨fun known h => ?_, fun h h' => ?_, fun h h' => ?_, ?_, ?_⟩
  · rw [problem]; exact tells.explained known h
  · rw [problem]; exact tells.unauthorized h h'
  · rw [problem]; exact tells.otherwise h h'
  · rw [url]; exact tells.authorizationUrl
  · rw [report, problem]; exact tells.lastError

/-- The problem that is told of a failed fetch is what the failure is taken for. -/
theorem TellsOf.problem_ofFailure (tells : p.TellsOf f authorizationUrl) :
    p.problem = some (.ofFailure f true) := by
  by_cases named : ∃ problem : ServerProblem, problem.Explains f
  case pos =>
    obtain ⟨problem, named⟩ := named
    rw [tells.explained problem named, Problem.ofFailure_explained named]
  case neg =>
    rw [not_exists] at named
    rw [Problem.ofFailure_unexplained named]
    cases needs : f.needsAuthorization with
    | true => exact tells.unauthorized named needs
    | false => exact tells.otherwise named needs

theorem TellsOf.problem_ne (tells : p.TellsOf f authorizationUrl) :
    p.problem.isSome ∧ p.problem ≠ some .reportingSubmission := by
  simp [tells.problem_ofFailure, Problem.ofFailure_ne]

/-- A page tells of the fetch that failed, unless its error is final. -/
theorem tellsOf_failFetch (notFinal : p.problem ≠ some .reportingSubmission) (f : Failure)
    (authorizationUrl : Option String) :
    (p.failFetch f authorizationUrl).TellsOf f authorizationUrl := by
  unfold failFetch fail
  rw [if_neg notFinal]
  refine ⟨fun problem named => ?_, fun unnamed needs => ?_, fun unnamed needs => ?_, rfl, ?_⟩
  · rw [Problem.ofFailure_explained named]
  · simp [Problem.ofFailure_unexplained unnamed, needs]
  · simp [Problem.ofFailure_unexplained unnamed, needs]
  · simp only [Option.some.injEq]

end Page

namespace Session

variable {s t : Session} {r : Round}

/-- The failures of the calls, in the order in which the calls ended. -/
def failures (s : Session) : List (Part × Failure) :=
  s.client.ended.filterMap fun e => (failure? e.1.part e.2).map fun f => (e.1.part, f)

/-- How a fetch of the first task has ended: not yet, without an endpoint, or with a result. -/
inductive Ends (results : List (CallId × Except Failure Reply)) (endpoint : Option Endpoint)
    (part : Part) : Option Bool → Prop where
  | notYet (waits : ∀ result, (⟨0, part⟩, result) ∉ results) : Ends results endpoint part none
  | skipped (missing : endpoint = none) : Ends results endpoint part (some true)
  | ended (result : Except Failure Reply) (known : (⟨0, part⟩, result) ∈ results) :
      Ends results endpoint part (some (failure? part result).isNone)

/-- A session that is busy with one round of fetches. -/
structure FirstRound (s : Session) (r : Round) : Prop where
  tasks : s.tasks = [.fetching r]
  asks : ∀ id request, (id, request) ∈ s.client.begun →
    id.task = 0 ∧ ∃ e, s.endpoint? id.part = some e ∧ request.AsksFor e
  ends : ∀ part, Ends s.client.ended (s.endpoint? part) part (r.part? part)
  silent : s.failures = [] → s.page.problem = none
  told : ∀ part f, s.failures.getLast? = some (part, f) →
    s.page.TellsOf f ((s.endpoint? part).bind Endpoint.authUrl)
  content : s.config.contentUrl.isSome ∨ (s.endpoint? .content).isSome ∧ r.content = some true →
    s.page.contentReady
  groups : ∀ groups, s.groups = some groups ↔ ∃ result, (⟨0, .groups⟩, result) ∈ s.client.ended ∧
    result.bind (fun r => r.decode groupsReply) = .ok groups

theorem FirstRound.calls (first : s.FirstRound r) {id : CallId} (known : id ∈ s.begunIds) :
    id.task = 0 ∧ id.part ≠ .submission ∧ (s.endpoint? id.part).isSome := by
  obtain ⟨⟨id, request⟩, begun, rfl⟩ := List.mem_map.mp known
  obtain ⟨task, e, endpoint, -⟩ := first.asks id request begun
  refine ⟨task, fun submits => ?_, Option.isSome_iff_exists.mpr ⟨e, endpoint⟩⟩
  rw [submits] at endpoint
  cases endpoint

/-! ### The end of a fetch -/

theorem Settles.ok_eq {part : Part} {result : Except Failure Reply} {ok : Bool} {page : Page}
    {groups : Option (List String)} (h : s.Settles part result ok page groups) :
    ok = (failure? part result).isNone := by
  cases h with
  | content result url read => simp [failure?, read]
  | groups result groups read => simp [failure?, read]
  | failed part result failure failed => simp [failed]

theorem FirstRound.pageAfter (first : s.FirstRound r) (task : Nat) (part : Part) (ok : Bool)
    (page : Page) : s.pageAfter task part ok page = page := by
  unfold Session.pageAfter
  rw [first.tasks]
  cases task <;> simp [Task.mapRound, Task.hasRecovered]

theorem FirstRound.notFinal (first : s.FirstRound r) :
    s.page.problem ≠ some .reportingSubmission := by
  cases last : s.failures.getLast? with
  | none => simp [first.silent (List.getLast?_eq_none_iff.mp last)]
  | some told => exact (first.told told.1 told.2 last).problem_ne.2

theorem failures_of_ended {id : CallId} {result : Except Failure Reply}
    (ended : t.client.ended = s.client.ended ++ [(id, result)]) :
    t.failures = s.failures ++ ((failure? id.part result).map fun f => (id.part, f)).toList := by
  unfold failures
  rw [ended, List.filterMap_append]
  cases failed : failure? id.part result <;> simp [failed]

theorem Ends.mono {results : List (CallId × Except Failure Reply)} {endpoint : Option Endpoint}
    {part : Part} {o : Option Bool} {id : CallId} {result : Except Failure Reply}
    (h : Ends results endpoint part o) (other : part ≠ id.part) :
    Ends (results ++ [(id, result)]) endpoint part o := by
  cases h with
  | notYet waits =>
    refine .notYet fun result' known => ?_
    rw [List.mem_append, List.mem_singleton, Prod.mk.injEq] at known
    rcases known with old | ⟨same, -⟩
    · exact waits result' old
    · exact other (congrArg CallId.part same)
  | skipped missing => exact .skipped missing
  | ended result' known => exact .ended result' (List.mem_append_left _ known)

/-- What a round depends on. -/
theorem FirstRound.congr (first : s.FirstRound r) (config : t.config = s.config)
    (tasks : t.tasks = s.tasks) (ended : t.client.ended = s.client.ended)
    (asks : ∀ id request, (id, request) ∈ t.client.begun →
      id.task = 0 ∧ ∃ e, s.endpoint? id.part = some e ∧ request.AsksFor e)
    (error : t.page.error = s.page.error) (contentUrl : t.page.contentUrl = s.page.contentUrl)
    (groups : t.groups = s.groups) : t.FirstRound r := by
  have endpoints (part : Part) : t.endpoint? part = s.endpoint? part := by
    cases part <;> simp [endpoint?, config]
  have failures : t.failures = s.failures := by simp [Session.failures, ended]
  have problem : t.page.problem = s.page.problem := congrArg Prod.fst error
  refine ⟨tasks.trans first.tasks,
    fun id request known => endpoints id.part ▸ asks id request known, fun part => ?_,
    fun none => ?_, fun part f last => ?_, fun known => ?_, fun gs => ?_⟩
  · rw [ended, endpoints]
    exact first.ends part
  · rw [problem]
    exact first.silent (failures ▸ none)
  · rw [endpoints]
    exact (first.told part f (failures ▸ last)).of_error error
  · rw [config, endpoints] at known
    unfold Page.contentReady
    rw [contentUrl]
    exact first.content known
  · rw [groups, ended]
    exact first.groups gs

/-- The groups are those of the reply to the call for them. -/
theorem FirstRound.groups_iff {id : CallId} {result : Except Failure Reply} {ok : Bool}
    {page : Page} {groups : Option (List String)} (first : s.FirstRound r)
    (settles : s.Settles id.part result ok page groups) (task : id.task = 0)
    (new : ∀ result, (id, result) ∉ s.client.ended) (gs : List String) :
    groups = some gs ↔ ∃ result', (⟨0, .groups⟩, result') ∈ s.client.ended ++ [(id, result)] ∧
      result'.bind (fun r => r.decode groupsReply) = .ok gs := by
  have before := first.groups gs
  obtain ⟨k, part⟩ := id
  obtain rfl : k = 0 := task
  simp only [List.mem_append, List.mem_singleton, Prod.mk.injEq, CallId.mk.injEq, true_and]
  cases settles with
  | content result url read => simpa using before
  -- the groups are told once, so the new result is the only one
  | groups result groups read =>
    constructor
    · intro same
      exact ⟨result, .inr ⟨rfl, rfl⟩, Option.some.inj same ▸ read⟩
    · rintro ⟨result', old | ⟨-, rfl⟩, reads⟩
      · exact absurd old (new result')
      · rw [read] at reads
        exact congrArg some (Except.ok.inj reads)
  | failed part result failure failed =>
    constructor
    · intro same
      obtain ⟨result', known, reads⟩ := before.mp same
      exact ⟨result', .inl known, reads⟩
    · rintro ⟨result', old | ⟨rfl, rfl⟩, reads⟩
      · exact before.mpr ⟨result', old, reads⟩
      · simp [failure?, reads] at failed

theorem Settles.silent {part : Part} {result : Except Failure Reply} {ok : Bool} {page : Page}
    {groups : Option (List String)} (h : s.Settles part result ok page groups)
    (silent : s.page.problem = none) (worked : failure? part result = none) :
    page.problem = none := by
  cases h with
  | content result url read => exact silent
  | groups result groups read => exact silent
  | failed part result failure failed => simp [worked] at failed

/-- The page tells of the failure that came last. -/
theorem Settles.told {part : Part} {result : Except Failure Reply} {ok : Bool} {page : Page}
    {groups : Option (List String)} (h : s.Settles part result ok page groups)
    (first : s.FirstRound r) (last : Part) (f : Failure)
    (told : (s.failures ++ ((failure? part result).map fun f => (part, f)).toList).getLast? =
      some (last, f)) : page.TellsOf f ((s.endpoint? last).bind Endpoint.authUrl) := by
  cases h with
  | content result url read =>
    have before : s.failures.getLast? = some (last, f) := by simpa [failure?, read] using told
    exact (first.told last f before).of_error rfl
  | groups result groups read =>
    have before : s.failures.getLast? = some (last, f) := by simpa [failure?, read] using told
    exact (first.told last f before).of_error rfl
  | failed part result failure failed =>
    obtain ⟨rfl, rfl⟩ : part = last ∧ failure = f := by simpa [failed] using told
    exact (Page.tellsOf_failFetch first.notFinal failure _).of_error rfl

theorem Settles.known {part : Part} {result : Except Failure Reply} {ok : Bool} {page : Page}
    {groups : Option (List String)} (h : s.Settles part result ok page groups)
    (first : s.FirstRound r)
    (known : s.config.contentUrl.isSome ∨
      (s.endpoint? .content).isSome ∧ (r.finish part ok).content = some true) :
    page.contentReady := by
  cases h with
  | content result url read => rfl
  | groups result groups read => exact first.content known
  | failed part result failure failed =>
    have before : s.page.contentReady := by
      refine first.content (known.imp_right fun ⟨configured, worked⟩ => ⟨configured, ?_⟩)
      cases part <;> simp_all [Round.finish]
    exact (Settles.failed part result failure failed).ready before

/-- A fetch that ends takes its round, the page and the groups with it. -/
theorem Follows.firstRound {id : CallId} {p : Progress CallId} (h : s.Follows id p t)
    (first : s.FirstRound r) (task : id.task = 0) (fetches : id.part ≠ .submission)
    (asks : ∀ id' request, (id', request) ∈ p.1.begun →
      id'.task = 0 ∧ ∃ e, s.endpoint? id'.part = some e ∧ request.AsksFor e)
    (ended : p.1.ended = s.client.ended ++ (p.2.map fun result => (id, result)).toList)
    (new : ∀ result, (id, result) ∉ s.client.ended) : ∃ r', t.FirstRound r' ∧ r.Grows r' := by
  cases h with
  | submitted c result page submits settles => exact absurd submits fetches
  | underWay c =>
    exact ⟨r, first.congr rfl rfl (by simpa using ended) asks rfl rfl rfl, fun _ h => h⟩
  -- one more result was told, and the invariant says field by field what it was
  | fetched c result ok page groups isFetch settles =>
    have more : c.ended = s.client.ended ++ [(id, result)] := ended
    have failures : (Session.ended { s with client := c } id.task id.part ok page groups).failures =
        s.failures ++ ((failure? id.part result).map fun f => (id.part, f)).toList :=
      failures_of_ended more
    rw [first.pageAfter id.task id.part ok page]
    refine ⟨r.finish id.part ok, ⟨?_, asks, fun part => ?_, fun none => ?_, fun part f last => ?_,
      fun content => ?_, fun gs => ?_⟩, r.grows_finish fetches ok⟩
    · simp [Session.ended, first.tasks, task, Task.mapRound]
    · rw [Round.part?_finish r fetches]
      split
      case isTrue same =>
        rw [settles.ok_eq, same]
        exact .ended result (more ▸ List.mem_append_right _ (by simp [← task]))
      case isFalse other => exact more ▸ (first.ends part).mono other
    · rw [failures, List.append_eq_nil_iff] at none
      exact settles.silent (first.silent none.1) (by simpa using none.2)
    · rw [failures] at last
      exact settles.told first part f last
    · exact settles.known first content
    · rw [show (Session.ended { s with client := c } id.task id.part ok page groups).client.ended =
        _ from more]
      exact first.groups_iff settles task new gs

/-! ### Steps -/

theorem FirstRound.task_eq (first : s.FirstRound r) {task : Nat}
    (busy : (s.round? task).isSome) : task = 0 := by
  simp only [round?, first.tasks] at busy
  cases task with
  | zero => rfl
  | succ n => simp at busy

theorem FirstRound.reporter?_eq (first : s.FirstRound r) (task : Nat) :
    s.reporter? task = none := by
  simp only [reporter?, first.tasks]
  cases task <;> rfl

theorem FirstRound.not_idle (first : s.FirstRound r) {task : Nat} {idle : Task}
    (found : s.tasks[task]? = some idle) : idle.isIdle = false := by
  rw [first.tasks] at found
  cases task with
  | zero =>
    obtain rfl : .fetching r = idle := by simpa using found
    rfl
  | succ n => simp at found

/-- A fetch without an endpoint ends at once, and successfully. -/
theorem FirstRound.skip (first : s.FirstRound r) {part : Part} (fetches : part ≠ .submission)
    (missing : s.endpoint? part = none) :
    (s.ended 0 part true s.page s.groups).FirstRound (r.finish part true) := by
  refine ⟨?_, first.asks, fun k => ?_, first.silent, first.told,
    fun known => first.content (known.imp_right fun ⟨configured, worked⟩ => ⟨configured, ?_⟩),
    first.groups⟩
  · simp [ended, first.tasks, Task.mapRound]
  · rw [Round.part?_finish r fetches]
    split
    case isTrue same => exact .skipped (same ▸ missing)
    case isFalse => exact first.ends k
  · cases part with
    | content =>
      have configured : (s.endpoint? .content).isSome := configured
      simp [missing] at configured
    | _ => exact worked

/-- The first round stays the only one with every step, and what has ended in it has ended for good.
-/
theorem Step.firstRound (h : Step s t) (sound : s.Sound) (first : s.FirstRound r) :
    ∃ r', t.FirstRound r' ∧ r.Grows r' := by
  cases h with
  | skip task part fetches missing =>
    rw [first.pageAfter task part true s.page]
    cases task with
    | zero => exact ⟨_, first.skip fetches missing, r.grows_finish fetches true⟩
    | succ n =>
      refine ⟨r, first.congr rfl ?_ rfl first.asks rfl rfl rfl, fun _ h => h⟩
      simp [ended, first.tasks]
  | fetch id e p t fetches endpoint busy new begins follows =>
    have begun : (s.onPage Page.beginFetch).FirstRound r :=
      first.congr rfl rfl rfl first.asks rfl rfl rfl
    refine follows.firstRound begun (first.task_eq busy) fetches (fun id' request known => ?_)
      begins.ended_eq (fun _ ended => new (sound.client.begun_of_ended ended))
    rw [begins.begun_eq, List.mem_append, List.mem_singleton, Prod.mk.injEq] at known
    rcases known with old | ⟨rfl, rfl⟩
    · exact first.asks id' request old
    · exact ⟨first.task_eq busy, e, endpoint, Request.asksFor_ofEndpoint e⟩
  | advance id p t advances follows =>
    obtain ⟨c, result⟩ := p
    cases result with
    | none =>
      cases follows with
      | underWay =>
        exact ⟨r, first.congr rfl rfl (by simpa using advances.ended_eq)
          (advances.begun_eq ▸ first.asks) rfl rfl rfl, fun _ h => h⟩
    | some result =>
      have known := advances.known rfl
      obtain ⟨task, fetches, -⟩ := first.calls (sound.client.begun_of_label known)
      exact follows.firstRound first task fetches (advances.begun_eq ▸ first.asks)
        advances.ended_eq (sound.client.not_ended_of_label known)
  -- the only task fetches, so there is no report that could go on and no task that is idle
  | await task starting atOnce => simp [first.reporter?_eq] at starting
  | listen task receiver waiting ready => simp [first.reporter?_eq] at waiting
  | hear task receiver received channel listening receives =>
    simp [first.reporter?_eq] at listening
  | leave task receiver listening => simp [first.reporter?_eq] at listening
  | retire task finished =>
    refine ⟨r, first.congr rfl ?_ rfl first.asks rfl rfl rfl, fun _ h => h⟩
    rw [tasks_onTask, first.tasks]
    cases task <;> simp [Task.setReporter]
  | authorize task path t idle allowed page authorizes =>
    simpa [Task.isIdle] using first.not_idle idle
  | recover task idle allowed page => simpa [Task.isIdle] using first.not_idle idle
  | authorized task popup watching closed => simpa [Task.isIdle] using first.not_idle watching
  | _ => exact ⟨r, first.congr rfl rfl rfl first.asks rfl rfl rfl, fun _ h => h⟩

/-! ### The whole round -/

/-- A round of a session that has begun both fetches, or skipped them. -/
structure Begun (s : Session) (r : Round) : Prop extends s.FirstRound r where
  sound : s.Sound
  counts : s.page.pendingFetches = s.fetchCount
  begun : ∀ part, part ≠ .submission → (r.part? part).isSome ∨ ⟨0, part⟩ ∈ s.begunIds

theorem Steps.begunIds_subset (h : s.Steps t) : s.begunIds ⊆ t.begunIds := by
  induction h with
  | refl => exact fun _ known => known
  | tail _ step ih =>
    rcases step.begunIds with same | ⟨id, -, -, more⟩
    · rwa [same]
    · rw [more]
      exact List.Subset.trans ih (List.subset_append_left _ _)

/-- The first round stays the only one on the whole way. -/
theorem Steps.firstRound (h : s.Steps t) (sound : s.Sound) (first : s.FirstRound r) :
    ∃ r', t.FirstRound r' ∧ r.Grows r' := by
  induction h with
  | refl => exact ⟨r, first, fun _ h => h⟩
  | tail steps step ih =>
    obtain ⟨r', first', grows⟩ := ih
    obtain ⟨r'', first'', grows'⟩ := step.firstRound (Steps.sound steps sound) first'
    exact ⟨r'', first'', fun part ended => grows' part (grows part ended)⟩

theorem Steps.begun (h : s.Steps t) (begun : s.Begun r) : ∃ r', t.Begun r' := by
  obtain ⟨r', first, grows⟩ := h.firstRound begun.sound begun.toFirstRound
  refine ⟨r', first, h.sound begun.sound, h.acts.counts begun.sound begun.counts,
    fun part fetches => ?_⟩
  exact (begun.begun part fetches).imp (grows part) fun known => h.begunIds_subset known

/-- Moves that start no task only let the round go on. -/
theorem Begun.after {m : Move} (begun : s.Begun r) (alone : m.starts = false) :
    ∃ r', (s.after m).Begun r' := by
  have after := after_after begun.sound m
  have start : m.task? = none := by simpa [Move.starts] using alone
  have opened : s.opened m = s := by simp [Session.opened, start]
  generalize s.after m = t at after ⊢
  cases after with
  | steps t steps => exact Steps.begun (opened ▸ steps) begun
  | publishes e publishes =>
    exact ⟨r, begun.congr rfl rfl rfl begun.asks rfl rfl rfl,
      (Act.publish e).sound begun.sound, begun.counts, begun.begun⟩
  | submits task u steps submits cause =>
    rw [opened] at steps
    obtain ⟨r', begun'⟩ := Steps.begun steps begun
    simpa [begun'.reporter?_eq] using submits.reports
  | subscribes u t reports => simp [Move.reports, start] at reports

/-- The first round stays the only one through every history that starts no task. -/
theorem Begun.afterAll {moves : List Move} (begun : s.Begun r)
    (alone : ∀ m ∈ moves, m.starts = false) : ∃ r', (s.afterAll moves).Begun r' := by
  induction moves generalizing s r with
  | nil => exact ⟨r, begun⟩
  | cons m moves ih =>
    obtain ⟨r', begun'⟩ := begun.after (alone m List.mem_cons_self)
    exact ih begun' fun m' later => alone m' (List.mem_cons_of_mem m later)

/-- A fetch of the first round has its call begun, or ends at once. -/
theorem FirstRound.beginFetch (first : s.FirstRound r) (sound : s.Sound) (part : Part)
    (fetches : part ≠ .submission) (new : ⟨0, part⟩ ∉ s.begunIds) :
    ∃ r', (s.beginFetch 0 part).FirstRound r' ∧ r.Grows r' ∧
      ((r'.part? part).isSome ∨ ⟨0, part⟩ ∈ (s.beginFetch 0 part).begunIds) := by
  cases endpoint : s.endpoint? part with
  | none =>
    have skips : s.beginFetch 0 part = s.ended 0 part true s.page s.groups := by
      simp only [Session.beginFetch, endpoint, finishFetch_eq, first.pageAfter]
    refine ⟨_, skips ▸ first.skip fetches endpoint, r.grows_finish fetches true, .inl ?_⟩
    rw [Round.part?_finish r fetches, if_pos rfl]
    rfl
  | some e =>
    have busy : (s.round? 0).isSome := by simp [round?, first.tasks, Task.round?]
    obtain ⟨r', first', grows⟩ := (beginFetch_steps fetches busy new).firstRound sound first
    refine ⟨r', first', grows, .inr ?_⟩
    have follows := follow_follows (s.onPage Page.beginFetch) ⟨0, part⟩
      (s.client.begin ⟨0, part⟩ (.ofEndpoint e))
    have same : s.beginFetch 0 part = (s.onPage Page.beginFetch).follow ⟨0, part⟩
        (s.client.begin ⟨0, part⟩ (.ofEndpoint e)) := by
      simp only [Session.beginFetch, endpoint]
      rfl
    rw [same, begunIds, follows.client, (Client.begin_begins _ _ _).begun_eq]
    simp

/-- A round that was begun has begun both of its fetches. -/
theorem FirstRound.beginRound (first : s.FirstRound r) (sound : s.Sound)
    (counts : s.page.pendingFetches = s.fetchCount) (none : s.begunIds = []) :
    ∃ r', (s.beginRound 0).Begun r' := by
  have busy : (s.round? 0).isSome := by simp [round?, first.tasks, Task.round?]
  have steps : s.Steps (s.beginRound 0) := beginRound_steps busy (by simp [none])
  have content : Step s (s.beginFetch 0 .content) :=
    beginFetch_steps (by simp) busy (by simp [none])
  obtain ⟨r₁, first₁, -, begun₁⟩ := first.beginFetch sound .content (by simp) (by simp [none])
  have new : ⟨0, .groups⟩ ∉ (s.beginFetch 0 .content).begunIds := fun known => by
    simpa [none] using begunIds_beginFetch s 0 .content _ known
  have busy₁ : ((s.beginFetch 0 .content).round? 0).isSome := (content.task 0).round? busy
  obtain ⟨r₂, first₂, grows, begun₂⟩ :=
    first₁.beginFetch (content.steps.sound sound) .groups (by simp) new
  refine ⟨r₂, first₂, steps.sound sound, steps.acts.counts sound counts, fun part fetches => ?_⟩
  have groups : Step (s.beginFetch 0 .content) (s.beginRound 0) :=
    beginFetch_steps (by simp) busy₁ new
  cases part with
  | submission => exact absurd rfl fetches
  | content => exact begun₁.imp (grows .content) fun known => groups.steps.begunIds_subset known
  | groups => exact begun₂

end Session

end CourseLaunch.Launch
