import CourseLaunch.Launch.Session
import CourseLaunch.Proofs.Backend.Journal
/-!
# What the functions of a session leave alone

The end of a fetch changes the page, the groups and the round of its task; the end of a submission
changes the page and the reporter of its task. All else stays as it was.
-/

namespace CourseLaunch.Launch
open Activity Backend Popup

namespace Task

@[simp] theorem reporter?_mapRound (t : Task) (change : Round → Round) :
    (t.mapRound change).reporter? = t.reporter? := by cases t <;> rfl

@[simp] theorem round?_mapRound (t : Task) (change : Round → Round) :
    (t.mapRound change).round? = t.round?.map change := by cases t <;> rfl

@[simp] theorem reporter?_setReporter (t : Task) (r : Reporter) :
    (t.setReporter r).reporter? = t.reporter?.map fun _ => r := by cases t <;> rfl

@[simp] theorem round?_setReporter (t : Task) (r : Reporter) :
    (t.setReporter r).round? = t.round? := by cases t <;> rfl

end Task

/-- The receiver of annotation activity that a report holds. -/
def Reporter.receiver? : Reporter → Option Nat
  | awaitingContent receiver => receiver
  | listening receiver => some receiver
  | _ => none

/-- The failure of a result, if it is one. -/
def failureOf {α : Type} : Except Failure α → Option Failure
  | .error failure => some failure
  | .ok _ => none

@[simp] theorem failureOf_ok {α : Type} (x : α) : failureOf (.ok x : Except Failure α) = none := rfl

@[simp] theorem failureOf_error {α : Type} (failure : Failure) :
    failureOf (.error failure : Except Failure α) = some failure := rfl

namespace Session

/-- How far the report of a task has come. -/
def reporter? (s : Session) (task : Nat) : Option Reporter := s.tasks[task]?.bind Task.reporter?

/-- The receiver of annotation activity that a task holds. -/
def receiver? (s : Session) (task : Nat) : Option Nat :=
  (s.reporter? task).bind Reporter.receiver?

def round? (s : Session) (task : Nat) : Option Round := s.tasks[task]?.bind Task.round?

variable (s : Session)

@[simp] theorem page_onPage (change : Page → Page) : (s.onPage change).page = change s.page := rfl

@[simp] theorem client_onPage (change : Page → Page) : (s.onPage change).client = s.client := rfl

@[simp] theorem page_onTask (task : Nat) (change : Task → Task) :
    (s.onTask task change).page = s.page := rfl

@[simp] theorem tasks_onTask (task : Nat) (change : Task → Task) :
    (s.onTask task change).tasks = s.tasks.modify task change := rfl

variable {s} in
theorem deferred_congr {t : Session} (config : t.config = s.config) :
    t.submitsOnAnnotation = s.submitsOnAnnotation := by
  unfold submitsOnAnnotation
  rw [config]

variable {s} in
theorem deferred_of_grading {grading : Grading} (graded : s.config.grading = some grading) :
    s.submitsOnAnnotation = grading.submitOnAnnotation := by
  unfold submitsOnAnnotation
  rw [graded]
  rfl

theorem getElem?_add (task : Task) (k : Nat) :
    (s.add task).tasks[k]? = if k = s.nextTask then some task else s.tasks[k]? := by
  unfold add nextTask
  split
  case isTrue last => simp [last]
  case isFalse other =>
    rcases Nat.lt_or_gt_of_ne other with old | beyond
    · rw [List.getElem?_append_left old]
    · rw [List.getElem?_eq_none (by simp; omega), List.getElem?_eq_none (by omega)]

theorem reporter?_add (task : Task) (k : Nat) :
    (s.add task).reporter? k = if k = s.nextTask then task.reporter? else s.reporter? k := by
  unfold reporter?
  rw [getElem?_add]
  split <;> rfl

theorem reporter?_onTask_setReporter (task k : Nat) (r : Reporter) :
    (s.onTask task (Task.setReporter r)).reporter? k =
      if task = k then (s.reporter? k).map fun _ => r else s.reporter? k := by
  unfold reporter?
  rw [tasks_onTask, List.getElem?_modify]
  split <;> cases s.tasks[k]? <;> simp

/-- The session after a fetch, with another page and other groups. -/
def ended (task : Nat) (part : Part) (ok : Bool) (page : Page) (groups : Option (List String)) :
    Session :=
  { s with
    page := page
    groups := groups
    tasks := s.tasks.modify task (Task.mapRound fun round => round.finish part ok) }

/-- The page when a task goes on after a fetch: the error goes away when a retry is over. -/
def pageAfter (task : Nat) (part : Part) (ok : Bool) (page : Page) : Page :=
  if (s.tasks[task]?.map (Task.mapRound fun round => round.finish part ok)).any Task.hasRecovered
  then page.recover else page

theorem finishFetch_eq (task : Nat) (part : Part) (ok : Bool) :
    s.finishFetch task part ok =
      s.ended task part ok (s.pageAfter task part ok s.page) s.groups := by
  unfold finishFetch pageAfter ended
  simp only [tasks_onTask, List.getElem?_modify_eq, Option.map_eq_map]
  split <;> rfl

/-- Why a call failed, if it did: there was no reply, or it cannot be read. -/
def failure? (part : Part) (result : Except Failure Reply) : Option Failure :=
  match part with
  | .content => failureOf (result.bind fun r => r.decode contentReply)
  | .groups => failureOf (result.bind fun r => r.decode groupsReply)
  | .submission => failureOf (result.bind fun r => r.decode .any)

/-- What the result of a fetch makes of the page and the groups, and whether it was successful. -/
inductive Settles : Part → Except Failure Reply → Bool → Page → Option (List String) → Prop where
  | content (result : Except Failure Reply) (url : String)
      (read : result.bind (fun r => r.decode contentReply) = .ok url) :
      Settles .content result true (s.page.showContent url).endFetch s.groups
  | groups (result : Except Failure Reply) (groups : List String)
      (read : result.bind (fun r => r.decode groupsReply) = .ok groups) :
      Settles .groups result true s.page.endFetch (some groups)
  | failed (part : Part) (result : Except Failure Reply) (failure : Failure)
      (failed : failure? part result = some failure) :
      Settles part result false
        (s.page.failFetch failure ((s.endpoint? part).bind Endpoint.authUrl)).endFetch s.groups

/-- The end of a fetch settles its result: the page changes, then the round, and a retry may
recover. -/
theorem concludeFetch_settles {part : Part} (task : Nat) (result : Except Failure Reply)
    (fetches : part ≠ .submission) :
    ∃ ok page groups, s.Settles part result ok page groups ∧
      s.concludeFetch task part result =
        s.ended task part ok (s.pageAfter task part ok page) groups := by
  unfold concludeFetch
  cases part with
  | submission => exact absurd rfl fetches
  | content =>
    -- decoding decides first, and only then the session changes
    have accepts : result.bind (s.accept .content) =
        (result.bind fun r => r.decode contentReply).map fun url =>
          s.onPage fun page => page.showContent url := by cases result <;> rfl
    rw [accepts]
    cases read : result.bind fun r => r.decode contentReply with
    | ok url =>
      refine ⟨_, _, _, .content result url read, ?_⟩
      simp only [Except.map, finishFetch_eq]
      rfl
    | error failure =>
      refine ⟨_, _, _, .failed .content result failure (by simp [failure?, read]), ?_⟩
      simp only [Except.map, finishFetch_eq]
      rfl
  | groups =>
    have accepts : result.bind (s.accept .groups) =
        (result.bind fun r => r.decode groupsReply).map fun groups =>
          { s with groups := some groups } := by cases result <;> rfl
    rw [accepts]
    cases read : result.bind fun r => r.decode groupsReply with
    | ok groups =>
      refine ⟨_, _, _, .groups result groups read, ?_⟩
      simp only [Except.map, finishFetch_eq]
      rfl
    | error failure =>
      refine ⟨_, _, _, .failed .groups result failure (by simp [failure?, read]), ?_⟩
      simp only [Except.map, finishFetch_eq]
      rfl

/-- What the result of a submission makes of the page. -/
inductive SettlesSubmission : Except Failure Reply → Page → Prop where
  | reported (result : Except Failure Reply) (done : failure? .submission result = none) :
      SettlesSubmission result s.page
  | failed (result : Except Failure Reply) (failure : Failure)
      (failed : failure? .submission result = some failure) :
      SettlesSubmission result (s.page.failSubmission failure)

/-- The end of a submission is told on the page if it failed, and ends the report. -/
theorem concludeSubmission_settles (task : Nat) (result : Except Failure Reply) :
    ∃ page, s.SettlesSubmission result page ∧
      s.concludeSubmission task result =
        { s with page := page, tasks := s.tasks.modify task (Task.setReporter .ended) } := by
  unfold concludeSubmission
  simp only
  have accepts : result.bind ((s.onTask task (Task.setReporter .ended)).accept .submission) =
      (result.bind fun r => r.decode .any).map fun _ =>
        s.onTask task (Task.setReporter .ended) := by cases result <;> rfl
  rw [accepts]
  cases read : result.bind fun r => r.decode Wire.Codec.any with
  | ok _ => exact ⟨_, .reported result (by simp [failure?, read]), rfl⟩
  | error failure => exact ⟨_, .failed result failure (by simp [failure?, read]), rfl⟩

variable {s} in
theorem Settles.of_client {c : Client CallId} {part : Part} {result : Except Failure Reply}
    {ok : Bool} {page : Page} {groups : Option (List String)}
    (h : Settles { s with client := c } part result ok page groups) :
    s.Settles part result ok page groups := by
  cases h with
  | content result url read => exact .content result url read
  | groups result groups read => exact .groups result groups read
  | failed part result failure failed => exact .failed part result failure failed

variable {s} in
theorem SettlesSubmission.of_client {c : Client CallId} {result : Except Failure Reply}
    {page : Page} (h : SettlesSubmission { s with client := c } result page) :
    s.SettlesSubmission result page := by
  cases h with
  | reported done => exact .reported result done
  | failed failure failed => exact .failed result failure failed

/-- What the progress of a call makes of a session. Only the end of a call changes more than the
client. -/
inductive Follows (id : CallId) : Progress CallId → Session → Prop where
  | underWay (c : Client CallId) : Follows id (c, none) { s with client := c }
  | fetched (c : Client CallId) (result : Except Failure Reply) (ok : Bool) (page : Page)
      (groups : Option (List String)) (fetches : id.part ≠ .submission)
      (settles : s.Settles id.part result ok page groups) :
      Follows id (c, some result)
        (ended { s with client := c } id.task id.part ok
          (s.pageAfter id.task id.part ok page) groups)
  | submitted (c : Client CallId) (result : Except Failure Reply) (page : Page)
      (submits : id.part = .submission)
      (settles : s.SettlesSubmission result page) :
      Follows id (c, some result)
        { s with
          client := c
          page := page
          tasks := s.tasks.modify id.task (Task.setReporter .ended) }

/-- A task follows its call: it goes on waiting, or takes in the result. -/
theorem follow_follows (id : CallId) (p : Progress CallId) : s.Follows id p (s.follow id p) := by
  obtain ⟨c, result⟩ := p
  cases result with
  | none => exact .underWay c
  | some result =>
    by_cases submits : id.part = .submission
    · obtain ⟨page, settles, same⟩ :=
        concludeSubmission_settles { s with client := c } id.task result
      simp only [follow, submits, if_true, same]
      exact .submitted c result page submits settles.of_client
    · obtain ⟨ok, page, groups, settles, same⟩ :=
        concludeFetch_settles { s with client := c } id.task result submits
      simp only [follow, submits, if_false, same]
      exact .fetched c result ok page groups submits settles.of_client

end Session

end CourseLaunch.Launch
