import CourseLaunch.Proofs.Activity.Channel
import CourseLaunch.Proofs.Launch.Frame
import CourseLaunch.Proofs.Launch.Move
import CourseLaunch.Proofs.Popup.Custody
import Mathlib.Logic.Relation
/-!
# The steps of a launch

A move takes tasks through several steps. A `Step` is one of them, with all that is known where it
is taken; it adds no task, begins no submission, takes no subscription and publishes nothing. An
`Act` may do that too. `TaskStep` says what a step makes of one task.
-/

namespace CourseLaunch.Launch
open Activity Backend Popup

/-- Whether a task waits for the user or has given up. -/
def Task.isIdle : Task → Bool
  | .authorizing _ | .abandoned => true
  | _ => false

namespace Session

def begunIds (s : Session) : List CallId := s.client.begun.map Prod.fst

def custody (s : Session) : Custody := ⟨s.authorization, s.desktop⟩

/-- How the wish to authorize at an address ends: it names no page, a popup for its page was opened
or joined, or none could be opened. -/
inductive Authorizes (s : Session) (task : Nat) (path : String) : Session → Prop where
  | unresolved (fault : Web.Fault) (named : s.client.base.join path = .error fault) :
      Authorizes s task path (s.onPage fun page =>
        page.askAuthorization.failAuthorization (.unresolved path fault))
  | opened (page : Web.Url) (a b : Authorization) (d d' : Desktop) (popup : Nat)
      (named : s.client.base.join path = .ok page) (turns : s.custody.Turns page a d)
      (asked : a.openOrFocus s.client.token d = (some popup, b, d')) :
      Authorizes s task path (({ s with authorization := some b, desktop := d' }.onPage
        Page.askAuthorization).onTask task fun _ => .authorizing popup)
  | blocked (page : Web.Url) (a b : Authorization) (d d' : Desktop)
      (named : s.client.base.join path = .ok page) (turns : s.custody.Turns page a d)
      (asked : a.openOrFocus s.client.token d = (none, b, d')) :
      Authorizes s task path ({ s with authorization := some b, desktop := d' }.onPage fun page =>
        page.askAuthorization.blockAuthorization b.blockedMessage)

/-- A step of a task or of its surroundings. -/
inductive Step (s : Session) : Session → Prop where
  | skip (task : Nat) (part : Part) (fetches : part ≠ .submission)
      (missing : s.endpoint? part = none) :
      Step s (s.ended task part true (s.pageAfter task part true s.page) s.groups)
  | fetch (id : CallId) (e : Endpoint) (p : Progress CallId) (t : Session)
      (fetches : id.part ≠ .submission) (endpoint : s.endpoint? id.part = some e)
      (busy : (s.round? id.task).isSome) (new : id ∉ s.begunIds)
      (begins : s.client.Begins id (.ofEndpoint e) p)
      (follows : (s.onPage Page.beginFetch).Follows id p t) : Step s t
  | advance (id : CallId) (p : Progress CallId) (t : Session)
      (advances : s.client.Advances id p) (follows : s.Follows id p t) : Step s t
  | await (task : Nat) (starting : s.reporter? task = some .starting)
      (atOnce : s.submitsOnAnnotation = false) :
      Step s (s.onTask task (Task.setReporter (.awaitingContent none)))
  | listen (task receiver : Nat)
      (waiting : s.reporter? task = some (.awaitingContent (some receiver)))
      (ready : s.page.contentReady) :
      Step s (s.onTask task (Task.setReporter (.listening receiver)))
  | hear (task receiver : Nat) (received : Received) (channel : Channel)
      (listening : s.reporter? task = some (.listening receiver))
      (receives : s.channel.receive? receiver = some (received, channel)) :
      Step s { s with channel := channel }
  | leave (task receiver : Nat) (listening : s.reporter? task = some (.listening receiver)) :
      Step s (s.unsubscribe receiver)
  | retire (task : Nat)
      (finished : s.config.grading = none ∨ s.isSubmitted ∨ s.channel.isOpen = false) :
      Step s (s.onTask task (Task.setReporter .ended))
  | authorize (task : Nat) (path : String) (t : Session)
      (idle : s.tasks[task]? = some .abandoned)
      (allowed : s.page.problem.all Problem.allowsRetry)
      (page : s.page.authorizationUrl = some path) (authorizes : s.Authorizes task path t) :
      Step s t
  | recover (task : Nat) (idle : s.tasks[task]? = some .abandoned)
      (allowed : s.page.problem.all Problem.allowsRetry)
      (page : s.page.authorizationUrl = none) :
      Step s (s.onTask task fun _ => .recovering .begun)
  | authorized (task popup : Nat) (watching : s.tasks[task]? = some (.authorizing popup))
      (closed : s.desktop.isOpen popup = false) :
      Step s (({ s with
        authorization := s.authorization.map fun (a : Authorization) => a.release popup }.onPage
          Page.endAuthorization).onTask task fun _ => .recovering .begun)
  | close (a : Authorization) (current : s.authorization = some a) :
      Step s { s with
        authorization := some (a.close s.desktop).1, desktop := (a.close s.desktop).2 }
  | endActivity : Step s { s with channel := s.channel.close }
  | dismiss (popup : Nat) : Step s { s with desktop := s.desktop.userCloses popup }
  | block (blocked : Bool) : Step s { s with desktop := s.desktop.block blocked }

/-- A task subscribes to annotation activity. -/
def subscribed (s : Session) (task : Nat) : Session :=
  { s with channel := s.channel.subscribe.2 }.onTask task
    (Task.setReporter (.awaitingContent (some s.channel.subscribe.1)))

/-- A step, or the beginning of a task, a submission, a subscription or a publication. -/
inductive Act (s : Session) : Session → Prop where
  | step (t : Session) (step : Step s t) : Act s t
  | join (m : Move) (task : Task) (start : m.task? = some task) : Act s (s.add task)
  | publish (e : Event) : Act s { s with channel := (s.channel.publish e).2 }
  | subscribe (task : Nat) (starting : s.reporter? task = some .starting)
      (deferred : s.submitsOnAnnotation) : Act s (s.subscribed task)
  | submit (task : Nat) (grading : Grading) (p : Progress CallId) (t : Session)
      (reports : (s.reporter? task).isSome) (graded : s.config.grading = some grading)
      (first : s.isSubmitted = false) (ready : s.page.contentReady)
      (begins : s.client.Begins ⟨task, .submission⟩
        (.post grading.path grading.submissionParams) p)
      (follows : ({ s with isSubmitted := true }.onTask task
        (Task.setReporter .submitting)).Follows ⟨task, .submission⟩ p t) : Act s t

def Steps : Session → Session → Prop := Relation.ReflTransGen Step

def Acts : Session → Session → Prop := Relation.ReflTransGen Act

variable {s t : Session}

theorem Step.steps (h : Step s t) : s.Steps t := .single h

theorem Act.acts (h : Act s t) : s.Acts t := .single h

theorem Steps.acts (h : s.Steps t) : s.Acts t :=
  Relation.ReflTransGen.mono (fun _ _ h => Act.step _ h) _ _ h

/-! ### Tasks -/

/-- What a report may come to in a step. -/
inductive ReportStep (deferred ready : Bool) (old : Option Reporter) : Reporter → Prop where
  | ended : ReportStep deferred ready old .ended
  | awaiting (atOnce : deferred = false) : ReportStep deferred ready old (.awaitingContent none)
  | listening (receiver : Nat) (waiting : old = some (.awaitingContent (some receiver)))
      (isReady : ready = true) : ReportStep deferred ready old (.listening receiver)

/-- What a step makes of a task. -/
inductive TaskStep (deferred ready : Bool) : Option Task → Option Task → Prop where
  | same (t : Option Task) : TaskStep deferred ready t t
  | round (t : Task) (change : Round → Round) :
      TaskStep deferred ready (some t) (some (t.mapRound change))
  | report (t : Task) (r : Reporter) (may : ReportStep deferred ready t.reporter? r) :
      TaskStep deferred ready (some t) (some (t.setReporter r))
  | watch (popup : Nat) : TaskStep deferred ready (some .abandoned) (some (.authorizing popup))
  | recover (t : Task) (idle : t.isIdle) :
      TaskStep deferred ready (some t) (some (.recovering .begun))

/-- A step leaves the report of a task where it was, or brings it to where it may come. -/
theorem TaskStep.reporter {deferred ready : Bool} {a b : Option Task}
    (h : TaskStep deferred ready a b) {r : Reporter}
    (known : b.bind Task.reporter? = some r) :
    a.bind Task.reporter? = some r ∨ ReportStep deferred ready (a.bind Task.reporter?) r := by
  cases h with
  | same => exact .inl known
  | round t change => exact .inl (by simpa using known)
  | report t r' may =>
    cases old : t.reporter? with
    | none => simp [old] at known
    | some _ =>
      obtain rfl : r' = r := by simpa [old] using known
      exact .inr may
  | watch popup => simp [Task.reporter?] at known
  | recover t idle => simp [Task.reporter?] at known

theorem taskStep_modify {deferred ready : Bool} {tasks : List Task} (task k : Nat)
    {change : Task → Task}
    (h : ∀ t, tasks[task]? = some t → TaskStep deferred ready (some t) (some (change t))) :
    TaskStep deferred ready tasks[k]? (tasks.modify task change)[k]? := by
  rw [List.getElem?_modify]
  split
  case isTrue same =>
    subst same
    cases found : tasks[task]? with
    | none => exact .same none
    | some t => exact h t found
  case isFalse => simpa using .same _

/-- The task of a call finishes a part of its round, or its report. -/
theorem Follows.task {id : CallId} {p : Progress CallId} (h : s.Follows id p t)
    (deferred ready : Bool) (k : Nat) : TaskStep deferred ready s.tasks[k]? t.tasks[k]? := by
  cases h with
  | underWay c => exact .same _
  | fetched c result ok page groups fetches settles =>
    exact taskStep_modify id.task k fun t _ => .round t _
  | submitted c result page submits settles =>
    exact taskStep_modify id.task k fun t _ => .report t _ .ended

/-- A step takes each task one step on at most. -/
theorem Step.task (h : Step s t) (k : Nat) :
    TaskStep s.submitsOnAnnotation s.page.contentReady s.tasks[k]? t.tasks[k]? := by
  cases h with
  | skip task part fetches missing => exact taskStep_modify task k fun t _ => .round t _
  | fetch id e p t fetches endpoint busy new begins follows => exact follows.task _ _ k
  | advance id p t advances follows => exact follows.task _ _ k
  | await task starting atOnce =>
    exact taskStep_modify task k fun t _ => .report t _ (.awaiting atOnce)
  | listen task receiver waiting ready =>
    refine taskStep_modify task k fun t found => .report t _ (.listening receiver ?_ ready)
    simpa [reporter?, found] using waiting
  | retire task finished => exact taskStep_modify task k fun t _ => .report t _ .ended
  | authorize task path t idle allowed page authorizes =>
    cases authorizes with
    | opened q a b d d' popup named turns asked =>
      refine taskStep_modify task k fun t found => ?_
      obtain rfl : t = .abandoned := by simpa [idle] using found.symm
      exact .watch popup
    | _ => exact .same _
  | recover task idle allowed page =>
    refine taskStep_modify task k fun t found => .recover t ?_
    obtain rfl : t = .abandoned := by simpa [idle] using found.symm
    rfl
  | authorized task popup watching closed =>
    refine taskStep_modify task k fun t found => .recover t ?_
    obtain rfl : t = .authorizing popup := by simpa [watching] using found.symm
    rfl
  | _ => exact .same _

theorem Follows.config {id : CallId} {p : Progress CallId} (h : s.Follows id p t) :
    t.config = s.config := by cases h <;> rfl

/-- The configuration never changes. -/
theorem Step.config (h : Step s t) : t.config = s.config := by
  cases h with
  | fetch id e p t fetches endpoint busy new begins follows => exact follows.config
  | advance id p t advances follows => exact follows.config
  | authorize task path t idle allowed page authorizes => cases authorizes <;> rfl
  | _ => rfl

theorem Act.config (h : Act s t) : t.config = s.config := by
  cases h with
  | step t step => exact step.config
  | submit task grading p t reports graded first ready begins follows => exact follows.config
  | _ => rfl

/-- The configuration never changes. -/
theorem Acts.config (h : s.Acts t) : t.config = s.config := by
  induction h with
  | refl => rfl
  | tail _ act ih => exact act.config.trans ih

theorem Follows.client {id : CallId} {p : Progress CallId} (h : s.Follows id p t) :
    t.client = p.1 := by cases h <;> rfl

theorem Follows.isSubmitted {id : CallId} {p : Progress CallId} (h : s.Follows id p t) :
    t.isSubmitted = s.isSubmitted := by cases h <;> rfl

/-- A step begins no submission. -/
theorem Step.isSubmitted (h : Step s t) : t.isSubmitted = s.isSubmitted := by
  cases h with
  | fetch id e p t fetches endpoint busy new begins follows => exact follows.isSubmitted
  | advance id p t advances follows => exact follows.isSubmitted
  | authorize task path t idle allowed page authorizes => cases authorizes <;> rfl
  | _ => rfl

theorem Settles.ready {part : Part} {result : Except Failure Reply} {ok : Bool} {page : Page}
    {groups : Option (List String)} (h : s.Settles part result ok page groups)
    (ready : s.page.contentReady) : page.contentReady := by
  cases h with
  | content result url read => rfl
  | groups result groups read => exact ready
  | failed part result failure failed =>
    simp only [Page.endFetch, Page.failFetch, Page.fail]
    split <;> exact ready

theorem ready_pageAfter {task : Nat} {part : Part} {ok : Bool} {page : Page}
    (ready : page.contentReady) : (s.pageAfter task part ok page).contentReady := by
  unfold pageAfter Page.recover
  split
  · split <;> exact ready
  · exact ready

/-- The content stays known when a call goes on. -/
theorem Follows.ready {id : CallId} {p : Progress CallId} (h : s.Follows id p t)
    (ready : s.page.contentReady) : t.page.contentReady := by
  cases h with
  | underWay c => exact ready
  | fetched c result ok page groups fetches settles => exact ready_pageAfter (settles.ready ready)
  | submitted c result page submits settles => cases settles <;> exact ready

/-- The content stays known. -/
theorem Step.ready (h : Step s t) (ready : s.page.contentReady) : t.page.contentReady := by
  cases h with
  | skip task part fetches missing => exact ready_pageAfter ready
  | fetch id e p t fetches endpoint busy new begins follows => exact follows.ready ready
  | advance id p t advances follows => exact follows.ready ready
  | authorize task path t idle allowed page authorizes =>
    cases authorizes with
    | unresolved fault named =>
      simp only [page_onPage, Page.failAuthorization, Page.fail]
      split <;> exact ready
    | _ => exact ready
  | _ => exact ready

theorem Follows.channel {id : CallId} {p : Progress CallId} (h : s.Follows id p t) :
    t.channel = s.channel := by cases h <;> rfl

/-- No step of a task publishes an event. -/
theorem Step.channel (h : Step s t) (valid : s.channel.Valid) : s.channel.Quiet t.channel := by
  cases h with
  | fetch id e p t fetches endpoint busy new begins follows => exact follows.channel ▸ .refl _
  | advance id p t advances follows => exact follows.channel ▸ .refl _
  | hear task receiver received channel listening receives => exact Channel.quiet_receive receives
  | leave task receiver listening => exact Channel.quiet_unsubscribe valid receiver
  | authorize task path t idle allowed page authorizes => cases authorizes <;> exact .refl _
  | endActivity => exact Channel.quiet_close s.channel
  | _ => exact .refl _

/-- What a step makes of the client. -/
inductive ClientStep (c : Client CallId) (rounds : Nat → Option Round) : Client CallId → Prop where
  | same : ClientStep c rounds c
  | begins (id : CallId) (e : Endpoint) (p : Progress CallId) (fetches : id.part ≠ .submission)
      (busy : (rounds id.task).isSome) (new : id ∉ c.begun.map Prod.fst)
      (begins : c.Begins id (.ofEndpoint e) p) : ClientStep c rounds p.1
  | advances (id : CallId) (p : Progress CallId) (advances : c.Advances id p) :
      ClientStep c rounds p.1

/-- A step begins one call, or lets one go on, or leaves the client alone. -/
theorem Step.client (h : Step s t) : ClientStep s.client s.round? t.client := by
  cases h with
  | fetch id e p t fetches endpoint busy new begins follows =>
    rw [follows.client]
    exact .begins id e p fetches busy new begins
  | advance id p t advances follows =>
    rw [follows.client]
    exact .advances id p advances
  | authorize task path t idle allowed page authorizes => cases authorizes <;> exact .same
  | _ => exact .same

/-- A step begins one fetch at most, for a task with a round. -/
theorem Step.begunIds (h : Step s t) :
    t.begunIds = s.begunIds ∨
      ∃ id, id.part ≠ .submission ∧ (s.round? id.task).isSome ∧
        t.begunIds = s.begunIds ++ [id] := by
  unfold Session.begunIds
  have client := h.client
  generalize t.client = c at client ⊢
  cases client with
  | same => exact .inl rfl
  | begins id e p fetches busy new begins =>
    exact .inr ⟨id, fetches, busy, by simp [begins.begun_eq]⟩
  | advances id p advances => exact .inl (by rw [advances.begun_eq])

end Session

end CourseLaunch.Launch
