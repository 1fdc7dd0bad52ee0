import CourseLaunch.Proofs.Launch.Finality
import CourseLaunch.Proofs.Launch.FirstRound
import Mathlib.Data.List.Chain
/-!
# The pages that a move publishes

Every change of the page is published, also in the middle of a move. Beside each function of a
session stands the list of the pages that it publishes, in order: each of them is one change away
from the one before, and the last one is the page that the function leaves behind. Only the end of
a retry that has fetched everything again is a recovery, and then it is the last change.
-/

namespace CourseLaunch.Launch
open Activity Backend Popup

namespace Page

variable {p q r : Page}

/-- A change of a page, other than a recovery. The user is asked to authorize only while the problem
allows a retry, and a popup is blocked only after that; a fetch that ends was counted, and a
submission fails only once. -/
inductive Alters (p : Page) : Page → Prop where
  | beginFetch : Alters p p.beginFetch
  | endFetch (counted : 0 < p.pendingFetches) : Alters p p.endFetch
  | showContent (url : String) : Alters p (p.showContent url)
  | failFetch (f : Failure) (authorizationUrl : Option String) :
      Alters p (p.failFetch f authorizationUrl)
  | failAuthorization (f : Failure) : Alters p (p.failAuthorization f)
  | failSubmission (f : Failure) (first : p.problem ≠ some .reportingSubmission) :
      Alters p (p.failSubmission f)
  | askAuthorization (allowed : p.problem.all Problem.allowsRetry) : Alters p p.askAuthorization
  | blockAuthorization (message : String) (asked : p.problem = some .authorizing) :
      Alters p (p.blockAuthorization message)
  | endAuthorization : Alters p p.endAuthorization

/-- A page and the one that is published next. -/
inductive Publishes (p : Page) : Page → Prop where
  | change (q : Page) (alters : p.Alters q) : Publishes p q
  | recover : Publishes p p.recover

/-- Pages that follow one another from a page to another one, each related to the one before. -/
structure Path (R : Page → Page → Prop) (p : Page) (pages : List Page) (q : Page) : Prop where
  chain : (p :: pages).IsChain R
  last : (p :: pages).getLast? = some q

namespace Path

variable {R : Page → Page → Prop} {pages more : List Page}

theorem nil (p : Page) : Path R p [] p := ⟨List.isChain_singleton p, rfl⟩

theorem cons (first : R p q) (rest : Path R q pages r) : Path R p (q :: pages) r :=
  ⟨.cons_cons first rest.chain, by rw [List.getLast?_cons_cons, rest.last]⟩

theorem single (h : R p q) : Path R p [q] q := .cons h (.nil q)

/-- Two paths in a row are one. -/
theorem append (h : Path R p pages q) (h' : Path R q more r) : Path R p (pages ++ more) r := by
  induction pages generalizing p with
  | nil =>
    obtain rfl : p = q := by simpa using h.last
    exact h'
  | cons next pages ih =>
    obtain ⟨first, rest⟩ := List.isChain_cons_cons.mp h.chain
    exact .cons first (ih ⟨rest, by rw [← h.last, List.getLast?_cons_cons]⟩)

theorem mono {S : Page → Page → Prop} (h : Path R p pages q) (weaker : ∀ p q, R p q → S p q) :
    Path S p pages q := ⟨h.chain.imp weaker, h.last⟩

/-- What holds of a page and is kept from one page to the next holds of all that follow. -/
theorem keeps {P : Page → Prop} (h : Path R p pages q) (keeps : ∀ p q, R p q → P p → P q)
    (start : P p) : ∀ x ∈ p :: pages, P x := by
  obtain ⟨chain, -⟩ := h
  induction pages generalizing p with
  | nil => simpa using start
  | cons next pages ih =>
    obtain ⟨first, rest⟩ := List.isChain_cons_cons.mp chain
    intro x known
    rcases List.mem_cons.mp known with rfl | known
    · exact start
    · exact ih (keeps p next first start) rest x known

/-- Pages that follow one another are all related to the first one, by a relation that composes. -/
theorem related (refl : ∀ p, R p p) (trans : ∀ p q r, R p q → R q r → R p r)
    (h : Path R p pages q) : ∀ x ∈ p :: pages, R p x :=
  h.keeps (fun x y next known => trans p x y known next) (refl p)

end Path

end Page

namespace Session

variable {s t : Session}

/-- What a history keeps: the page counts the fetches that are under way, and a submission that has
failed is the only one. -/
structure Orderly (s : Session) : Prop where
  sound : s.Sound
  counts : s.page.pendingFetches = s.fetchCount
  once : s.submissions.length ≤ 1
  final : s.page.problem = some .reportingSubmission → s.Final

theorem orderly_initial (config : Config) (base : Web.Url) (token : String) (desktop : Desktop) :
    (initial config base token desktop).Orderly where
  sound := sound_initial config base token desktop
  counts := rfl
  once := Nat.zero_le 1
  final failed := by simp [initial, ofConfig, Page.initial] at failed

/-- Order is kept by acts. -/
theorem Orderly.acts (orderly : s.Orderly) (h : s.Acts t) : t.Orderly where
  sound := h.sound orderly.sound
  counts := h.counts orderly.sound orderly.counts
  once := h.submissions_length orderly.sound orderly.once
  final failed := by
    by_cases before : s.page.problem = some .reportingSubmission
    · exact (h.final (orderly.final before)).1
    · exact h.becomesFinal orderly.sound orderly.once before failed

/-- Order is kept by every history. -/
theorem Orderly.afterAll (orderly : s.Orderly) (moves : List Move) : (s.afterAll moves).Orderly :=
  orderly.acts (acts_afterAll orderly.sound moves)

/-- Before the submission is begun it cannot have failed. -/
theorem Orderly.open' (orderly : s.Orderly) (first : s.isSubmitted = false) :
    s.page.problem ≠ some .reportingSubmission := by
  intro failed
  simpa [first] using (orderly.final failed).submitted

/-! ### Rounds -/

theorem round?_onTask_mapRound (task k : Nat) (change : Round → Round) :
    (s.onTask task (Task.mapRound change)).round? k =
      if task = k then (s.round? k).map change else s.round? k := by
  unfold round?
  rw [tasks_onTask, List.getElem?_modify]
  split <;> cases s.tasks[k]? <;> simp

theorem round?_onTask_setReporter (task k : Nat) (r : Reporter) :
    (s.onTask task (Task.setReporter r)).round? k = s.round? k := by
  unfold round?
  rw [tasks_onTask, List.getElem?_modify]
  split <;> cases s.tasks[k]? <;> simp

theorem round?_ended (task k : Nat) (part : Part) (ok : Bool) (page : Page)
    (groups : Option (List String)) :
    (s.ended task part ok page groups).round? k =
      if task = k then (s.round? k).map fun round => round.finish part ok else s.round? k :=
  round?_onTask_mapRound task k _

/-- What the progress of a call makes of a round: a fetch that ends is noted with its success. -/
theorem Follows.round? {id : CallId} {p : Progress CallId} (h : s.Follows id p t) (k : Nat) :
    t.round? k = s.round? k ∨
      ∃ result, p.2 = some result ∧ id.task = k ∧ id.part ≠ .submission ∧
        t.round? k =
          (s.round? k).map fun r => r.finish id.part (failure? id.part result).isNone := by
  cases h with
  | underWay c => exact .inl rfl
  | fetched c result ok page groups fetches settles =>
    rw [round?_ended]
    split
    case isTrue own => exact .inr ⟨result, rfl, own, fetches, settles.ok_eq ▸ rfl⟩
    case isFalse => exact .inl rfl
  | submitted c result page submits settles =>
    refine .inl ?_
    show (s.onTask id.task (Task.setReporter .ended)).round? k = s.round? k
    exact round?_onTask_setReporter id.task k .ended

/-- A fetch for the content does not end the one for the groups. -/
theorem groups_of_beginFetch {task : Nat} {r r' : Round} (before : s.round? task = some r)
    (known : (s.beginFetch task .content).round? task = some r') : r'.groups = r.groups := by
  unfold beginFetch at known
  cases endpoint : s.endpoint? .content with
  | none =>
    simp only [endpoint, finishFetch_eq] at known
    rw [round?_ended, if_pos rfl, before] at known
    obtain rfl := Option.some.inj known
    rfl
  | some e =>
    simp only [endpoint] at known
    have follows := follow_follows (s.onPage Page.beginFetch) ⟨task, .content⟩
      (s.client.begin ⟨task, .content⟩ (.ofEndpoint e))
    rcases follows.round? task with same | ⟨result, -, -, -, finished⟩
    · obtain rfl : r = r' := Option.some.inj (before.symm.trans (same.symm.trans known))
      rfl
    · have after : some (r.finish .content (failure? .content result).isNone) = some r' := by
        rw [← known]
        exact (finished.trans (congrArg _ before)).symm
      obtain rfl := Option.some.inj after
      rfl

/-! ### Fetches -/

/-- The pages when a fetch ends. -/
def finishPages (s : Session) (task : Nat) (part : Part) (ok : Bool) : List Page :=
  let s := s.onTask task (Task.mapRound fun round => round.finish part ok)
  if s.tasks[task]?.any Task.hasRecovered then [s.page.recover] else []

/-- The pages when the reply to a fetch is taken in. -/
def acceptPages (s : Session) (part : Part) : List Page := if part = .content then [s.page] else []

/-- The pages when the result of a fetch is taken in. -/
def concludeFetchPages (s : Session) (task : Nat) (part : Part)
    (result : Except Failure Reply) : List Page :=
  match result.bind (s.accept part) with
  | .ok accepted =>
    let ended := accepted.onPage Page.endFetch
    accepted.acceptPages part ++ ended.page :: ended.finishPages task part true
  | .error failure =>
    let authorizationUrl := (s.endpoint? part).bind Endpoint.authUrl
    let failed := s.onPage fun page => page.failFetch failure authorizationUrl
    let ended := failed.onPage Page.endFetch
    failed.page :: ended.page :: ended.finishPages task part false

/-- The pages when the result of a submission is taken in. -/
def concludeSubmissionPages (s : Session) (task : Nat) (result : Except Failure Reply) :
    List Page :=
  let s := s.onTask task (Task.setReporter .ended)
  match result.bind (s.accept .submission) with
  | .ok _ => []
  | .error failure => [s.page.failSubmission failure]

/-- The pages when it is taken in what happened to a call. -/
def followPages (s : Session) (id : CallId) (progress : Progress CallId) : List Page :=
  let s := { s with client := progress.1 }
  match progress.2 with
  | none => []
  | some result =>
    if id.part = .submission then s.concludeSubmissionPages id.task result
    else s.concludeFetchPages id.task id.part result

def callPages (s : Session) (id : CallId) (request : Request) : List Page :=
  s.followPages id (s.client.begin id request)

/-- The pages when a fetch begins. -/
def beginFetchPages (s : Session) (task : Nat) (part : Part) : List Page :=
  match s.endpoint? part with
  | none => s.finishPages task part true
  | some e =>
    let begun := s.onPage Page.beginFetch
    begun.page :: begun.callPages ⟨task, part⟩ (.ofEndpoint e)

def beginRoundPages (s : Session) (task : Nat) : List Page :=
  s.beginFetchPages task .content ++ (s.beginFetch task .content).beginFetchPages task .groups

/-- What is shown while a task goes on: pages without a recovery, or a recovery after them, when the
task has fetched everything again. -/
inductive Displays (p : Page) (task : Nat) (pages : List Page) (t : Session) :
    Prop where
  | stays (path : p.Path Page.Alters pages t.page)
  | recovers (before : List Page) (q : Page) (r : Round)
      (path : p.Path Page.Alters before q) (all : pages = before ++ [q.recover])
      (recovered : t.page = q.recover) (found : t.tasks[task]? = some (.recovering r))
      (settled : r.outcome? = some true)

/-- What is shown first comes before what is displayed later. -/
theorem Displays.head {p q : Page} {task : Nat} {pages more : List Page}
    (h : Displays q task pages t) (path : p.Path Page.Alters more q) :
    Displays p task (more ++ pages) t := by
  cases h with
  | stays rest => exact .stays (path.append rest)
  | recovers before q r rest all recovered found settled =>
    exact .recovers (more ++ before) q r (path.append rest) (by rw [all, List.append_assoc])
      recovered found settled

theorem Displays.cons {p q : Page} {task : Nat} {pages : List Page}
    (h : Displays q task pages t) (first : p.Alters q) :
    Displays p task (q :: pages) t := h.head (.single first)

/-- The page recovers only for a retry whose fetches were both successful. -/
theorem finishFetch_displays (s : Session) (task : Nat) (part : Part) (ok : Bool) :
    Displays s.page task (s.finishPages task part ok) (s.finishFetch task part ok) := by
  unfold finishPages finishFetch
  simp only
  split
  case isFalse => exact .stays (.nil _)
  case isTrue recovered =>
    obtain ⟨after, found, done⟩ := (Option.any_eq_true _ _).mp recovered
    cases after with
    | recovering r =>
      exact .recovers [] s.page r (.nil _) rfl rfl found (by simpa [Task.hasRecovered] using done)
    | _ => simp [Task.hasRecovered] at done

/-- Taking in a reply may show the content, and counts no fetch. -/
theorem accept_path {accepted : Session} {part : Part} {r : Reply}
    (read : s.accept part r = .ok accepted) :
    s.page.Path Page.Alters (accepted.acceptPages part) accepted.page ∧
      accepted.page.pendingFetches = s.page.pendingFetches := by
  unfold accept at read
  cases part with
  | content =>
    cases decoded : r.decode contentReply with
    | error failure => simp [decoded, Except.map] at read
    | ok url =>
      obtain rfl : s.onPage (fun page => page.showContent url) = accepted := by
        simpa [decoded, Except.map] using read
      exact ⟨.single (.showContent url), rfl⟩
  | groups =>
    cases decoded : r.decode groupsReply with
    | error failure => simp [decoded, Except.map] at read
    | ok groups =>
      obtain rfl : { s with groups := some groups } = accepted := by
        simpa [decoded, Except.map] using read
      exact ⟨.nil _, rfl⟩
  | submission =>
    cases decoded : r.decode .any with
    | error failure => simp [decoded, Except.map] at read
    | ok value =>
      obtain rfl : s = accepted := by simpa [decoded, Except.map] using read
      exact ⟨.nil _, rfl⟩

/-- The pages at the end of a fetch: its content or its failure, one fetch less, and the recovery if
it was the last one of a retry. -/
theorem concludeFetch_displays (task : Nat) (part : Part) (result : Except Failure Reply)
    (counted : 0 < s.page.pendingFetches) :
    Displays s.page task (s.concludeFetchPages task part result)
      (s.concludeFetch task part result) := by
  unfold concludeFetchPages concludeFetch
  cases ended : result.bind (s.accept part) with
  | error failure =>
    refine ((finishFetch_displays _ task part false).cons (.endFetch ?_)).cons
      (.failFetch failure _)
    simpa [Page.failFetch] using counted
  | ok accepted =>
    have read : s.page.Path Page.Alters (accepted.acceptPages part) accepted.page ∧
        accepted.page.pendingFetches = s.page.pendingFetches := by
      cases result with
      | error failure => cases ended
      | ok r => exact accept_path ended
    exact ((finishFetch_displays _ task part true).cons (.endFetch (read.2 ▸ counted))).head read.1

theorem concludeSubmission_path (s : Session) (task : Nat) (result : Except Failure Reply)
    (first : s.page.problem ≠ some .reportingSubmission) :
    s.page.Path Page.Alters (s.concludeSubmissionPages task result)
      (s.concludeSubmission task result).page := by
  unfold concludeSubmissionPages concludeSubmission
  simp only
  cases ended : result.bind ((s.onTask task (Task.setReporter .ended)).accept .submission) with
  | error failure => exact .single (.failSubmission failure first)
  | ok accepted =>
    cases result with
    | error failure => cases ended
    | ok r =>
      have read : (s.onTask task (Task.setReporter .ended)).accept .submission r = .ok accepted :=
        ended
      exact (accept_path read).1

/-- Only the end of a fetch may be a recovery. -/
theorem follow_path (id : CallId) {p : Progress CallId}
    (noFetch : p.2.isSome → id.part = .submission)
    (first : p.2.isSome → s.page.problem ≠ some .reportingSubmission) :
    s.page.Path Page.Alters (s.followPages id p) (s.follow id p).page := by
  unfold followPages follow
  cases ends : p.2 with
  | none => exact .nil _
  | some result =>
    simp only [noFetch (by simp [ends]), if_true]
    exact concludeSubmission_path { s with client := p.1 } id.task result (first (by simp [ends]))

/-- While a call waits nothing is published, and at its end what the fetch displays. -/
theorem follow_displays (id : CallId) {p : Progress CallId} (fetches : id.part ≠ .submission)
    (counted : 0 < s.page.pendingFetches) :
    Displays s.page id.task (s.followPages id p) (s.follow id p) := by
  unfold followPages follow
  cases p.2 with
  | none => exact .stays (.nil _)
  | some result =>
    simp only [if_neg fetches]
    exact concludeFetch_displays (s := { s with client := p.1 }) id.task id.part result counted

/-- A fetch is counted before its call can end. -/
theorem beginFetch_displays (s : Session) (task : Nat) (part : Part)
    (fetches : part ≠ .submission) :
    Displays s.page task (s.beginFetchPages task part) (s.beginFetch task part) := by
  unfold beginFetchPages beginFetch
  cases s.endpoint? part with
  | none => exact finishFetch_displays s task part true
  | some e =>
    let begun := s.onPage Page.beginFetch
    let p := s.client.begin ⟨task, part⟩ (.ofEndpoint e)
    have rest : Displays begun.page task (begun.followPages ⟨task, part⟩ p)
        (begun.follow ⟨task, part⟩ p) := follow_displays ⟨task, part⟩ fetches (Nat.succ_pos _)
    exact rest.cons .beginFetch

/-- A round that was just begun is not over before its second fetch was begun. -/
theorem beginRound_displays {task : Nat} (begun : s.round? task = some .begun) :
    Displays s.page task (s.beginRoundPages task) (s.beginRound task) := by
  cases beginFetch_displays s task .content (by simp) with
  | stays path => exact (beginFetch_displays _ task .groups (by simp)).head path
  | recovers before q r path all recovered found settled =>
    have groups : r.groups = none :=
      groups_of_beginFetch begun (by simp [Session.round?, found, Task.round?])
    cases content : r.content <;> simp [Round.outcome?, content, groups] at settled

/-! ### The submission -/

/-- The pages when a task reports the submission. -/
def submitPages (s : Session) (task : Nat) : List Page :=
  match s.config.grading with
  | none => []
  | some grading =>
    if s.isSubmitted then []
    else
      ({ s with isSubmitted := true }.onTask task (Task.setReporter .submitting)).callPages
        ⟨task, .submission⟩ (.post grading.path grading.submissionParams)

/-- The pages when a task receives annotation activity. -/
def listenPages : Nat → Session → Nat → Nat → List Page
  | 0, _, _, _ => []
  | patience + 1, s, task, receiver =>
    match s.channel.receive? receiver with
    | some (.event e, channel) =>
      let s := { s with channel := channel }
      if e.qualifies then (s.unsubscribe receiver).submitPages task
      else listenPages patience s task receiver
    | some (.lagged _, channel) => listenPages patience { s with channel := channel } task receiver
    | _ => []

/-- The pages when a reporter goes on. -/
def reportPages (s : Session) (task patience : Nat) : List Page :=
  match s.tasks[task]?.bind Task.reporter? with
  | some (.awaitingContent receiver) =>
    if s.page.contentReady then
      match receiver with
      | some receiver =>
        (s.onTask task (Task.setReporter (.listening receiver))).listenPages patience task receiver
      | none => s.submitPages task
    else []
  | some (.listening receiver) => s.listenPages patience task receiver
  | _ => []

/-- The pages when a task begins to report the submission. -/
def beginReportPages (s : Session) (task : Nat) : List Page :=
  match s.config.grading with
  | none => []
  | some grading =>
    if grading.submitOnAnnotation then
      (s.subscribed task).reportPages task (s.subscribed task).channel.backlog
    else
      (s.onTask task (Task.setReporter (.awaitingContent none))).reportPages task
        s.channel.backlog

/-- A submission publishes its failure, if it fails at once. -/
theorem submit_path (s : Session) (task : Nat)
    (first : s.isSubmitted = false → s.page.problem ≠ some .reportingSubmission) :
    s.page.Path Page.Alters (s.submitPages task) (s.submit task).page := by
  unfold submitPages submit
  cases s.config.grading with
  | none => exact .nil _
  | some grading =>
    simp only
    split
    · exact .nil _
    case isFalse unsubmitted =>
      exact follow_path (s := { s with isSubmitted := true }.onTask task
        (Task.setReporter .submitting)) ⟨task, .submission⟩ (fun _ => rfl)
        fun _ => first (by simpa using unsubmitted)

/-- A report publishes nothing while it listens. -/
theorem listen_path (patience : Nat) (s : Session) (task receiver : Nat)
    (first : s.isSubmitted = false → s.page.problem ≠ some .reportingSubmission) :
    s.page.Path Page.Alters (s.listenPages patience task receiver)
      (s.listen patience task receiver).page := by
  induction patience generalizing s with
  | zero => exact .nil _
  | succ patience ih =>
    unfold listenPages listen
    cases s.channel.receive? receiver with
    | none => exact .nil _
    | some received =>
      obtain ⟨received, channel⟩ := received
      cases received with
      | event e =>
        simp only
        split
        · exact submit_path (unsubscribe { s with channel := channel } receiver) task first
        · exact ih { s with channel := channel } first
      | lagged lost => exact ih { s with channel := channel } first
      | closed => exact .nil _
      | _ => exact .nil _

theorem reportFor_path (s : Session) (task patience : Nat)
    (first : s.isSubmitted = false → s.page.problem ≠ some .reportingSubmission) :
    s.page.Path Page.Alters (s.reportPages task patience)
      (s.reportFor task patience).page := by
  unfold reportPages reportFor
  cases s.tasks[task]?.bind Task.reporter? with
  | none => exact .nil _
  | some reporter =>
    cases reporter with
    | awaitingContent receiver =>
      simp only
      split
      · cases receiver with
        | some receiver =>
          exact listen_path patience (s.onTask task (Task.setReporter (.listening receiver))) task
            receiver first
        | none => exact submit_path s task first
      · exact .nil _
    | listening receiver => exact listen_path patience s task receiver first
    | _ => exact .nil _

theorem beginReport_path (s : Session) (task : Nat)
    (first : s.isSubmitted = false → s.page.problem ≠ some .reportingSubmission) :
    s.page.Path Page.Alters (s.beginReportPages task) (s.beginReport task).page := by
  unfold beginReportPages beginReport
  cases s.config.grading with
  | none => exact .nil _
  | some grading =>
    simp only
    split
    · exact reportFor_path (s.subscribed task) task _ first
    · exact reportFor_path (s.onTask task (Task.setReporter (.awaitingContent none))) task _ first

/-! ### Authorization -/

/-- The pages when the user is asked to authorize. -/
def authorizePages (s : Session) (path : String) : List Page :=
  let s := s.onPage Page.askAuthorization
  s.page ::
    match s.turnTo path with
    | .error failure => [s.page.failAuthorization failure]
    | .ok (authorization, s) =>
      match authorization.openOrFocus s.client.token s.desktop with
      | (some _, _, _) => []
      | (none, opened, _) => [s.page.blockAuthorization opened.blockedMessage]

def recoverPages (s : Session) (task : Nat) : List Page :=
  (s.onTask task fun _ => .recovering .begun).beginRoundPages task

/-- The pages when a task tries again. -/
def tryAgainPages (s : Session) (task : Nat) : List Page :=
  if s.page.problem.any fun problem => !problem.allowsRetry then []
  else
    match s.page.authorizationUrl with
    | some path => s.authorizePages path
    | none => s.recoverPages task

/-- The pages when a task looks at its popup. -/
def lookPages (s : Session) (task : Nat) : List Page :=
  match s.watched? task with
  | none => []
  | some popup =>
    if s.desktop.isOpen popup then []
    else
      let released := s.authorization.map fun (a : Authorization) => a.release popup
      let ended := { s with authorization := released }.onPage Page.endAuthorization
      ended.page :: ended.recoverPages task

/-- Whoever asks the user to authorize publishes whether a popup opened. -/
theorem authorize_path (s : Session) (task : Nat) (path : String)
    (allowed : s.page.problem.all Problem.allowsRetry) :
    s.page.Path Page.Alters (s.authorizePages path) (s.authorize task path).page := by
  refine .cons (.askAuthorization allowed) ?_
  unfold authorize
  cases named : s.client.base.join path with
  | error fault =>
    simp only [turnTo_error (s := s.onPage Page.askAuthorization) named]
    exact .single (.failAuthorization _)
  | ok page =>
    obtain ⟨a, d, turned, -⟩ := turnTo_turns (s := s.onPage Page.askAuthorization) named
    simp only [turned]
    generalize a.openOrFocus _ d = asked
    obtain ⟨popup, opened, desktop⟩ := asked
    cases popup with
    | some popup => exact .nil _
    | none => exact .single (.blockAuthorization opened.blockedMessage rfl)

theorem recover_displays {task : Nat} {old : Task} (found : s.tasks[task]? = some old) :
    Displays s.page task (s.recoverPages task) (s.recover task) := by
  have begun : (s.onTask task fun _ => .recovering .begun).round? task = some .begun := by
    simp [Session.round?, found, Task.round?]
  exact beginRound_displays begun

theorem tryAgain_displays {task : Nat} {old : Task} (found : s.tasks[task]? = some old) :
    Displays s.page task (s.tryAgainPages task) (s.tryAgain task) := by
  unfold tryAgainPages tryAgain
  split
  · exact .stays (.nil _)
  case isFalse allowed =>
    cases s.page.authorizationUrl with
    | some path => exact .stays (authorize_path s task path (Problem.all_allowsRetry allowed))
    | none => exact recover_displays found

/-- A look publishes that the authorization ended, and then what the new round displays. -/
theorem look_displays (s : Session) (task : Nat) :
    Displays s.page task (s.lookPages task) (s.look task) := by
  unfold lookPages look
  cases watched : s.watched? task with
  | none => exact .stays (.nil _)
  | some popup =>
    obtain ⟨old, found, -⟩ := Option.bind_eq_some_iff.mp watched
    simp only
    split
    · exact .stays (.nil _)
    · let released := s.authorization.map fun (a : Authorization) => a.release popup
      have rest := recover_displays
        (s := { s with authorization := released }.onPage Page.endAuthorization) found
      exact rest.cons .endAuthorization

/-! ### Moves -/

/-- The pages that a move publishes. -/
def published (s : Session) : Move → List Page
  | .fetchAll => (s.add (.fetching .begun)).beginRoundPages s.nextTask
  | .retry => (s.add .abandoned).tryAgainPages s.nextTask
  | .reportSubmission => (s.add (.reporting .starting)).beginReportPages s.nextTask
  | .run =>
    let begun := s.add (.running .begun .starting)
    begun.beginRoundPages s.nextTask ++ (begun.beginRound s.nextTask).beginReportPages s.nextTask
  | .answer id a => s.followPages id (s.client.answer id a)
  | .resume id => s.followPages id (s.client.resume id)
  | .report task patience => s.reportPages task patience
  | .look task => s.lookPages task
  | _ => []

/-- A task that a move may let go on with its fetches: it is new, waits for a popup, or for a
fetch. -/
inductive Awaits (s : Session) (task : Nat) : Prop where
  | start (same : s.nextTask = task)
  | popup (popup : Nat) (found : s.tasks[task]? = some (.authorizing popup))
  | fetch (part : Part) (fetches : part ≠ .submission) (underWay : ⟨task, part⟩ ∈ s.client.labels)

/-- A move lets a retry go on, which fetched everything again: some changes of the page, and the
recovery after them. -/
structure Recovery (s : Session) (m : Move) (task : Nat) (before : List Page) (p : Page) :
    Prop where
  awaits : s.Awaits task
  path : s.page.Path Page.Alters before p
  published : s.published m = before ++ [p.recover]
  recovered : (s.after m).page = p.recover
  settled : ∃ r, (s.after m).tasks[task]? = some (.recovering r) ∧ r.outcome? = some true

/-- What a move publishes: changes of the page only, or a recovery at the end. -/
def Unfolds (s : Session) (m : Move) : Prop :=
  s.page.Path Page.Alters (s.published m) (s.after m).page ∨
    ∃ task before p, s.Recovery m task before p

theorem Displays.unfolds {task : Nat} {m : Move}
    (h : Displays s.page task (s.published m) (s.after m)) (awaits : s.Awaits task) :
    s.Unfolds m := by
  cases h with
  | stays path => exact .inl path
  | recovers before q r path all recovered found settled =>
    exact .inr ⟨task, before, q, awaits, path, all, recovered, r, found, settled⟩

/-- A task that reports is no retry, so its round is no recovery. -/
theorem run_path (orderly : s.Orderly) :
    s.page.Path Page.Alters (s.published .run) s.run.page := by
  let joined := s.add (.running .begun .starting)
  have joins : Act s joined := .join .run _ rfl
  have begun : joined.round? s.nextTask = some .begun := by
    simp [joined, Session.round?, found_add, Task.round?]
  have steps : joined.Steps (joined.beginRound s.nextTask) :=
    beginRound_steps (by simp [begun]) (new_of_add orderly.sound _)
  have after : (joined.beginRound s.nextTask).Orderly :=
    orderly.acts (joins.acts.trans steps.acts)
  have reports : (joined.beginRound s.nextTask).reporter? s.nextTask = some .starting := by
    rw [reporter?_beginRound, reporter?_add, if_pos rfl]
    rfl
  have round : s.page.Path Page.Alters (joined.beginRoundPages s.nextTask)
      (joined.beginRound s.nextTask).page := by
    cases beginRound_displays begun with
    | stays path => exact path
    | recovers before q r path all recovered found settled =>
      simp [Session.reporter?, found, Task.reporter?] at reports
  exact round.append (beginReport_path _ s.nextTask after.open')

/-- A fetch that is under way was counted. -/
theorem Orderly.counted (orderly : s.Orderly) {id : CallId} (fetches : id.part ≠ .submission)
    (underWay : id ∈ s.client.labels) : 0 < s.page.pendingFetches := by
  rw [orderly.counts, fetchCount, List.countP_pos_iff]
  exact ⟨id, underWay, by simpa [CallId.isFetch] using fetches⟩

/-- What becomes of a call is shown without a recovery, unless it is a fetch that has ended. -/
theorem follow_unfolds (orderly : s.Orderly) {id : CallId} {p : Progress CallId} {m : Move}
    (advances : s.client.Advances id p) (after : s.after m = s.follow id p)
    (published : s.published m = s.followPages id p) : s.Unfolds m := by
  by_cases ends : p.2.isSome ∧ id.part ≠ .submission
  case pos =>
    have underWay := advances.known ends.1
    have shown := follow_displays (p := p) id ends.2 (orderly.counted ends.2 underWay)
    rw [← after, ← published] at shown
    exact shown.unfolds (.fetch id.part ends.2 underWay)
  case neg =>
    refine .inl ?_
    rw [after, published]
    refine follow_path id (fun settled => by simpa [settled] using ends) fun settled failed => ?_
    -- the call is the submission, which has not ended yet, so it cannot have failed
    exact (orderly.final failed).finished id (advances.known settled)
      (by simpa [settled] using ends)

/-- Every move publishes changes of the page, and at the end of a retry the recovery after them. -/
theorem after_unfolds (orderly : s.Orderly) (m : Move) : s.Unfolds m := by
  have once := orderly.sound.client.labels_nodup
  cases m with
  | fetchAll =>
    have begun : (s.add (.fetching .begun)).round? s.nextTask = some .begun := by
      simp [Session.round?, found_add, Task.round?]
    -- only a task with a round can recover, and it was started by this move
    exact (beginRound_displays begun).unfolds (m := .fetchAll) (.start rfl)
  | retry =>
    exact (tryAgain_displays (found_add s .abandoned)).unfolds (m := .retry) (.start rfl)
  | reportSubmission =>
    exact .inl (beginReport_path (s.add (.reporting .starting)) s.nextTask orderly.open')
  | run => exact .inl (run_path orderly)
  | answer id a => exact follow_unfolds orderly (Client.answer_advances once id a) rfl rfl
  | resume id => exact follow_unfolds orderly (Client.resume_advances once id) rfl rfl
  | report task patience => exact .inl (reportFor_path s task patience orderly.open')
  | look task =>
    cases watched : s.watched? task with
    | none =>
      refine .inl ?_
      simp only [published, after, lookPages, look, watched]
      exact .nil _
    | some popup =>
      obtain ⟨t, found, watches⟩ := Option.bind_eq_some_iff.mp watched
      obtain rfl : t = .authorizing popup := by cases t <;> simp_all [Task.watched?]
      exact (look_displays s task).unfolds (m := .look task) (.popup popup found)
  | close =>
    refine .inl ?_
    show s.page.Path _ [] s.close.page
    unfold close
    cases s.authorization <;> exact .nil _
  | _ => exact .inl (.nil _)

end Session

end CourseLaunch.Launch
