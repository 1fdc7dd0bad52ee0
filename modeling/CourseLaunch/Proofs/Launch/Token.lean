import CourseLaunch.Proofs.Backend.Token
import CourseLaunch.Proofs.Launch.Published
import CourseLaunch.Proofs.Popup.Token
/-!
# The token of a launch

Two launches that differ in the session token only go on doing so: every function of a session keeps
`Alike`, because none of them looks at the token, and all that a client and a desktop give back is
the same with either of them.
-/

namespace CourseLaunch.Launch
open Activity Backend Popup

def Config.withToken (c : Config) (token : String) : Config :=
  { c with api := { c.api with authToken := token } }

namespace Session

/-- Two sessions that differ in the session token only, which is in the headers of what was sent and
in the addresses of popups. -/
structure Alike (token token' : String) (s s' : Session) : Prop where
  own : s.client.token = token
  config : s'.config = s.config.withToken token'
  client : s'.client = s.client.withToken token'
  desktop : s.desktop.Alike token token' s'.desktop
  channel : s'.channel = s.channel
  groups : s'.groups = s.groups
  page : s'.page = s.page
  authorization : s'.authorization = s.authorization
  isSubmitted : s'.isSubmitted = s.isSubmitted
  tasks : s'.tasks = s.tasks

variable {token token' : String} {s s' : Session}

namespace Alike

theorem endpoint? (h : s.Alike token token' s') (part : Part) :
    s'.endpoint? part = s.endpoint? part := by
  unfold Session.endpoint?
  rw [h.config]
  rfl

theorem grading (h : s.Alike token token' s') : s'.config.grading = s.config.grading := by
  rw [h.config]
  rfl

/-! ### Changes -/

theorem onPage (h : s.Alike token token' s') (change : Page → Page) :
    (s.onPage change).Alike token token' (s'.onPage change) :=
  { h with page := congrArg change h.page }

theorem onTask (h : s.Alike token token' s') (task : Nat) (change : Task → Task) :
    (s.onTask task change).Alike token token' (s'.onTask task change) :=
  { h with tasks := congrArg (·.modify task change) h.tasks }

theorem hear (h : s.Alike token token' s') (channel : Channel) :
    { s with channel := channel }.Alike token token' { s' with channel := channel } :=
  { h with channel := rfl }

theorem add (h : s.Alike token token' s') (task : Task) :
    (s.add task).Alike token token' (s'.add task) :=
  { h with tasks := congrArg (· ++ [task]) h.tasks }

theorem nextTask (h : s.Alike token token' s') : s'.nextTask = s.nextTask :=
  congrArg List.length h.tasks

theorem unsubscribe (h : s.Alike token token' s') (receiver : Nat) :
    (s.unsubscribe receiver).Alike token token' (s'.unsubscribe receiver) :=
  { h with channel := congrArg (·.unsubscribe receiver) h.channel }

/-! ### Fetches -/

theorem finishFetch (h : s.Alike token token' s') (task : Nat) (part : Part) (ok : Bool) :
    (s.finishFetch task part ok).Alike token token' (s'.finishFetch task part ok) := by
  have finished := h.onTask task (Task.mapRound fun round => round.finish part ok)
  unfold Session.finishFetch
  simp only [finished.tasks]
  split
  · exact finished.onPage Page.recover
  · exact finished

/-- A reply is taken in the same way, whatever the token is. -/
theorem accept (h : s.Alike token token' s') (part : Part) (r : Reply) :
    EndsAlike (Session.Alike token token') (s.accept part r) (s'.accept part r) := by
  cases part with
  | content =>
    unfold Session.accept
    cases r.decode contentReply with
    | error f => exact .failed f
    | ok url => exact .ok _ _ (h.onPage _)
  | groups =>
    unfold Session.accept
    cases r.decode groupsReply with
    | error f => exact .failed f
    | ok groups => exact .ok _ _ { h with groups := rfl }
  | submission =>
    unfold Session.accept
    cases r.decode .any with
    | error f => exact .failed f
    | ok _ => exact .ok _ _ h

theorem bind_accept (h : s.Alike token token' s') (part : Part) (result : Except Failure Reply) :
    EndsAlike (Session.Alike token token') (result.bind (s.accept part))
      (result.bind (s'.accept part)) := by
  cases result with
  | error f => exact .failed f
  | ok r => exact h.accept part r

theorem concludeFetch (h : s.Alike token token' s') (task : Nat) (part : Part)
    (result : Except Failure Reply) :
    (s.concludeFetch task part result).Alike token token'
      (s'.concludeFetch task part result) := by
  have ends := h.bind_accept part result
  unfold Session.concludeFetch
  generalize result.bind (s.accept part) = e, result.bind (s'.accept part) = e' at ends
  cases ends with
  | failed f =>
    simp only [h.endpoint? part]
    exact ((h.onPage _).onPage _).finishFetch task part false
  | ok t t' alike => exact (alike.onPage _).finishFetch task part true

theorem concludeSubmission (h : s.Alike token token' s') (task : Nat)
    (result : Except Failure Reply) :
    (s.concludeSubmission task result).Alike token token'
      (s'.concludeSubmission task result) := by
  have ended := h.onTask task (Task.setReporter .ended)
  have ends := ended.bind_accept .submission result
  unfold Session.concludeSubmission
  simp only
  generalize result.bind (Session.accept _ .submission) = e,
    result.bind ((s'.onTask task (Task.setReporter .ended)).accept .submission) = e' at ends
  cases ends with
  | failed f => exact ended.onPage _
  | ok t t' alike => exact alike

/-- The call of a task goes on the same way, whatever the token is. -/
theorem follow (h : s.Alike token token' s') (id : CallId) {p : Progress CallId}
    (kept : p.1.token = token) :
    (s.follow id p).Alike token token' (s'.follow id (p.withToken token')) := by
  have moved : { s with client := p.1 }.Alike token token'
      { s' with client := p.1.withToken token' } := { h with own := kept, client := rfl }
  obtain ⟨client, result⟩ := p
  cases result with
  | none => exact moved
  | some result =>
    unfold Session.follow Progress.withToken
    simp only
    split
    · exact moved.concludeSubmission id.task result
    · exact moved.concludeFetch id.task id.part result

section
variable (legal : Legal token token')
include legal

theorem call (h : s.Alike token token' s') (id : CallId) (request : Request) :
    (s.call id request).Alike token token' (s'.call id request) := by
  unfold Session.call
  rw [h.client, ← Client.withToken_begin (h.own ▸ legal)]
  exact h.follow id ((Client.token_begin _ _ _).trans h.own)

theorem answer (h : s.Alike token token' s') (id : CallId) (a : Answer) :
    (s.answer id a).Alike token token' (s'.answer id a) := by
  unfold Session.answer
  rw [h.client, ← Client.withToken_answer (h.own ▸ legal)]
  exact h.follow id ((Client.token_answer _ _ _).trans h.own)

theorem resume (h : s.Alike token token' s') (id : CallId) :
    (s.resume id).Alike token token' (s'.resume id) := by
  unfold Session.resume
  rw [h.client, ← Client.withToken_resume (h.own ▸ legal)]
  exact h.follow id ((Client.token_resume _ _).trans h.own)

theorem beginFetch (h : s.Alike token token' s') (task : Nat) (part : Part) :
    (s.beginFetch task part).Alike token token' (s'.beginFetch task part) := by
  unfold Session.beginFetch
  rw [h.endpoint? part]
  cases s.endpoint? part with
  | none => exact h.finishFetch task part true
  | some e => exact (h.onPage Page.beginFetch).call legal ⟨task, part⟩ (.ofEndpoint e)

theorem beginRound (h : s.Alike token token' s') (task : Nat) :
    (s.beginRound task).Alike token token' (s'.beginRound task) :=
  (h.beginFetch legal task .content).beginFetch legal task .groups

/-! ### The submission -/

theorem submit (h : s.Alike token token' s') (task : Nat) :
    (s.submit task).Alike token token' (s'.submit task) := by
  unfold Session.submit
  rw [h.grading, h.isSubmitted]
  cases s.config.grading with
  | none => exact h.onTask task _
  | some grading =>
    simp only
    split
    · exact h.onTask task _
    · have submitted : { s with isSubmitted := true }.Alike token token'
          { s' with isSubmitted := true } := { h with isSubmitted := rfl }
      exact (submitted.onTask task _).call legal _ _

theorem listen (patience : Nat) (h : s.Alike token token' s') (task receiver : Nat) :
    (s.listen patience task receiver).Alike token token'
      (s'.listen patience task receiver) := by
  induction patience generalizing s s' with
  | zero => exact h
  | succ patience ih =>
    unfold Session.listen
    rw [h.channel]
    split
    case h_1 e channel receives =>
      simp only
      split
      · exact ((h.hear channel).unsubscribe receiver).submit legal task
      · exact ih (h.hear channel)
    case h_2 lost channel receives => exact ih (h.hear channel)
    case h_3 => exact (h.unsubscribe receiver).onTask task _
    case h_4 => exact h

theorem reportFor (h : s.Alike token token' s') (task patience : Nat) :
    (s.reportFor task patience).Alike token token' (s'.reportFor task patience) := by
  unfold Session.reportFor
  rw [h.tasks, h.page]
  split
  case h_1 receiver known =>
    split
    · cases receiver with
      | some receiver =>
        exact (h.onTask task (Task.setReporter (.listening receiver))).listen legal patience task
          receiver
      | none => exact h.submit legal task
    · exact h
  case h_2 receiver known => exact h.listen legal patience task receiver
  case h_3 => exact h

theorem report (h : s.Alike token token' s') (task : Nat) :
    (s.report task).Alike token token' (s'.report task) := by
  unfold Session.report
  rw [h.channel]
  exact h.reportFor legal task _

theorem beginReport (h : s.Alike token token' s') (task : Nat) :
    (s.beginReport task).Alike token token' (s'.beginReport task) := by
  unfold Session.beginReport
  rw [h.grading, h.channel]
  cases s.config.grading with
  | none => exact h.onTask task _
  | some grading =>
    simp only
    split
    · exact ((h.hear _).onTask task _).report legal task
    · exact (h.onTask task _).report legal task

/-! ### Authorization -/

omit legal in
theorem join (h : s.Alike token token' s') (path : String) :
    s'.client.base.join path = s.client.base.join path := by
  rw [h.client]
  rfl

omit legal in
theorem turnTo (h : s.Alike token token' s') (path : String) :
    EndsAlike (fun x x' => x'.1 = x.1 ∧ x.2.Alike token token' x'.2) (s.turnTo path)
      (s'.turnTo path) := by
  unfold Session.turnTo
  rw [h.join]
  cases s.client.base.join path with
  | error fault => exact .failed _
  | ok page =>
    rw [h.authorization]
    cases s.authorization with
    | none => exact .ok _ _ ⟨rfl, h⟩
    | some a =>
      simp only
      split
      · exact .ok _ _ ⟨rfl, h⟩
      · refine .ok _ _ ⟨rfl, { h with
          desktop := (Authorization.alike_close h.desktop a).2
          authorization := rfl }⟩

omit legal in
/-- With either token the same popup is opened or joined, or none is. -/
theorem asks (h : s.Alike token token' s') (a : Authorization) :
    ∃ popup b d d', a.openOrFocus s.client.token s.desktop = (popup, b, d) ∧
      a.openOrFocus s'.client.token s'.desktop = (popup, b, d') ∧
      { s with authorization := some b, desktop := d }.Alike token token'
        { s' with authorization := some b, desktop := d' } := by
  have own' : s'.client.token = token' := congrArg Client.token h.client
  rw [h.own, own']
  obtain ⟨popup, b, d, d', answer, answer', desktop⟩ :=
    Authorization.alike_openOrFocus h.desktop a
  exact ⟨popup, b, d, d', answer, answer', { h with desktop := desktop, authorization := rfl }⟩

omit legal in
/-- A task asks the user to authorize the same way, whatever the token is; only the popup carries
it. -/
theorem authorize (h : s.Alike token token' s') (task : Nat) (path : String) :
    (s.authorize task path).Alike token token' (s'.authorize task path) := by
  have asked := h.onPage Page.askAuthorization
  have turned := asked.turnTo path
  unfold Session.authorize
  simp only
  generalize Session.turnTo _ path = e, (s'.onPage Page.askAuthorization).turnTo path = e' at turned
  cases turned with
  | failed f => exact asked.onPage _
  | ok x x' same =>
    obtain ⟨a, t⟩ := x
    obtain ⟨a', t'⟩ := x'
    obtain ⟨rfl, alike⟩ := same
    obtain ⟨popup, b, d, d', answer, answer', opened⟩ := alike.asks a'
    simp only at answer answer'
    simp only [answer, answer']
    cases popup with
    | none => exact opened.onPage _
    | some popup => exact opened.onTask task _

theorem recover (h : s.Alike token token' s') (task : Nat) :
    (s.recover task).Alike token token' (s'.recover task) :=
  (h.onTask task _).beginRound legal task

theorem tryAgain (h : s.Alike token token' s') (task : Nat) :
    (s.tryAgain task).Alike token token' (s'.tryAgain task) := by
  unfold Session.tryAgain
  rw [h.page]
  split
  · exact h
  · cases s.page.authorizationUrl with
    | none => exact h.recover legal task
    | some path => exact h.authorize task path

omit legal in
theorem watched? (h : s.Alike token token' s') (task : Nat) :
    s'.watched? task = s.watched? task := by
  unfold Session.watched?
  rw [h.tasks]

omit legal in
theorem release (h : s.Alike token token' s') (popup : Nat) :
    { s with
      authorization := s.authorization.map fun (a : Authorization) => a.release popup }.Alike
        token token' { s' with
          authorization := s'.authorization.map fun (a : Authorization) => a.release popup } :=
  { h with authorization := congrArg (Option.map _) h.authorization }

theorem look (h : s.Alike token token' s') (task : Nat) :
    (s.look task).Alike token token' (s'.look task) := by
  unfold Session.look
  rw [h.watched? task]
  cases s.watched? task with
  | none => exact h
  | some popup =>
    simp only [h.desktop.isOpen popup]
    split
    · exact h
    · exact ((h.release popup).onPage Page.endAuthorization).recover legal task

omit legal in
theorem close (h : s.Alike token token' s') : s.close.Alike token token' s'.close := by
  unfold Session.close
  rw [h.authorization]
  cases s.authorization with
  | none => exact h
  | some a =>
    obtain ⟨same, desktop⟩ := Authorization.alike_close h.desktop a
    exact { h with desktop := desktop, authorization := congrArg some same }

/-! ### What a schedule looks at -/

omit legal in
theorem flights (h : s.Alike token token' s') :
    s'.client.flights =
      s.client.flights.map fun flight => (flight.1, flight.2.withToken token') := by
  rw [h.client, Client.flights_withToken]

omit legal in
theorem isReady (h : s.Alike token token' s') (task : Nat) : s'.isReady task = s.isReady task := by
  unfold Session.isReady Session.canReport
  rw [h.client, funext (Client.canResume_withToken s.client), h.tasks, h.page, h.channel]

omit legal in
theorem budget (h : s.Alike token token' s') : s'.budget = s.budget := by
  unfold Session.budget
  rw [h.client, Client.budget_withToken, h.tasks]

theorem wake (h : s.Alike token token' s') (task : Nat) :
    (s.wake task).Alike token token' (s'.wake task) := by
  have content := h.resume legal ⟨task, .content⟩
  have groups := content.resume legal ⟨task, .groups⟩
  have submission := groups.resume legal ⟨task, .submission⟩
  exact submission.report legal task

/-! ### Moves -/

/-- A move does the same, whatever the token is. -/
theorem after (h : s.Alike token token' s') (m : Move) :
    (s.after m).Alike token token' (s'.after m) := by
  cases m with
  -- the new task has the same number in both sessions
  | fetchAll =>
    show ((s.add _).beginRound s.nextTask).Alike token token' ((s'.add _).beginRound s'.nextTask)
    rw [h.nextTask]
    exact (h.add _).beginRound legal s.nextTask
  | retry =>
    show ((s.add _).tryAgain s.nextTask).Alike token token' ((s'.add _).tryAgain s'.nextTask)
    rw [h.nextTask]
    exact (h.add _).tryAgain legal s.nextTask
  | reportSubmission =>
    show ((s.add _).beginReport s.nextTask).Alike token token' ((s'.add _).beginReport s'.nextTask)
    rw [h.nextTask]
    exact (h.add _).beginReport legal s.nextTask
  | run =>
    show (((s.add _).beginRound s.nextTask).beginReport s.nextTask).Alike token token'
      (((s'.add _).beginRound s'.nextTask).beginReport s'.nextTask)
    rw [h.nextTask]
    exact ((h.add _).beginRound legal s.nextTask).beginReport legal s.nextTask
  | answer id a => exact h.answer legal id a
  | resume id => exact h.resume legal id
  | report task patience => exact h.reportFor legal task patience
  | look task => exact h.look legal task
  | close => exact h.close
  | publish e => exact { h with channel := congrArg (fun c => (c.publish e).2) h.channel }
  | endActivity => exact { h with channel := congrArg Channel.close h.channel }
  | dismiss popup => exact { h with desktop := h.desktop.userCloses popup }
  | block blocked => exact { h with desktop := h.desktop.block blocked }

/-- A history does the same, whatever the token is. -/
theorem afterAll (h : s.Alike token token' s') (moves : List Move) :
    (s.afterAll moves).Alike token token' (s'.afterAll moves) := by
  induction moves generalizing s s' with
  | nil => exact h
  | cons m moves ih => exact ih (h.after legal m)

/-! ### Published pages -/

omit legal in
theorem finishPages (h : s.Alike token token' s') (task : Nat) (part : Part) (ok : Bool) :
    s'.finishPages task part ok = s.finishPages task part ok := by
  have finished := h.onTask task (Task.mapRound fun round => round.finish part ok)
  unfold Session.finishPages
  simp only [finished.tasks, finished.page]

omit legal in
theorem concludeFetchPages (h : s.Alike token token' s') (task : Nat) (part : Part)
    (result : Except Failure Reply) :
    s'.concludeFetchPages task part result = s.concludeFetchPages task part result := by
  have ends := h.bind_accept part result
  unfold Session.concludeFetchPages
  generalize result.bind (s.accept part) = e, result.bind (s'.accept part) = e' at ends
  cases ends with
  | failed f =>
    have failed := h.onPage fun page => page.failFetch f ((s.endpoint? part).bind Endpoint.authUrl)
    have ended := failed.onPage Page.endFetch
    simp only [h.endpoint? part, failed.page, ended.page, ended.finishPages]
  | ok t t' alike =>
    have ended := alike.onPage Page.endFetch
    simp only [acceptPages, alike.page, ended.page, ended.finishPages]

omit legal in
theorem concludeSubmissionPages (h : s.Alike token token' s') (task : Nat)
    (result : Except Failure Reply) :
    s'.concludeSubmissionPages task result = s.concludeSubmissionPages task result := by
  have ended := h.onTask task (Task.setReporter .ended)
  have ends := ended.bind_accept .submission result
  unfold Session.concludeSubmissionPages
  simp only
  generalize result.bind (Session.accept (s.onTask task _) .submission) = e,
    result.bind ((s'.onTask task (Task.setReporter .ended)).accept .submission) = e' at ends
  cases ends with
  | failed f => simp only [ended.page]
  | ok t t' alike => rfl

omit legal in
theorem followPages (h : s.Alike token token' s') (id : CallId) {p : Progress CallId}
    (kept : p.1.token = token) :
    s'.followPages id (p.withToken token') = s.followPages id p := by
  have moved : { s with client := p.1 }.Alike token token'
      { s' with client := p.1.withToken token' } := { h with own := kept, client := rfl }
  obtain ⟨client, result⟩ := p
  cases result with
  | none => rfl
  | some result =>
    unfold Session.followPages Progress.withToken
    simp only
    split
    · exact moved.concludeSubmissionPages id.task result
    · exact moved.concludeFetchPages id.task id.part result

theorem callPages (h : s.Alike token token' s') (id : CallId) (request : Request) :
    s'.callPages id request = s.callPages id request := by
  unfold Session.callPages
  rw [h.client, ← Client.withToken_begin (h.own ▸ legal)]
  exact h.followPages id ((Client.token_begin _ _ _).trans h.own)

theorem beginFetchPages (h : s.Alike token token' s') (task : Nat) (part : Part) :
    s'.beginFetchPages task part = s.beginFetchPages task part := by
  have begun := h.onPage Page.beginFetch
  unfold Session.beginFetchPages
  rw [h.endpoint? part]
  cases s.endpoint? part with
  | none => exact h.finishPages task part true
  | some e => simp only [begun.page, begun.callPages legal]

theorem beginRoundPages (h : s.Alike token token' s') (task : Nat) :
    s'.beginRoundPages task = s.beginRoundPages task := by
  unfold Session.beginRoundPages
  rw [h.beginFetchPages legal, (h.beginFetch legal task .content).beginFetchPages legal]

theorem submitPages (h : s.Alike token token' s') (task : Nat) :
    s'.submitPages task = s.submitPages task := by
  have submitted : { s with isSubmitted := true }.Alike token token'
      { s' with isSubmitted := true } := { h with isSubmitted := rfl }
  unfold Session.submitPages
  rw [h.grading, h.isSubmitted]
  cases s.config.grading with
  | none => rfl
  | some grading => simp only [(submitted.onTask task _).callPages legal]

theorem listenPages (patience : Nat) (h : s.Alike token token' s') (task receiver : Nat) :
    s'.listenPages patience task receiver = s.listenPages patience task receiver := by
  induction patience generalizing s s' with
  | zero => rfl
  | succ patience ih =>
    unfold Session.listenPages
    rw [h.channel]
    split
    case h_1 e channel receives =>
      simp only [((h.hear channel).unsubscribe receiver).submitPages legal, ih (h.hear channel)]
    case h_2 lost channel receives => exact ih (h.hear channel)
    case h_3 => rfl

theorem reportPages (h : s.Alike token token' s') (task patience : Nat) :
    s'.reportPages task patience = s.reportPages task patience := by
  unfold Session.reportPages
  rw [h.tasks, h.page]
  split
  case h_1 receiver known =>
    cases receiver with
    | some receiver => simp only [(h.onTask task _).listenPages legal]
    | none => simp only [h.submitPages legal]
  case h_2 receiver known => exact h.listenPages legal patience task receiver
  case h_3 => rfl

theorem beginReportPages (h : s.Alike token token' s') (task : Nat) :
    s'.beginReportPages task = s.beginReportPages task := by
  have subscribed : (s.subscribed task).Alike token token' (s'.subscribed task) := by
    unfold Session.subscribed
    rw [h.channel]
    exact (h.hear _).onTask task _
  unfold Session.beginReportPages
  rw [h.grading, h.channel]
  cases s.config.grading with
  | none => rfl
  | some grading =>
    simp only [subscribed.channel, subscribed.reportPages legal,
      (h.onTask task _).reportPages legal]

omit legal in
theorem authorizePages (h : s.Alike token token' s') (path : String) :
    s'.authorizePages path = s.authorizePages path := by
  have asked := h.onPage Page.askAuthorization
  have turned := asked.turnTo path
  unfold Session.authorizePages
  simp only [asked.page]
  generalize Session.turnTo (s.onPage _) path = e,
    (s'.onPage Page.askAuthorization).turnTo path = e' at turned
  cases turned with
  | failed f => rfl
  | ok x x' same =>
    obtain ⟨a, t⟩ := x
    obtain ⟨a', t'⟩ := x'
    obtain ⟨rfl, alike⟩ := same
    have page : t'.page = t.page := alike.page
    obtain ⟨popup, b, d, d', answer, answer', -⟩ := alike.asks a'
    simp only at answer answer'
    simp only [answer, answer', page]
    cases popup <;> rfl

theorem recoverPages (h : s.Alike token token' s') (task : Nat) :
    s'.recoverPages task = s.recoverPages task :=
  (h.onTask task _).beginRoundPages legal task

theorem tryAgainPages (h : s.Alike token token' s') (task : Nat) :
    s'.tryAgainPages task = s.tryAgainPages task := by
  unfold Session.tryAgainPages
  simp only [h.page, h.authorizePages, h.recoverPages legal]

theorem lookPages (h : s.Alike token token' s') (task : Nat) :
    s'.lookPages task = s.lookPages task := by
  unfold Session.lookPages
  rw [h.watched? task]
  cases s.watched? task with
  | none => rfl
  | some popup =>
    have released := (h.release popup).onPage Page.endAuthorization
    simp only [h.desktop.isOpen popup, released.page, released.recoverPages legal]

/-- Both launches publish the same pages. -/
theorem published (h : s.Alike token token' s') (m : Move) :
    s'.published m = s.published m := by
  cases m with
  | fetchAll =>
    unfold Session.published
    rw [h.nextTask, (h.add _).beginRoundPages legal]
  | retry =>
    unfold Session.published
    rw [h.nextTask, (h.add _).tryAgainPages legal]
  | reportSubmission =>
    unfold Session.published
    rw [h.nextTask, (h.add _).beginReportPages legal]
  | run =>
    unfold Session.published
    simp only [h.nextTask, (h.add _).beginRoundPages legal,
      ((h.add _).beginRound legal _).beginReportPages legal]
  | answer id a =>
    show s'.followPages id (s'.client.answer id a) = s.followPages id (s.client.answer id a)
    rw [h.client, ← Client.withToken_answer (h.own ▸ legal)]
    exact h.followPages id ((Client.token_answer _ _ _).trans h.own)
  | resume id =>
    show s'.followPages id (s'.client.resume id) = s.followPages id (s.client.resume id)
    rw [h.client, ← Client.withToken_resume (h.own ▸ legal)]
    exact h.followPages id ((Client.token_resume _ _).trans h.own)
  | report task patience => exact h.reportPages legal task patience
  | look task => exact h.lookPages legal task
  | _ => rfl

end

end Alike

/-- Two launches of one configuration with two tokens, before anything was started. -/
theorem alike_initial (config : Config) (base : Web.Url) (token token' : String)
    (desktop : Desktop) :
    (initial (config.withToken token) base token desktop).Alike token token'
      (initial (config.withToken token') base token' desktop) where
  own := rfl
  config := rfl
  client := rfl
  desktop := .refl desktop
  channel := rfl
  groups := rfl
  page := rfl
  authorization := rfl
  isSubmitted := rfl
  tasks := rfl

end Session

end CourseLaunch.Launch
