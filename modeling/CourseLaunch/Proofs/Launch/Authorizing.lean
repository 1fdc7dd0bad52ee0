import CourseLaunch.Proofs.Launch.Popups
/-!
# Authorizing before fetching

A retry that asks the user to authorize makes no call before its popup is closed. When popups are
blocked it makes no call at all. The page then says what is missing and offers to authorize, and the
next retry asks for a popup again.
-/

namespace CourseLaunch.Launch
open Activity Backend Popup

namespace Session

variable {s t : Session}

/-- A launch is as it was before a retry that was refused a popup, but for the problem, which the
user may go on to solve. -/
structure Kept (s t : Session) : Prop where
  client : t.client = s.client
  contentUrl : t.page.contentUrl = s.page.contentUrl
  pendingFetches : t.page.pendingFetches = s.page.pendingFetches
  authorizationUrl : t.page.authorizationUrl = s.page.authorizationUrl
  problem : t.page.problem = some .authorizing
  offered : t.page.view.dialog.bind Dialog.action = some .authorize

/-- A launch as a machine whose user asks for a popup by a retry. -/
def authorizer : Authorizer Session Move where
  toMachine := machine
  token s := s.client.token
  nextTask := nextTask
  Asks _ m := m = .retry
  block := .block
  Kept := Kept

/-- A retry that may try again and knows a page for authorization asks for it. -/
theorem retry_authorizes {path : String} (allowed : s.page.problem.all Problem.allowsRetry)
    (asks : s.page.authorizationUrl = some path) :
    (s.add .abandoned).Authorizes s.nextTask path s.retry := by
  have may : s.page.problem.any (fun problem => !problem.allowsRetry) = false := by
    cases problem : s.page.problem with
    | none => rfl
    | some _ => simpa [problem] using allowed
  have same : s.retry = (s.add .abandoned).authorize s.nextTask path := by
    unfold retry tryAgain
    simp [add, may, asks]
  rw [same]
  exact authorize_authorizes _ _ path

/-- A task that asks the user to authorize waits for the popup that was opened or joined. -/
theorem waits_of_opened {task : Nat} (abandoned : s.tasks[task]? = some .abandoned)
    (b : Authorization) (d : Desktop) (popup : Nat) :
    (({ s with authorization := some b, desktop := d }.onPage Page.askAuthorization).onTask task
      fun _ => .authorizing popup).watch.stance task = .waits popup := by
  have authorizing : (({ s with authorization := some b, desktop := d }.onPage
      Page.askAuthorization).onTask task fun _ => .authorizing popup).tasks[task]? =
      some (.authorizing popup) := by
    rw [tasks_onTask, List.getElem?_modify_eq]
    exact congrArg (Option.map _) abandoned
  exact stance_watch authorizing

/-- A page for which the popup is not open is asked for, unless another one has to be closed. -/
theorem asksHost {path : String} {page : Web.Url}
    (allowed : s.page.problem.all Problem.allowsRetry)
    (asks : s.page.authorizationUrl = some path) (named : s.client.base.join path = .ok page)
    (same : ∀ a, s.authorization = some a → a.page = page) (lacks : s.custody.Lacks page) :
    authorizer.AsksHost page s .retry := by
  have authorizes := retry_authorizes allowed asks
  have new : (s.add .abandoned).tasks[s.nextTask]? = some .abandoned := found_add s _
  have answer {q : Web.Url} {a b : Authorization} {d d' : Desktop} {popup : Option Nat}
      (named' : s.client.base.join path = .ok q) (turns : s.custody.Turns q a d)
      (asked : a.openOrFocus s.client.token d = (popup, b, d')) :
      s.desktop.openPopup (page.withPair (tokenKey, s.client.token)) = (popup, d') := by
    -- the page that the path names is the one that is held, or that takes its place
    obtain rfl : page = q := Except.ok.inj (named.symm.trans named')
    exact turns.openPopup same lacks asked
  show s.retry.desktop = (s.desktop.openPopup _).2 ∧
    (s.retry.watch.stance s.nextTask).popup? = (s.desktop.openPopup _).1
  generalize s.retry = t at authorizes
  cases authorizes with
  | unresolved fault named' => exact absurd (named.symm.trans named') nofun
  | opened q a b d d' popup named' turns asked =>
    have opened := answer named' turns asked
    have waits := waits_of_opened new b d' popup
    exact ⟨congrArg Prod.snd opened.symm,
      (congrArg Stance.popup? waits).trans (congrArg Prod.fst opened.symm)⟩
  | blocked q a b d d' named' turns asked =>
    have opened := answer named' turns asked
    have done := stance_watch new
    exact ⟨congrArg Prod.snd opened.symm,
      (congrArg Stance.popup? done).trans (congrArg Prod.fst opened.symm)⟩

/-! ### What can be relied on -/

/-- A task that gave up makes no call. -/
theorem not_wentOn_of_abandoned (sound : s.Sound) {task : Nat}
    (found : s.tasks[task]? = some .abandoned) (more : List Move) :
    ¬ authorizer.WentOn (authorizer.afterAll s more) task := by
  rintro ⟨part, begun⟩
  have done : s.watch.stance task = .done := stance_watch found
  have active := (sound_afterAll sound more).stance_eq_active begun
  exact absurd ((machine.done_afterAll done more).symm.trans active) nofun

/-- The popup that is held after a refusal is not open, so that the next retry asks again. -/
theorem again_of_refused {path : String} {page : Web.Url} {a : Authorization}
    (held : s.authorization = some a) (same : a.page = page) (none : a.popup = none)
    (named : s.client.base.join path = .ok page) (problem : s.page.problem = some .authorizing)
    (asks : s.page.authorizationUrl = some path) : authorizer.AsksHost page s .retry := by
  refine asksHost (by simp [problem, Problem.allowsRetry]) asks named (fun b held' => ?_)
    (fun b held' _ => ?_)
  all_goals obtain rfl : a = b := Option.some.inj (held.symm.trans held')
  · exact same
  · simp [Authorization.openPopup?, none]

/-- A retry asks the user to authorize if it may try again and there is a page for it. -/
theorem retry_asked (sound : s.Sound) {path : String}
    (allowed : s.page.problem.all Problem.allowsRetry)
    (asks : s.page.authorizationUrl = some path) :
    authorizer.Asked (s.client.base.join path) s s.retry := by
  have authorizes := retry_authorizes allowed asks
  have after : s.retry.Sound := sound_after sound .retry
  have new : (s.add .abandoned).tasks[s.nextTask]? = some .abandoned := found_add s _
  generalize s.retry = t at authorizes after ⊢
  cases authorizes with
  | unresolved fault named => exact .unresolved fault named (not_wentOn_of_abandoned after new)
  | opened page a b d d' popup named turns asked =>
    exact .opened page a b d d' popup named turns asked rfl (waits_of_opened new b d' popup)
  | blocked page a b d d' named turns asked =>
    have closed := (asked ▸ a.openOrFocus_asks s.client.token d).blocked.1
    refine .blocked page a b d d' named turns asked
      ⟨not_wentOn_of_abandoned after new, ⟨rfl, rfl, rfl, rfl, rfl, rfl⟩, ?_⟩
    rintro m rfl blocked
    rw [Authorization.openOrFocus_of_closed _ closed, Authorization.address] at asked
    obtain ⟨none, rfl, -⟩ : _ ∧ _ ∧ _ := by simpa using asked
    exact again_of_refused rfl turns.page_eq none named rfl asks

end Session

end CourseLaunch.Launch
