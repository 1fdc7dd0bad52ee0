import CourseLaunch.Proofs.Launch.Display
import CourseLaunch.Proofs.Launch.Outcome
/-!
# The order in which calls end

The calls for the content and for the groups may end in either order. The address of the content is
the one that was told last, a page tells nothing before something failed, and a failure determines
all that is told of it. So two first rounds whose calls have the same results differ at most in what
they tell of two failures, and there the later failure counts.
-/

namespace CourseLaunch.Launch
open Activity Backend Popup

namespace Page

variable {p q : Page} {f : Failure} {authorizationUrl : Option String}

/-- What a page tells of a failed fetch, if it told nothing before. -/
def blame (f : Failure) (authorizationUrl : Option String) :
    Option Problem × Option String × Option Report :=
  ((initial none).failFetch f authorizationUrl).error

/-- A failure determines all that is told of it. -/
theorem TellsOf.error_eq (h : p.TellsOf f authorizationUrl) :
    p.error = blame f authorizationUrl := by
  have h' : ((initial none).failFetch f authorizationUrl).TellsOf f authorizationUrl :=
    tellsOf_failFetch (by simp [initial]) f authorizationUrl
  have problem : p.problem = ((initial none).failFetch f authorizationUrl).problem := by
    rw [h.problem_ofFailure, h'.problem_ofFailure]
  have report : p.lastError = ((initial none).failFetch f authorizationUrl).lastError := by
    rw [h.lastError, h'.lastError, problem]
  have page : p.authorizationUrl =
      ((initial none).failFetch f authorizationUrl).authorizationUrl := by
    rw [h.authorizationUrl, h'.authorizationUrl]
  rw [blame, error, error, problem, page, report]

theorem eq_of_error (content : p.contentUrl = q.contentUrl)
    (pending : p.pendingFetches = q.pendingFetches) (same : p.error = q.error) : p = q := by
  cases p
  cases q
  simp only [error, Prod.mk.injEq] at same
  obtain ⟨rfl, rfl, rfl⟩ := same
  subst content pending
  rfl

/-- Whether the spinner or the content is shown does not depend on what the problem is. -/
theorem view_shown (content : p.contentUrl = q.contentUrl)
    (problem : p.problem.isSome ↔ q.problem.isSome) :
    p.view.showSpinner = q.view.showSpinner ∧ p.view.iframeUrl = q.view.iframeUrl := by
  rw [view, view]
  cases known : p.problem with
  | none =>
    have known' : q.problem = none := by simpa [known] using problem
    rw [known', content]
    exact ⟨rfl, rfl⟩
  | some found =>
    obtain ⟨found', known'⟩ : ∃ found', q.problem = some found' :=
      Option.isSome_iff_exists.mp (problem.mp (by simp [known]))
    rw [known']
    exact ⟨rfl, rfl⟩

end Page

namespace Session

variable {s t : Session} {id : CallId}

/-! ### What was told of the content -/

/-- The address of the content that the result of a call tells. -/
def contentOf? (e : CallId × Except Failure Reply) : Option String :=
  if e.1.part = .content then (e.2.bind fun r => r.decode contentReply).toOption else none

/-- The addresses of the content that were told, oldest first. -/
def contents (s : Session) : List String := s.client.ended.filterMap contentOf?

/-- What a page owes to the results of the calls: the address that was told last, or else the one
that was known from the start, and nothing to tell before something failed. -/
structure Derived (s : Session) : Prop where
  content : s.page.contentUrl = s.contents.getLast?.or s.config.contentUrl
  silent : s.failures = [] → s.page.error = (none, none, none)

theorem derived_initial (config : Config) (base : Web.Url) (token : String) (desktop : Desktop) :
    (initial config base token desktop).Derived :=
  ⟨by simp [contents, initial, ofConfig, Page.initial], fun _ => rfl⟩

theorem contents_of_ended {result : Except Failure Reply}
    (ended : t.client.ended = s.client.ended ++ [(id, result)]) :
    t.contents = s.contents ++ (contentOf? (id, result)).toList := by
  rw [contents, contents, ended, List.filterMap_append]
  cases told : contentOf? (id, result) <;> simp [told]

theorem Derived.congr (h : s.Derived) (config : t.config = s.config)
    (ended : t.client.ended = s.client.ended) (content : t.page.contentUrl = s.page.contentUrl)
    (silent : s.page.error = (none, none, none) → t.page.error = (none, none, none)) :
    t.Derived := by
  have contents : t.contents = s.contents := by rw [Session.contents, ended]; rfl
  have failures : t.failures = s.failures := by rw [Session.failures, ended]; rfl
  refine ⟨?_, fun none => silent (h.silent (failures ▸ none))⟩
  rw [content, contents, config]
  exact h.content

theorem contentUrl_pageAfter (task : Nat) (part : Part) (ok : Bool) (page : Page) :
    (s.pageAfter task part ok page).contentUrl = page.contentUrl := by
  rw [pageAfter]
  split
  · exact Page.contentUrl_recover page
  · rfl

/-- A page that tells nothing tells nothing after a recovery. -/
theorem error_pageAfter_of_silent {page : Page} (silent : page.error = (none, none, none))
    (task : Nat) (part : Part) (ok : Bool) :
    (s.pageAfter task part ok page).error = (none, none, none) := by
  rw [pageAfter]
  split
  case isFalse => exact silent
  case isTrue =>
    simp only [Page.error, Prod.mk.injEq] at silent ⊢
    obtain ⟨problem, url, report⟩ := silent
    rw [Page.recover, if_neg (by simp [problem])]
    exact ⟨rfl, url, rfl⟩

/-- A fetch that ends shows the content it was told, and only a failure gives the page something
to tell. -/
theorem Settles.derived {part : Part} {result : Except Failure Reply} {ok : Bool} {page : Page}
    {groups : Option (List String)} (h : s.Settles part result ok page groups) (task : Nat) :
    page.contentUrl = (contentOf? (⟨task, part⟩, result)).or s.page.contentUrl ∧
      (failure? part result = none → page.error = s.page.error) := by
  cases h with
  | content result url read =>
    refine ⟨?_, fun _ => rfl⟩
    have told : contentOf? (⟨task, .content⟩, result) = some url := by
      rw [contentOf?, if_pos rfl, read]
      rfl
    rw [told]
    rfl
  | groups result groups read => exact ⟨rfl, fun _ => rfl⟩
  | failed part result failure failed =>
    refine ⟨?_, fun worked => absurd (worked.symm.trans failed) (by simp)⟩
    have nothing : contentOf? (⟨task, part⟩, result) = none := by
      cases part with
      | content =>
        cases read : result.bind fun r => r.decode contentReply with
        | ok url => simp [failure?, read] at failed
        | error failure => rw [contentOf?, if_pos rfl, read]; rfl
      | groups => rfl
      | submission => rfl
    rw [nothing]
    exact Page.contentUrl_fail s.page _ _ _

/-- What a call tells when it ends is what the page is derived from. -/
theorem Follows.derived {p : Progress CallId} (h : s.Follows id p t) (derived : s.Derived)
    (ended : p.1.ended = s.client.ended ++ (p.2.map fun result => (id, result)).toList) :
    t.Derived := by
  cases h with
  | underWay c => exact derived.congr rfl (by simpa using ended) rfl fun silent => silent
  | fetched c result ok page groups fetches settles =>
    have more : ({ s with client := c } : Session).client.ended =
        s.client.ended ++ [(id, result)] := by simpa using ended
    have contents := contents_of_ended more
    have failures := failures_of_ended more
    obtain ⟨content, error⟩ := settles.derived id.task
    constructor
    · show (s.pageAfter id.task id.part ok page).contentUrl =
        ({ s with client := c } : Session).contents.getLast?.or s.config.contentUrl
      rw [contentUrl_pageAfter, content, contents, derived.content]
      cases contentOf? (id, result) <;> simp
    · intro spared
      replace spared : ({ s with client := c } : Session).failures = [] := spared
      rw [failures, List.append_eq_nil_iff] at spared
      have worked : failure? id.part result = none := by simpa using spared.2
      exact error_pageAfter_of_silent ((error worked).trans (derived.silent spared.1)) _ _ _
  -- a submission tells no content, and its failure counts as one
  | submitted c result page submits settles =>
    have more : ({ s with client := c } : Session).client.ended =
        s.client.ended ++ [(id, result)] := by simpa using ended
    have contents := contents_of_ended more
    have failures := failures_of_ended more
    have nothing : contentOf? (id, result) = none := by simp [contentOf?, submits]
    constructor
    · show page.contentUrl =
        ({ s with client := c } : Session).contents.getLast?.or s.config.contentUrl
      rw [contents, nothing, Option.toList_none, List.append_nil]
      cases settles <;> exact derived.content
    · intro spared
      replace spared : ({ s with client := c } : Session).failures = [] := spared
      rw [failures, List.append_eq_nil_iff] at spared
      cases settles with
      | reported done => exact derived.silent spared.1
      | failed failure failed => simp [submits, failed] at spared

/-- The page is derived from the results of the calls after every step. -/
theorem Step.derived (h : Step s t) (derived : s.Derived) : t.Derived := by
  cases h with
  | skip task part fetches missing =>
    exact derived.congr rfl rfl (contentUrl_pageAfter task part true s.page) fun silent =>
      error_pageAfter_of_silent silent task part true
  | fetch id e p t fetches endpoint busy new begins follows =>
    have begun : (s.onPage Page.beginFetch).Derived :=
      derived.congr rfl rfl rfl fun silent => silent
    exact follows.derived begun begins.ended_eq
  | advance id p t advances follows => exact follows.derived derived advances.ended_eq
  | authorize task path t idle allowed page authorizes =>
    -- a page for authorization is known only after a failure
    have failed : s.page.error ≠ (none, none, none) := by simp [Page.error, page]
    cases authorizes with
    | unresolved fault named =>
      exact derived.congr rfl rfl (Page.contentUrl_fail _ _ _ _) fun silent => absurd silent failed
    | opened q a b d d' popup named turns asked =>
      exact derived.congr rfl rfl rfl fun silent => absurd silent failed
    | blocked q a b d d' named turns asked =>
      exact derived.congr rfl rfl rfl fun silent => absurd silent failed
  | authorized task popup watching closed =>
    refine derived.congr rfl rfl rfl fun silent => ?_
    simp only [Page.error, Prod.mk.injEq] at silent ⊢
    exact ⟨silent.1, rfl, silent.2.2⟩
  | _ => exact derived.congr rfl rfl rfl fun silent => silent

theorem Act.derived (h : Act s t) (derived : s.Derived) : t.Derived := by
  cases h with
  | step t step => exact step.derived derived
  | submit task grading p t reports graded first ready begins follows =>
    exact follows.derived (derived.congr rfl rfl rfl fun silent => silent) begins.ended_eq
  | _ => exact derived.congr rfl rfl rfl fun silent => silent

/-- The page is derived from the results of the calls on the whole way. -/
theorem Acts.derived (h : s.Acts t) (derived : s.Derived) : t.Derived := by
  induction h with
  | refl => exact derived
  | tail _ act ih => exact act.derived ih

/-! ### Two first rounds with the same results -/

/-- What a failure is told as. -/
def blame (s : Session) (failed : Part × Failure) :
    Option Problem × Option String × Option Report :=
  Page.blame failed.2 ((s.endpoint? failed.1).bind Endpoint.authUrl)

/-- What there is to tell: the failure that came last, if there is one. -/
def blamed (s : Session) : Option Problem × Option String × Option Report :=
  ((s.failures.map s.blame).getLast?).getD (none, none, none)

/-- Lists of which every member is the same end in the same way. -/
theorem getLast?_eq_of_mem {α : Type} {l l' : List α} (same : ∀ x, x ∈ l ↔ x ∈ l')
    (unique : ∀ x ∈ l, ∀ y ∈ l, x = y) : l.getLast? = l'.getLast? := by
  cases last : l.getLast? with
  | none =>
    have empty : l = [] := List.getLast?_eq_none_iff.mp last
    have empty' : l' = [] :=
      List.eq_nil_iff_forall_not_mem.mpr fun x known => by simpa [empty] using (same x).mpr known
    rw [empty', List.getLast?_nil]
  | some x =>
    have known : x ∈ l := List.mem_of_getLast? last
    cases last' : l'.getLast? with
    | none =>
      have empty' : l' = [] := List.getLast?_eq_none_iff.mp last'
      simpa [empty'] using (same x).mp known
    | some y => rw [unique x known y ((same y).mpr (List.mem_of_getLast? last'))]

variable {r r' : Round}

/-- The page of a first round tells of the failure that came last. -/
theorem FirstRound.error_eq (first : s.FirstRound r) (derived : s.Derived) :
    s.page.error = s.blamed := by
  rw [blamed, List.getLast?_map]
  cases last : s.failures.getLast? with
  | none => exact derived.silent (List.getLast?_eq_none_iff.mp last)
  | some failed => exact (first.told failed.1 failed.2 last).error_eq

theorem FirstRound.mem_contents (first : s.FirstRound r) (sound : s.Sound) {url : String} :
    url ∈ s.contents ↔ ∃ result, (⟨0, .content⟩, result) ∈ s.client.ended ∧
      contentOf? (⟨0, .content⟩, result) = some url := by
  rw [contents, List.mem_filterMap]
  constructor
  · rintro ⟨⟨⟨task, part⟩, result⟩, known, told⟩
    obtain rfl : task = 0 := (first.calls (sound.client.begun_of_ended known)).1
    obtain rfl : part = .content := by
      by_contra other
      simp [contentOf?, other] at told
    exact ⟨result, known, told⟩
  · rintro ⟨result, known, told⟩
    exact ⟨_, known, told⟩

/-- A first round has told one address of the content at most. -/
theorem FirstRound.contents_unique (first : s.FirstRound r) (sound : s.Sound) :
    ∀ x ∈ s.contents, ∀ y ∈ s.contents, x = y := by
  intro x known y known'
  obtain ⟨result, ended, told⟩ := (first.mem_contents sound).mp known
  obtain ⟨result', ended', told'⟩ := (first.mem_contents sound).mp known'
  rw [sound.client.result_unique ended ended', told'] at told
  exact (Option.some.inj told).symm

/-- What failed in the first round is one of its two fetches. -/
theorem FirstRound.failed_fetch (first : s.FirstRound r) (sound : s.Sound) {part : Part}
    {f : Failure} (failed : (part, f) ∈ s.failures) : part = .content ∨ part = .groups := by
  obtain ⟨result, ended, -⟩ := (first.mem_failures sound).mp failed
  have fetches := (first.calls (sound.client.begun_of_ended ended)).2.1
  cases part with
  | content => exact .inl rfl
  | groups => exact .inr rfl
  | submission => exact absurd rfl fetches

/-- Each part of a first round fails once at most. -/
theorem FirstRound.failure_unique (first : s.FirstRound r) (sound : s.Sound) {part : Part}
    {f f' : Failure} (failed : (part, f) ∈ s.failures) (failed' : (part, f') ∈ s.failures) :
    f = f' := by
  obtain ⟨result, ended, why⟩ := (first.mem_failures sound).mp failed
  obtain ⟨result', ended', why'⟩ := (first.mem_failures sound).mp failed'
  rw [sound.client.result_unique ended ended', why'] at why
  exact (Option.some.inj why).symm

variable (first : s.FirstRound r) (first' : t.FirstRound r')
  (same : ∀ e, e ∈ s.client.ended ↔ e ∈ t.client.ended)

include first first' same

theorem groups_same : s.groups = t.groups := by
  refine Option.ext fun groups => ?_
  rw [first.groups, first'.groups]
  simp only [same]

variable (sound : s.Sound) (sound' : t.Sound)

include sound sound'

/-- Both orders tell the same content. -/
theorem contents_same : s.contents.getLast? = t.contents.getLast? := by
  refine getLast?_eq_of_mem (fun url => ?_) (first.contents_unique sound)
  rw [first.mem_contents sound, first'.mem_contents sound']
  simp only [same]

/-- The same calls fail in both orders. -/
theorem mem_failures_same (failed : Part × Failure) :
    failed ∈ s.failures ↔ failed ∈ t.failures := by
  rw [first.mem_failures sound, first'.mem_failures sound']
  simp only [same]

/-- Two failures that are told alike are told alike in either order. -/
theorem blamed_same (config : t.config = s.config)
    (alike : ∀ f g, (.content, f) ∈ s.failures → (.groups, g) ∈ s.failures →
      s.blame (.content, f) = s.blame (.groups, g)) : s.blamed = t.blamed := by
  have mem := mem_failures_same first first' same sound sound'
  have blame : t.blame = s.blame := by
    funext failed
    rw [Session.blame, Session.blame, endpoint?_congr config]
  have unique : ∀ failed ∈ s.failures, ∀ failed' ∈ s.failures,
      s.blame failed = s.blame failed' := by
    rintro ⟨part, f⟩ known ⟨part', f'⟩ known'
    -- only the failures of two parts can be told in two ways
    rcases first.failed_fetch sound known with rfl | rfl
    · rcases first.failed_fetch sound known' with rfl | rfl
      · rw [first.failure_unique sound known known']
      · exact alike f f' known known'
    · rcases first.failed_fetch sound known' with rfl | rfl
      · exact (alike f' f known' known).symm
      · rw [first.failure_unique sound known known']
  rw [blamed, blamed, blame]
  congr 1
  refine getLast?_eq_of_mem (fun told => ?_) ?_
  · simp only [List.mem_map, mem]
  · intro told known told' known'
    obtain ⟨failed, failure, rfl⟩ := List.mem_map.mp known
    obtain ⟨failed', failure', rfl⟩ := List.mem_map.mp known'
    exact unique failed failure failed' failure'

omit first first' same sound sound'

variable (config : Config) (base : Web.Url) (token : String) (desktop : Desktop)

/-- Two rounds on a fresh session, in which the calls end with the same results but in whatever
order. Both pages know the same content and count no fetch, the same groups are passed on, and both
or neither have a problem and show the content. Each page tells of the failure that came last, so
they are the same page exactly when these failures are told alike, and always when the failures of
both calls are, or when no more than one of them failed. -/
theorem fetchAll_either_order (moves others : List Move) (alone : ∀ m ∈ moves, m.starts = false)
    (alone' : ∀ m ∈ others, m.starts = false) :
    let s := (initial config base token desktop).afterAll (.fetchAll :: moves)
    let t := (initial config base token desktop).afterAll (.fetchAll :: others)
    s.client.calls = [] → t.client.calls = [] →
      (∀ e, e ∈ s.client.ended ↔ e ∈ t.client.ended) →
        s.page.contentUrl = t.page.contentUrl ∧
        s.page.pendingFetches = 0 ∧ t.page.pendingFetches = 0 ∧ s.groups = t.groups ∧
        (s.page.problem.isSome ↔ t.page.problem.isSome) ∧
        s.page.view.showSpinner = t.page.view.showSpinner ∧
        s.page.view.iframeUrl = t.page.view.iframeUrl ∧
        s.page.error = s.blamed ∧ t.page.error = t.blamed ∧
        (s.page = t.page ↔ s.blamed = t.blamed) ∧
        ((∀ f g, (.content, f) ∈ s.failures → (.groups, g) ∈ s.failures →
            s.blame (.content, f) = s.blame (.groups, g)) →
          s.page = t.page ∧ s.page.view = t.page.view) := by
  intro s t idle idle' same
  have initially : (initial config base token desktop).Sound := sound_initial ..
  have acts : (initial config base token desktop).Acts s := acts_afterAll initially _
  have acts' : (initial config base token desktop).Acts t := acts_afterAll initially _
  obtain ⟨r₀, begun₀⟩ := begun_fetchAll config base token desktop
  obtain ⟨r, begun⟩ : ∃ r, s.Begun r := begun₀.afterAll alone
  obtain ⟨r', begun'⟩ : ∃ r, t.Begun r := begun₀.afterAll alone'
  have derived : s.Derived := acts.derived (derived_initial ..)
  have derived' : t.Derived := acts'.derived (derived_initial ..)
  have known : t.config = s.config := acts'.config.trans acts.config.symm
  have content : s.page.contentUrl = t.page.contentUrl := by
    rw [derived.content, derived'.content, known, contents_same begun.toFirstRound
      begun'.toFirstRound same begun.sound begun'.sound]
  -- no call is under way, so none is counted
  have none : s.page.pendingFetches = 0 := by
    rw [begun.counts, fetchCount, Client.labels, idle]
    rfl
  have none' : t.page.pendingFetches = 0 := by
    rw [begun'.counts, fetchCount, Client.labels, idle']
    rfl
  have failures := mem_failures_same begun.toFirstRound begun'.toFirstRound same begun.sound
    begun'.sound
  have spared : s.failures = [] ↔ t.failures = [] := by
    simp only [List.eq_nil_iff_forall_not_mem, failures]
  have problem : s.page.problem.isSome ↔ t.page.problem.isSome := by
    rw [begun.problem_iff, begun'.problem_iff, Ne, Ne, spared]
  have error := begun.error_eq derived
  have error' := begun'.error_eq derived'
  -- content and count agree, so the pages differ at most in what they tell of an error
  have pages : s.page = t.page ↔ s.blamed = t.blamed := by
    rw [← error, ← error']
    exact ⟨fun one => by rw [one], Page.eq_of_error content (none.trans none'.symm)⟩
  obtain ⟨spinner, iframe⟩ := Page.view_shown content problem
  refine ⟨content, none, none', groups_same begun.toFirstRound begun'.toFirstRound same, problem,
    spinner, iframe, error, error', pages, fun alike => ?_⟩
  have one : s.page = t.page := pages.mpr (blamed_same begun.toFirstRound begun'.toFirstRound same
    begun.sound begun'.sound known alike)
  exact ⟨one, by rw [one]⟩

/-! ### Two calls that nobody answers -/

/-- A round whose calls both fail, in the given order. -/
def failing (first second : Part) : List Move :=
  [.fetchAll, .answer ⟨0, first⟩ .missing, .answer ⟨0, second⟩ .missing]

/-- The path and the URL of a call that nobody answered. -/
def unanswered? : Except Failure Reply → Option (String × String)
  | .error (.interrupted path (.noAnswer url)) => some (path, url)
  | _ => none

theorem eq_of_unanswered? {result : Except Failure Reply} {path url : String}
    (h : unanswered? result = some (path, url)) :
    result = .error (.interrupted path (.noAnswer url)) := by
  rw [unanswered?.eq_def] at h
  split at h
  · simpa using h
  · cases h

theorem ended_of_unanswered? (calls : List (CallId × String × String))
    {ended : List (CallId × Except Failure Reply)}
    (h : ended.map (fun e => (e.1, unanswered? e.2)) = calls.map fun c => (c.1, some c.2)) :
    ended = calls.map fun c => (c.1, .error (.interrupted c.2.1 (.noAnswer c.2.2))) := by
  induction ended generalizing calls with
  | nil =>
    cases calls with
    | nil => rfl
    | cons c calls => simp at h
  | cons e ended ih =>
    cases calls with
    | nil => simp at h
    | cons c calls =>
      simp only [List.map_cons, List.cons.injEq, Prod.mk.injEq] at h ⊢
      obtain ⟨⟨id, result⟩, rest⟩ := h
      exact ⟨Prod.ext id (eq_of_unanswered? result), ih calls rest⟩

/-- The results are the same in either order. -/
theorem failing_same (e : CallId × Except Failure Reply) :
    e ∈ (apart.afterAll (failing .content .groups)).client.ended ↔
      e ∈ (apart.afterAll (failing .groups .content)).client.ended := by
  let content : CallId × String × String := (⟨0, .content⟩, "/content", "http://localhost/content")
  let groups : CallId × String × String := (⟨0, .groups⟩, "/groups", "http://localhost/groups")
  have ended := ended_of_unanswered? [content, groups]
    (show (apart.afterAll (failing .content .groups)).client.ended.map _ = _ by decide +kernel)
  have ended' := ended_of_unanswered? [groups, content]
    (show (apart.afterAll (failing .groups .content)).client.ended.map _ = _ by decide +kernel)
  rw [ended, ended']
  exact ((List.Perm.swap groups content []).map _).mem_iff

/-- Both calls fail, in either order: the same content is known, and each page tells of the failure
that came last. -/
theorem failures_in_either_order :
    let s := apart.afterAll (failing .content .groups)
    let t := apart.afterAll (failing .groups .content)
    s.page.contentUrl = t.page.contentUrl ∧ s.page.error = s.blamed ∧ t.page.error = t.blamed ∧
      (s.page = t.page ↔ s.blamed = t.blamed) := by
  obtain ⟨content, -, -, -, -, -, -, error, error', pages, -⟩ :=
    fetchAll_either_order apart.config apart.client.base apart.client.token apart.desktop
      [.answer ⟨0, .content⟩ .missing, .answer ⟨0, .groups⟩ .missing]
      [.answer ⟨0, .groups⟩ .missing, .answer ⟨0, .content⟩ .missing] (by decide +kernel)
      (by decide +kernel) (List.length_eq_zero_iff.mp (by decide +kernel))
      (List.length_eq_zero_iff.mp (by decide +kernel)) failing_same
  exact ⟨content, error, error', pages⟩

/-- The calls end with the same results in either order, but the pages are not the same: each sends
the user to where the call may be authorized that failed last. -/
theorem later_failure_counts :
    apart.config.flaw? = none ∧
      (∀ e, e ∈ (apart.afterAll (failing .content .groups)).client.ended ↔
        e ∈ (apart.afterAll (failing .groups .content)).client.ended) ∧
      (apart.afterAll (failing .content .groups)).tasks = [.fetching ⟨some false, some false⟩] ∧
      (apart.afterAll (failing .groups .content)).tasks = [.fetching ⟨some false, some false⟩] ∧
      (apart.afterAll (failing .content .groups)).page.authorizationUrl = some "/join" ∧
      (apart.afterAll (failing .groups .content)).page.authorizationUrl = some "/login" ∧
      (apart.afterAll (failing .content .groups)).page ≠
        (apart.afterAll (failing .groups .content)).page := by
  have joins : (apart.afterAll (failing .content .groups)).page.authorizationUrl =
      some "/join" := by decide +kernel
  have logsIn : (apart.afterAll (failing .groups .content)).page.authorizationUrl =
      some "/login" := by decide +kernel
  refine ⟨by decide +kernel, failing_same, by decide +kernel, by decide +kernel, joins, logsIn,
    fun same => ?_⟩
  rw [same, logsIn] at joins
  exact absurd joins (by decide)

end Session

end CourseLaunch.Launch
