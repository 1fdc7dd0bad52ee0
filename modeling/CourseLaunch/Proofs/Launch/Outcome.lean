import CourseLaunch.Proofs.Launch.FirstRound
/-!
# The outcome of the first round

When both calls have ended, the round is successful if none failed, and the page shows the content
or tells of the failure that came last. All of this is read off the journal of the calls.
-/

namespace CourseLaunch.Launch
open Activity Backend Popup

namespace Session

variable {s : Session} {r : Round}

/-- One call was begun for every endpoint that is configured, which asks for it, and no other. -/
structure AsksEach (s : Session) : Prop where
  once : s.begunIds.Nodup
  each : ∀ part e, s.endpoint? part = some e →
    ∃ request, (⟨0, part⟩, request) ∈ s.client.begun ∧ request.AsksFor e
  only : ∀ id request, (id, request) ∈ s.client.begun →
    id.task = 0 ∧ ∃ e, s.endpoint? id.part = some e ∧ request.AsksFor e

/-- A fetch that has an endpoint begins its call, whether the fetch has ended since or not. -/
theorem Begun.asksEach (begun : s.Begun r) : s.AsksEach where
  once := begun.sound.client.once
  only := begun.asks
  each part e endpoint := by
    have fetches : part ≠ .submission := by
      rintro rfl
      cases endpoint
    have known : ⟨0, part⟩ ∈ s.begunIds := by
      rcases begun.begun part fetches with done | known
      · have ends := begun.ends part
        generalize r.part? part = o at ends done
        cases ends with
        | notYet waits => cases done
        | skipped missing => simp [endpoint] at missing
        | ended result known => exact begun.sound.client.begun_of_ended known
      · exact known
    obtain ⟨⟨id, request⟩, known, rfl⟩ := List.mem_map.mp known
    obtain ⟨-, e', endpoint', asks⟩ := begun.asks _ request known
    obtain rfl : e' = e := Option.some.inj (endpoint'.symm.trans endpoint)
    exact ⟨request, known, asks⟩

theorem FirstRound.mem_failures (first : s.FirstRound r) (sound : s.Sound) {part : Part}
    {f : Failure} : (part, f) ∈ s.failures ↔
      ∃ result, (⟨0, part⟩, result) ∈ s.client.ended ∧ failure? part result = some f := by
  unfold failures
  rw [List.mem_filterMap]
  constructor
  · rintro ⟨⟨id, result⟩, known, told⟩
    obtain ⟨f', failed, same⟩ := Option.map_eq_some_iff.mp told
    obtain ⟨rfl, rfl⟩ := Prod.mk.inj same
    obtain ⟨task, part⟩ := id
    obtain rfl : task = 0 := (first.calls (sound.client.begun_of_ended known)).1
    exact ⟨result, known, failed⟩
  · rintro ⟨result, known, failed⟩
    exact ⟨_, known, by simp [failed]⟩

/-- A fetch of the round was successful when it is not among the failures. -/
theorem FirstRound.ok_iff (first : s.FirstRound r) (sound : s.Sound) (part : Part) {ok : Bool}
    (ended : r.part? part = some ok) : ok ↔ ∀ f, (part, f) ∉ s.failures := by
  have ends := first.ends part
  rw [ended] at ends
  cases ends with
  | skipped missing =>
    refine iff_of_true rfl fun f failed => ?_
    obtain ⟨result, known, -⟩ := (first.mem_failures sound).mp failed
    have configured := (first.calls (sound.client.begun_of_ended known)).2.2
    simp [missing] at configured
  | ended result known =>
    cases failed : failure? part result with
    | none =>
      refine iff_of_true rfl fun f failed' => ?_
      obtain ⟨result', known', failed'⟩ := (first.mem_failures sound).mp failed'
      rw [sound.client.result_unique known' known, failed] at failed'
      cases failed'
    | some f =>
      exact iff_of_false (by simp) fun none =>
        none f ((first.mem_failures sound).mpr ⟨result, known, failed⟩)

theorem FirstRound.failures_eq_nil_iff (first : s.FirstRound r) (sound : s.Sound) :
    s.failures = [] ↔ (∀ f, (.content, f) ∉ s.failures) ∧ ∀ f, (.groups, f) ∉ s.failures := by
  constructor
  · intro none
    simp [none]
  · rintro ⟨content, groups⟩
    refine List.eq_nil_iff_forall_not_mem.mpr fun ⟨part, f⟩ failed => ?_
    cases part with
    | content => exact content f failed
    | groups => exact groups f failed
    | submission =>
      obtain ⟨result, known, -⟩ := (first.mem_failures sound).mp failed
      exact (first.calls (sound.client.begun_of_ended known)).2.1 rfl

/-- A fetch has not ended while its call is under way. -/
theorem Begun.part?_eq_none_iff (begun : s.Begun r) (part : Part) (fetches : part ≠ .submission) :
    r.part? part = none ↔ ⟨0, part⟩ ∈ s.client.labels := by
  have ends := begun.ends part
  constructor
  · intro waits
    rw [waits] at ends
    cases ends with
    | notYet notEnded =>
      have known : ⟨0, part⟩ ∈ s.begunIds := by simpa [waits] using begun.begun part fetches
      rcases begun.sound.client.underWay_or_ended known with under | ⟨result, ended⟩
      · exact under
      · exact absurd ended (notEnded result)
  · intro under
    have configured := (begun.calls (begun.sound.client.begun_of_label under)).2.2
    revert ends
    generalize r.part? part = o
    rintro (- | missing | ⟨result, known⟩)
    · rfl
    · simp [missing] at configured
    · exact absurd known (begun.sound.client.not_ended_of_label under result)

/-- The round is over when no call is under way. -/
theorem Begun.over_iff (begun : s.Begun r) : r.outcome?.isSome ↔ s.client.calls = [] := by
  have content := begun.part?_eq_none_iff .content (by simp)
  have groups := begun.part?_eq_none_iff .groups (by simp)
  simp only [Round.part?] at content groups
  -- every call that is under way is one of the two of the round
  have calls : s.client.calls = [] ↔
      ⟨0, .content⟩ ∉ s.client.labels ∧ ⟨0, .groups⟩ ∉ s.client.labels := by
    unfold Client.labels at *
    constructor
    · intro none
      simp [none]
    · rintro ⟨noContent, noGroups⟩
      refine List.eq_nil_iff_forall_not_mem.mpr fun call under => ?_
      have known : call.label ∈ s.client.calls.map Call.label := List.mem_map_of_mem under
      obtain ⟨task, fetches, -⟩ :=
        begun.calls (begun.sound.client.begun_of_label known)
      obtain ⟨⟨task', part⟩, request, seen, stage⟩ := call
      obtain rfl : task' = 0 := task
      cases part with
      | content => exact noContent known
      | groups => exact noGroups known
      | submission => exact fetches rfl
  rw [calls, ← content, ← groups]
  unfold Round.outcome?
  cases r.content <;> cases r.groups <;> simp

/-- A round that is over knows whether a fetch failed. -/
theorem FirstRound.outcome_iff (first : s.FirstRound r) (sound : s.Sound) {ok : Bool}
    (finished : r.outcome? = some ok) : ok ↔ s.failures = [] := by
  unfold Round.outcome? at finished
  cases content : r.content with
  | none => simp [content] at finished
  | some c =>
    cases groups : r.groups with
    | none => simp [content, groups] at finished
    | some g =>
      have both : (c && g) = ok := by simpa [content, groups] using finished
      rw [first.failures_eq_nil_iff sound, ← first.ok_iff sound .content content,
        ← first.ok_iff sound .groups groups, ← both, Bool.and_eq_true]

/-- There is an error exactly if a call failed. -/
theorem FirstRound.problem_iff (first : s.FirstRound r) :
    s.page.problem.isSome ↔ s.failures ≠ [] := by
  cases last : s.failures.getLast? with
  | none =>
    have none := List.getLast?_eq_none_iff.mp last
    simp [none, first.silent none]
  | some told =>
    have failed : s.failures ≠ [] := fun none => by simp [none] at last
    simp [failed, (first.told told.1 told.2 last).problem_ne.1]

/-- The content is shown when it is known and there is no error. -/
theorem view_iframeUrl (p : Page) :
    p.view.iframeUrl.isSome ↔ p.contentUrl.isSome ∧ p.problem = none := by
  unfold Page.view
  cases p.problem <;> simp

/-- The content is shown when its fetch did not fail and there is no problem. -/
theorem FirstRound.iframe_iff (first : s.FirstRound r) (sound : s.Sound)
    (accepted : s.config.flaw? = none) (finished : r.outcome?.isSome) :
    s.page.view.iframeUrl.isSome ↔
      (∀ f, (.content, f) ∉ s.failures) ∧ s.page.problem = none := by
  rw [view_iframeUrl]
  refine and_congr_left fun silent => ?_
  have none : s.failures = [] := by
    by_contra failed
    simpa [silent] using first.problem_iff.mpr failed
  refine iff_of_true (first.content ?_) (by simp [none])
  -- a configuration without a flaw has an address of the content or a call for it
  have known : s.config.contentUrl.isSome ∨ s.config.api.viaUrl.isSome := by
    by_contra neither
    simp only [not_or, Bool.not_eq_true, Option.isSome_eq_false_iff] at neither
    unfold Config.flaw? at accepted
    rw [neither.1, neither.2] at accepted
    split at accepted <;> simp at accepted
  refine known.imp_right fun configured => ⟨configured, ?_⟩
  cases content : r.content with
  | none => simp [Round.outcome?, content] at finished
  | some ok => simp [(first.ok_iff sound .content content).mpr (by simp [none])]

variable (config : Config) (base : Web.Url) (token : String) (desktop : Desktop)

/-- The first fetch of everything begins the first round. -/
theorem begun_fetchAll :
    ∃ r, ((initial config base token desktop).after .fetchAll).Begun r := by
  have initially := sound_initial config base token desktop
  have joins : Act (initial config base token desktop)
      ((initial config base token desktop).add (.fetching .begun)) := .join .fetchAll _ rfl
  have sound := joins.sound initially
  have first : ((initial config base token desktop).add (.fetching .begun)).FirstRound .begun := by
    refine ⟨rfl, ?_, fun part => ?_, fun _ => rfl, ?_, ?_, ?_⟩
    · simp [add, initial, ofConfig]
    · cases part <;> exact .notYet (by simp [add, initial, ofConfig])
    · simp [failures, add, initial, ofConfig]
    · rintro (known | ⟨-, finished⟩)
      · exact known
      · cases finished
    · simp [add, initial, ofConfig]
  exact first.beginRound sound rfl rfl

/-- `fetchAll` calls every endpoint that is configured. After any moves that start no other task the
round is over when the calls have ended, and then it is successful if none of them failed. The page
counts no fetch, shows the content if there is nothing to tell, and else tells of the failure that
came last. -/
theorem fetchAll_outcome (accepted : config.flaw? = none) (moves : List Move)
    (alone : ∀ m ∈ moves, m.starts = false) :
    let s := (initial config base token desktop).afterAll (.fetchAll :: moves)
    s.config = config ∧ s.AsksEach ∧
    ∃ round, s.tasks = [.fetching round] ∧ (round.outcome?.isSome ↔ s.client.calls = []) ∧
      ∀ ok, round.outcome? = some ok →
        (ok ↔ s.failures = []) ∧ (s.page.problem.isSome ↔ s.failures ≠ []) ∧
        (s.page.view.iframeUrl.isSome ↔
          (∀ f, (.content, f) ∉ s.failures) ∧ s.page.problem = none) ∧
        s.page.pendingFetches = 0 ∧
        (∀ groups, s.groups = some groups ↔
          ∃ result, (⟨0, .groups⟩, result) ∈ s.client.ended ∧
            result.bind (fun r => r.decode groupsReply) = .ok groups) ∧
        ∀ part f, s.failures.getLast? = some (part, f) →
          s.page.TellsOf f ((s.endpoint? part).bind Endpoint.authUrl) := by
  intro s
  obtain ⟨r₀, begun₀⟩ := begun_fetchAll config base token desktop
  obtain ⟨r, begun⟩ : ∃ r, s.Begun r := begun₀.afterAll alone
  have known : s.config = config :=
    (acts_afterAll (sound_initial config base token desktop) (.fetchAll :: moves)).config
  refine ⟨known, begun.asksEach, r, begun.tasks, begun.over_iff, fun ok finished => ?_⟩
  -- the round is over, so nothing is pending any more
  have calls : s.client.calls = [] := begun.over_iff.mp (by simp [finished])
  refine ⟨begun.outcome_iff begun.sound finished, begun.problem_iff,
    begun.iframe_iff begun.sound (known ▸ accepted) (by simp [finished]), ?_, begun.groups,
    begun.told⟩
  rw [begun.counts, fetchCount, Client.labels, calls]
  rfl

/-- The groups are answered, and then the content is refused for a reason that the server
explains. -/
def explained : List Move :=
  [.fetchAll, .answer ⟨0, .groups⟩ (.whole 200 (Text.octets "[\"g\", \"h\"]")),
    .answer ⟨0, .content⟩ (.whole 400 (Text.octets
      "\x7b\"error_code\": \"canvas_page_not_found_in_course\"\x7d"))]

/-- The groups are told, and of the content the page tells what the server explains. -/
theorem explained_content_outcome :
    let s := apart.afterAll explained
    apart.config.flaw? = none ∧ s.AsksEach ∧ s.tasks = [.fetching ⟨some false, some true⟩] ∧
      s.groups = some ["g", "h"] ∧
      ∃ f, s.failures = [(.content, f)] ∧
        s.page.error = (some (.server .canvasPageNotFoundInCourse), some "/login", some f.report) ∧
        s.page.view.iframeUrl = none ∧ s.page.pendingFetches = 0 := by
  intro s
  have accepted : apart.config.flaw? = none := by decide +kernel
  have finished : s.tasks = [.fetching ⟨some false, some true⟩] := by decide +kernel
  have failed : s.failures.map (fun e => (e.1, e.2.report.errorCode)) =
      [(.content, some "canvas_page_not_found_in_course")] := by decide +kernel
  have hidden : s.page.view.iframeUrl = none := by decide +kernel
  have groups : s.groups = some ["g", "h"] := by decide +kernel
  -- one call failed, and its body has the code of a known problem
  obtain ⟨⟨part, f⟩, last, named⟩ := List.map_eq_singleton_iff.mp failed
  obtain ⟨rfl, named⟩ := Prod.mk.inj named
  obtain ⟨known, asks, r, tasks, -, outcome⟩ := fetchAll_outcome apart.config apart.client.base
    apart.client.token apart.desktop accepted (explained.drop 1) (by decide +kernel)
  obtain rfl : r = ⟨some false, some true⟩ := by simpa using tasks.symm.trans finished
  obtain ⟨-, -, -, pending, -, told⟩ := outcome false rfl
  have told : s.page.TellsOf f ((s.endpoint? .content).bind Endpoint.authUrl) :=
    told .content f (show s.failures.getLast? = _ by simp [last])
  rw [show s.endpoint? .content = apart.config.api.viaUrl from
    congrArg (fun config : Config => config.api.viaUrl) known] at told
  have problem := told.explained .canvasPageNotFoundInCourse named
  have report : s.page.lastError = some f.report := by simp [told.lastError, problem]
  refine ⟨accepted, asks, finished, groups, f, last, ?_, hidden, pending⟩
  rw [Page.error, problem, told.authorizationUrl, report]
  rfl

end Session

end CourseLaunch.Launch
