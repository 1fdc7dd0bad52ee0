import CourseLaunch.Proofs.Launch.Recovery
/-!
# Failures of earlier rounds

Rounds overlap: a slow call of an early round may end after a later round has succeeded. A failure
is told whichever round it belongs to, and from then on there is an error until another retry
recovers.
-/

namespace CourseLaunch.Launch
open Activity Backend Popup

namespace Session

variable {s t : Session}

/-- A retry does not recover when its fetch fails. -/
theorem hasRecovered_finish_false (t : Task) {part : Part} (fetches : part ≠ .submission) :
    (t.mapRound fun round => round.finish part false).hasRecovered = false := by
  cases t with
  | recovering r =>
    cases part with
    | submission => exact absurd rfl fetches
    | content => cases known : r.groups <;>
        simp [Task.mapRound, Task.hasRecovered, Round.finish, Round.outcome?, known]
    | groups => cases known : r.content <;>
        simp [Task.mapRound, Task.hasRecovered, Round.finish, Round.outcome?, known]
  | _ => rfl

/-- A fetch that failed is not the end of a retry that recovers. -/
theorem pageAfter_of_failed (s : Session) (task : Nat) {part : Part} (fetches : part ≠ .submission)
    (page : Page) : s.pageAfter task part false page = page := by
  unfold pageAfter
  cases s.tasks[task]? with
  | none => rfl
  | some t => simp [hasRecovered_finish_false t fetches]

/-- A fetch that fails is told of on the page, whichever round it belongs to. -/
theorem Settles.told_of_failed {part : Part} {result : Except Failure Reply} {ok : Bool}
    {page : Page} {groups : Option (List String)} (h : s.Settles part result ok page groups)
    {f : Failure} (failed : failure? part result = some f)
    (open' : s.page.problem ≠ some .reportingSubmission) :
    page.TellsOf f ((s.endpoint? part).bind Endpoint.authUrl) := by
  cases h with
  | content result url read => simp [failure?, read] at failed
  | groups result groups read => simp [failure?, read] at failed
  | failed part result failure failed' =>
    obtain rfl : failure = f := Option.some.inj (failed'.symm.trans failed)
    exact (Page.tellsOf_failFetch open' failure _).of_error rfl

/-- The page tells of a fetch that failed, unless a submission failed before. -/
theorem Follows.told {id : CallId} {p : Progress CallId} (h : s.Follows id p t)
    (fetches : id.part ≠ .submission) {result : Except Failure Reply} (settled : p.2 = some result)
    {f : Failure} (failed : failure? id.part result = some f)
    (open' : s.page.problem ≠ some .reportingSubmission) :
    t.page.TellsOf f ((s.endpoint? id.part).bind Endpoint.authUrl) := by
  cases h with
  | underWay c => cases settled
  | submitted c result page submits settles => exact absurd submits fetches
  | fetched c result' ok page groups isFetch settles =>
    obtain rfl : result' = result := Option.some.inj settled
    obtain rfl : ok = false := by simpa [failed] using settles.ok_eq
    show (s.pageAfter id.task id.part false page).TellsOf f _
    rw [pageAfter_of_failed s id.task fetches page]
    exact settles.told_of_failed failed open'

/-- A call that was under way and has a result now got it from its last progress. -/
theorem result_of_advances {c : Client CallId} (consistent : c.Consistent) {id : CallId}
    {p : Progress CallId} (advances : c.Advances id p) (underWay : id ∈ c.labels)
    {result : Except Failure Reply} (ended : (id, result) ∈ p.1.ended) : p.2 = some result := by
  rw [advances.ended_eq, List.mem_append] at ended
  rcases ended with old | new
  · exact absurd old (consistent.not_ended_of_label underWay result)
  · simpa using new

/-- A move that ends a fetch with a failure tells of it, whatever happened since the fetch began. -/
theorem told_after {start : Session} (sound : start.Sound) (moves : List Move) (m : Move)
    {id : CallId} {result : Except Failure Reply} {f : Failure}
    (settles : m = .resume id ∨ ∃ a, m = .answer id a) (fetches : id.part ≠ .submission)
    (underWay : id ∈ (start.afterAll moves).client.labels)
    (ended : (id, result) ∈ ((start.afterAll moves).after m).client.ended)
    (failed : failure? id.part result = some f)
    (open' : (start.afterAll moves).page.problem ≠ some .reportingSubmission) :
    ((start.afterAll moves).after m).page.TellsOf f
      ((start.endpoint? id.part).bind Endpoint.authUrl) := by
  have sound' := sound_afterAll sound moves
  rw [← endpoint?_congr (acts_afterAll sound moves).config]
  have progress : ∃ p, (start.afterAll moves).after m = (start.afterAll moves).follow id p ∧
      (start.afterAll moves).client.Advances id p := by
    rcases settles with rfl | ⟨a, rfl⟩
    · exact ⟨_, rfl, Client.resume_advances sound'.client.labels_nodup id⟩
    · exact ⟨_, rfl, Client.answer_advances sound'.client.labels_nodup id a⟩
  obtain ⟨p, same, advances⟩ := progress
  have follows := follow_follows (start.afterAll moves) id p
  rw [← same] at follows
  rw [follows.client] at ended
  exact follows.told fetches (result_of_advances sound'.client advances underWay ended) failed open'

/-- An error stays until a retry recovers. -/
theorem problem_until_recovery {start : Session} (orderly : start.Orderly)
    (accounted : start.Accounted) (tasks : start.tasks = []) (moves more : List Move)
    (shown : (start.afterAll moves).page.problem.isSome)
    (unrecovered : ∀ before m later, more = before ++ m :: later → ∀ task,
      ¬ start.Recovers (moves ++ before) m task) :
    (start.afterAll (moves ++ more)).page.problem.isSome := by
  induction more using List.reverseRecOn with
  | nil => simpa using shown
  | append_singleton more m ih =>
    have still : (start.afterAll (moves ++ more)).page.problem.isSome :=
      ih fun before m' later split => unrecovered before m' (later ++ [m]) (by simp [split])
    rw [← List.append_assoc, afterAll_append]
    rcases after_unfolds (orderly.afterAll (moves ++ more)) m with
      path | ⟨task, before, p, recovery⟩
    · exact path.problem still _ (List.mem_of_getLast? path.last)
    · exact absurd (recovery.recovers orderly.sound accounted tasks)
        (unrecovered more m [] rfl task)

/-- A launch on the local machine whose content and groups have to be fetched. -/
def remote : Session :=
  initial ⟨⟨"token", some (.ofPath "/content"), some (.ofPath "/groups")⟩, none, none, none, []⟩
    (sample false).client.base "token" (.empty ⟨0, 0, 800, 600⟩)

/-- A round whose content fails, and a retry that fetches everything while the groups of the first
round are still under way. -/
def overtaken : List Move :=
  [.fetchAll, .answer ⟨0, .content⟩ .missing, .retry,
    .answer ⟨1, .content⟩ (.whole 200 (Text.octets "\x7b\"via_url\": \"/book\"\x7d")),
    .answer ⟨1, .groups⟩ (.whole 200 (Text.octets "[]"))]

variable (config : Config) (base : Web.Url) (token : String) (desktop : Desktop)

/-- A fetch that fails is told whichever round it belongs to, also when a later round has succeeded
since. From then on nothing is shown but the dialog, until another retry recovers. -/
theorem failed_fetch_shown (moves : List Move) (m : Move) (id : CallId)
    (result : Except Failure Reply) (f : Failure)
    (settles : m = .resume id ∨ ∃ a, m = .answer id a) (fetches : id.part ≠ .submission)
    (underWay : id ∈ ((initial config base token desktop).afterAll moves).client.labels)
    (ended : (id, result) ∈
      (((initial config base token desktop).afterAll moves).after m).client.ended)
    (failed : failure? id.part result = some f)
    (open' : ((initial config base token desktop).afterAll moves).page.problem ≠
      some .reportingSubmission) :
    let start := initial config base token desktop
    ((start.afterAll moves).after m).page.TellsOf f
        ((start.endpoint? id.part).bind Endpoint.authUrl) ∧
      ∀ more, (∀ before next later, more = before ++ next :: later → ∀ task,
          ¬ start.Recovers (moves ++ [m] ++ before) next task) →
        ∃ problem, (start.afterAll (moves ++ [m] ++ more)).page.view =
          ⟨false, none, some ((start.afterAll (moves ++ [m] ++ more)).page.dialogFor problem)⟩ := by
  intro start
  have orderly : start.Orderly := orderly_initial config base token desktop
  have told := told_after orderly.sound moves m settles fetches underWay ended failed open'
  refine ⟨told, fun more unrecovered => ?_⟩
  have shown : (start.afterAll (moves ++ [m] ++ more)).page.problem.isSome := by
    refine problem_until_recovery orderly (accounted_initial config base token desktop) rfl
      (moves ++ [m]) more ?_ unrecovered
    rw [afterAll_append]
    exact told.problem_ne.1
  obtain ⟨problem, known⟩ := Option.isSome_iff_exists.mp shown
  refine ⟨problem, ?_⟩
  unfold Page.view
  rw [known]

/-- The call that was overtaken fails, and nothing is shown but the dialog. -/
theorem overtaken_failure_shown :
    ∃ problem, (remote.afterAll (overtaken ++ [.answer ⟨0, .groups⟩ .missing])).page.view =
      ⟨false, none, some ((remote.afterAll
        (overtaken ++ [.answer ⟨0, .groups⟩ .missing])).page.dialogFor problem)⟩ := by
  have last : (((remote.afterAll overtaken).after
      (.answer ⟨0, .groups⟩ .missing)).client.ended.getLast?).any fun e =>
        e.1 = ⟨0, .groups⟩ && (failure? .groups e.2).isSome := by decide +kernel
  obtain ⟨⟨id, result⟩, ended, failed⟩ := (Option.any_eq_true _ _).mp last
  simp only [Bool.and_eq_true, decide_eq_true_eq] at failed
  obtain ⟨rfl, failed⟩ := failed
  obtain ⟨f, failed⟩ := Option.isSome_iff_exists.mp failed
  obtain ⟨-, shown⟩ := failed_fetch_shown remote.config remote.client.base remote.client.token
    remote.desktop overtaken (.answer ⟨0, .groups⟩ .missing) ⟨0, .groups⟩ result f
    (.inr ⟨.missing, rfl⟩) (by simp) (by decide +kernel) (List.mem_of_getLast? ended) failed
    (by decide +kernel)
  exact shown [] (by simp)

/-- A retry has fetched everything and taken the error away. A call of the round before fails after
that, and the error is back and the content is not shown any more. -/
theorem overtaken_failure_returns :
    (remote.afterAll overtaken).tasks[1]? = some (.recovering ⟨some true, some true⟩) ∧
      (remote.afterAll overtaken).page.view.iframeUrl = some "/book" ∧
      (remote.afterAll overtaken).page.problem = none ∧
      ((remote.afterAll overtaken).after (.answer ⟨0, .groups⟩ .missing)).page.problem =
        some .fetching ∧
      ((remote.afterAll overtaken).after (.answer ⟨0, .groups⟩ .missing)).page.view.iframeUrl =
        none := by
  decide +kernel

end Session

end CourseLaunch.Launch
