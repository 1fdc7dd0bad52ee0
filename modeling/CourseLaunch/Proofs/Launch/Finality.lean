import CourseLaunch.Proofs.Launch.Page
import CourseLaunch.Proofs.Launch.Submission
/-!
# A failed submission is final

Fetches and popups that were under way when the submission failed still come to an end, and each of
them writes to the page. None of that changes the error: the submission has ended and is not begun
again, failed fetches and successful retries respect the error, and there is no page for
authorization that the end of a popup could take away.
-/

namespace CourseLaunch.Launch
open Activity Backend Popup

namespace Session

variable {s t : Session}

/-- The submission has failed, and no submission is under way. -/
structure Final (s : Session) : Prop where
  page : s.page.Final
  submitted : s.isSubmitted
  finished : ∀ id ∈ s.client.labels, id.part ≠ .submission

/-! ### What becomes of a final error -/

theorem error_pageAfter {page : Page} (final : page.Final) (task : Nat) (part : Part) (ok : Bool) :
    (s.pageAfter task part ok page).error = page.error := by
  unfold pageAfter
  rw [Page.recover_of_problem final.problem, ite_self]

/-- The end of a fetch does not touch an error that is final. -/
theorem Settles.error {part : Part} {result : Except Failure Reply} {ok : Bool} {page : Page}
    {groups : Option (List String)} (h : s.Settles part result ok page groups)
    (final : s.page.Final) : page.error = s.page.error := by
  cases h with
  | content result url read => rfl
  | groups result groups read => rfl
  | failed part result failure failed =>
    simp only [Page.failFetch, Page.fail_of_problem final.problem, Page.error_endFetch]

/-- The end of a fetch respects a final error. -/
theorem Follows.error {id : CallId} {p : Progress CallId} (h : s.Follows id p t)
    (final : s.page.Final) (fetches : p.2.isSome → id.part ≠ .submission) :
    t.page.error = s.page.error := by
  cases h with
  | underWay c => rfl
  | fetched c result ok page groups isFetch settles =>
    have same : page.error = s.page.error := settles.error final
    exact (error_pageAfter (final.of_error same) id.task id.part ok).trans same
  | submitted c result page submits settles => exact absurd submits (fetches rfl)

/-- Steps respect a final error. -/
theorem Step.error (h : Step s t) (final : s.Final) : t.page.error = s.page.error := by
  have forbidden : ¬ s.page.problem.all Problem.allowsRetry := by
    simp [final.page.problem, Problem.allowsRetry]
  cases h with
  | skip task part fetches missing => exact error_pageAfter final.page task part true
  | fetch id e p t fetches endpoint busy new begins follows =>
    exact follows.error (final.page.of_error rfl) fun _ => fetches
  | advance id p t advances follows =>
    exact follows.error final.page fun ends => final.finished id (advances.known ends)
  | authorize task path t idle allowed page authorizes => exact absurd allowed forbidden
  | authorized task popup watching closed =>
    exact congrArg Page.error (Page.endAuthorization_of_final final.page)
  | _ => rfl

/-- No submission is under way again once there is none. -/
theorem Step.finished (h : Step s t) (finished : ∀ id ∈ s.client.labels, id.part ≠ .submission) :
    ∀ id ∈ t.client.labels, id.part ≠ .submission := by
  have client := h.client
  generalize t.client = c at client ⊢
  cases client with
  | same => exact finished
  | begins id e p fetches busy new begins =>
    intro id' known
    rcases begins.mem_labels id' known with old | rfl
    · exact finished id' old
    · exact fetches
  | advances id p advances => exact fun id' known => finished id' (advances.mem_labels id' known)

/-- A final error stays, and no submission is under way, after every step. -/
theorem Step.final (h : Step s t) (final : s.Final) : t.Final :=
  ⟨final.page.of_error (h.error final), h.isSubmitted ▸ final.submitted, h.finished final.finished⟩

/-- Acts respect a final error. There is no second submission. -/
theorem Act.final (h : Act s t) (final : s.Final) : t.Final ∧ t.page.error = s.page.error := by
  cases h with
  | step t step => exact ⟨step.final final, step.error final⟩
  | submit task grading p t reports graded first ready begins follows =>
    exact absurd final.submitted (by simp [first])
  | _ => exact ⟨⟨final.page, final.submitted, final.finished⟩, rfl⟩

/-- A final error is the same on the whole way. -/
theorem Acts.final (h : s.Acts t) (final : s.Final) : t.Final ∧ t.page.error = s.page.error := by
  induction h with
  | refl => exact ⟨final, rfl⟩
  | tail _ act ih => exact ⟨(act.final ih.1).1, (act.final ih.1).2.trans ih.2⟩

/-! ### How an error becomes final -/

theorem problem_pageAfter_ne {page : Page} (notYet : page.problem ≠ some .reportingSubmission)
    (task : Nat) (part : Part) (ok : Bool) :
    (s.pageAfter task part ok page).problem ≠ some .reportingSubmission := by
  unfold pageAfter
  split
  · exact Page.problem_recover_ne notYet
  · exact notYet

/-- The end of a fetch does not say that the submission failed. -/
theorem Settles.problem_ne {part : Part} {result : Except Failure Reply} {ok : Bool} {page : Page}
    {groups : Option (List String)} (h : s.Settles part result ok page groups)
    (notYet : s.page.problem ≠ some .reportingSubmission) :
    page.problem ≠ some .reportingSubmission := by
  cases h with
  | content result url read => exact notYet
  | groups result groups read => exact notYet
  | failed part result failure failed =>
    exact Page.problem_fail_ne (Problem.ofFailure_ne failure true) notYet _ _

/-- Only the end of a submission makes an error final. -/
theorem Follows.final {id : CallId} {p : Progress CallId} (h : s.Follows id p t)
    (notYet : s.page.problem ≠ some .reportingSubmission)
    (failed : t.page.problem = some .reportingSubmission) :
    id.part = .submission ∧ p.2.isSome ∧ t.page.Final := by
  cases h with
  | underWay c => exact absurd failed notYet
  | fetched c result ok page groups isFetch settles =>
    exact absurd failed (problem_pageAfter_ne (settles.problem_ne notYet) id.task id.part ok)
  | submitted c result page submits settles =>
    cases settles with
    | reported done => exact absurd failed notYet
    | failed failure failed => exact ⟨submits, rfl, Page.final_failSubmission _ failure⟩

/-- When a submission ends no other one is under way. -/
theorem over_of_ends {id : CallId} {p : Progress CallId} (sound : s.Sound)
    (once : s.submissions.length ≤ 1) (submits : id.part = .submission)
    (advances : s.client.Advances id p) (ends : p.2.isSome) :
    ∀ id' ∈ p.1.labels, id'.part ≠ .submission := by
  cases advances with
  | underWay => simp at ends
  | ends d result known begun ended accepted labels =>
    intro id' under submits'
    obtain ⟨under, other⟩ := List.mem_filter.mp (labels ▸ under)
    have begun : ∀ l ∈ s.client.labels, l.part = .submission → l ∈ s.submissions :=
      fun l under submits =>
        List.mem_filter.mpr ⟨sound.client.begun_of_label under, by simpa using submits⟩
    have first := begun id' under submits'
    have second := begun id known submits
    obtain ⟨only, one⟩ := List.length_eq_one_iff.mp
      (Nat.le_antisymm once (List.length_pos_of_mem first))
    rw [one, List.mem_singleton] at first second
    simp [first, second] at other

/-- When a step says that the submission failed, that is final. -/
theorem Step.becomesFinal (h : Step s t) (sound : s.Sound) (once : s.submissions.length ≤ 1)
    (notYet : s.page.problem ≠ some .reportingSubmission)
    (failed : t.page.problem = some .reportingSubmission) : t.Final := by
  cases h with
  | skip task part fetches missing =>
    exact absurd failed (problem_pageAfter_ne notYet task part true)
  | fetch id e p t fetches endpoint busy new begins follows =>
    exact absurd (follows.final notYet failed).1 fetches
  -- only the end of a submission says so, and then there is no other one
  | advance id p t advances follows =>
    obtain ⟨submits, ends, final⟩ := follows.final notYet failed
    have begun := sound.client.begun_of_label (advances.known ends)
    refine ⟨final, ?_, ?_⟩
    · rw [follows.isSubmitted, ← Bool.not_eq_false]
      exact fun first => sound.unsubmitted first id begun submits
    · rw [follows.client]
      exact over_of_ends sound once submits advances ends
  | authorize task path t idle allowed page authorizes =>
    cases authorizes with
    | unresolved fault named =>
      exact absurd failed (Page.problem_fail_ne (Problem.ofFailure_ne _ false)
        (by simp [Page.askAuthorization]) _ _)
    | opened q a b d d' popup named turns asked => simp [Page.askAuthorization] at failed
    | blocked q a b d d' named turns asked =>
      simp [Page.askAuthorization, Page.blockAuthorization] at failed
  | _ => exact absurd failed notYet

theorem Act.becomesFinal (h : Act s t) (sound : s.Sound) (once : s.submissions.length ≤ 1)
    (notYet : s.page.problem ≠ some .reportingSubmission)
    (failed : t.page.problem = some .reportingSubmission) : t.Final := by
  cases h with
  | step t step => exact step.becomesFinal sound once notYet failed
  | submit task grading p t reports graded first ready begins follows =>
    obtain ⟨-, ends, final⟩ := follows.final notYet failed
    refine ⟨final, follows.isSubmitted, ?_⟩
    rw [follows.client]
    cases begins with
    | underWay => simp at ends
    | refused d failure begun ended accepted labels =>
      intro id under
      rw [labels] at under
      exact sound.unsubmitted first id (sound.client.begun_of_label under)
  | _ => exact absurd failed notYet

/-- Whenever it is first said that the submission failed, that is final. -/
theorem Acts.becomesFinal (h : s.Acts t) (sound : s.Sound) (once : s.submissions.length ≤ 1)
    (notYet : s.page.problem ≠ some .reportingSubmission)
    (failed : t.page.problem = some .reportingSubmission) : t.Final := by
  induction h with
  | refl => exact absurd failed notYet
  | tail acts act ih =>
    rename_i u v
    -- the error became final before this act or by it
    by_cases before : u.page.problem = some .reportingSubmission
    · exact (act.final (ih before)).1
    · exact act.becomesFinal (Acts.sound acts sound) (Acts.submissions_length acts sound once)
        before failed

/-! ### Histories -/

/-- A retry does nothing when the error is final. -/
theorem retry_of_final (final : s.Final) : s.retry = s.add .abandoned := by
  have problem : (s.add .abandoned).page.problem = some .reportingSubmission := final.page.problem
  simp [retry, tryAgain, problem, Problem.allowsRetry]

end Session

end CourseLaunch.Launch
