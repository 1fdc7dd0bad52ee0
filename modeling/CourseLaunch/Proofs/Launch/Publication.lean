import CourseLaunch.Proofs.Launch.Published
/-!
# What a session shows while it goes on

Nearly all changes of a page leave an error where it is, or put another one in its place; only the
recovery at the end of a retry takes an error away, and nothing takes away or replaces the error of
a submission that failed. That is a fact about one page and the next, so it holds of all pages that
a move publishes, also in the middle of the move.
-/

namespace CourseLaunch.Launch
open Activity Backend Popup

namespace Page

variable {p q r : Page} {pages : List Page}

theorem Path.pair {R : Page → Page → Prop} (h : p.Path R pages q) {before later : List Page}
    {x y : Page} (split : p :: pages = before ++ x :: y :: later) : R x y := by
  have chain := h.chain
  rw [split, List.isChain_append_cons_cons] at chain
  exact chain.2.1

/-! ### Errors stay -/

/-- A failure always leaves an error: its own, or the final one. -/
theorem isSome_problem_fail (p : Page) (problem : Problem) (report : Report)
    (authorizationUrl : Option String) :
    (p.fail problem report authorizationUrl).problem.isSome := by
  unfold fail
  split
  case isTrue final => simp [final]
  case isFalse => rfl

/-- No change takes away an error, the recovery of a retry apart. -/
theorem Alters.problem (h : p.Alters q) (shown : p.problem.isSome) : q.problem.isSome := by
  cases h with
  | failFetch f authorizationUrl => exact isSome_problem_fail p _ _ _
  | failAuthorization f => exact isSome_problem_fail p _ _ _
  | failSubmission f first => rfl
  | askAuthorization allowed => rfl
  | _ => exact shown

theorem Path.problem (h : p.Path Alters pages q) (shown : p.problem.isSome) :
    ∀ x ∈ p :: pages, x.problem.isSome := h.keeps (fun _ _ alters => alters.problem) shown

/-- A recovery that takes an error away respects a final one and forgets the report. -/
theorem recover_clears (cleared : p.recover.problem = none) :
    p.problem ≠ some .reportingSubmission ∧ p.recover.lastError = none := by
  unfold recover at *
  split
  case isTrue final => simp [final] at cleared
  case isFalse open' => exact ⟨open', rfl⟩

/-! ### Final errors -/

/-- Nothing that happens to a page changes a final error. -/
theorem Publishes.error (h : p.Publishes q) (final : p.Final) : q.error = p.error := by
  cases h with
  | recover => rw [recover_of_problem final.problem]
  | change q alters =>
    cases alters with
    | failFetch f authorizationUrl =>
      exact congrArg error (fail_of_problem final.problem _ _ _)
    | failAuthorization f => exact congrArg error (fail_of_problem final.problem _ _ _)
    | failSubmission f first => exact absurd final.problem first
    | askAuthorization allowed => simp [final.problem, Problem.allowsRetry] at allowed
    | blockAuthorization message asked => simp [final.problem] at asked
    | endAuthorization => exact congrArg error (endAuthorization_of_final final)
    | _ => rfl

/-- The error of a submission is final from the page on that tells it first. -/
theorem Publishes.final (h : p.Publishes q)
    (final : p.problem = some .reportingSubmission → p.Final)
    (failed : q.problem = some .reportingSubmission) : q.Final := by
  by_cases before : p.problem = some .reportingSubmission
  case pos => exact (final before).of_error (h.error (final before))
  case neg =>
    cases h with
    | recover => exact absurd failed (problem_recover_ne before)
    | change q alters =>
      cases alters with
      | failFetch f authorizationUrl =>
        exact absurd failed (problem_fail_ne (Problem.ofFailure_ne f true) before _ _)
      | failAuthorization f =>
        exact absurd failed (problem_fail_ne (Problem.ofFailure_ne f false) before _ _)
      | failSubmission f first => exact final_failSubmission p f
      | askAuthorization allowed => cases failed
      | _ => exact absurd failed before

/-- Once it is published that the submission failed, that is all that is ever told. -/
theorem Path.final (h : p.Path Publishes pages q)
    (final : p.problem = some .reportingSubmission → p.Final) :
    ∀ x ∈ p :: pages, x.problem = some .reportingSubmission → x.Final :=
  h.keeps (fun _ _ publishes => publishes.final) final

/-- All pages that follow a final error tell the same. -/
theorem Path.error (h : p.Path Publishes pages q) (final : p.Final) :
    ∀ x ∈ p :: pages, x.error = p.error :=
  h.keeps (fun _ _ publishes same => (publishes.error (final.of_error same)).trans same) rfl

end Page

namespace Session

variable {s t : Session}

/-- A move publishes one change after the other, and leaves the last page behind. -/
theorem Orderly.published (orderly : s.Orderly) (m : Move) :
    s.page.Path Page.Publishes (s.published m) (s.after m).page := by
  rcases after_unfolds orderly m with path | ⟨task, before, p, recovery⟩
  · exact path.mono fun _ => .change
  · rw [recovery.published, recovery.recovered]
    exact (recovery.path.mono fun _ => .change).append (.single .recover)

variable (config : Config) (base : Web.Url) (token : String) (desktop : Desktop)

/-- On all pages that are published the error of a submission is followed by the same error. So once
a submission has failed every page shows a dialog that offers nothing, and a retry does nothing but
give up. -/
theorem failed_submission_final (moves : List Move) :
    let start := initial config base token desktop
    let s := start.afterAll moves
    (∀ m before p q later, s.page :: s.published m = before ++ p :: q :: later →
        p.problem = some .reportingSubmission → q.error = p.error) ∧
      (s.page.problem = some .reportingSubmission → ∀ more,
        let t := start.afterAll (moves ++ more)
        (∀ m, ∀ p ∈ t.page :: t.published m,
          p.problem = some .reportingSubmission ∧ p.lastError = s.page.lastError ∧
            p.authorizationUrl = s.page.authorizationUrl ∧ p.view.iframeUrl = none ∧
            p.view.dialog.any (fun d => d.action.isNone)) ∧
          t.retry = t.add .abandoned ∧ t.retry.isRunning t.nextTask = false) := by
  intro start s
  have orderly : s.Orderly := (orderly_initial config base token desktop).afterAll moves
  refine ⟨fun m before p q later split failed => ?_, fun failed more => ?_⟩
  · have path := orderly.published m
    exact (path.pair split).error
      (path.final (fun failed => (orderly.final failed).page) p (by simp [split]) failed)
  · intro t
    have acts : s.Acts t := by
      show s.Acts (start.afterAll (moves ++ more))
      rw [afterAll_append]
      exact acts_afterAll orderly.sound more
    -- final from here on, so every page of every later move tells the same
    obtain ⟨final, same⟩ := acts.final (orderly.final failed)
    refine ⟨fun m p known => ?_, retry_of_final final, ?_⟩
    · have error : p.error = t.page.error :=
        ((orderly.acts acts).published m).error final.page p known
      have shown := Page.view_of_final (final.page.of_error error)
      have fields := error.trans same
      simp only [Page.error, Prod.mk.injEq] at fields
      exact ⟨fields.1.trans failed, fields.2.2, fields.2.1, by rw [shown], by rw [shown]; rfl⟩
    · rw [retry_of_final final]
      unfold isRunning
      rw [found_add]
      rfl

/-- A submission that nobody answers. -/
def unanswered : List Move := [.reportSubmission, .answer ⟨0, .submission⟩ .missing]

/-- The submission fails, and no retry helps. The groups that are fetched afterwards fail too, and
neither of the pages that are published then tells of that. -/
theorem unanswered_submission_final :
    let pages := ((sample false).afterAll (unanswered ++ [.fetchAll, .retry])).published
      (.answer ⟨1, .groups⟩ .missing)
    ((sample false).afterAll unanswered).page.problem = some .reportingSubmission ∧
      pages.length = 2 ∧ ∀ p ∈ pages,
        p.problem = some .reportingSubmission ∧ p.view.dialog.any fun d => d.action.isNone := by
  intro pages
  have failed : ((sample false).afterAll unanswered).page.problem = some .reportingSubmission := by
    decide +kernel
  have two : pages.length = 2 := by decide +kernel
  obtain ⟨-, final⟩ := failed_submission_final (sample false).config (sample false).client.base
    (sample false).client.token (sample false).desktop unanswered
  obtain ⟨shown, -⟩ := final failed [.fetchAll, .retry]
  refine ⟨failed, two, fun p known => ?_⟩
  obtain ⟨problem, -, -, -, noAction⟩ := shown (.answer ⟨1, .groups⟩ .missing) p
    (List.mem_cons_of_mem _ known)
  exact ⟨problem, noAction⟩

end Session

end CourseLaunch.Launch
