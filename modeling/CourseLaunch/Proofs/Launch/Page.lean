import CourseLaunch.Launch.Page.Changes
/-!
# The error of a page

What a page tells of an error is its problem, the page for authorization and the report. The error
of a submission that failed is final: nothing that happens to a page afterwards changes it, except
that the user is asked to authorize, which is only done when a retry is allowed.
-/

namespace CourseLaunch.Launch
open Backend

/-- The server explains a failure: it names the code of the problem. -/
def ServerProblem.Explains (problem : ServerProblem) (f : Failure) : Prop :=
  f.report.errorCode = some problem.code

namespace Problem

/-- A code that the server explains counts, whatever the user can do. -/
theorem ofFailure_explained {f : Failure} {problem : ServerProblem} (named : problem.Explains f)
    (canAuthorize : Bool) : ofFailure f canAuthorize = .server problem := by
  simp [ofFailure, ServerProblem.bind_ofCode?_eq_some_iff.mpr named]

/-- Without a code that is known, it depends on the refusal whether the user has to authorize. -/
theorem ofFailure_unexplained {f : Failure}
    (unnamed : ∀ problem : ServerProblem, ¬ problem.Explains f) (canAuthorize : Bool) :
    ofFailure f canAuthorize =
      if canAuthorize && f.needsAuthorization then .authorizing else .fetching := by
  simp [ofFailure, ServerProblem.bind_ofCode?_eq_none_iff.mpr unnamed]

end Problem

/-- A fetch that failed is no submission that failed. -/
theorem Problem.ofFailure_ne (f : Failure) (canAuthorize : Bool) :
    Problem.ofFailure f canAuthorize ≠ .reportingSubmission := by
  unfold Problem.ofFailure
  split
  · simp
  · split <;> simp

namespace Page

/-- What a page tells of an error. -/
def error (p : Page) : Option Problem × Option String × Option Report :=
  (p.problem, p.authorizationUrl, p.lastError)

/-- A submission has failed. -/
structure Final (p : Page) : Prop where
  problem : p.problem = some .reportingSubmission
  authorizationUrl : p.authorizationUrl = none

variable {p : Page}

@[simp] theorem error_endFetch (p : Page) : p.endFetch.error = p.error := rfl

theorem final_failSubmission (p : Page) (f : Failure) : (p.failSubmission f).Final := ⟨rfl, rfl⟩

theorem Final.of_error {q : Page} (final : p.Final) (same : q.error = p.error) : q.Final := by
  simp only [error, Prod.mk.injEq] at same
  exact ⟨same.1.trans final.problem, same.2.1.trans final.authorizationUrl⟩

/-- A failed fetch does not replace a final error. -/
theorem fail_of_problem (final : p.problem = some .reportingSubmission) (problem : Problem)
    (report : Report) (authorizationUrl : Option String) :
    p.fail problem report authorizationUrl = p := by
  unfold fail
  rw [if_pos final]

/-- A retry that was successful does not take a final error away. -/
theorem recover_of_problem (final : p.problem = some .reportingSubmission) : p.recover = p := by
  unfold recover
  rw [if_pos final]

theorem endAuthorization_of_final (final : p.Final) : p.endAuthorization = p := by
  unfold endAuthorization
  rw [← final.authorizationUrl]

/-- A failure that was no submission leaves no final error behind. -/
theorem problem_fail_ne {problem : Problem} (other : problem ≠ .reportingSubmission)
    (open' : p.problem ≠ some .reportingSubmission) (report : Report)
    (authorizationUrl : Option String) :
    (p.fail problem report authorizationUrl).problem ≠ some .reportingSubmission := by
  unfold fail
  rw [if_neg open']
  simpa using other

theorem problem_recover_ne (open' : p.problem ≠ some .reportingSubmission) :
    p.recover.problem ≠ some .reportingSubmission := by
  unfold recover
  rw [if_neg open']
  simp

/-- A page with a final error shows nothing but a dialog without a way on. -/
theorem view_of_final (final : p.Final) :
    p.view = ⟨false, none, some ⟨.reportingSubmission, p.lastError, none⟩⟩ := by
  simp [view, final.problem, dialogFor, Problem.allowsRetry]

end Page

end CourseLaunch.Launch
