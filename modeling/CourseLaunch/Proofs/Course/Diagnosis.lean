import CourseLaunch.Proofs.Course.Navigation
import CourseLaunch.Proofs.Launch.Superseded
/-!
# One rule for a missing authorization

Whether the user has to authorize is read off a failure, off its report and off the body that a
refusal was made of. All three agree, and a browser and a launch take the same failures for a
missing authorization.
-/

namespace CourseLaunch.Backend

/-- A body has a text that is not empty in one of its fields. -/
def Says (body : Json) (name : String) : Prop :=
  ∃ text, body.field? name = some (.string text) ∧ text ≠ ""

namespace Refusal

theorem textField_eq_some {name text : String} {body : Json} :
    textField name body = some text ↔ body.field? name = some (.string text) := by
  unfold textField
  cases body.field? name with
  | none => simp
  | some j => cases j <;> simp [Json.string?]

/-- A field whose text is empty is as good as one that is missing. -/
theorem isEmpty_textField (name : String) (body : Json) :
    ((textField name body).getD "").isEmpty ↔ ¬ Says body name := by
  cases known : textField name body with
  | none =>
    refine iff_of_true rfl ?_
    rintro ⟨text, field, -⟩
    simp [textField_eq_some.mpr field] at known
  | some text =>
    rw [Says, textField_eq_some.mp known]
    simp

theorem isNone_filter (name : String) (body : Json) :
    ((textField name body).filter fun text => !text.isEmpty).isNone =
      ((textField name body).getD "").isEmpty := by
  cases textField name body with
  | none => rfl
  | some text => cases empty : text.isEmpty <;> simp [Option.filter, empty]

/-- What counts in a body is whether it names a code or a message. -/
theorem needsAuthorization_ofBody (path : String) (status : Nat) (body : Json) :
    (ofBody path status body).needsAuthorization ↔
      ¬ Says body "error_code" ∧ ¬ Says body "message" := by
  rw [← isEmpty_textField, ← isEmpty_textField, ← isNone_filter, ← Bool.and_eq_true]
  rfl

theorem report_needsAuthorization (r : Refusal) :
    r.report.needsAuthorization = r.needsAuthorization := by
  unfold report Report.needsAuthorization needsAuthorization
  cases empty : r.serverMessage.isEmpty <;> simp [empty]

end Refusal

namespace Failure

theorem report_needsAuthorization (f : Failure) :
    f.report.needsAuthorization = f.needsAuthorization := by
  cases f with
  | refused refusal => exact refusal.report_needsAuthorization
  | interrupted _ _ | malformed _ _ | unresolved _ _ => rfl

/-- A failure that names a code is no missing authorization. -/
theorem needsAuthorization_of_code {f : Failure} {code : String}
    (named : f.report.errorCode = some code) : f.needsAuthorization = false := by
  rw [← report_needsAuthorization, Report.needsAuthorization, named]
  simp

end Failure

end CourseLaunch.Backend

namespace CourseLaunch.Launch
open Backend

/-- A fetch of a launch fails. -/
inductive Session.Fails (s : Session) (f : Failure) : Session → Prop where
  | fetch (id : CallId) (client : Client CallId) (result : Except Failure Reply)
      (fetches : id.part ≠ .submission) (failed : Session.failure? id.part result = some f) :
      Fails s f (s.follow id (client, some result))

/-- A launch takes a failure for a missing authorization by the rule that holds for all. -/
theorem Problem.ofFailure_eq_authorizing (f : Failure) :
    Problem.ofFailure f true = .authorizing ↔ f.needsAuthorization := by
  by_cases named : ∃ problem : ServerProblem, problem.Explains f
  case pos =>
    obtain ⟨problem, named⟩ := named
    simp [ofFailure_explained named, Failure.needsAuthorization_of_code named]
  case neg =>
    rw [not_exists] at named
    cases needs : f.needsAuthorization <;> simp [ofFailure_unexplained named, needs]

/-- After a failed fetch the page tells what the failure is taken for. -/
theorem Session.Fails.problem {s t : Session} {f : Failure} (fails : s.Fails f t)
    (open' : s.page.problem ≠ some .reportingSubmission) :
    t.page.problem = some (.ofFailure f true) := by
  obtain ⟨id, client, result, fetches, failed⟩ := fails
  have told := (Session.follow_follows s id (client, some result)).told fetches rfl failed open'
  exact told.problem_ofFailure

end CourseLaunch.Launch

namespace CourseLaunch.Course
open Backend

/-- The listing that a browser asked for last fails. -/
inductive Browser.Fails (b : Browser) (f : Failure) : Browser → Prop where
  | listing (task : Nat) (isReload : Bool) (client : Client Nat) (result : Except Failure Reply)
      (waits : b.phase? task = some (.listing b.lastListing isReload))
      (failed : result.bind (fun r => r.decode (.list Entry.codec)) = .error f) :
      Fails b f (b.follow task (client, some result))

/-- A browser takes a failure for a missing authorization by the same rule. -/
theorem Browser.isAuthorizing_statusOf (isReload : Bool) (f : Failure) :
    (Browser.statusOf isReload (.error f)).isAuthorizing = f.needsAuthorization := by
  cases needs : f.needsAuthorization <;> simp [statusOf, needs, Status.isAuthorizing]

/-- A browser asks to authorize only if its listing was refused in that way. -/
theorem Browser.Fails.isAuthorizing {b c : Browser} {f : Failure} (fails : b.Fails f c) :
    c.status.isAuthorizing = f.needsAuthorization := by
  obtain ⟨task, isReload, client, result, waits, failed⟩ := fails
  rw [(follow_ended waits result).status, if_pos rfl, failed, isAuthorizing_statusOf]

/-- How a failure is told apart, wherever that is done. -/
structure Diagnosed (f : Failure) : Prop where
  /-- Only a refusal that names neither a code nor a message asks for authorization. -/
  refusal : f.needsAuthorization ↔
    ∃ refusal, f = .refused refusal ∧ refusal.errorCode = none ∧ refusal.serverMessage = ""
  /-- A refusal that was made of a body asks for authorization if the body names neither. -/
  body (path : String) (status : Nat) (body : Json)
    (made : f = .refused (.ofBody path status body)) :
    f.needsAuthorization ↔ ¬ Says body "error_code" ∧ ¬ Says body "message"
  /-- The report of a failure says the same as the failure. -/
  report : f.report.needsAuthorization = f.needsAuthorization
  /-- A code that the server explains is no missing authorization. -/
  explained (problem : Launch.ServerProblem) (named : problem.Explains f) :
    f.needsAuthorization = false ∧ Launch.Problem.ofFailure f true = .server problem
  /-- A listing and a fetch for which it is the end take it for the same. -/
  outcome (isReload : Bool) : (Browser.statusOf isReload (.error f)).isAuthorizing ↔
    Launch.Problem.ofFailure f true = .authorizing
  /-- After it a browser and a launch show the same. -/
  shown (b c : Browser) (s t : Launch.Session) (lists : b.Fails f c) (fetches : s.Fails f t)
    (open' : s.page.problem ≠ some .reportingSubmission) :
    (c.status.isAuthorizing ↔ t.page.problem = some .authorizing) ∧
      (c.status.isAuthorizing ↔ f.needsAuthorization)

/-- Every failure is told apart by one rule. -/
theorem failure_diagnosed (f : Failure) : Diagnosed f where
  refusal := by
    cases f with
    | refused refusal => simp [Failure.needsAuthorization, Failure.refusal?,
        Refusal.needsAuthorization]
    | interrupted _ _ | malformed _ _ | unresolved _ _ =>
      simp [Failure.needsAuthorization, Failure.refusal?]
  body path status body made := by
    rw [made]
    exact Refusal.needsAuthorization_ofBody path status body
  report := f.report_needsAuthorization
  explained problem named :=
    ⟨Failure.needsAuthorization_of_code named, Launch.Problem.ofFailure_explained named true⟩
  outcome isReload := by
    rw [Browser.isAuthorizing_statusOf, Launch.Problem.ofFailure_eq_authorizing]
  shown b c s t lists fetches open' := by
    rw [lists.isAuthorizing, fetches.problem open', Option.some_inj,
      Launch.Problem.ofFailure_eq_authorizing]
    exact ⟨Iff.rfl, Iff.rfl⟩

/-- The refusal of a listing with nothing in its body but a code that is no text. -/
def unnamedRefusal : Failure :=
  .refused (.ofBody "/files" 500 (.object [("error_code", .number (.int 42))]))

/-- A browser and a launch that receive the same refusal both ask the user to authorize. -/
theorem unnamed_refusal_diagnosed :
    let b := Browser.sample.load
    let s := (Launch.Session.sample false).fetchAll
    (b.follow 0 (b.client, some (.error unnamedRefusal))).status.isAuthorizing ∧
      (s.follow ⟨0, .groups⟩ (s.client, some (.error unnamedRefusal))).page.problem =
        some .authorizing := by
  intro b s
  have diagnosed := failure_diagnosed unnamedRefusal
  have lists : b.Fails unnamedRefusal (b.follow 0 (b.client, some (.error unnamedRefusal))) :=
    .listing 0 false b.client _ (by decide +kernel) rfl
  have fetches : s.Fails unnamedRefusal
      (s.follow ⟨0, .groups⟩ (s.client, some (.error unnamedRefusal))) :=
    .fetch ⟨0, .groups⟩ s.client _ (by simp) rfl
  obtain ⟨same, needs⟩ := diagnosed.shown b _ s _ lists fetches (by decide +kernel)
  have unnamed : ¬ Says (.object [("error_code", .number (.int 42))]) "error_code" ∧
      ¬ Says (.object [("error_code", .number (.int 42))]) "message" := by
    constructor <;> rintro ⟨text, field, -⟩ <;> cases field
  have authorizes := needs.mpr ((diagnosed.body "/files" 500 _ rfl).mpr unnamed)
  exact ⟨authorizes, same.mp authorizes⟩

end CourseLaunch.Course
