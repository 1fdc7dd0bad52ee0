/-!
# Launch problems

Why a launch shows an error instead of the content. The server has a code for each problem that
it can explain; some of them only someone else can solve, and then there is no point in trying
again.
-/

namespace CourseLaunch.Launch

/-- A problem that the server can explain. -/
inductive ServerProblem where
  | blackboardFileNotFoundInCourse
  | blackboardGroupSetEmpty
  | blackboardGroupSetNotFound
  | blackboardStudentNotInGroup
  | canvasApiPermissionError
  | canvasFileNotFoundInCourse
  | canvasPageNotFoundInCourse
  | canvasGroupSetEmpty
  | canvasGroupSetNotFound
  | canvasStudentNotInGroup
  | d2lFileNotFoundInCourseInstructor
  | d2lFileNotFoundInCourseStudent
  | d2lGroupSetEmpty
  | d2lGroupSetNotFound
  | d2lStudentNotInGroup
  | moodleFileNotFoundInCourse
  | moodlePageNotFoundInCourse
  | moodleGroupSetEmpty
  | moodleGroupSetNotFound
  | moodleStudentNotInGroup
  | vitalsourceUserNotFound
  | vitalsourceNoBookLicense
deriving DecidableEq, Repr

namespace ServerProblem

/-- All problems that the server can explain. -/
def all : List ServerProblem := [
  blackboardFileNotFoundInCourse, blackboardGroupSetEmpty, blackboardGroupSetNotFound,
  blackboardStudentNotInGroup, canvasApiPermissionError, canvasFileNotFoundInCourse,
  canvasPageNotFoundInCourse, canvasGroupSetEmpty, canvasGroupSetNotFound,
  canvasStudentNotInGroup, d2lFileNotFoundInCourseInstructor, d2lFileNotFoundInCourseStudent,
  d2lGroupSetEmpty, d2lGroupSetNotFound, d2lStudentNotInGroup, moodleFileNotFoundInCourse,
  moodlePageNotFoundInCourse, moodleGroupSetEmpty, moodleGroupSetNotFound,
  moodleStudentNotInGroup, vitalsourceUserNotFound, vitalsourceNoBookLicense]

/-- The code of a problem. -/
def code : ServerProblem → String
  | blackboardFileNotFoundInCourse => "blackboard_file_not_found_in_course"
  | blackboardGroupSetEmpty => "blackboard_group_set_empty"
  | blackboardGroupSetNotFound => "blackboard_group_set_not_found"
  | blackboardStudentNotInGroup => "blackboard_student_not_in_group"
  | canvasApiPermissionError => "canvas_api_permission_error"
  | canvasFileNotFoundInCourse => "canvas_file_not_found_in_course"
  | canvasPageNotFoundInCourse => "canvas_page_not_found_in_course"
  | canvasGroupSetEmpty => "canvas_group_set_empty"
  | canvasGroupSetNotFound => "canvas_group_set_not_found"
  | canvasStudentNotInGroup => "canvas_student_not_in_group"
  | d2lFileNotFoundInCourseInstructor => "d2l_file_not_found_in_course_instructor"
  | d2lFileNotFoundInCourseStudent => "d2l_file_not_found_in_course_student"
  | d2lGroupSetEmpty => "d2l_group_set_empty"
  | d2lGroupSetNotFound => "d2l_group_set_not_found"
  | d2lStudentNotInGroup => "d2l_student_not_in_group"
  | moodleFileNotFoundInCourse => "moodle_file_not_found_in_course"
  | moodlePageNotFoundInCourse => "moodle_page_not_found_in_course"
  | moodleGroupSetEmpty => "moodle_group_set_empty"
  | moodleGroupSetNotFound => "moodle_group_set_not_found"
  | moodleStudentNotInGroup => "moodle_student_not_in_group"
  | vitalsourceUserNotFound => "vitalsource_user_not_found"
  | vitalsourceNoBookLicense => "vitalsource_no_book_license"

/-- The problem with the given code. -/
def ofCode? (code : String) : Option ServerProblem := all.find? fun p => p.code = code

theorem mem_all (p : ServerProblem) : p ∈ all := by
  cases p <;> decide

/-- No two problems have the same code. -/
theorem ofCode?_code (p : ServerProblem) : ofCode? p.code = some p := by
  cases p <;> rfl

theorem ofCode?_eq_some_iff {code : String} {p : ServerProblem} :
    ofCode? code = some p ↔ p ∈ all ∧ p.code = code := by
  constructor
  · intro found
    exact ⟨p.mem_all, by simpa using List.find?_some found⟩
  · rintro ⟨-, rfl⟩
    exact p.ofCode?_code

theorem bind_ofCode?_eq_some_iff {code : Option String} {p : ServerProblem} :
    code.bind ofCode? = some p ↔ code = some p.code := by
  rw [Option.bind_eq_some_iff]
  constructor
  · rintro ⟨code, rfl, found⟩
    rw [(ofCode?_eq_some_iff.mp found).2]
  · rintro rfl
    exact ⟨p.code, rfl, p.ofCode?_code⟩

theorem bind_ofCode?_eq_none_iff {code : Option String} :
    code.bind ofCode? = none ↔ ∀ p : ServerProblem, code ≠ some p.code := by
  simp only [Option.eq_none_iff_forall_ne_some, ne_eq, bind_ofCode?_eq_some_iff]

/-- Whether trying again may help. -/
def allowsRetry : ServerProblem → Bool
  | blackboardGroupSetEmpty | blackboardGroupSetNotFound | blackboardStudentNotInGroup
  | canvasGroupSetEmpty | canvasGroupSetNotFound | canvasStudentNotInGroup
  | d2lFileNotFoundInCourseStudent | d2lGroupSetEmpty | d2lGroupSetNotFound
  | d2lStudentNotInGroup | moodleGroupSetEmpty | moodleGroupSetNotFound
  | moodleStudentNotInGroup | vitalsourceNoBookLicense => false
  | _ => true

end ServerProblem

/-- Why a launch shows an error instead of the content. -/
inductive Problem where
  | authorizing
  | fetching
  | reportingSubmission
  | server (problem : ServerProblem)
deriving DecidableEq, Repr

namespace Problem

/-- The code of a problem. -/
def code : Problem → String
  | authorizing => "error-authorizing"
  | fetching => "error-fetching"
  | reportingSubmission => "error-reporting-submission"
  | server problem => problem.code

/-- The problem with the given code. -/
def ofCode? (code : String) : Option Problem :=
  ([authorizing, fetching, reportingSubmission] ++ ServerProblem.all.map server).find? fun p =>
    p.code = code

/-- Whether trying again may help. -/
def allowsRetry : Problem → Bool
  | authorizing | fetching => true
  | reportingSubmission => false
  | server problem => problem.allowsRetry

theorem all_allowsRetry {problem : Option Problem}
    (allowed : ¬ problem.any fun problem => !problem.allowsRetry) : problem.all allowsRetry := by
  cases problem with
  | none => rfl
  | some problem => simpa using allowed

end Problem

end CourseLaunch.Launch
