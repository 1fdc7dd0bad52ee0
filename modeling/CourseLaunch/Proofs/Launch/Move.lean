import CourseLaunch.Launch.Session
import Mathlib.Data.List.Induction
/-!
# Histories of a launch

A history is a list of moves. A move starts a task, lets a task go on, or comes from outside: an
answer, annotation activity, the user. Tasks may go on in any order and whenever they like, and a
move that is not possible changes nothing, so every list of moves is a history.
-/

namespace CourseLaunch.Launch
open Activity Backend Popup

/-- Something that happens to a session. A reporter that goes on may stop at any wait, also at one
that would be over at once, so it is told how often it may receive. -/
inductive Move where
  | fetchAll
  | retry
  | reportSubmission
  | run
  | answer (id : CallId) (a : Answer)
  | resume (id : CallId)
  | report (task patience : Nat)
  | look (task : Nat)
  | close
  | publish (e : Event)
  | endActivity
  | dismiss (popup : Nat)
  | block (blocked : Bool)

namespace Move

/-- The task that a move starts. -/
def task? : Move → Option Task
  | fetchAll => some (.fetching .begun)
  | retry => some .abandoned
  | reportSubmission => some (.reporting .starting)
  | run => some (.running .begun .starting)
  | _ => none

def starts (m : Move) : Bool := m.task?.isSome

/-- Whether a move starts a report of the submission. -/
def reports (m : Move) : Bool := (m.task?.bind Task.reporter?).isSome

/-- A report that was just started has not gone on. -/
theorem reporter?_of_task? {m : Move} {task : Task} (h : m.task? = some task) {r : Reporter}
    (reports : task.reporter? = some r) : r = .starting := by
  cases m <;> simp only [task?, Option.some.injEq, reduceCtorEq] at h <;> subst h <;>
    simp_all [Task.reporter?]

end Move

namespace Session

/-- The session after a move. -/
def after (s : Session) : Move → Session
  | .fetchAll => s.fetchAll
  | .retry => s.retry
  | .reportSubmission => s.reportSubmission
  | .run => s.run
  | .answer id a => s.answer id a
  | .resume id => s.resume id
  | .report task patience => s.reportFor task patience
  | .look task => s.look task
  | .close => s.close
  | .publish e => { s with channel := (s.channel.publish e).2 }
  | .endActivity => { s with channel := s.channel.close }
  | .dismiss popup => { s with desktop := s.desktop.userCloses popup }
  | .block blocked => { s with desktop := s.desktop.block blocked }

/-- The session when the task of a move was added, if it starts one. -/
def opened (s : Session) (m : Move) : Session :=
  match m.task? with
  | some task => s.add task
  | none => s

def afterAll (s : Session) (moves : List Move) : Session := moves.foldl after s

/-- The session of a configuration before anything was started. -/
def initial (config : Config) (base : Web.Url) (token : String) (desktop : Desktop) : Session :=
  ofConfig config (.fresh base token) desktop

/-- A launch on the local machine, with known content, groups and a submission. -/
def sample (deferred : Bool) : Session :=
  initial ⟨⟨"token", none, some (.ofPath "/groups")⟩, none, some "content",
      some ⟨submissionPath, .null, deferred⟩, []⟩
    ⟨"http", some ⟨"", "", .named "localhost", none⟩, .rooted [""], none, none⟩ "token"
    (.empty ⟨0, 0, 800, 600⟩)

/-- A launch on the local machine whose content and groups have pages of their own on which the
user may authorize. -/
def apart : Session :=
  initial ⟨⟨"token", some ⟨"/content", some "/login", none⟩, some ⟨"/groups", some "/join", none⟩⟩,
      none, none, none, []⟩
    (sample false).client.base "token" (.empty ⟨0, 0, 800, 600⟩)

@[simp] theorem afterAll_nil (s : Session) : s.afterAll [] = s := rfl

@[simp] theorem afterAll_cons (s : Session) (m : Move) (moves : List Move) :
    s.afterAll (m :: moves) = (s.after m).afterAll moves := rfl

@[simp] theorem afterAll_append (s : Session) (moves more : List Move) :
    s.afterAll (moves ++ more) = (s.afterAll moves).afterAll more := List.foldl_append

/-- What holds of a session and is kept by every move holds after every history. -/
theorem afterAll_induction {P : Session → Prop} {s : Session} (start : P s)
    (move : ∀ t m, P t → P (t.after m)) (moves : List Move) : P (s.afterAll moves) := by
  induction moves using List.reverseRecOn with
  | nil => exact start
  | append_singleton moves m ih =>
    rw [afterAll_append]
    exact move _ m ih

end Session

end CourseLaunch.Launch
