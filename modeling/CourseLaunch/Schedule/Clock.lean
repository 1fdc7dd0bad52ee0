import CourseLaunch.Schedule.Tasks
/-!
# Looking at popups by the clock

A task that waits for a popup looks at it at once and then at regular times. A look that comes more
than five milliseconds late puts off the following ones; a look that is less late does not.
-/

namespace CourseLaunch.Schedule

/-- A clock, and the time at which each waiting task looks at its popup. Times are in
milliseconds. -/
structure Clock where
  now : Nat
  period : Nat
  looks : List (Nat × Nat)
deriving Repr

namespace Clock

/-- How late a look may be without putting off the following ones. -/
def tolerance : Nat := 5

/-- A clock that starts. -/
def start (period : Nat) : Clock := ⟨0, period, []⟩

/-- When a task looks again that was due at some time and looks now. A look that is only a little
late may be followed by others that are due already. -/
def following (c : Clock) (due : Nat) : Nat :=
  if c.now - due ≤ tolerance then due + c.period * ((c.now - due) / c.period + 1)
  else c.now + c.period

variable {σ : Type} [Tasks σ]

/-- Plans the looks of tasks that have begun to wait, and forgets those of tasks that wait no
more. -/
def plan (c : Clock) (state : σ) : Clock :=
  let waiting := (List.range (Tasks.count state)).filter fun task =>
    (Tasks.watched? state task).isSome
  { c with looks := waiting.map fun task =>
      (task, (c.looks.lookup task).getD (c.now + c.period)) }

/-- Lets time pass, and gives the tasks that look at their popups now. -/
def advance (c : Clock) (span : Nat) : List Nat × Clock :=
  let c := { c with now := c.now + span }
  let isDue (look : Nat × Nat) := look.2 ≤ c.now
  ((c.looks.filter isDue).map Prod.fst,
    { c with looks := c.looks.map fun look =>
        if isDue look then (look.1, c.following look.2) else look })

end Clock

/-- A system of tasks with a clock and a network that is down. -/
structure Rehearsal (σ : Type) where
  scene : Scene σ
  clock : Clock

namespace Rehearsal

variable {σ : Type} [Tasks σ]

/-- A system in its first state. -/
def start (state : σ) (period : Nat) : Rehearsal σ := ⟨⟨state, 0⟩, .start period⟩

def state (r : Rehearsal σ) : σ := r.scene.state

/-- Lets every task go on as far as it can. -/
def settle (r : Rehearsal σ) : Rehearsal σ :=
  let scene := r.scene.settle .down
  ⟨scene, r.clock.plan scene.state⟩

/-- Something happens to the system. -/
def change (r : Rehearsal σ) (event : σ → σ) : Rehearsal σ :=
  { r with scene := { r.scene with state := event r.state } }.settle

/-- Time passes. -/
def advance (r : Rehearsal σ) (span : Nat) : Rehearsal σ :=
  let (tasks, clock) := r.clock.advance span
  { r with clock := clock }.change fun state => tasks.foldl Tasks.look state

end Rehearsal

end CourseLaunch.Schedule
