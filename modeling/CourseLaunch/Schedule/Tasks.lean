import CourseLaunch.Backend.Exchange
import CourseLaunch.Popup.Desktop
/-!
# Tasks

A system of tasks, numbered in the order in which they were started. A task waits for an answer of
the backend, for a popup to be closed, or for other tasks. Between two events every task goes on as
far as it can: tasks that need no answer first, in the order of their numbers, and then one answer
after the other.
-/

namespace CourseLaunch.Schedule
open Backend Popup

/-- A system of tasks. -/
class Tasks (σ : Type) where
  /-- What tells the exchanges in flight apart. -/
  Label : Type
  /-- How many tasks were started. -/
  count : σ → Nat
  /-- Whether a task has not ended. -/
  isRunning : σ → Nat → Bool
  /-- The exchanges in flight, oldest first. -/
  flights : σ → List (Label × Exchange)
  /-- Takes in an answer. -/
  answer : σ → Label → Answer → σ
  /-- Whether a task can go on without an answer. -/
  isReady : σ → Nat → Bool
  /-- Lets a task go on without an answer. -/
  wake : σ → Nat → σ
  /-- The popup that a task waits for. -/
  watched? : σ → Nat → Option Nat
  /-- Lets a task look whether its popup is closed. -/
  look : σ → Nat → σ
  /-- The popups that were ever opened. -/
  windows : σ → List Window
  /-- Something happens on the desktop. -/
  onDesktop : σ → (Desktop → Desktop) → σ
  /-- A bound on the events that can come before every task waits for the user. -/
  budget : σ → Nat

/-- A network. Told how many answers it has given and what is in flight, it says which exchange
ends next, counted around, and how. -/
abbrev Network := Nat → List Exchange → Nat × Answer

/-- The network that is down: the oldest exchange ends next, without an answer. -/
def Network.down : Network := fun _ _ => (0, .missing)

/-- A system of tasks, and how many answers it was given. -/
structure Scene (σ : Type) where
  state : σ
  answers : Nat

namespace Scene

variable {σ : Type} [Tasks σ]

def running (state : σ) : List Nat :=
  (List.range (Tasks.count state)).filter (Tasks.isRunning state)

/-- The first task that can go on without an answer. -/
def ready? (state : σ) : Option Nat :=
  (List.range (Tasks.count state)).find? (Tasks.isReady state)

/-- The next event, if any comes by itself. -/
def next? (network : Network) (s : Scene σ) : Option (Scene σ) :=
  match ready? s.state with
  | some task => some { s with state := Tasks.wake s.state task }
  | none =>
    let flights := Tasks.flights s.state
    let (place, a) := network s.answers (flights.map Prod.snd)
    flights[place % flights.length]?.map fun flight =>
      ⟨Tasks.answer s.state flight.1 a, s.answers + 1⟩

/-- At most so many events. -/
def steps (network : Network) : Nat → Scene σ → Scene σ
  | 0, s => s
  | fuel + 1, s =>
    match s.next? network with
    | some t => steps network fuel t
    | none => s

/-- All events that come by themselves. -/
def settle (network : Network) (s : Scene σ) : Scene σ := s.steps network (Tasks.budget s.state)

end Scene

end CourseLaunch.Schedule
