import CourseLaunch.Proofs.Course.Token
import CourseLaunch.Schedule.Tasks
/-!
# The token and the order of events

What comes next is up to the tasks, to what is in flight and to the network. So two systems that
differ in the session token only go through the same events, one beside the other, if the network
does not read the headers.
-/

namespace CourseLaunch.Schedule
open Backend

/-- Related systems are told apart by the token of what is in flight only, and whatever happens to
both of them, they are related afterwards. -/
structure Veils {σ : Type} [Tasks σ] (token : String) (R : σ → σ → Prop) : Prop where
  count : ∀ {s t}, R s t → Tasks.count t = Tasks.count s
  isReady : ∀ {s t}, R s t → ∀ task, Tasks.isReady t task = Tasks.isReady s task
  flights : ∀ {s t}, R s t → Tasks.flights t =
    (Tasks.flights s).map fun flight => (flight.1, flight.2.withToken token)
  watched? : ∀ {s t}, R s t → ∀ task, Tasks.watched? t task = Tasks.watched? s task
  budget : ∀ {s t}, R s t → Tasks.budget t = Tasks.budget s
  wake : ∀ {s t}, R s t → ∀ task, R (Tasks.wake s task) (Tasks.wake t task)
  answer : ∀ {s t}, R s t → ∀ label a, R (Tasks.answer s label a) (Tasks.answer t label a)
  look : ∀ {s t}, R s t → ∀ task, R (Tasks.look s task) (Tasks.look t task)
  dismiss : ∀ {s t}, R s t → ∀ popup, R (Tasks.onDesktop s fun d => d.userCloses popup)
    (Tasks.onDesktop t fun d => d.userCloses popup)

/-- The network does not read the headers. -/
def Network.Ignores (network : Network) (token : String) : Prop :=
  ∀ answers flights,
    network answers (flights.map fun x => x.withToken token) = network answers flights

variable {σ : Type} [Tasks σ] {token : String} {R : σ → σ → Prop}

namespace Scene

/-- Two systems in related states that were given the same number of answers. -/
structure Alike (R : σ → σ → Prop) (s t : Scene σ) : Prop where
  state : R s.state t.state
  answers : t.answers = s.answers

variable {s t : Scene σ} {network : Network}

/-- The same task can go on in both systems. -/
theorem ready?_alike (veils : Veils token R) {s t : σ} (h : R s t) : ready? t = ready? s := by
  unfold ready?
  rw [veils.count h, funext (veils.isReady h)]

/-- The next event is the same in both systems. -/
theorem next?_alike (veils : Veils token R) (blind : network.Ignores token) (h : s.Alike R t) :
    Option.Rel (Alike R) (s.next? network) (t.next? network) := by
  unfold next?
  rw [ready?_alike veils h.state]
  cases ready? s.state with
  | some task => exact .some ⟨veils.wake h.state task, h.answers⟩
  | none =>
    have seen : (Tasks.flights t.state).map Prod.snd =
        ((Tasks.flights s.state).map Prod.snd).map fun x => x.withToken token := by
      simp [veils.flights h.state]
    have same : network t.answers ((Tasks.flights t.state).map Prod.snd) =
        network s.answers ((Tasks.flights s.state).map Prod.snd) := by
      rw [h.answers, seen]
      exact blind _ _
    simp only [same]
    generalize network s.answers ((Tasks.flights s.state).map Prod.snd) = chosen
    simp only [veils.flights h.state, List.length_map, List.getElem?_map]
    cases (Tasks.flights s.state)[chosen.1 % (Tasks.flights s.state).length]? with
    | none => exact .none
    | some flight =>
      exact .some ⟨veils.answer h.state flight.1 chosen.2, congrArg (· + 1) h.answers⟩

/-- Two systems go through any number of events side by side. -/
theorem steps_alike (veils : Veils token R) (blind : network.Ignores token) (h : s.Alike R t)
    (fuel : Nat) : (s.steps network fuel).Alike R (t.steps network fuel) := by
  induction fuel generalizing s t with
  | zero => exact h
  | succ fuel ih =>
    have next := next?_alike veils blind h
    unfold steps
    generalize s.next? network = x, t.next? network = y at next
    cases next with
    | none => exact h
    | some alike => exact ih alike

/-- Systems that are alike come to rest alike. -/
theorem settle_alike (veils : Veils token R) (blind : network.Ignores token) (h : s.Alike R t) :
    (s.settle network).Alike R (t.settle network) := by
  unfold settle
  rw [veils.budget h.state]
  exact steps_alike veils blind h _

end Scene

end CourseLaunch.Schedule

namespace CourseLaunch.Launch
open Backend Schedule

/-- Nothing but the headers of a launch tells a schedule about the token. -/
theorem Session.veils {token token' : String} (legal : Legal token token') :
    Veils token' (Session.Alike token token') where
  count h := congrArg List.length h.tasks
  isReady h task := h.isReady task
  flights h := h.flights
  watched? h := h.watched?
  budget h := h.budget
  wake h := h.wake legal
  answer h := h.answer legal
  look h := h.look legal
  dismiss h popup := { h with desktop := h.desktop.userCloses popup }

end CourseLaunch.Launch

namespace CourseLaunch.Course
open Backend Schedule

/-- Nothing but the headers of a browser tells a schedule about the token. -/
theorem Browser.veils {token token' : String} (legal : Legal token token') :
    Veils token' (Browser.Alike token token') where
  count h := congrArg List.length h.tasks
  isReady h task := h.isReady task
  flights h := h.flights
  watched? h := h.watched?
  budget h := h.budget
  wake h := h.wake legal
  answer h := h.answer legal
  look h := h.look legal
  dismiss h popup := { h with desktop := h.desktop.userCloses popup }

end CourseLaunch.Course
