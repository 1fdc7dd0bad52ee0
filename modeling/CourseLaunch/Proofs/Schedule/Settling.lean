import CourseLaunch.Schedule.Tasks
/-!
# Systems come to rest

When every event leaves less to do, a system that may go on long enough stops because nothing is
left: no task can go on without an answer, and nothing is in flight.
-/

namespace CourseLaunch.Schedule

variable {σ : Type} [Tasks σ]

/-- Every event that may come keeps what is known of a state, and leaves less to do. -/
structure Winds (P : σ → Prop) (left : σ → Nat) : Prop where
  wake : ∀ state task, P state → Tasks.isReady state task →
    P (Tasks.wake state task) ∧ left (Tasks.wake state task) < left state
  answer : ∀ state flight a, P state → flight ∈ Tasks.flights state →
    P (Tasks.answer state flight.1 a) ∧ left (Tasks.answer state flight.1 a) < left state

namespace Scene

variable {P : σ → Prop} {left : σ → Nat} {network : Network}

/-- What happens next keeps the property and leaves less to happen. -/
theorem next?_winds (winds : Winds P left) {s t : Scene σ} (holds : P s.state)
    (next : s.next? network = some t) : P t.state ∧ left t.state < left s.state := by
  unfold next? at next
  split at next
  case h_1 task ready =>
    obtain rfl := Option.some.inj next
    exact winds.wake _ task holds (List.find?_some ready)
  case h_2 =>
    obtain ⟨flight, flies, rfl⟩ := Option.map_eq_some_iff.mp next
    exact winds.answer _ flight _ holds (List.mem_of_getElem? flies)

/-- A system that may go on long enough comes to rest. -/
theorem steps_winds (winds : Winds P left) (fuel : Nat) (s : Scene σ) (holds : P s.state)
    (enough : left s.state ≤ fuel) :
    P (s.steps network fuel).state ∧ (s.steps network fuel).next? network = none := by
  induction fuel generalizing s with
  | zero =>
    refine ⟨holds, ?_⟩
    show s.next? network = none
    cases next : s.next? network with
    | none => rfl
    | some t =>
      obtain ⟨-, less⟩ := next?_winds winds holds next
      omega
  | succ fuel ih =>
    unfold steps
    cases next : s.next? network with
    | none => exact ⟨holds, next⟩
    | some t =>
      obtain ⟨kept, less⟩ := next?_winds winds holds next
      exact ih t kept (by omega)

/-- At rest no task can go on, and nothing is in flight. -/
theorem rests_of_next? {s : Scene σ} (rests : s.next? network = none) :
    (∀ task < Tasks.count s.state, Tasks.isReady s.state task = false) ∧
      Tasks.flights s.state = [] := by
  unfold next? at rests
  split at rests
  case h_1 => cases rests
  case h_2 ready =>
    refine ⟨fun task known => ?_, ?_⟩
    · have stuck := List.find?_eq_none.mp ready task (List.mem_range.mpr known)
      simpa using stuck
    · have beyond := List.getElem?_eq_none_iff.mp (Option.map_eq_none_iff.mp rests)
      cases flights : Tasks.flights s.state with
      | nil => rfl
      | cons first rest =>
        rw [flights] at beyond
        exact absurd beyond (Nat.not_le_of_lt (Nat.mod_lt _ (by simp)))

end Scene

end CourseLaunch.Schedule
