import CourseLaunch.Proofs.Launch.Move
/-!
# Runs are histories

Between two events from outside the tasks of a system go on by themselves, and the network decides
in which order the answers come. Whatever it decides, the moves that are made form a history, and
none of them starts a task, so what holds after every history holds in every run.
-/

namespace CourseLaunch.Schedule

namespace Scene

variable {σ : Type} [Tasks σ]

/-- What relates a state to all that follows when tasks wake and answers come, relates it to the
state after any number of events. -/
theorem steps_of_events {R : σ → σ → Prop} (refl : ∀ s, R s s)
    (trans : ∀ s t u, R s t → R t u → R s u) (wake : ∀ s task, R s (Tasks.wake s task))
    (answer : ∀ s label a, R s (Tasks.answer s label a)) (network : Network) (fuel : Nat)
    (scene : Scene σ) : R scene.state (scene.steps network fuel).state := by
  induction fuel generalizing scene with
  | zero => exact refl _
  | succ fuel ih =>
    unfold steps
    cases next : scene.next? network with
    | none => exact refl _
    | some t =>
      refine trans _ _ _ ?_ (ih t)
      unfold next? at next
      split at next
      · obtain rfl := Option.some.inj next
        exact wake _ _
      · obtain ⟨flight, -, rfl⟩ := Option.map_eq_some_iff.mp next
        exact answer _ _ _

end Scene

end CourseLaunch.Schedule

namespace CourseLaunch.Launch
open Backend Schedule

namespace Session

/-- A session came from another one by moves that start no task. -/
def Continues (s t : Session) : Prop :=
  ∃ moves : List Move, (∀ m ∈ moves, m.starts = false) ∧ t = s.afterAll moves

theorem Continues.trans {s t u : Session} (h : s.Continues t) (h' : t.Continues u) :
    s.Continues u := by
  obtain ⟨moves, alone, rfl⟩ := h
  obtain ⟨more, alone', rfl⟩ := h'
  exact ⟨moves ++ more, List.forall_mem_append.mpr ⟨alone, alone'⟩,
    (afterAll_append s moves more).symm⟩

theorem continues_after (s : Session) {m : Move} (alone : m.starts = false) :
    s.Continues (s.after m) := ⟨[m], by simpa using alone, rfl⟩

/-- A task that wakes lets its calls have their turns, and then its report goes on. -/
theorem continues_wake (s : Session) (task : Nat) : s.Continues (s.wake task) := by
  have content := continues_after s (m := .resume ⟨task, .content⟩) rfl
  have groups := content.trans (continues_after _ (m := .resume ⟨task, .groups⟩) rfl)
  have submission := groups.trans (continues_after _ (m := .resume ⟨task, .submission⟩) rfl)
  exact submission.trans (continues_after _ (m := .report task _) rfl)

/-- Whatever the network does, a session goes on by a history. -/
theorem continues_steps (network : Network) (fuel : Nat) (scene : Scene Session) :
    scene.state.Continues (scene.steps network fuel).state :=
  Scene.steps_of_events (fun s => ⟨[], by simp, rfl⟩) (fun _ _ _ h h' => h.trans h')
    continues_wake (fun s id a => continues_after s (m := .answer id a) rfl) network fuel scene

end Session

end CourseLaunch.Launch
