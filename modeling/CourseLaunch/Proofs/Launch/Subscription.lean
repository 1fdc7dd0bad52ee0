import CourseLaunch.Proofs.Launch.History
/-!
# Subscriptions

A task that holds a receiver of annotation activity took it when it was started, and whatever it
can still get was published since. A receiver never changes hands: a step lets go of it or keeps it,
and adds nothing to what it can get.
-/

namespace CourseLaunch.Launch
open Activity Backend

namespace Session

variable {s t : Session}

/-! ### Who holds a receiver -/

/-- A step gives no receiver to a task. -/
theorem TaskStep.receiver {deferred ready : Bool} {a b : Option Task}
    (h : TaskStep deferred ready a b) {receiver : Nat}
    (holds : (b.bind Task.reporter?).bind Reporter.receiver? = some receiver) :
    (a.bind Task.reporter?).bind Reporter.receiver? = some receiver := by
  obtain ⟨r, known, has⟩ := Option.bind_eq_some_iff.mp holds
  rcases h.reporter known with before | may
  · exact Option.bind_eq_some_iff.mpr ⟨r, before, has⟩
  · cases may with
    | ended => simp [Reporter.receiver?] at has
    | awaiting atOnce => simp [Reporter.receiver?] at has
    | listening receiver' waiting isReady =>
      exact Option.bind_eq_some_iff.mpr ⟨_, waiting, by simpa [Reporter.receiver?] using has⟩

theorem Follows.receiver? {id : CallId} {p : Progress CallId} (h : s.Follows id p t)
    {task receiver : Nat} (holds : t.receiver? task = some receiver) :
    s.receiver? task = some receiver :=
  (h.task false false task).receiver holds

/-- A task gets no receiver without subscribing. -/
theorem Steps.receiver? (h : s.Steps t) {task receiver : Nat}
    (holds : t.receiver? task = some receiver) : s.receiver? task = some receiver := by
  induction h with
  | refl => exact holds
  | tail _ step ih => exact ih ((step.task task).receiver holds)

theorem Steps.channel (h : s.Steps t) (sound : s.Sound) : s.channel.Quiet t.channel := by
  induction h with
  | refl => exact .refl _
  | tail steps step ih => exact ih.trans (step.channel (Steps.sound steps sound).channel)

theorem receiver?_opened {m : Move} {task receiver : Nat}
    (holds : (s.opened m).receiver? task = some receiver) : s.receiver? task = some receiver := by
  unfold opened at holds
  cases start : m.task? with
  | none => simpa only [start] using holds
  | some new =>
    simp only [start] at holds
    obtain ⟨r, known, has⟩ := Option.bind_eq_some_iff.mp holds
    have goesOn : r ≠ .starting := fun same => by simp [same, Reporter.receiver?] at has
    exact Option.bind_eq_some_iff.mpr ⟨r, reporter?_of_add start goesOn known, has⟩

theorem channel_opened (s : Session) (m : Move) : (s.opened m).channel = s.channel := by
  unfold opened
  split <;> rfl

theorem receiver?_onTask_setReporter {task k receiver : Nat} {r : Reporter}
    (none : r.receiver? = none)
    (holds : (s.onTask task (Task.setReporter r)).receiver? k = some receiver) :
    s.receiver? k = some receiver := by
  unfold receiver? at *
  rw [reporter?_onTask_setReporter] at holds
  split at holds
  · cases known : s.reporter? k with
    | none => simp [known] at holds
    | some _ => simp [known, none] at holds
  · exact holds

theorem receiver?_subscribed_cases {task k receiver : Nat}
    (holds : (s.subscribed task).receiver? k = some receiver) :
    s.receiver? k = some receiver ∨ k = task ∧ receiver = s.channel.nextReceiver := by
  unfold subscribed receiver? at *
  rw [reporter?_onTask_setReporter] at holds
  split at holds
  case isTrue own =>
    cases known : ({ s with channel := s.channel.subscribe.2 } : Session).reporter? k with
    | none => simp [known] at holds
    | some _ =>
      rw [known] at holds
      exact .inr ⟨own.symm, (Option.some.inj holds).symm⟩
  case isFalse => exact .inl holds

/-! ### What a receiver can get -/

/-- A task kept its receiver in a move, which published all that the receiver can get more. -/
structure Keeps (s : Session) (m : Move) (task receiver : Nat) (t : Session) : Prop where
  held : s.receiver? task = some receiver
  published : ∀ e ∈ t.channel.unread receiver, e ∈ s.channel.unread receiver ∨ m = .publish e

/-- A task took a receiver in the move that started it, and can get nothing yet. -/
structure Takes (s : Session) (m : Move) (task receiver : Nat) (t : Session) : Prop where
  reports : m.reports
  task_eq : s.nextTask = task
  receiver_eq : s.channel.nextReceiver = receiver
  taken : receiver < t.channel.nextReceiver
  nothing : t.channel.unread receiver = []

/-- A task that holds a receiver after a move held it before, or has subscribed with this move. -/
theorem After.receiver {m : Move} (h : s.After m t) (sound : s.Sound) {task receiver : Nat}
    (holds : t.receiver? task = some receiver) :
    s.Keeps m task receiver t ∨ s.Takes m task receiver t := by
  have opened : (s.opened m).Sound := (opened_acts s m).sound sound
  cases h with
  | steps t steps =>
    have quiet := steps.channel opened
    rw [channel_opened] at quiet
    exact .inl ⟨receiver?_opened (steps.receiver? holds), fun e h => .inl (quiet.unread receiver h)⟩
  | publishes e publishes =>
    refine .inl ⟨holds, fun e' h => ?_⟩
    have known := Channel.unread_publish sound.channel e receiver h
    rw [List.mem_append, List.mem_singleton] at known
    rcases known with old | rfl
    · exact .inl old
    · exact .inr publishes
  | submits submitter u steps submits cause =>
    obtain ⟨grading, graded, follows⟩ := submits.follows
    have quiet := steps.channel opened
    rw [channel_opened] at quiet
    have before : u.receiver? task = some receiver :=
      receiver?_onTask_setReporter (s := { u with isSubmitted := true }) rfl
        (follows.receiver? holds)
    refine .inl ⟨receiver?_opened (steps.receiver? before), fun e h => ?_⟩
    rw [follows.channel] at h
    exact .inl (quiet.unread receiver h)
  -- a new receiver starts behind all that was published, so it has nothing to read yet
  | subscribes u t reports steps starting deferred rest =>
    have quiet := steps.channel opened
    rw [channel_opened] at quiet
    have valid := (steps.sound opened).channel
    have still : (u.subscribed s.nextTask).channel.Quiet t.channel :=
      rest.channel ((Act.subscribe _ starting deferred).sound (steps.sound opened))
    have unread : (u.subscribed s.nextTask).channel.unread receiver =
        if receiver = u.channel.nextReceiver then [] else u.channel.unread receiver :=
      Channel.unread_subscribe valid receiver
    rcases receiver?_subscribed_cases (rest.receiver? holds) with before | ⟨rfl, own⟩
    · refine .inl ⟨receiver?_opened (steps.receiver? before), fun e h => .inl ?_⟩
      have known := still.unread receiver h
      rw [unread] at known
      split at known
      · simp at known
      · exact quiet.unread receiver known
    · refine .inr ⟨reports, rfl, quiet.next.symm.trans own.symm, ?_, ?_⟩
      · have next : t.channel.nextReceiver = u.channel.nextReceiver + 1 := still.next
        omega
      · rw [if_pos own] at unread
        exact List.eq_nil_of_subset_nil (unread ▸ still.unread receiver)

/-! ### Histories -/

/-- A history in which a move gave a task its receiver, and published since all that the receiver
can still get. -/
structure Subscribes (start : Session) (before : List Move) (first : Move) (since : List Move)
    (task receiver : Nat) : Prop where
  reports : first.reports
  task_eq : (start.afterAll before).nextTask = task
  receiver_eq : (start.afterAll before).channel.nextReceiver = receiver
  taken : receiver < (start.afterAll (before ++ [first])).channel.nextReceiver
  published : ∀ e ∈ (start.afterAll (before ++ first :: since)).channel.unread receiver,
    .publish e ∈ since

/-- Every receiver was taken by the task that holds it. -/
theorem subscribes_of_receiver? {start : Session} (sound : start.Sound) (tasks : start.tasks = [])
    (moves : List Move) {task receiver : Nat}
    (holds : (start.afterAll moves).receiver? task = some receiver) :
    ∃ before first since, moves = before ++ first :: since ∧
      start.Subscribes before first since task receiver := by
  induction moves using List.reverseRecOn with
  | nil => simp [receiver?, reporter?, tasks] at holds
  | append_singleton moves m ih =>
    -- the last move kept the receiver, and the history before it tells the rest, or took it
    have sound' := sound_afterAll sound moves
    rw [afterAll_append] at holds
    rcases (after_after sound' m).receiver sound' holds with keeps | takes
    · obtain ⟨before, first, since, rfl, subscribes⟩ := ih keeps.held
      refine ⟨before, first, since ++ [m], by simp, subscribes.reports, subscribes.task_eq,
        subscribes.receiver_eq, subscribes.taken, fun e h => ?_⟩
      rw [← List.cons_append, ← List.append_assoc, afterAll_append] at h
      rcases keeps.published e h with old | rfl
      · exact List.mem_append_left _ (subscribes.published e old)
      · simp
    · refine ⟨moves, m, [], rfl, takes.reports, takes.task_eq, takes.receiver_eq, ?_, fun e h => ?_⟩
      · rw [afterAll_append]
        exact takes.taken
      · rw [afterAll_append] at h
        exact absurd (takes.nothing ▸ h) (by simp)

end Session

end CourseLaunch.Launch
