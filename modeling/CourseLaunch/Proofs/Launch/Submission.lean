import CourseLaunch.Proofs.Launch.Subscription
/-!
# A submission is reported at most once

Whatever happens to a session, one submission is begun at most, so the server takes one at most,
also when the request is sent twice. The submission begins when the content is known, and when it
has to wait for annotation activity, the task heard of work that can be graded after it subscribed,
and subscribes no longer.
-/

namespace CourseLaunch.Launch
open Activity Backend Popup

namespace Session

variable {s t : Session}

def submissions (s : Session) : List CallId := s.begunIds.filter fun id => id.part = .submission

/-- The submissions that the server took: their requests were answered with a status of success. -/
def takenSubmissions (s : Session) : List CallId :=
  s.client.accepted.filter fun id => id.part = .submission

/-! ### How often -/

/-- Nothing was submitted before a submission was begun. -/
theorem Sound.submissions_eq_nil (sound : s.Sound) (first : s.isSubmitted = false) :
    s.submissions = [] := by
  refine List.filter_eq_nil_iff.mpr fun id known => ?_
  simpa using sound.unsubmitted first id known

/-- A step begins no submission. -/
theorem Step.submissions (h : Step s t) : t.submissions = s.submissions := by
  unfold Session.submissions
  rcases h.begunIds with same | ⟨id, fetches, -, more⟩
  · rw [same]
  · simp [more, fetches]

/-- Only the report of a task makes a submission. -/
theorem Steps.submissions (h : s.Steps t) : t.submissions = s.submissions := by
  induction h with
  | refl => rfl
  | tail _ step ih => exact step.submissions.trans ih

theorem submissions_of_begins {id : CallId} {request : Request} {p : Progress CallId}
    (submits : id.part = .submission) (begins : s.client.Begins id request p)
    (client : t.client = p.1) : t.submissions = s.submissions ++ [id] := by
  simp [Session.submissions, begunIds, client, begins.begun_eq, submits]

/-- A task that submits makes one submission. -/
theorem submissions_submit {task : Nat} (h : s.Submits task) :
    (s.submit task).submissions = s.submissions ++ [⟨task, .submission⟩] := by
  obtain ⟨grading, graded, follows⟩ := h.follows
  exact submissions_of_begins rfl (Client.begin_begins _ _ _) follows.client

/-- An act begins a submission only if there was none. -/
theorem Act.submissions (h : Act s t) (sound : s.Sound) :
    t.submissions = s.submissions ∨ s.submissions = [] ∧ ∃ id, t.submissions = [id] := by
  cases h with
  | step t step => exact .inl step.submissions
  | submit task grading p t reports graded first ready begins follows =>
    have none := sound.submissions_eq_nil first
    refine .inr ⟨none, ⟨task, .submission⟩, ?_⟩
    rw [submissions_of_begins rfl begins follows.client, none]
    rfl
  | _ => exact .inl rfl

/-- There is one submission at most, on the whole way. -/
theorem Acts.submissions_length (h : s.Acts t) (sound : s.Sound)
    (once : s.submissions.length ≤ 1) : t.submissions.length ≤ 1 := by
  induction h with
  | refl => exact once
  | tail acts act ih =>
    rcases act.submissions (Acts.sound acts sound) with same | ⟨-, id, one⟩
    · exact same ▸ ih
    · simp [one]

/-- The server takes no more submissions than were begun. -/
theorem Sound.takenSubmissions_length (sound : s.Sound) :
    s.takenSubmissions.length ≤ s.submissions.length := by
  have taken := (sound.client.accepted.filter fun id => id.part = .submission).length_le
  have begun := (sound.client.conserved.filter fun id => id.part = .submission).length_eq
  rw [List.filter_append, List.length_append] at begun
  unfold takenSubmissions submissions begunIds
  omega

/-! ### When and why -/

/-- A task heard of work that can be graded after it subscribed, and subscribes no longer. -/
def HasHeard (start : Session) (moves : List Move) (task : Nat) (u : Session) : Prop :=
  ∃ before first since receiver e heard, moves = before ++ first :: since ∧
    start.Subscribes before first since task receiver ∧
    .publish e ∈ since ∧ (e.action = .create ∨ e.action = .update) ∧ e.isShared ∧
    Channel.Hears receiver e (start.afterAll moves).channel heard ∧
    u.channel = heard.unsubscribe receiver ∧ receiver ∉ u.channel.numbers

theorem qualifies_iff (e : Event) :
    e.qualifies ↔ (e.action = .create ∨ e.action = .update) ∧ e.isShared := by
  simp [Event.qualifies]

theorem begunIds_opened (s : Session) (m : Move) : (s.opened m).begunIds = s.begunIds := by
  unfold opened
  split <;> rfl

theorem config_opened (s : Session) (m : Move) : (s.opened m).config = s.config := by
  unfold opened
  split <;> rfl

/-- A move that begins a submission takes its session to one that is about to submit. -/
theorem After.submits_of_new {m : Move} (h : s.After m t) {id : CallId}
    (begun : id ∈ t.submissions) (new : id ∉ s.submissions) :
    ∃ u, t = u.submit id.task ∧ (s.opened m).Steps u ∧ u.Submits id.task ∧
      (s.opened m).Cause id.task u := by
  have opened : (s.opened m).submissions = s.submissions := by
    unfold submissions
    rw [begunIds_opened]
  cases h with
  | steps t steps =>
    rw [steps.submissions, opened] at begun
    exact absurd begun new
  | publishes e publishes => exact absurd begun new
  | submits task u steps submits cause =>
    rw [submissions_submit submits, steps.submissions, opened, List.mem_append,
      List.mem_singleton] at begun
    rcases begun with old | rfl
    · exact absurd old new
    · exact ⟨u, rfl, steps, submits, cause⟩
  | subscribes u t reports steps starting deferred rest =>
    have still : (u.subscribed s.nextTask).submissions = u.submissions := rfl
    rw [rest.submissions, still, steps.submissions, opened] at begun
    exact absurd begun new

/-- A deferred submission is caused by an event that its task got after it had subscribed. -/
theorem hasHeard_of_cause {start u : Session} (sound : start.Sound) (tasks : start.tasks = [])
    {moves : List Move} {m : Move} {task : Nat}
    (cause : ((start.afterAll moves).opened m).Cause task u)
    (deferred : start.submitsOnAnnotation) : start.HasHeard moves task u := by
  have config : ((start.afterAll moves).opened m).config = start.config :=
    (config_opened _ m).trans (acts_afterAll sound moves).config
  cases cause with
  | atOnce atOnce =>
    rw [deferred_congr config, deferred] at atOnce
    cases atOnce
  | work receiver e heard holds qualifies hears released =>
    rw [channel_opened] at hears
    obtain ⟨before, first, since, rfl, subscribes⟩ :=
      subscribes_of_receiver? sound tasks moves (receiver?_opened holds)
    obtain ⟨action, shared⟩ := (qualifies_iff e).mp qualifies
    exact ⟨before, first, since, receiver, e, heard, rfl, subscribes,
      subscribes.published e hears.mem_unread, action, shared, hears, released,
      released ▸ Channel.not_mem_numbers_unsubscribe heard receiver⟩

variable (config : Config) (base : Web.Url) (token : String) (desktop : Desktop)

/-- After every history at most one submission was begun, and the server took at
most one. When the next move begins it, grading is configured, the content is known, and a task
that has to wait for annotation activity has heard of some. -/
theorem submission_once (moves : List Move) :
    let start := initial config base token desktop
    let s := start.afterAll moves
    s.submissions.length ≤ 1 ∧ s.takenSubmissions.length ≤ 1 ∧
      ∀ m, ∀ id ∈ (s.after m).submissions, id ∉ s.submissions →
        ∃ u, s.after m = u.submit id.task ∧ u.submissions = [] ∧ u.config = config ∧
          config.grading.isSome ∧ u.page.contentUrl.isSome ∧
          (config.grading.any Grading.submitOnAnnotation → start.HasHeard moves id.task u) := by
  intro start s
  have initially : start.Sound := sound_initial config base token desktop
  have sound : s.Sound := sound_afterAll initially moves
  have once : s.submissions.length ≤ 1 :=
    (acts_afterAll initially moves).submissions_length initially (Nat.zero_le 1)
  refine ⟨once, Nat.le_trans sound.takenSubmissions_length once, fun m id begun new => ?_⟩
  obtain ⟨u, same, steps, submits, cause⟩ := (after_after sound m).submits_of_new begun new
  have opened : (s.opened m).config = config :=
    (config_opened s m).trans (acts_afterAll initially moves).config
  have known : u.config = config := steps.acts.config.trans opened
  refine ⟨u, same, ?_, known, known ▸ submits.graded, submits.ready, fun deferred => ?_⟩
  · exact (steps.sound ((opened_acts s m).sound sound)).submissions_eq_nil submits.first
  · exact hasHeard_of_cause initially rfl cause deferred

/-- A submission that waits for annotation activity begins when a shared annotation was edited. -/
theorem deferred_submission_begins :
    ∃ u, ((sample true).afterAll [.reportSubmission, .publish ⟨.update, true⟩]).after
        (.report 0 2) = u.submit 0 ∧ u.page.contentUrl.isSome ∧
      (sample true).HasHeard [.reportSubmission, .publish ⟨.update, true⟩] 0 u := by
  obtain ⟨-, -, begins⟩ := submission_once (sample true).config (sample true).client.base
    (sample true).client.token (sample true).desktop
    [.reportSubmission, .publish ⟨.update, true⟩]
  obtain ⟨u, same, -, -, -, ready, heard⟩ :=
    begins (.report 0 2) ⟨0, .submission⟩ (by decide +kernel) (by decide +kernel)
  exact ⟨u, same, ready, heard rfl⟩

end Session

end CourseLaunch.Launch
