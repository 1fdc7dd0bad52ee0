import CourseLaunch.Proofs.Launch.Step
/-!
# Sound sessions

In a sound session all calls are accounted for, only tasks that are not idle have made any, and no
submission was begun unless that is noted. A reporter that waits for nothing but the content has no
need of annotation activity, and one that listens knows the content. Every act keeps this.
-/

namespace CourseLaunch.Launch
open Activity Backend Popup

namespace Session

variable {s t : Session}

/-- What holds between any two steps. -/
structure Sound (s : Session) : Prop where
  client : s.client.Consistent
  busy : ∀ id ∈ s.begunIds, ∃ t, s.tasks[id.task]? = some t ∧ t.isIdle = false
  unsubmitted : s.isSubmitted = false → ∀ id ∈ s.begunIds, id.part ≠ .submission
  patient : ∀ task, s.reporter? task = some (.awaitingContent none) →
    s.submitsOnAnnotation = false
  ready : ∀ task receiver, s.reporter? task = some (.listening receiver) → s.page.contentReady
  channel : s.channel.Valid

/-- A session is sound from the start. -/
theorem sound_initial (config : Config) (base : Web.Url) (token : String) (desktop : Desktop) :
    (initial config base token desktop).Sound where
  client := Client.consistent_fresh base token
  busy id h := by simp [begunIds, initial, ofConfig] at h
  unsubmitted _ id h := by simp [begunIds, initial, ofConfig] at h
  patient task h := by simp [reporter?, initial, ofConfig] at h
  ready task receiver h := by simp [reporter?, initial, ofConfig] at h
  channel := Channel.valid_fresh

/-- A task that has made calls never becomes idle. -/
theorem TaskStep.busy {deferred ready : Bool} {a b : Option Task}
    (h : TaskStep deferred ready a b)
    (busy : ∃ t, a = some t ∧ t.isIdle = false) : ∃ t, b = some t ∧ t.isIdle = false := by
  obtain ⟨t, rfl, active⟩ := busy
  cases h with
  | same => exact ⟨t, rfl, active⟩
  | round t change => exact ⟨_, rfl, by cases t <;> simp_all [Task.mapRound, Task.isIdle]⟩
  | report t r may => exact ⟨_, rfl, by cases t <;> simp_all [Task.setReporter, Task.isIdle]⟩
  | watch popup => simp [Task.isIdle] at active
  | recover t idle => simp [idle] at active

theorem isIdle_of_round? {t : Task} (h : t.round?.isSome) : t.isIdle = false := by
  cases t <;> simp_all [Task.round?, Task.isIdle]

theorem isIdle_of_reporter? {t : Task} (h : t.reporter?.isSome) : t.isIdle = false := by
  cases t <;> simp_all [Task.reporter?, Task.isIdle]

theorem TaskStep.patient {deferred ready : Bool} {a b : Option Task}
    (h : TaskStep deferred ready a b)
    (waits : b.bind Task.reporter? = some (.awaitingContent none)) :
    a.bind Task.reporter? = some (.awaitingContent none) ∨ deferred = false := by
  rcases h.reporter waits with before | may
  · exact .inl before
  · cases may with
    | awaiting atOnce => exact .inr atOnce

theorem TaskStep.listening {deferred ready : Bool} {a b : Option Task}
    (h : TaskStep deferred ready a b) {receiver : Nat}
    (listens : b.bind Task.reporter? = some (.listening receiver)) :
    a.bind Task.reporter? = some (.listening receiver) ∨ ready = true := by
  rcases h.reporter listens with before | may
  · exact .inl before
  · cases may with
    | listening receiver waiting isReady => exact .inr isReady

theorem busy_of_round? {task : Nat} (h : (s.round? task).isSome) :
    ∃ t, s.tasks[task]? = some t ∧ t.isIdle = false := by
  obtain ⟨round, h⟩ := Option.isSome_iff_exists.mp h
  obtain ⟨t, found, round⟩ := Option.bind_eq_some_iff.mp h
  exact ⟨t, found, isIdle_of_round? (by simp [round])⟩

theorem busy_of_reporter? {task : Nat} (h : (s.reporter? task).isSome) :
    ∃ t, s.tasks[task]? = some t ∧ t.isIdle = false := by
  obtain ⟨reporter, h⟩ := Option.isSome_iff_exists.mp h
  obtain ⟨t, found, reporter⟩ := Option.bind_eq_some_iff.mp h
  exact ⟨t, found, isIdle_of_reporter? (by simp [reporter])⟩

/-- Every step keeps a session sound. -/
theorem Step.sound (h : Step s t) (sound : s.Sound) : t.Sound where
  client := by
    have client := h.client
    generalize t.client = c at client ⊢
    cases client with
    | same => exact sound.client
    | begins id e p fetches busy new begins => exact sound.client.begins new begins
    | advances id p advances => exact sound.client.advances advances
  -- calls are begun only by tasks that are busy, and those stay busy
  busy id known := by
    apply (h.task id.task).busy
    rcases h.begunIds with same | ⟨id', -, busy, more⟩
    · exact sound.busy id (same ▸ known)
    · rw [more, List.mem_append, List.mem_singleton] at known
      rcases known with known | rfl
      · exact sound.busy id known
      · exact busy_of_round? busy
  unsubmitted first id known := by
    rw [h.isSubmitted] at first
    rcases h.begunIds with same | ⟨id', fetches, -, more⟩
    · exact sound.unsubmitted first id (same ▸ known)
    · rw [more, List.mem_append, List.mem_singleton] at known
      rcases known with known | rfl
      · exact sound.unsubmitted first id known
      · exact fetches
  patient task waits := by
    rw [deferred_congr h.config]
    rcases (h.task task).patient waits with before | atOnce
    · exact sound.patient task before
    · exact atOnce
  ready task receiver listens := by
    apply h.ready
    rcases (h.task task).listening listens with before | ready
    · exact sound.ready task receiver before
    · exact ready
  channel := (h.channel sound.channel).valid sound.channel

theorem busy_setReporter {task k : Nat} (r : Reporter)
    (busy : ∃ t, s.tasks[k]? = some t ∧ t.isIdle = false) :
    ∃ t, (s.onTask task (Task.setReporter r)).tasks[k]? = some t ∧ t.isIdle = false := by
  obtain ⟨t, found, active⟩ := busy
  rw [tasks_onTask, List.getElem?_modify, found]
  split
  · exact ⟨_, rfl, by cases t <;> simp_all [Task.setReporter, Task.isIdle]⟩
  · exact ⟨t, rfl, active⟩

theorem reporter?_of_setReporter {task k : Nat} {r old : Reporter} (other : r ≠ old)
    (h : (s.onTask task (Task.setReporter r)).reporter? k = some old) :
    s.reporter? k = some old := by
  rw [reporter?_onTask_setReporter] at h
  split at h
  · cases before : s.reporter? k with
    | none => simp [before] at h
    | some _ => exact absurd (by simpa [before] using h) other
  · exact h

theorem reporter?_of_add {m : Move} {task : Task} {k : Nat} {r : Reporter}
    (start : m.task? = some task) (other : r ≠ .starting)
    (h : (s.add task).reporter? k = some r) : s.reporter? k = some r := by
  rw [reporter?_add] at h
  split at h
  · exact absurd (Move.reporter?_of_task? start h) other
  · exact h

/-- Every act keeps a session sound. -/
theorem Act.sound (h : Act s t) (sound : s.Sound) : t.Sound := by
  cases h with
  | step t step => exact step.sound sound
  | join m task start =>
    refine ⟨sound.client, fun id known => ?_, sound.unsubmitted,
      fun k waits => sound.patient k (reporter?_of_add start (by simp) waits),
      fun k r listens => sound.ready k r (reporter?_of_add start (by simp) listens),
      sound.channel⟩
    obtain ⟨t, found, active⟩ := sound.busy id known
    obtain ⟨old, -⟩ := List.getElem?_eq_some_iff.mp found
    have other : id.task ≠ s.nextTask := Nat.ne_of_lt old
    refine ⟨t, ?_, active⟩
    rw [getElem?_add, if_neg other, found]
  | publish e =>
    exact ⟨sound.client, sound.busy, sound.unsubmitted, sound.patient, sound.ready,
      Channel.valid_publish sound.channel e⟩
  | subscribe task starting deferred =>
    exact ⟨sound.client, fun id known => busy_setReporter _ (sound.busy id known),
      sound.unsubmitted,
      fun k waits => sound.patient k (reporter?_of_setReporter (by simp) waits),
      fun k r listens => sound.ready k r (reporter?_of_setReporter (by simp) listens),
      Channel.valid_subscribe sound.channel⟩
  | submit task grading p t reports graded first ready begins follows =>
    have begun : t.begunIds = s.begunIds ++ [⟨task, .submission⟩] := by
      unfold begunIds
      rw [follows.client, begins.begun_eq]
      simp
    -- nothing was submitted before, so the label is new
    have new : (⟨task, .submission⟩ : CallId) ∉ s.begunIds := fun known =>
      sound.unsubmitted first _ known rfl
    refine ⟨?_, fun id known => ?_, fun unsubmitted => ?_, fun k waits => ?_,
      fun _ _ _ => follows.ready ready, ?_⟩
    · rw [follows.client]
      exact sound.client.begins new begins
    · apply (follows.task false false id.task).busy
      rw [begun, List.mem_append, List.mem_singleton] at known
      rcases known with known | rfl
      · exact busy_setReporter _ (sound.busy id known)
      · exact busy_setReporter _ (busy_of_reporter? reports)
    · rw [follows.isSubmitted] at unsubmitted
      exact absurd unsubmitted (by simp [onTask])
    · rw [deferred_congr (s := s) follows.config]
      rcases (follows.task s.submitsOnAnnotation false k).patient waits with before | atOnce
      · exact sound.patient k (reporter?_of_setReporter (by simp) before)
      · exact atOnce
    · rw [follows.channel]
      exact sound.channel

/-- A session stays sound on the whole way. -/
theorem Acts.sound (h : s.Acts t) (sound : s.Sound) : t.Sound := by
  induction h with
  | refl => exact sound
  | tail _ act ih => exact act.sound ih

theorem Steps.sound (h : s.Steps t) (sound : s.Sound) : t.Sound := h.acts.sound sound

end Session

end CourseLaunch.Launch
