import CourseLaunch.Proofs.Launch.Sound
/-!
# Reports of a submission

A report goes on step by step. In the end it may submit, and then it is known why: there was no
need for annotation activity, or it heard of work that can be graded. A report that was just begun
and subscribed has heard of nothing, so it submits only later.
-/

namespace CourseLaunch.Launch
open Activity Backend

namespace Session

variable {s t : Session}

/-- A task is about to submit. -/
structure Submits (s : Session) (task : Nat) : Prop where
  reports : (s.reporter? task).isSome
  graded : s.config.grading.isSome
  first : s.isSubmitted = false
  ready : s.page.contentReady

theorem Submits.follows {task : Nat} (h : s.Submits task) :
    ∃ grading, s.config.grading = some grading ∧
      ({ s with isSubmitted := true }.onTask task (Task.setReporter .submitting)).Follows
        ⟨task, .submission⟩ (s.client.begin ⟨task, .submission⟩
          (.post grading.path grading.submissionParams)) (s.submit task) := by
  obtain ⟨grading, graded⟩ := Option.isSome_iff_exists.mp h.graded
  refine ⟨grading, graded, ?_⟩
  simp only [submit, graded, h.first, Bool.false_eq_true, if_false]
  exact follow_follows _ _ _

theorem Submits.act {task : Nat} (h : s.Submits task) : Act s (s.submit task) := by
  obtain ⟨grading, graded, follows⟩ := h.follows
  exact .submit task grading _ _ h.reports graded h.first h.ready (Client.begin_begins _ _ _)
    follows

/-- A task submits, unless that was done before. -/
theorem submit_cases (task : Nat) (reports : (s.reporter? task).isSome)
    (ready : s.page.contentReady) : Step s (s.submit task) ∨ s.Submits task := by
  cases graded : s.config.grading with
  | none => left; simp only [submit, graded]; exact .retire task (.inl graded)
  | some grading =>
    cases first : s.isSubmitted with
    | true =>
      left
      simp only [submit, graded, first, if_true]
      exact .retire task (.inr (.inl first))
    | false => exact .inr ⟨reports, by simp [graded], first, ready⟩

/-- Why a task submits: there is no need for annotation activity, or the task heard of work that
can be graded and has let go of its receiver since. -/
inductive Cause (s : Session) (task : Nat) (u : Session) : Prop where
  | atOnce (atOnce : s.submitsOnAnnotation = false)
  | work (receiver : Nat) (e : Event) (c : Channel) (holds : s.receiver? task = some receiver)
      (qualifies : e.qualifies) (hears : Channel.Hears receiver e s.channel c)
      (released : u.channel = c.unsubscribe receiver)

/-- How far a report gets. It makes steps, and may submit in the end. -/
inductive Reports (s : Session) (task : Nat) : Session → Prop where
  | waits (t : Session) (steps : s.Steps t) : Reports s task t
  | submits (u : Session) (steps : s.Steps u) (submits : u.Submits task) (cause : s.Cause task u) :
      Reports s task (u.submit task)

/-- A report that goes on is made of acts. -/
theorem Reports.acts {task : Nat} (h : s.Reports task t) : s.Acts t := by
  cases h with
  | waits t steps => exact steps.acts
  | submits u steps submits cause => exact .tail steps.acts submits.act

/-- A report that goes on from a step hears what it would have heard before. -/
theorem Reports.head {u : Session} {task : Nat} (h : u.Reports task t) (step : Step s u)
    (hears : ∀ receiver e c, u.receiver? task = some receiver →
      Channel.Hears receiver e u.channel c →
        s.receiver? task = some receiver ∧ Channel.Hears receiver e s.channel c) :
    s.Reports task t := by
  cases h with
  | waits t steps => exact .waits t (.head step steps)
  | submits v steps submits cause =>
    refine .submits v (.head step steps) submits ?_
    cases cause with
    | atOnce atOnce => exact .atOnce (deferred_congr step.config ▸ atOnce)
    | work receiver e c holds qualifies heard released =>
      obtain ⟨holds, heard⟩ := hears receiver e c holds heard
      exact .work receiver e c holds qualifies heard released

/-- A report that listens waits on, or submits when an event qualifies. -/
theorem listen_reports {task receiver : Nat} (patience : Nat)
    (listening : s.reporter? task = some (.listening receiver)) (ready : s.page.contentReady) :
    s.Reports task (s.listen patience task receiver) := by
  -- what is heard later is carried back to `s` by `Reports.head`, one event at a time
  induction patience generalizing s with
  | zero => exact .waits s .refl
  | succ patience ih =>
    have holds : s.receiver? task = some receiver := by
      simp [receiver?, listening, Reporter.receiver?]
    unfold listen
    cases receives : s.channel.receive? receiver with
    | none => exact .waits s .refl
    | some got =>
      obtain ⟨received, channel⟩ := got
      have heard : Step s { s with channel := channel } :=
        .hear task receiver received channel listening receives
      have goOn : Reports s task (listen patience { s with channel := channel } task receiver) := by
        refine (ih (s := { s with channel := channel }) listening ready).head heard ?_
        intro r e c holds' hears
        obtain rfl : r = receiver := Option.some.inj (holds'.symm.trans holds)
        exact ⟨holds, .later _ _ _ _ receives hears⟩
      cases received with
      | event e =>
        simp only
        split
        case isTrue qualifies =>
          have left : Step { s with channel := channel }
              (unsubscribe { s with channel := channel } receiver) :=
            .leave task receiver listening
          have steps := Relation.ReflTransGen.tail heard.steps left
          rcases submit_cases task (s := unsubscribe { s with channel := channel } receiver)
            (Option.isSome_iff_exists.mpr ⟨_, listening⟩) ready with finished | submits
          · exact .waits _ (.tail steps finished)
          · exact .submits _ steps submits
              (.work receiver e channel holds qualifies (.now _ _ receives) rfl)
        case isFalse => exact goOn
      | lagged lost => exact goOn
      | empty => exact .waits s .refl
      | closed =>
        have left : Step s (s.unsubscribe receiver) := .leave task receiver listening
        have closed : s.channel.isOpen = false := Channel.isOpen_of_receive? receives
        have finished : Step (s.unsubscribe receiver)
            ((s.unsubscribe receiver).onTask task (Task.setReporter .ended)) :=
          .retire task (.inr (.inr closed))
        exact .waits _ (.tail left.steps finished)

/-- A report goes on as far as it can. -/
theorem reportFor_reports (sound : s.Sound) (task patience : Nat) :
    s.Reports task (s.reportFor task patience) := by
  unfold reportFor
  cases reporter : s.tasks[task]?.bind Task.reporter? with
  | none => exact .waits s .refl
  | some r =>
    have known : s.reporter? task = some r := reporter
    cases r with
    | awaitingContent receiver =>
      simp only
      split
      case isFalse => exact .waits s .refl
      case isTrue ready =>
        cases receiver with
        | none =>
          have reports : (s.reporter? task).isSome := by simp [known]
          rcases submit_cases task reports ready with finished | submits
          · exact .waits _ finished.steps
          · exact .submits s .refl submits (.atOnce (sound.patient task known))
        | some receiver =>
          -- the content is known, so what was heard meanwhile counts from now on
          have begins : Step s (s.onTask task (Task.setReporter (.listening receiver))) :=
            .listen task receiver known ready
          have listening : (s.onTask task (Task.setReporter (.listening receiver))).reporter? task =
              some (.listening receiver) := by
            rw [reporter?_onTask_setReporter, if_pos rfl, known]
            rfl
          refine (listen_reports patience listening ready).head begins ?_
          intro r e c holds hears
          have same : r = receiver := by
            simpa [receiver?, listening, Reporter.receiver?] using holds.symm
          subst same
          exact ⟨by simp [receiver?, known, Reporter.receiver?], hears⟩
    | listening receiver => exact listen_reports patience known (sound.ready task receiver known)
    | _ => exact .waits s .refl

/-- How the beginning of a report goes. It may submit at once, but not when it subscribes. -/
inductive BeginsReport (s : Session) (task : Nat) : Session → Prop where
  | waits (t : Session) (steps : s.Steps t) : BeginsReport s task t
  | submits (u : Session) (steps : s.Steps u) (submits : u.Submits task)
      (atOnce : s.submitsOnAnnotation = false) : BeginsReport s task (u.submit task)
  | subscribes (t : Session) (deferred : s.submitsOnAnnotation)
      (steps : (s.subscribed task).Steps t) : BeginsReport s task t

theorem reporter?_subscribed {task : Nat} (reports : (s.reporter? task).isSome) :
    (s.subscribed task).reporter? task =
      some (.awaitingContent (some s.channel.nextReceiver)) := by
  obtain ⟨r, known⟩ := Option.isSome_iff_exists.mp reports
  unfold subscribed
  rw [reporter?_onTask_setReporter, if_pos rfl]
  simp only [reporter?] at known
  simp [reporter?, known, Channel.subscribe]

theorem receiver?_subscribed {task : Nat} (reports : (s.reporter? task).isSome) :
    (s.subscribed task).receiver? task = some s.channel.nextReceiver := by
  unfold receiver?
  rw [reporter?_subscribed reports]
  rfl

/-- A report that needs to hear of something and cannot does not submit. -/
theorem Reports.waits_of_unread {task : Nat} (h : s.Reports task t)
    (deferred : s.submitsOnAnnotation)
    (nothing : ∀ receiver, s.receiver? task = some receiver → s.channel.unread receiver = []) :
    s.Steps t := by
  cases h with
  | waits t steps => exact steps
  | submits u steps submits cause =>
    cases cause with
    | atOnce atOnce => simp [deferred] at atOnce
    | work receiver e c holds qualifies hears released =>
      have unread := hears.mem_unread
      simp [nothing receiver holds] at unread

/-- A report that just subscribed has heard of nothing. -/
theorem subscribed_waits {task patience : Nat} (sound : s.Sound)
    (starting : s.reporter? task = some .starting) (deferred : s.submitsOnAnnotation) :
    (s.subscribed task).Steps ((s.subscribed task).reportFor task patience) := by
  have reporting : (s.reporter? task).isSome := by simp [starting]
  have sound' : (s.subscribed task).Sound := (Act.subscribe task starting deferred).sound sound
  refine (reportFor_reports sound' task patience).waits_of_unread deferred fun receiver holds => ?_
  obtain rfl : s.channel.nextReceiver = receiver :=
    Option.some.inj ((receiver?_subscribed reporting).symm.trans holds)
  exact (Channel.unread_subscribe sound.channel _).trans (if_pos rfl)

theorem Reports.begins {u : Session} {task : Nat} (h : u.Reports task t) (awaits : Step s u)
    (atOnce : s.submitsOnAnnotation = false) : s.BeginsReport task t := by
  cases h with
  | waits t steps => exact .waits t (.head awaits steps)
  | submits u steps submits cause => exact .submits u (.head awaits steps) submits atOnce

/-- A report begins by subscribing, if it waits for annotation activity. -/
theorem beginReport_begins {task : Nat} (sound : s.Sound)
    (starting : s.reporter? task = some .starting) : s.BeginsReport task (s.beginReport task) := by
  unfold beginReport
  cases graded : s.config.grading with
  | none =>
    have finished : Step s (s.onTask task (Task.setReporter .ended)) := .retire task (.inl graded)
    exact .waits _ finished.steps
  | some grading =>
    simp only
    split
    case isTrue deferred =>
      have deferred : s.submitsOnAnnotation := (deferred_of_grading graded).trans deferred
      exact .subscribes _ deferred (subscribed_waits sound starting deferred)
    case isFalse atOnce =>
      have atOnce : s.submitsOnAnnotation = false :=
        (deferred_of_grading graded).trans (Bool.eq_false_iff.mpr atOnce)
      have awaits : Step s (s.onTask task (Task.setReporter (.awaitingContent none))) :=
        .await task starting atOnce
      exact (reportFor_reports (awaits.steps.sound sound) task _).begins awaits atOnce

end Session

end CourseLaunch.Launch
