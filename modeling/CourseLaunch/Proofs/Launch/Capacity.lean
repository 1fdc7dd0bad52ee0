import CourseLaunch.Proofs.Launch.Heeding
/-!
# What a report hears of

A report that waits for work that can be graded hears of it, and something is submitted, as long as
fewer than a whole capacity of events is published before the report goes on. More than that, and
the work may be lost.
-/

namespace CourseLaunch.Launch
open Activity Backend Popup

/-- Whether a report has begun and has not ended. -/
def Reporter.isUnderWay : Reporter → Bool
  | starting | ended => false
  | _ => true

/-- Whether a move publishes annotation activity. -/
def Move.publishes : Move → Bool
  | publish _ => true
  | _ => false

namespace Session

variable {s t : Session}

/-! ### Who holds which receiver -/

/-- Every report holds a receiver of its own, and is subscribed with it. -/
structure Listed (s : Session) : Prop where
  valid : s.channel.Valid
  known : ∀ task receiver, s.receiver? task = some receiver → receiver ∈ s.channel.numbers
  distinct : ∀ task task' receiver, s.receiver? task = some receiver →
    s.receiver? task' = some receiver → task = task'

theorem listed_initial (config : Config) (base : Web.Url) (token : String) (desktop : Desktop) :
    (initial config base token desktop).Listed where
  valid := Channel.valid_fresh
  known task receiver holds := by simp [receiver?, reporter?, initial, ofConfig] at holds
  distinct task task' receiver holds := by
    simp [receiver?, reporter?, initial, ofConfig] at holds

theorem Listed.same (listed : s.Listed) (valid : t.channel.Valid)
    (numbers : t.channel.numbers = s.channel.numbers)
    (receivers : ∀ k, t.receiver? k = s.receiver? k) : t.Listed where
  valid := valid
  known task receiver holds := numbers ▸ listed.known task receiver (receivers task ▸ holds)
  distinct task task' receiver holds holds' :=
    listed.distinct task task' receiver (receivers task ▸ holds) (receivers task' ▸ holds')

/-- A report that has nothing left to hold lets the others keep what they have. -/
theorem Listed.less (listed : s.Listed) (valid : t.channel.Valid) {task : Nat}
    (own : t.receiver? task = none) (others : ∀ k, k ≠ task → t.receiver? k = s.receiver? k)
    (numbers : ∀ k receiver, k ≠ task → s.receiver? k = some receiver →
      receiver ∈ t.channel.numbers) : t.Listed := by
  have before (k receiver : Nat) (holds : t.receiver? k = some receiver) :
      k ≠ task ∧ s.receiver? k = some receiver := by
    have other : k ≠ task := by
      rintro rfl
      simp [own] at holds
    exact ⟨other, (others k other).symm.trans holds⟩
  refine ⟨valid, fun k receiver holds => ?_, fun k k' receiver holds holds' => ?_⟩
  · exact numbers k receiver (before k receiver holds).1 (before k receiver holds).2
  · exact listed.distinct k k' receiver (before k receiver holds).2 (before k' receiver holds').2

theorem Listed.mem_unsubscribe (listed : s.Listed) {c : Channel}
    (numbers : c.numbers = s.channel.numbers) {task receiver : Nat}
    (holds : s.receiver? task = some receiver) (k r : Nat) (other : k ≠ task)
    (holds' : s.receiver? k = some r) : r ∈ (c.unsubscribe receiver).numbers := by
  have differs : r ≠ receiver := by
    rintro rfl
    exact other (listed.distinct k task r holds' holds)
  rw [Channel.numbers_unsubscribe, numbers]
  exact List.mem_filter.mpr ⟨listed.known k r holds', by simpa using differs⟩

/-- Every receiver that a task holds is still on the list, and no two tasks share one. -/
theorem Heeds.listed (h : s.Heeds t) (listed : s.Listed) : t.Listed := by
  cases h with
  | apart channel receivers submitted =>
    exact listed.same (channel ▸ listed.valid) (by rw [channel]) receivers
  | receives task receiver received holds receives idle receivers submitted =>
    exact listed.same ((Channel.quiet_receive receives).valid listed.valid)
      (Channel.numbers_receive receives) receivers
  | closes channel receivers submitted =>
    exact listed.same (channel ▸ (Channel.quiet_close _).valid listed.valid)
      (by rw [channel]; rfl) receivers
  | ends task channel own others submitted =>
    refine listed.less (channel ▸ listed.valid) own others fun k r other holds => ?_
    rw [channel]
    exact listed.known k r holds
  | submits task receiver e c holds receives channel own others submitted =>
    have quiet := Channel.quiet_receive receives
    have valid : c.Valid := quiet.valid listed.valid
    refine listed.less ?_ own others fun k r other holds' => ?_
    · rw [channel]
      exact (Channel.quiet_unsubscribe valid receiver).valid valid
    · rw [channel]
      exact listed.mem_unsubscribe (Channel.numbers_receive receives) holds k r other holds'
  | retires task receiver c holds closed channel own others submitted =>
    refine listed.less ?_ own others fun k r other holds' => ?_
    · rw [channel]
      exact (Channel.quiet_unsubscribe listed.valid receiver).valid listed.valid
    · rw [channel]
      exact listed.mem_unsubscribe rfl holds k r other holds'
  | takes task channel own others first submitted =>
    have kept (k receiver : Nat) (other : k ≠ task) (holds : t.receiver? k = some receiver) :
        s.receiver? k = some receiver := (others k other).symm.trans holds
    -- the number of the new receiver was never given before
    have new (k : Nat) (holds : s.receiver? k = some s.channel.nextReceiver) : False :=
      Nat.lt_irrefl _ (listed.valid.numbers _ (listed.known k _ holds))
    refine ⟨channel ▸ Channel.valid_subscribe listed.valid, fun k receiver holds => ?_,
      fun k k' receiver holds holds' => ?_⟩
    · rw [channel, Channel.numbers_subscribe, List.mem_append, List.mem_singleton]
      by_cases same : k = task
      · subst same
        exact .inr (Option.some.inj (holds.symm.trans own))
      · exact .inl (listed.known k receiver (kept k receiver same holds))
    · by_cases same : k = task
      · by_cases same' : k' = task
        · exact same.trans same'.symm
        · subst same
          obtain rfl : receiver = _ := Option.some.inj (holds.symm.trans own)
          exact (new k' (kept k' _ same' holds')).elim
      · by_cases same' : k' = task
        · subst same'
          obtain rfl : receiver = _ := Option.some.inj (holds'.symm.trans own)
          exact (new k (kept k _ same holds)).elim
        · exact listed.distinct k k' receiver (kept k _ same holds) (kept k' _ same' holds')

/-- The list of receivers is right on the whole way. -/
theorem Heeding.listed (h : s.Heeding t) (listed : s.Listed) : t.Listed := by
  induction h with
  | refl => exact listed
  | tail _ heeds ih => exact heeds.listed ih

theorem listed_publish (listed : s.Listed) (e : Event) : (s.after (.publish e)).Listed :=
  listed.same (Channel.valid_publish listed.valid e)
    (congrArg (List.map Prod.fst) (Channel.receivers_publish s.channel e)) fun _ => rfl

/-! ### What is ahead of a report -/

/-- An event that a task has not heard of yet. -/
structure Awaited (s : Session) (task receiver target : Nat) (e : Event) : Prop where
  holds : s.receiver? task = some receiver
  ahead : s.channel.Ahead receiver target e

variable {task receiver target : Nat} {e : Event}

/-- What was submitted stays submitted. -/
theorem Heeds.isSubmitted (h : s.Heeds t) (before : s.isSubmitted) : t.isSubmitted := by
  cases h with
  | submits k r e c holds receives channel own others submitted => exact submitted
  | ends k channel own others submitted => exact submitted
  | apart channel receivers submitted => exact submitted before
  | takes k channel own others first submitted => exact submitted before
  | receives k r received holds receives idle receivers submitted => exact submitted before
  | retires k r c holds closed channel own others submitted => exact submitted before
  | closes channel receivers submitted => exact submitted before

/-- An event stays ahead of a report, unless something is submitted. -/
theorem Heeds.awaited (h : s.Heeds t) (listed : s.Listed) (qualifies : e.qualifies)
    (awaited : s.isSubmitted ∨ s.Awaited task receiver target e) :
    t.isSubmitted ∨ t.Awaited task receiver target e := by
  rcases awaited with before | ⟨holds, ahead⟩
  · exact .inl (h.isSubmitted before)
  · cases h with
    | submits k r e' c holds receives channel own others submitted => exact .inl submitted
    | ends k channel own others submitted => exact .inl submitted
    | apart channel receivers submitted =>
      exact .inr ⟨(receivers task).trans holds, channel ▸ ahead⟩
    | closes channel receivers submitted =>
      exact .inr ⟨(receivers task).trans holds, channel ▸ ahead.close⟩
    | takes k channel own others first submitted =>
      have other : task ≠ k := by
        rintro rfl
        simp [first] at holds
      exact .inr ⟨(others task other).trans holds, channel ▸ ahead.subscribe listed.valid⟩
    | receives k r received holds' receives idle receivers submitted =>
      refine .inr ⟨(receivers task).trans holds, ?_⟩
      by_cases own : task = k
      · obtain rfl : receiver = r := by
          rw [own] at holds
          exact Option.some.inj (holds.symm.trans holds')
        refine ahead.receive receives fun same => ?_
        simp [idle e same] at qualifies
      · refine ahead.receive_other receives fun same => own ?_
        exact listed.distinct task k receiver holds (same ▸ holds')
    | retires k r c holds' closed channel own others submitted =>
      -- the end of the activity comes behind the event, so it was another report that retired
      have other : task ≠ k := by
        rintro rfl
        obtain rfl : receiver = r := Option.some.inj (holds.symm.trans holds')
        exact ahead.not_closed closed
      have differs : receiver ≠ r := fun same =>
        other (listed.distinct task k receiver holds (same ▸ holds'))
      exact .inr ⟨(others task other).trans holds, channel ▸ ahead.unsubscribe_other differs⟩

/-- An event that a report waits for is not missed on the way, unless the submission was begun. -/
theorem Heeding.awaited (h : s.Heeding t) (listed : s.Listed) (qualifies : e.qualifies)
    (awaited : s.isSubmitted ∨ s.Awaited task receiver target e) :
    t.isSubmitted ∨ t.Awaited task receiver target e := by
  induction h with
  | refl => exact awaited
  | tail steps heeds ih => exact heeds.awaited (Heeding.listed steps listed) qualifies ih

/-- Tasks publish nothing. -/
theorem Heeds.published (h : s.Heeds t) : t.channel.published = s.channel.published := by
  cases h with
  | apart channel receivers submitted => rw [channel]
  | takes k channel own others first submitted => rw [channel]; rfl
  | receives k r received holds receives idle receivers submitted =>
    exact (Channel.quiet_receive receives).published
  | submits k r e c holds receives channel own others submitted =>
    rw [channel]
    exact (Channel.quiet_receive receives).published
  | retires k r c holds closed channel own others submitted => rw [channel]; rfl
  | ends k channel own others submitted => rw [channel]
  | closes channel receivers submitted => rw [channel]; rfl

theorem Heeding.published (h : s.Heeding t) : t.channel.published = s.channel.published := by
  induction h with
  | refl => rfl
  | tail _ heeds ih => exact heeds.published.trans ih

/-! ### Channels and submissions -/

/-- A channel that keeps what it can, with no receiver beyond its end, and a submission that was
begun when that is noted. -/
structure Noted (s : Session) : Prop where
  full : s.channel.Full
  behind : s.channel.Behind
  begun : s.isSubmitted → s.submissions ≠ []
  submitting : ∀ task, s.reporter? task = some .submitting → s.isSubmitted

theorem noted_initial (config : Config) (base : Web.Url) (token : String) (desktop : Desktop) :
    (initial config base token desktop).Noted where
  full := Channel.full_fresh
  behind := Channel.behind_fresh
  begun before := by cases before
  submitting task known := by simp [reporter?, initial, ofConfig] at known

/-- No step moves a receiver beyond what was published. -/
theorem Step.behind (h : Step s t) (noted : s.Noted) : t.channel.Behind := by
  cases h with
  | fetch id e p t fetches endpoint busy new begins follows =>
    rw [follows.channel]
    exact noted.behind
  | advance id p t advances follows =>
    rw [follows.channel]
    exact noted.behind
  | hear task receiver received channel listening receives =>
    exact noted.behind.receive noted.full receives
  | leave task receiver listening => exact noted.behind.unsubscribe receiver
  | authorize task path t idle allowed page authorizes =>
    cases authorizes <;> exact noted.behind
  | _ => exact noted.behind

theorem TaskStep.submitting {deferred ready : Bool} {a b : Option Task}
    (h : TaskStep deferred ready a b)
    (submits : b.bind Task.reporter? = some .submitting) :
    a.bind Task.reporter? = some .submitting := by
  rcases h.reporter submits with before | may
  · exact before
  · cases may

/-- What is noted of the receivers stays right with every act. -/
theorem Act.noted (h : Act s t) (sound : s.Sound) (noted : s.Noted) : t.Noted := by
  cases h with
  | step t step =>
    refine ⟨(step.channel sound.channel).full noted.full, step.behind noted, fun before => ?_,
      fun k known => ?_⟩
    · rw [step.submissions]
      exact noted.begun (step.isSubmitted ▸ before)
    · rw [step.isSubmitted]
      exact noted.submitting k ((step.task k).submitting known)
  | join m task start =>
    exact ⟨noted.full, noted.behind, noted.begun,
      fun k known => noted.submitting k (reporter?_of_add start (by simp) known)⟩
  | publish e =>
    exact ⟨Channel.full_publish noted.full e, noted.behind.publish e, noted.begun,
      noted.submitting⟩
  | subscribe k starting deferred =>
    exact ⟨noted.full, noted.behind.subscribe sound.channel, noted.begun,
      fun k known => noted.submitting k (reporter?_of_setReporter (by simp) known)⟩
  | submit k grading p t reports graded first ready begins follows =>
    have submitted : t.isSubmitted := follows.isSubmitted
    refine ⟨?_, ?_, fun _ => ?_, fun _ _ => submitted⟩
    · rw [follows.channel]
      exact noted.full
    · rw [follows.channel]
      exact noted.behind
    · rw [submissions_of_begins rfl begins follows.client]
      simp

/-- What is noted of the receivers is right on the whole way. -/
theorem Acts.noted (h : s.Acts t) (sound : s.Sound) (noted : s.Noted) : t.Noted := by
  induction h with
  | refl => exact noted
  | tail acts act ih => exact act.noted (Acts.sound acts sound) ih

theorem Acts.isSubmitted (h : s.Acts t) (submitted : s.isSubmitted) : t.isSubmitted := by
  induction h with
  | refl => exact submitted
  | tail _ act ih =>
    cases act with
    | step t step => exact step.isSubmitted.trans ih
    | submit k grading p t reports graded first ready begins follows => exact follows.isSubmitted
    | _ => exact ih

/-! ### A report that goes on -/

/-- How often a report has to receive until it gets the event at a position. -/
def distance (c : Channel) (position target : Nat) : Nat :=
  target + 1 - max position c.oldest + if position < c.oldest then 1 else 0

theorem receive?_of_lookup {c : Channel} {position : Nat}
    (stands : c.receivers.lookup receiver = some position) :
    c.receive? receiver = some ((c.next position).1, c.move receiver (c.next position).2) := by
  simp [Channel.receive?, stands]

/-- A report that receives often enough gets to an event ahead of it, and has submitted then, for
this work or for other work before it. -/
theorem listen_submits {position : Nat} (patience : Nat) (graded : s.config.grading.isSome)
    (stands : s.channel.receivers.lookup receiver = some position) (before : position ≤ target)
    (known : s.channel.event? target = some e) (qualifies : e.qualifies)
    (enough : distance s.channel position target ≤ patience) :
    (s.listen patience task receiver).isSubmitted := by
  have first := Channel.oldest_le known
  -- the distance to the event shrinks with every receive, and patience covers it
  induction patience generalizing s position with
  | zero =>
    unfold distance at enough
    omega
  | succ patience ih =>
    have goOn {next : Nat} (after : next ≤ target)
        (enough : distance s.channel next target ≤ patience) :
        (listen patience { s with channel := s.channel.move receiver next } task
          receiver).isSubmitted := by
      refine ih (s := { s with channel := s.channel.move receiver next }) graded ?_ after known
        enough first
      rw [Channel.lookup_move, if_pos rfl, stands]
      rfl
    unfold listen
    rw [receive?_of_lookup stands]
    -- a receiver that fell behind is told so once, and stands at the oldest event then
    by_cases lost : position < s.channel.oldest
    · have next : s.channel.next position =
          (.lagged (s.channel.oldest - position), s.channel.oldest) := by
        simp only [Channel.next, if_pos lost]
      rw [next]
      refine goOn first ?_
      unfold distance at *
      rw [if_pos lost] at enough
      rw [if_neg (Nat.lt_irrefl _)]
      omega
    · obtain ⟨e', found⟩ : ∃ e', s.channel.event? position = some e' := by
        have inside := Channel.lt_length known
        refine ⟨s.channel.kept[position - s.channel.oldest], ?_⟩
        unfold Channel.event?
        rw [if_neg lost, List.getElem?_eq_getElem]
      rw [Channel.next_of_event? found]
      simp only
      split
      case isTrue => exact isSubmitted_submit graded
      case isFalse idle =>
        have other : position ≠ target := by
          rintro rfl
          obtain rfl : e' = e := Option.some.inj (found.symm.trans known)
          exact idle qualifies
        refine goOn (by omega) ?_
        unfold distance at *
        rw [if_neg lost] at enough
        rw [if_neg (by omega)]
        omega

/-- The events that are kept are enough to get to any of them. -/
theorem distance_le_backlog {c : Channel} {position : Nat}
    (known : c.event? target = some e) : distance c position target ≤ c.backlog := by
  have first := Channel.oldest_le known
  have inside := Channel.lt_length known
  unfold distance Channel.backlog
  split <;> omega

/-- A report that comes to its event makes the submission. -/
theorem report_submits (graded : s.config.grading.isSome) (ready : s.page.contentReady)
    (awaited : s.Awaited task receiver target e) (qualifies : e.qualifies) :
    (s.report task).isSubmitted := by
  obtain ⟨position, stands, before⟩ := awaited.ahead.position
  have known := awaited.ahead.event
  obtain ⟨reporter, reports, holds⟩ := Option.bind_eq_some_iff.mp awaited.holds
  have reports' : s.tasks[task]?.bind Task.reporter? = some reporter := reports
  -- the backlog is as long as the way to any event that is kept
  unfold report reportFor
  rw [reports']
  cases reporter with
  | awaitingContent r =>
    obtain rfl : r = some receiver := holds
    simp only [ready, if_true]
    exact listen_submits (s := s.onTask task (Task.setReporter (.listening receiver)))
      s.channel.backlog graded stands before known qualifies (distance_le_backlog known)
  | listening r =>
    obtain rfl : r = receiver := Option.some.inj holds
    exact listen_submits s.channel.backlog graded stands before known qualifies
      (distance_le_backlog known)
  | _ => cases holds

/-! ### Histories -/

/-- The list of receivers is right after every move. -/
theorem listed_after (sound : s.Sound) (deferred : s.submitsOnAnnotation) (listed : s.Listed)
    (m : Move) : (s.after m).Listed := by
  cases m with
  | publish e => exact listed_publish listed e
  | _ => exact (after_heeds sound deferred _ (by simp)).listed listed

theorem deferred_after (sound : s.Sound) (deferred : s.submitsOnAnnotation) (m : Move) :
    submitsOnAnnotation (s.after m) :=
  (deferred_congr (acts_after sound m).config).trans deferred

/-- The list of receivers is right after every history. -/
theorem listed_afterAll (sound : s.Sound) (deferred : s.submitsOnAnnotation) (listed : s.Listed)
    (moves : List Move) : (s.afterAll moves).Listed := by
  induction moves generalizing s with
  | nil => exact listed
  | cons m moves ih =>
    exact ih (sound_after sound m) (deferred_after sound deferred m)
      (listed_after sound deferred listed m)

/-- A move publishes one event at most. -/
theorem published_after (sound : s.Sound) (deferred : s.submitsOnAnnotation) (m : Move) :
    (s.after m).channel.published ≤ s.channel.published + if m.publishes then 1 else 0 := by
  cases m with
  | publish e => exact Channel.published_publish_le s.channel e
  | _ => exact Nat.le_of_eq (after_heeds sound deferred _ (by simp)).published

/-- One move: an event that is ahead stays ahead, or something was submitted. Only a publication
needs room for it. -/
theorem awaited_after (sound : s.Sound) (deferred : s.submitsOnAnnotation) (listed : s.Listed)
    (noted : s.Noted) (qualifies : e.qualifies)
    (awaited : s.isSubmitted ∨ s.Awaited task receiver target e) (m : Move)
    (room : m.publishes → s.channel.published < target + capacity) :
    (s.after m).isSubmitted ∨ (s.after m).Awaited task receiver target e := by
  cases m with
  | publish e' =>
    exact awaited.imp id fun awaited =>
      ⟨awaited.holds, awaited.ahead.publish noted.full e' (room rfl)⟩
  | _ => exact (after_heeds sound deferred _ (by simp)).awaited listed qualifies awaited

/-- Any number of moves, as long as there is room for what they publish. -/
theorem awaited_afterAll (sound : s.Sound) (deferred : s.submitsOnAnnotation) (listed : s.Listed)
    (noted : s.Noted) (qualifies : e.qualifies)
    (awaited : s.isSubmitted ∨ s.Awaited task receiver target e) (moves : List Move)
    (room : s.channel.published + moves.countP Move.publishes ≤ target + capacity) :
    (s.afterAll moves).isSubmitted ∨ (s.afterAll moves).Awaited task receiver target e := by
  induction moves generalizing s with
  | nil => exact awaited
  | cons m moves ih =>
    have published := published_after sound deferred m
    rw [List.countP_cons] at room
    refine ih (sound_after sound m) (deferred_after sound deferred m)
      (listed_after sound deferred listed m) ((acts_after sound m).noted sound noted)
      (awaited_after sound deferred listed noted qualifies awaited m fun publishes => ?_) ?_
    · rw [if_pos publishes] at room
      omega
    · omega

/-- When a report is under way, work that is published is ahead of it, or something was submitted
before. -/
theorem awaited_of_underWay (sound : s.Sound) (deferred : s.submitsOnAnnotation)
    (listed : s.Listed) (noted : s.Noted)
    (underWay : (s.reporter? task).any Reporter.isUnderWay) (isOpen : s.channel.isOpen)
    (e : Event) : (s.after (.publish e)).isSubmitted ∨
      ∃ receiver, (s.after (.publish e)).Awaited task receiver s.channel.published e := by
  have holding {receiver : Nat} (holds : s.receiver? task = some receiver) :
      (s.after (.publish e)).Awaited task receiver s.channel.published e := by
    obtain ⟨position, stands⟩ :=
      Channel.exists_lookup (listed.known task receiver holds)
    exact ⟨holds, Channel.ahead_publish noted.full isOpen e
      ⟨position, stands, noted.behind receiver position stands⟩⟩
  obtain ⟨reporter, known, underWay⟩ := (Option.any_eq_true _ _).mp underWay
  cases reporter with
  | starting => cases underWay
  | ended => cases underWay
  | submitting => exact .inl (noted.submitting task known)
  | listening receiver =>
    exact .inr ⟨receiver, holding (by simp [receiver?, known, Reporter.receiver?])⟩
  | awaitingContent receiver =>
    cases receiver with
    | none => exact absurd (sound.patient task known) (by simp [deferred])
    | some receiver =>
      exact .inr ⟨receiver, holding (by simp [receiver?, known, Reporter.receiver?])⟩

/-- A task that goes on with its report has it submitted when its event was published. -/
theorem isSubmitted_report_of_awaited (deferred : s.submitsOnAnnotation) (sound : s.Sound)
    (ready : s.page.contentReady) (qualifies : e.qualifies)
    (awaited : s.isSubmitted ∨ s.Awaited task receiver target e) :
    (s.report task).isSubmitted := by
  obtain ⟨grading, graded, -⟩ := (Option.any_eq_true _ _).mp deferred
  rcases awaited with before | awaited
  · exact Acts.isSubmitted (reportFor_reports sound task _).acts before
  · exact report_submits (Option.isSome_iff_exists.mpr ⟨grading, graded⟩) ready awaited qualifies

/-- A report that is under way when work is published has submitted when it has gone on, if no more
was published than the channel keeps. -/
theorem report_hears (sound : s.Sound) (deferred : s.submitsOnAnnotation) (listed : s.Listed)
    (noted : s.Noted) (underWay : (s.reporter? task).any Reporter.isUnderWay)
    (isOpen : s.channel.isOpen) (qualifies : e.qualifies) (since : List Move)
    (room : since.countP Move.publishes < capacity)
    (ready : ((s.after (.publish e)).afterAll since).page.contentReady) :
    (((s.after (.publish e)).afterAll since).report task).isSubmitted := by
  have sound' := sound_after sound (.publish e)
  have deferred' := deferred_after sound deferred (.publish e)
  have listed' := listed_after sound deferred listed (.publish e)
  have noted' := (acts_after sound (.publish e)).noted sound noted
  have published : (s.after (.publish e)).channel.published = s.channel.published + 1 :=
    Channel.published_publish isOpen e
  obtain ⟨receiver, awaited⟩ : ∃ receiver, (s.after (.publish e)).isSubmitted ∨
      (s.after (.publish e)).Awaited task receiver s.channel.published e := by
    rcases awaited_of_underWay sound deferred listed noted underWay isOpen e with before | ahead
    · exact ⟨0, .inl before⟩
    · exact ahead.imp fun _ => .inr
  have kept := awaited_afterAll sound' deferred' listed' noted' qualifies awaited since (by omega)
  exact isSubmitted_report_of_awaited
    ((deferred_congr (acts_afterAll sound' since).config).trans deferred')
    (sound_afterAll sound' since) ready qualifies kept

variable (config : Config) (base : Web.Url) (token : String) (desktop : Desktop)

/-- When work that can be graded is published while a report is under way, and fewer than a whole
capacity of events is published after it, then the submission is begun once the content is known and
the report has gone on as far as it can. -/
theorem gradable_work_reported (before since more : List Move) (e : Event) (task : Nat)
    (deferred : config.grading.any Grading.submitOnAnnotation) (qualifies : e.qualifies)
    (underWay : (((initial config base token desktop).afterAll before).reporter? task).any
      Reporter.isUnderWay)
    (isOpen : ((initial config base token desktop).afterAll before).channel.isOpen)
    (room : since.countP Move.publishes < capacity)
    (ready : ((initial config base token desktop).afterAll
      (before ++ .publish e :: since)).page.contentReady) :
    let s := (initial config base token desktop).afterAll (before ++ .publish e :: since)
    ((s.report task).afterAll more).submissions ≠ [] := by
  intro s
  have initially := sound_initial config base token desktop
  have acts := acts_afterAll initially before
  have noted := noted_initial config base token desktop
  have listed := listed_afterAll initially deferred (listed_initial config base token desktop)
    before
  have same : s = (((initial config base token desktop).afterAll before).after
      (.publish e)).afterAll since := by
    simp only [s, afterAll_append, afterAll_cons]
  have submitted : (s.report task).isSubmitted := by
    have reached : s.page.contentReady := ready
    rw [same] at reached ⊢
    exact report_hears (acts.sound initially) ((deferred_congr acts.config).trans deferred) listed
      (acts.noted initially noted) underWay isOpen qualifies since room reached
  -- the submission is in the journal, and stays there
  have sound : s.Sound := sound_afterAll initially _
  have goesOn : s.Acts (s.report task) := (reportFor_reports sound task _).acts
  have later : (s.report task).Acts ((s.report task).afterAll more) :=
    acts_afterAll (goesOn.sound sound) more
  have whole : (initial config base token desktop).Acts ((s.report task).afterAll more) :=
    ((acts_afterAll initially _).trans goesOn).trans later
  exact (whole.noted initially noted).begun (later.isSubmitted submitted)

/-- Work that is published with fifteen events behind it is reported. -/
theorem burst_within_capacity_reported :
    (((sample true).afterAll ([.reportSubmission] ++ .publish ⟨.create, true⟩ ::
      List.replicate 15 (.publish ⟨.delete, true⟩))).report 0).submissions ≠ [] :=
  gradable_work_reported (sample true).config (sample true).client.base (sample true).client.token
    (sample true).desktop [.reportSubmission] (List.replicate 15 (.publish ⟨.delete, true⟩)) []
    ⟨.create, true⟩ 0 rfl rfl (by decide +kernel) (by decide +kernel) (by decide +kernel)
    (by decide +kernel)

/-- A whole capacity of other events takes the work away from a report that has not gone on in
between, so nothing is submitted though the content is known. -/
theorem burst_loses_work :
    let s := (sample true).afterAll ([.reportSubmission, .publish ⟨.create, true⟩] ++
      List.replicate capacity (.publish ⟨.delete, true⟩))
    s.page.contentReady ∧ (s.report 0).submissions = [] ∧
      (s.report 0).reporter? 0 = some (.listening 0) ∧ (s.report 0).channel.hasNews 0 = false := by
  decide +kernel

end Session

end CourseLaunch.Launch
