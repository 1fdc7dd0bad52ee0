import CourseLaunch.Proofs.Launch.Keeping
import CourseLaunch.Proofs.Launch.Recovery
/-!
# Tasks inside fetches

A task is inside a fetch while its round does not know how the fetch has ended. Between two moves
every such fetch is under way: a round begins its fetches at once, and the end of a call is noted in
the round before anything else happens. So the fetches that a page counts are those that tasks are
inside of, and a fetch that ends was counted.
-/

namespace CourseLaunch.Launch
open Activity Backend Popup

namespace Session

variable {s t : Session}

/-! ### Calls that tasks are inside of -/

/-- A task is inside a call: its round does not know how the fetch has ended, or its report is at
the submission. -/
inductive Inside (s : Session) : CallId → Prop where
  | fetch (task : Nat) (part : Part) (r : Round) (fetches : part ≠ .submission)
      (known : s.round? task = some r) (waits : r.part? part = none) : Inside s ⟨task, part⟩
  | submission (task : Nat) (reports : s.reporter? task = some .submitting) :
      Inside s ⟨task, .submission⟩

/-- Every call that a task is inside of is under way, or among those that are still to begin. -/
def Attends (s : Session) (rest : List CallId) : Prop :=
  ∀ id, s.Inside id → id ∈ s.client.labels ∨ id ∈ rest

/-- A task is inside of a fetch while the fetch is missing from its round. -/
theorem inside_fetch {id : CallId} (fetches : id.part ≠ .submission) :
    s.Inside id ↔ ∃ r, s.round? id.task = some r ∧ r.part? id.part = none := by
  constructor
  · intro inside
    cases inside with
    | fetch task part r fetches known waits => exact ⟨r, known, waits⟩
    | submission task reports => exact absurd rfl fetches
  · rintro ⟨r, known, waits⟩
    exact .fetch id.task id.part r fetches known waits

theorem Inside.congr {id : CallId} (h : t.Inside id) (rounds : ∀ k, t.round? k = s.round? k)
    (reports : ∀ k, t.reporter? k = some .submitting → s.reporter? k = some .submitting) :
    s.Inside id := by
  cases h with
  | fetch task part r fetches known waits =>
    exact .fetch task part r fetches (rounds task ▸ known) waits
  | submission task known => exact .submission task (reports task known)

/-- The end of a fetch takes its task out of it, and no task out of another call. -/
theorem inside_ended {task : Nat} {part : Part} (fetches : part ≠ .submission) {ok : Bool}
    {page : Page} {groups : Option (List String)} {id : CallId}
    (inside : (s.ended task part ok page groups).Inside id) : s.Inside id ∧ id ≠ ⟨task, part⟩ := by
  cases inside with
  | submission k reports =>
    have same : (s.ended task part ok page groups).reporter? k = s.reporter? k :=
      reporter?_mapRound task k _
    exact ⟨.submission k (same ▸ reports), fun same => fetches (CallId.mk.inj same).2.symm⟩
  | fetch k part' r isFetch known waits =>
    rw [round?_ended] at known
    split at known
    case isFalse other =>
      exact ⟨.fetch k part' r isFetch known waits, fun same => other (CallId.mk.inj same).1.symm⟩
    case isTrue own =>
      obtain ⟨before, earlier, rfl⟩ := Option.map_eq_some_iff.mp known
      rw [Round.part?_finish before fetches] at waits
      split at waits
      case isTrue => cases waits
      case isFalse other =>
        exact ⟨.fetch k part' before isFetch earlier waits,
          fun same => other (CallId.mk.inj same).2⟩

/-- A task leaves a call when it ends, and no other one. -/
theorem Follows.inside {id l : CallId} {p : Progress CallId} (h : s.Follows id p t)
    (inside : t.Inside l) : s.Inside l ∧ (l = id → p.2 = none) := by
  cases h with
  | underWay c => exact ⟨inside.congr (fun _ => rfl) (fun _ known => known), fun _ => rfl⟩
  | fetched c result ok page groups fetches settles =>
    obtain ⟨before, other⟩ := inside_ended (s := { s with client := c }) fetches inside
    exact ⟨before.congr (fun _ => rfl) (fun _ known => known), fun same => absurd same other⟩
  | submitted c result page submits settles =>
    cases inside with
    | fetch k part r fetches known waits =>
      have same : (s.onTask id.task (Task.setReporter .ended)).round? k = s.round? k :=
        round?_onTask_setReporter id.task k .ended
      exact ⟨.fetch k part r fetches (same ▸ known) waits,
        fun same => absurd submits (same ▸ fetches)⟩
    | submission k reports =>
      have known : (s.onTask id.task (Task.setReporter .ended)).reporter? k = some .submitting :=
        reports
      rw [reporter?_onTask_setReporter] at known
      split at known
      case isTrue => cases before : s.reporter? k <;> simp [before] at known
      case isFalse other => exact ⟨.submission k known, fun same => absurd (same ▸ rfl) other⟩

theorem labels_of_advances {c : Client CallId} {id l : CallId} {p : Progress CallId}
    (h : c.Advances id p) (known : l ∈ c.labels) (continues : l = id → p.2 = none) :
    l ∈ p.1.labels := by
  cases h with
  | underWay d begun ended accepted labels => exact labels.mem_iff.mpr known
  | ends d result under begun ended accepted labels =>
    rw [labels, List.mem_filter]
    exact ⟨known, by simpa using fun same : l = id => by simpa using continues same⟩

theorem labels_of_begins {c : Client CallId} {id l : CallId} {request : Request}
    {p : Progress CallId} (h : c.Begins id request p) (known : l ∈ c.labels ∨ l = id)
    (continues : l = id → p.2 = none) : l ∈ p.1.labels := by
  cases h with
  | underWay d begun ended accepted labels =>
    rw [labels, List.mem_append, List.mem_filter, List.mem_singleton]
    by_cases own : l = id
    · exact .inr own
    · exact .inl ⟨known.resolve_right own, by simpa using own⟩
  | refused d failure begun ended accepted labels =>
    have other (own : l = id) : False := by simpa using continues own
    exact labels ▸ known.resolve_right other

namespace Attends

variable {rest : List CallId}

/-- A task whose call goes on is inside of it until it ends. -/
theorem advance (attends : s.Attends rest) {id : CallId} {p : Progress CallId}
    (advances : s.client.Advances id p) (follows : s.Follows id p t) : t.Attends rest := by
  intro l inside
  obtain ⟨before, continues⟩ := follows.inside inside
  rw [follows.client]
  exact (attends l before).imp_left fun known => labels_of_advances advances known continues

/-- The call that was still to begin is begun. -/
theorem begins {id : CallId} (attends : s.Attends (id :: rest)) {request : Request}
    {p : Progress CallId} (begins : s.client.Begins id request p) (follows : s.Follows id p t) :
    t.Attends rest := by
  intro l inside
  obtain ⟨before, continues⟩ := follows.inside inside
  have known := attends l before
  rw [List.mem_cons, ← or_assoc] at known
  rw [follows.client]
  exact known.imp_left fun known => labels_of_begins begins known continues

theorem congr (attends : s.Attends rest) (client : t.client = s.client)
    (rounds : ∀ k, t.round? k = s.round? k)
    (reports : ∀ k, t.reporter? k = some .submitting → s.reporter? k = some .submitting) :
    t.Attends rest := by
  intro id inside
  rw [client]
  exact attends id (inside.congr rounds reports)

end Attends

theorem attends_kept (rest : List CallId) : KeptByReports fun s => s.Attends rest where
  hear _ _ attends := attends.congr rfl (fun _ => rfl) fun _ known => known
  goOn _ task r other attends :=
    attends.congr rfl (fun k => round?_onTask_setReporter task k r) fun _ known =>
      reporter?_of_setReporter other known
  submit s task request first attends := by
    refine Attends.begins (fun id inside => ?_) (Client.begin_begins _ _ _) (follow_follows _ _ _)
    cases inside with
    | fetch k part r fetches known waits =>
      have same : (s.onTask task (Task.setReporter .submitting)).round? k = s.round? k :=
        round?_onTask_setReporter task k .submitting
      have inside : s.Inside ⟨k, part⟩ := .fetch k part r fetches (same ▸ known) waits
      exact (attends _ inside).imp_right (List.mem_cons_of_mem _)
    | submission k reports =>
      by_cases own : k = task
      · exact .inr (own ▸ List.mem_cons_self)
      · have known : (s.onTask task (Task.setReporter .submitting)).reporter? k = _ := reports
        rw [reporter?_onTask_setReporter, if_neg (Ne.symm own)] at known
        exact (attends _ (.submission k known)).imp_right (List.mem_cons_of_mem _)

/-! ### Moves -/

theorem round?_onTask_of_ne {task k : Nat} (other : k ≠ task) (change : Task → Task) :
    (s.onTask task change).round? k = s.round? k := by
  unfold round?
  rw [tasks_onTask, List.getElem?_modify]
  simp [Ne.symm other]

theorem reporter?_onTask_const {task k : Nat} {new : Task} (silent : new.reporter? = none)
    {r : Reporter} (known : (s.onTask task fun _ => new).reporter? k = some r) :
    s.reporter? k = some r := by
  unfold reporter? at *
  rw [tasks_onTask, List.getElem?_modify] at known
  split at known
  · cases found : s.tasks[k]? <;> simp [found, silent] at known
  · simpa using known

namespace Attends

/-- A fetch that begins, or is skipped, is no longer still to begin. -/
theorem beginFetch {rest : List CallId} {task : Nat} {part : Part}
    (attends : s.Attends (⟨task, part⟩ :: rest)) (fetches : part ≠ .submission) :
    (s.beginFetch task part).Attends rest := by
  unfold Session.beginFetch
  cases s.endpoint? part with
  | some e =>
    have begun : (s.onPage Page.beginFetch).Attends (⟨task, part⟩ :: rest) :=
      attends.congr rfl (fun _ => rfl) fun _ known => known
    exact begun.begins (Client.begin_begins _ _ _) (follow_follows _ _ _)
  | none =>
    simp only [finishFetch_eq]
    intro id inside
    obtain ⟨before, other⟩ := inside_ended fetches inside
    refine (attends id before).imp_right fun known => ?_
    exact (List.mem_cons.mp known).resolve_left other

theorem beginRound {task : Nat} (attends : s.Attends [⟨task, .content⟩, ⟨task, .groups⟩]) :
    (s.beginRound task).Attends [] := (attends.beginFetch (by simp)).beginFetch (by simp)

/-- A task whose round is new has both fetches still to begin. -/
theorem newRound (attends : s.Attends []) {task : Nat} (client : t.client = s.client)
    (others : ∀ k, k ≠ task → t.round? k = s.round? k)
    (reports : ∀ k, t.reporter? k = some .submitting → s.reporter? k = some .submitting) :
    t.Attends [⟨task, .content⟩, ⟨task, .groups⟩] := by
  intro id inside
  rw [client]
  cases inside with
  | submission k known =>
    exact .inl ((attends _ (.submission k (reports k known))).resolve_right (by simp))
  | fetch k part r fetches known waits =>
    by_cases own : k = task
    · subst own
      refine .inr ?_
      cases part with
      | submission => exact absurd rfl fetches
      | _ => simp
    · have before : s.Inside ⟨k, part⟩ := .fetch k part r fetches (others k own ▸ known) waits
      exact .inl ((attends _ before).resolve_right (by simp))

theorem recover (attends : s.Attends []) (task : Nat) : (s.recover task).Attends [] := by
  have begun : (s.onTask task fun _ => .recovering .begun).Attends _ :=
    attends.newRound rfl (fun _ other => round?_onTask_of_ne other _)
      fun _ known => reporter?_onTask_const rfl known
  exact begun.beginRound

theorem addRound (attends : s.Attends []) {m : Move} {task : Task} (start : m.task? = some task) :
    ((s.add task).beginRound s.nextTask).Attends [] := by
  have begun : (s.add task).Attends _ :=
    attends.newRound rfl (fun k other => (round?_add s task k).trans (if_neg other))
      fun _ known => reporter?_of_add start (by simp) known
  exact begun.beginRound

theorem add (attends : s.Attends []) {m : Move} {task : Task} (start : m.task? = some task)
    (new : task.round? = none) : (s.add task).Attends [] := by
  intro id inside
  cases inside with
  | submission k known => exact attends _ (.submission k (reporter?_of_add start (by simp) known))
  | fetch k part r fetches known waits =>
    rw [round?_add] at known
    split at known
    · simp [new] at known
    · exact attends _ (.fetch k part r fetches known waits)

end Attends

theorem round?_onTask_authorizing {task popup : Nat} (idle : s.tasks[task]? = some .abandoned)
    (k : Nat) : (s.onTask task fun _ => .authorizing popup).round? k = s.round? k := by
  by_cases own : k = task
  · subst own
    simp [Session.round?, idle, Task.round?]
  · exact round?_onTask_of_ne own _

/-- Between two moves every call that a task is inside of is under way. -/
theorem attends_moves : KeptByMoves fun s => s.Attends [] where
  toKeptByReports := attends_kept []
  -- the rounds and reports of all tasks are as before
  aside s t client tasks _ attends := by
    refine attends.congr client (fun k => ?_) fun k known => ?_
    · unfold Session.round?
      rw [tasks]
    · unfold Session.reporter? at known ⊢
      rwa [← tasks]
  fetchAll _ _ attends := attends.addRound (m := .fetchAll) rfl
  abandon _ attends := attends.add (m := .retry) rfl rfl
  watch s task popup idle attends :=
    attends.congr rfl (round?_onTask_authorizing idle) fun _ known =>
      reporter?_onTask_const rfl known
  recover _ task _ _ _ _ attends := attends.recover task
  answer s id a sound attends :=
    attends.advance (Client.answer_advances sound.client.labels_nodup id a)
      (follow_follows s id _)
  resume s id sound attends :=
    attends.advance (Client.resume_advances sound.client.labels_nodup id) (follow_follows s id _)
  report _ task patience attends := (attends_kept []).reportFor attends task patience
  startReport _ _ attends := attends.add (m := .reportSubmission) rfl rfl
  startRun _ _ attends := attends.addRound (m := .run) rfl

/-- No task is inside of a call in the beginning. -/
theorem attends_initial (config : Config) (base : Web.Url) (token : String) (desktop : Desktop) :
    (initial config base token desktop).Attends [] := by
  intro id inside
  cases inside with
  | fetch task part r fetches known waits => simp [Session.round?, initial, ofConfig] at known
  | submission task reports => simp [Session.reporter?, initial, ofConfig] at reports

/-! ### The number of fetches -/

/-- What a history keeps of the fetches. -/
structure Counted (s : Session) : Prop where
  orderly : s.Orderly
  accounted : s.Accounted
  attends : s.Attends []

theorem counted_initial (config : Config) (base : Web.Url) (token : String) (desktop : Desktop) :
    (initial config base token desktop).Counted where
  orderly := orderly_initial config base token desktop
  accounted := accounted_initial config base token desktop
  attends := attends_initial config base token desktop

/-- The count is right after every move. -/
theorem Counted.after (h : s.Counted) (m : Move) : (s.after m).Counted := by
  have acts := acts_after h.orderly.sound m
  exact ⟨h.orderly.acts acts, acts.accounted h.accounted,
    attends_moves.after h.orderly.sound h.attends m⟩

/-- The count is right after every history. -/
theorem Counted.afterAll (h : s.Counted) (moves : List Move) : (s.afterAll moves).Counted :=
  afterAll_induction h (fun _ m h => h.after m) moves

/-- A task is inside a fetch exactly while the fetch is under way. -/
theorem Counted.inside_iff (h : s.Counted) {id : CallId} (fetches : id.part ≠ .submission) :
    s.Inside id ↔ id ∈ s.client.labels := by
  constructor
  · intro inside
    exact (h.attends id inside).resolve_right (by simp)
  · intro underWay
    exact (inside_fetch fetches).mpr (h.accounted.part?_eq_none h.orderly.sound fetches underWay)

theorem isFetch_iff {id : CallId} : id.isFetch ↔ id.part ≠ .submission := by simp [CallId.isFetch]

/-- The fetches that tasks are inside of. -/
def openFetches (s : Session) : List CallId :=
  ((List.range s.tasks.length).flatMap fun task => [⟨task, .content⟩, ⟨task, .groups⟩]).filter
    fun id => (s.round? id.task).any fun r => (r.part? id.part).isNone

theorem nodup_openFetches (s : Session) : s.openFetches.Nodup := by
  refine List.Nodup.filter _ (List.nodup_flatMap.mpr ⟨fun task _ => by simp, ?_⟩)
  refine List.nodup_range.imp fun {task task'} other => ?_
  simp [Function.onFun, List.disjoint_left, other]

/-- The open fetches are those that tasks are inside of. -/
theorem mem_openFetches {id : CallId} : id ∈ s.openFetches ↔ id.isFetch ∧ s.Inside id := by
  obtain ⟨task, part⟩ := id
  unfold openFetches
  rw [List.mem_filter, List.mem_flatMap, Option.any_eq_true, isFetch_iff]
  simp only [List.mem_range, List.mem_cons, CallId.mk.injEq, List.not_mem_nil, or_false,
    Option.isNone_iff_eq_none]
  constructor
  · rintro ⟨⟨k, -, own⟩, waiting⟩
    have fetches : part ≠ .submission := by
      rintro rfl
      rcases own with ⟨-, submits⟩ | ⟨-, submits⟩ <;> cases submits
    exact ⟨fetches, (inside_fetch fetches).mpr waiting⟩
  · rintro ⟨fetches, inside⟩
    obtain ⟨r, known, waits⟩ := (inside_fetch fetches).mp inside
    obtain ⟨t, found, -⟩ := Option.bind_eq_some_iff.mp known
    refine ⟨⟨task, (List.getElem?_eq_some_iff.mp found).1, ?_⟩, r, known, waits⟩
    cases part with
    | submission => exact absurd rfl fetches
    | _ => simp

/-- The page counts the fetches that are open. -/
theorem Counted.pendingFetches (h : s.Counted) :
    s.page.pendingFetches = s.openFetches.length := by
  rw [h.orderly.counts, fetchCount, List.countP_eq_length_filter]
  refine List.Perm.length_eq ((List.perm_ext_iff_of_nodup ?_ s.nodup_openFetches).mpr fun id => ?_)
  · exact h.orderly.sound.client.labels_nodup.filter _
  · rw [List.mem_filter, mem_openFetches, and_comm]
    exact and_congr_right fun isFetch => (h.inside_iff (isFetch_iff.mp isFetch)).symm

/-- Every fetch that was begun has ended or is counted. -/
theorem Counted.conserved (h : s.Counted) :
    s.begunIds.countP CallId.isFetch =
      s.page.pendingFetches + (s.client.ended.map Prod.fst).countP CallId.isFetch := by
  rw [begunIds, h.orderly.sound.client.conserved.countP_eq, List.countP_append,
    h.orderly.counts, fetchCount]

variable (config : Config) (base : Web.Url) (token : String) (desktop : Desktop)

/-- The number of fetches on the page is the number of fetches that tasks are inside of, and those
are the fetches that were begun and have not ended. A fetch without an endpoint is never among them.
Every change of the page that ends a fetch finds it counted, so the number of fetches that were
begun is the number of those that are counted and of those that have ended. -/
theorem pendingFetches_counts (moves : List Move) :
    let s := (initial config base token desktop).afterAll moves
    s.page.pendingFetches = s.openFetches.length ∧ s.openFetches.Nodup ∧
      (∀ id, id ∈ s.openFetches ↔ id.isFetch ∧ s.Inside id) ∧
      (∀ id, id ∈ s.openFetches ↔
        id.isFetch ∧ id ∈ s.begunIds ∧ ∀ result, (id, result) ∉ s.client.ended) ∧
      (∀ id ∈ s.begunIds, id.isFetch → (s.endpoint? id.part).isSome) ∧
      (∀ m, s.page.Path Page.Publishes (s.published m) (s.after m).page) ∧
      s.begunIds.countP CallId.isFetch =
        s.page.pendingFetches + (s.client.ended.map Prod.fst).countP CallId.isFetch ∧
      ((∀ task r, s.round? task = some r → r.outcome?.isSome) → s.page.pendingFetches = 0) := by
  intro s
  have counted : s.Counted := (counted_initial config base token desktop).afterAll moves
  refine ⟨counted.pendingFetches, s.nodup_openFetches, fun id => mem_openFetches, fun id => ?_,
    fun id known isFetch => ?_, counted.orderly.published, counted.conserved, fun finished => ?_⟩
  · rw [mem_openFetches]
    refine and_congr_right fun isFetch => ?_
    rw [counted.inside_iff (isFetch_iff.mp isFetch)]
    refine ⟨fun underWay => ?_, fun ⟨known, open'⟩ => ?_⟩
    · exact ⟨counted.orderly.sound.client.begun_of_label underWay,
        counted.orderly.sound.client.not_ended_of_label underWay⟩
    · refine (counted.orderly.sound.client.underWay_or_ended known).resolve_right ?_
      exact fun ⟨result, ended⟩ => open' result ended
  · exact (counted.accounted.calls id known (isFetch_iff.mp isFetch)).2
  · rw [counted.pendingFetches, List.length_eq_zero_iff, List.eq_nil_iff_forall_not_mem]
    intro id known
    obtain ⟨isFetch, inside⟩ := mem_openFetches.mp known
    have fetches := isFetch_iff.mp isFetch
    -- a fetch that is open keeps its round open
    obtain ⟨r, round, waits⟩ := (inside_fetch fetches).mp inside
    have settled := finished id.task r round
    simp [Round.outcome?_eq_none fetches waits] at settled

/-- Two rounds that overlap: one fetch of each is under way. -/
example : ((sample false).afterAll [.fetchAll, .run]).page.pendingFetches = 2 := by decide +kernel

end Session

end CourseLaunch.Launch
