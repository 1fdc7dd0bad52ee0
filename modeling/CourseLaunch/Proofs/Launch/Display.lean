import CourseLaunch.Proofs.Launch.Superseded
/-!
# What is on the screen

A page shows the spinner, the content or a dialog, and a dialog tells of its error unless the user
has to authorize. The spinner is for the first fetch of the content only: when one has ended, the
content is known or there is an error, and an error is only taken away by a retry that has fetched
the content itself.
-/

namespace CourseLaunch.Launch
open Activity Backend Popup

namespace Page

variable {p q : Page}

/-- Everything that a page knows of an error, it may tell. -/
structure Told (p : Page) : Prop where
  silent : p.problem = none → p.lastError = none
  explained : ∀ problem, p.problem = some problem → problem ≠ .authorizing → p.lastError.isSome

/-- What is seen of a page: one thing at a time, no error behind the content, and a dialog that
tells of its error. -/
structure Honest (p : Page) : Prop where
  one : [p.view.showSpinner, p.view.iframeUrl.isSome, p.view.dialog.isSome].count true = 1
  silent : p.problem = none → p.lastError = none
  explained : ∀ dialog, p.view.dialog = some dialog →
    (dialog.error.isSome ↔ dialog.problem ≠ .authorizing)

theorem told_initial (contentUrl : Option String) : (initial contentUrl).Told :=
  ⟨fun _ => rfl, fun _ shown => by simp [initial] at shown⟩

theorem Told.fail (told : p.Told) (problem : Problem) (report : Report)
    (authorizationUrl : Option String) : (p.fail problem report authorizationUrl).Told := by
  unfold Page.fail
  split
  · exact told
  · refine ⟨fun none => (by cases none), fun other shown explained => ?_⟩
    obtain rfl : problem = other := Option.some.inj shown
    simp [explained]

theorem Told.recover (told : p.Told) : p.recover.Told := by
  unfold Page.recover
  split
  · exact told
  · exact ⟨fun _ => rfl, fun _ shown => by cases shown⟩

/-- A page that tells its error in full still does so after every change. -/
theorem Alters.told (h : p.Alters q) (told : p.Told) : q.Told := by
  cases h with
  | failFetch f authorizationUrl => exact told.fail _ _ _
  | failAuthorization f => exact told.fail _ _ _
  | failSubmission f first => exact ⟨fun none => (by cases none), fun _ _ _ => rfl⟩
  | askAuthorization allowed =>
    refine ⟨fun none => (by cases none), fun problem shown other => ?_⟩
    exact absurd (by simpa [Page.askAuthorization] using shown.symm) other
  | blockAuthorization message asked =>
    exact ⟨fun none => by simp [Page.blockAuthorization, asked] at none, fun _ _ _ => rfl⟩
  | _ => exact ⟨told.silent, told.explained⟩

/-- A page that tells its error in full shows one thing at a time. -/
theorem Told.honest (told : p.Told) : p.Honest where
  one := by
    unfold view
    cases p.problem with
    | some problem => rfl
    | none => cases p.contentUrl <;> rfl
  silent := told.silent
  explained dialog shown := by
    unfold view at shown
    cases known : p.problem with
    | none => simp [known] at shown
    | some problem =>
      obtain rfl : p.dialogFor problem = dialog := by simpa [known] using shown
      by_cases authorizing : problem = .authorizing
      · simp [dialogFor, authorizing]
      · simpa [dialogFor, authorizing] using told.explained problem known authorizing

theorem showSpinner_iff (p : Page) :
    p.view.showSpinner ↔ p.problem = none ∧ p.contentUrl = none := by
  unfold view
  cases p.problem <;> simp

theorem contentUrl_fail (p : Page) (problem : Problem) (report : Report)
    (authorizationUrl : Option String) :
    (p.fail problem report authorizationUrl).contentUrl = p.contentUrl := by
  unfold fail
  split <;> rfl

theorem contentUrl_recover (p : Page) : p.recover.contentUrl = p.contentUrl := by
  unfold recover
  split <;> rfl

/-- The content stays known. -/
theorem Alters.contentUrl (h : p.Alters q) (known : p.contentUrl.isSome) :
    q.contentUrl.isSome := by
  cases h with
  | showContent url => rfl
  | failFetch f authorizationUrl => exact (contentUrl_fail p _ _ _).symm ▸ known
  | failAuthorization f => exact (contentUrl_fail p _ _ _).symm ▸ known
  | _ => exact known

/-- A page that may follow another one: the content stays known, and the spinner stays away. -/
structure Precedes (p q : Page) : Prop where
  content : p.contentUrl.isSome → q.contentUrl.isSome
  spinner : q.view.showSpinner → p.view.showSpinner

theorem Precedes.refl (p : Page) : p.Precedes p := ⟨id, id⟩

theorem Precedes.trans {r : Page} (h : p.Precedes q) (h' : q.Precedes r) : p.Precedes r :=
  ⟨fun known => h'.content (h.content known), fun shown => h.spinner (h'.spinner shown)⟩

/-- Pages that follow one another all follow the first one. -/
theorem Path.precedes {pages : List Page} (h : p.Path Precedes pages q) :
    ∀ x ∈ p :: pages, p.Precedes x :=
  h.related Precedes.refl fun _ _ _ => Precedes.trans

/-- No change takes away the content or an error, the recovery of a retry apart. -/
theorem Alters.precedes (h : p.Alters q) : p.Precedes q where
  content := h.contentUrl
  spinner shown := by
    rw [showSpinner_iff] at shown ⊢
    constructor
    · by_contra error
      have still := h.problem (Option.isSome_iff_ne_none.mpr error)
      simp [shown.1] at still
    · by_contra known
      have still := h.contentUrl (Option.isSome_iff_ne_none.mpr known)
      simp [shown.2] at still

/-- A retry may clear the error once the content is known. -/
theorem precedes_recover (ready : p.contentReady) : p.Precedes p.recover where
  content := by rw [contentUrl_recover]; exact id
  spinner shown := by
    rw [showSpinner_iff, contentUrl_recover] at shown
    simp [contentReady, shown.2] at ready

/-- All that is published tells its error in full. -/
theorem Publishes.told (h : p.Publishes q) (told : p.Told) : q.Told := by
  cases h with
  | change q alters => exact alters.told told
  | recover => exact told.recover

/-- All pages on the way tell their errors in full. -/
theorem Path.told {pages : List Page} (h : p.Path Publishes pages q) (told : p.Told) :
    ∀ x ∈ p :: pages, x.Told := h.keeps (fun _ _ publishes => publishes.told) told

end Page

namespace Session

variable {s t : Session}

/-! ### What the end of a fetch leaves behind -/

/-- A retry has fetched everything. -/
def HasRecovered (s : Session) : Prop :=
  ∃ (task : Nat) (r : Round), s.tasks[task]? = some (.recovering r) ∧ r.outcome? = some true

/-- The end of a fetch takes an error away only at the end of a retry. -/
theorem problem_ended {page : Page} (shown : page.problem.isSome) (task : Nat) (part : Part)
    (ok : Bool) (groups : Option (List String)) :
    let t := s.ended task part ok (s.pageAfter task part ok page) groups
    t.page.problem.isSome ∨ t.HasRecovered := by
  intro t
  have found : t.tasks[task]? =
      s.tasks[task]?.map (Task.mapRound fun round => round.finish part ok) :=
    List.getElem?_modify_eq _ _ _
  by_cases recovered :
      (s.tasks[task]?.map (Task.mapRound fun round => round.finish part ok)).any Task.hasRecovered
  · obtain ⟨after, known, done⟩ := (Option.any_eq_true _ _).mp recovered
    cases after with
    | recovering r =>
      exact .inr ⟨task, r, found.trans known, by simpa [Task.hasRecovered] using done⟩
    | _ => simp [Task.hasRecovered] at done
  · refine .inl ?_
    show (s.pageAfter task part ok page).problem.isSome
    unfold pageAfter
    rwa [if_neg recovered]

theorem Settles.problem {part : Part} {result : Except Failure Reply} {ok : Bool} {page : Page}
    {groups : Option (List String)} (h : s.Settles part result ok page groups)
    (shown : s.page.problem.isSome) : page.problem.isSome := by
  cases h with
  | content result url read => exact shown
  | groups result groups read => exact shown
  | failed part result failure failed => exact Page.isSome_problem_fail s.page _ _ _

/-- A call that goes on clears no error, unless a retry has recovered with it. -/
theorem Follows.problem {id : CallId} {p : Progress CallId} (h : s.Follows id p t)
    (shown : s.page.problem.isSome) : t.page.problem.isSome ∨ t.HasRecovered := by
  cases h with
  | underWay c => exact .inl shown
  | fetched c result ok page groups fetches settles =>
    exact problem_ended (s := { s with client := c }) (settles.problem shown) _ _ _ _
  | submitted c result page submits settles =>
    cases settles with
    | reported done => exact .inl shown
    | failed failure failed => exact .inl rfl

/-- A fetch of the content that ends makes the content known, or there is an error. -/
theorem Follows.content {id : CallId} {p : Progress CallId} (h : s.Follows id p t)
    (content : id.part = .content) {result : Except Failure Reply} (settled : p.2 = some result) :
    t.page.contentReady ∨ (failure? .content result).isSome ∧ t.page.problem.isSome := by
  cases h with
  | underWay c => cases settled
  | submitted c result' page submits settles => simp [content] at submits
  | fetched c result' ok page groups fetches settles =>
    obtain rfl : result' = result := Option.some.inj settled
    have worked := settles.ok_eq
    rw [content] at settles worked
    cases settles with
    | content _ url read => exact .inl (ready_pageAfter rfl)
    | failed _ _ failure failed =>
      refine .inr ⟨by simp [failed], ?_⟩
      show (s.pageAfter id.task id.part false _).problem.isSome
      rw [pageAfter_of_failed s id.task fetches]
      exact Page.isSome_problem_fail s.page _ _ _

/-! ### Acts -/

/-- The content stays known. -/
theorem Act.ready (h : Act s t) (ready : s.page.contentReady) : t.page.contentReady := by
  cases h with
  | step t step => exact step.ready ready
  | submit task grading p t reports graded first known begins follows => exact follows.ready ready
  | _ => exact ready

/-- An act takes an error away only at the end of a retry. -/
theorem Act.problem (h : Act s t) (shown : s.page.problem.isSome) :
    t.page.problem.isSome ∨ t.HasRecovered := by
  cases h with
  | submit task grading p t reports graded first known begins follows => exact follows.problem shown
  | step t step =>
    cases step with
    | skip task part fetches missing => exact problem_ended shown task part true s.groups
    | fetch id e p t fetches endpoint busy new begins follows => exact follows.problem shown
    | advance id p t advances follows => exact follows.problem shown
    | authorize task path t idle allowed page authorizes =>
      refine .inl ?_
      cases authorizes with
      | unresolved fault named => exact Page.isSome_problem_fail _ _ _ _
      | opened q a b d d' popup named turns asked => rfl
      | blocked q a b d d' named turns asked => rfl
    | _ => exact .inl shown
  | _ => exact .inl shown

/-- An act lets one call end at most. -/
theorem Act.ended_cases (h : Act s t) : t.client.ended = s.client.ended ∨
    ∃ u id p result, Follows u id p t ∧ p.2 = some result ∧
      t.client.ended = s.client.ended ++ [(id, result)] := by
  have follows {u : Session} {id : CallId} {p : Progress CallId} (h : u.Follows id p t)
      (ended : p.1.ended = s.client.ended ++ (p.2.map fun result => (id, result)).toList) :
      t.client.ended = s.client.ended ∨ ∃ u id p result, Follows u id p t ∧ p.2 = some result ∧
        t.client.ended = s.client.ended ++ [(id, result)] := by
    rw [← h.client] at ended
    cases settled : p.2 with
    | none => exact .inl (by simpa [settled] using ended)
    | some result => exact .inr ⟨u, id, p, result, h, settled, by simpa [settled] using ended⟩
  cases h with
  | submit task grading p t reports graded first known begins next =>
    exact follows next begins.ended_eq
  | step t step =>
    cases step with
    | fetch id e p t fetches endpoint busy new begins next => exact follows next begins.ended_eq
    | advance id p t advances next => exact follows next advances.ended_eq
    | authorize task path t idle allowed page authorizes => cases authorizes <;> exact .inl rfl
    | _ => exact .inl rfl
  | _ => exact .inl rfl

/-! ### The spinner -/

/-- The content is known if it was configured or fetched. -/
structure Supplied (s : Session) : Prop where
  configured : s.config.contentUrl.isSome → s.page.contentReady
  fetched : ∀ id result, (id, result) ∈ s.client.ended → id.part = .content →
    failure? .content result = none → s.page.contentReady

/-- When a fetch of the content has ended, the content is known or there is an error. -/
structure Grounded (s : Session) : Prop extends s.Supplied where
  shown : ∀ id result, (id, result) ∈ s.client.ended → id.part = .content →
    s.page.contentReady ∨ s.page.problem.isSome

/-- Nothing is shown without grounds from the start. -/
theorem grounded_initial (config : Config) (base : Web.Url) (token : String) (desktop : Desktop) :
    (initial config base token desktop).Grounded where
  configured known := known
  fetched id result ended := by simp [initial, ofConfig] at ended
  shown id result ended := by simp [initial, ofConfig] at ended

/-- A configuration without a flaw has an address of the content or a call for it. -/
theorem content_of_accepted {config : Config} (accepted : config.flaw? = none)
    (missing : config.api.viaUrl = none) : config.contentUrl.isSome := by
  by_contra unknown
  rw [Bool.not_eq_true, Option.isSome_eq_false_iff] at unknown
  unfold Config.flaw? at accepted
  simp only [unknown, missing] at accepted
  split at accepted <;> simp at accepted

/-- A fetch of the content that was successful makes the content known, and so does one that was
not necessary. -/
theorem Supplied.ready_of_fetched (supplied : s.Supplied) (accepted : s.config.flaw? = none)
    {task : Nat} {ok : Bool} (h : s.Fetched ⟨task, .content⟩ ok) (worked : ok) :
    s.page.contentReady := by
  cases h with
  | skipped missing => exact supplied.configured (content_of_accepted accepted missing)
  | ended result known =>
    exact supplied.fetched _ result known rfl (Option.isNone_iff_eq_none.mp worked)

/-- A retry that has fetched everything has fetched the content. -/
theorem Supplied.ready_of_hasRecovered (supplied : s.Supplied) (accepted : s.config.flaw? = none)
    (accounted : s.Accounted) (recovered : s.HasRecovered) : s.page.contentReady := by
  obtain ⟨task, r, found, settled⟩ := recovered
  have ended : s.Fetched ⟨task, .content⟩ true :=
    accounted.ends task r .content true (by simp [Session.round?, found, Task.round?])
      (Round.part?_of_outcome? settled (by simp))
  exact supplied.ready_of_fetched accepted ended rfl

/-- What supplies the content is still there after every act. -/
theorem Act.supplied (h : Act s t) (supplied : s.Supplied) : t.Supplied where
  configured known := h.ready (supplied.configured (h.config ▸ known))
  fetched id result ended content worked := by
    rcases h.ended_cases with same | ⟨u, id', p, result', follows, settled, more⟩
    · exact h.ready (supplied.fetched id result (same ▸ ended) content worked)
    · rw [more, List.mem_append, List.mem_singleton, Prod.mk.injEq] at ended
      rcases ended with old | ⟨rfl, rfl⟩
      · exact h.ready (supplied.fetched id result old content worked)
      · exact (follows.content content settled).resolve_right fun failed => by
          simp [worked] at failed

/-- Acts leave the content grounded. An error that goes away leaves the content behind, because the
retry that took it away has fetched the content. -/
theorem Act.grounded (h : Act s t) (accepted : s.config.flaw? = none) (accounted : t.Accounted)
    (grounded : s.Grounded) : t.Grounded := by
  have supplied := h.supplied grounded.toSupplied
  have kept (before : s.page.contentReady ∨ s.page.problem.isSome) :
      t.page.contentReady ∨ t.page.problem.isSome := by
    rcases before with ready | shown
    · exact .inl (h.ready ready)
    · exact (h.problem shown).symm.imp_left
        (supplied.ready_of_hasRecovered (h.config ▸ accepted) accounted)
  refine ⟨supplied, fun id result ended content => ?_⟩
  rcases h.ended_cases with same | ⟨u, id', p, result', follows, settled, more⟩
  · exact kept (grounded.shown id result (same ▸ ended) content)
  · rw [more, List.mem_append, List.mem_singleton, Prod.mk.injEq] at ended
    rcases ended with old | ⟨rfl, rfl⟩
    · exact kept (grounded.shown id result old content)
    · exact (follows.content content settled).imp_right And.right

/-- Nothing is shown without grounds on the whole way. -/
theorem Acts.grounded (h : s.Acts t) (accepted : s.config.flaw? = none) (accounted : s.Accounted)
    (grounded : s.Grounded) : t.Grounded := by
  induction h with
  | refl => exact grounded
  | tail acts act ih =>
    exact act.grounded ((Acts.config acts).symm ▸ accepted)
      (act.accounted (Acts.accounted acts accounted)) ih

/-- The spinner is shown only while no fetch of the content has ended. -/
theorem Grounded.waits (grounded : s.Grounded) (spins : s.page.view.showSpinner) :
    ∀ e ∈ s.client.ended, e.1.part ≠ .content := by
  rintro ⟨id, result⟩ ended content
  obtain ⟨silent, unknown⟩ := (Page.showSpinner_iff _).mp spins
  rcases grounded.shown id result ended content with ready | shown
  · simp [Page.contentReady, unknown] at ready
  · simp [silent] at shown

/-- The spinner is not shown when a round is done with the content. -/
theorem Grounded.round_waits (grounded : s.Grounded) (accepted : s.config.flaw? = none)
    (accounted : s.Accounted) (spins : s.page.view.showSpinner) {task : Nat} {r : Round}
    (known : s.round? task = some r) : r.content = none := by
  cases content : r.content with
  | none => rfl
  | some ok =>
    have fetched : s.Fetched ⟨task, .content⟩ ok := accounted.ends task r .content ok known content
    cases fetched with
    | skipped missing =>
      have ready := grounded.configured (content_of_accepted accepted missing)
      simp [Page.contentReady, ((Page.showSpinner_iff _).mp spins).2] at ready
    | ended result ended => exact absurd rfl (grounded.waits spins _ ended)

/-! ### Histories -/

/-- The pages that a move publishes follow one another. -/
theorem Orderly.precedes (orderly : s.Orderly) (m : Move)
    (recovers : (s.after m).HasRecovered → (s.after m).page.contentReady) :
    s.page.Path Page.Precedes (s.published m) (s.after m).page := by
  have alters (p q : Page) (h : p.Alters q) : p.Precedes q := h.precedes
  rcases after_unfolds orderly m with path | ⟨task, before, p, recovery⟩
  · exact path.mono alters
  · have ready : p.contentReady := by
      have known := recovers ⟨task, recovery.settled⟩
      rwa [recovery.recovered, Page.contentReady, Page.contentUrl_recover] at known
    rw [recovery.published, recovery.recovered]
    exact (recovery.path.mono alters).append (.single (Page.precedes_recover ready))

/-- What a history of an accepted configuration keeps. -/
structure Shown (s : Session) : Prop where
  accepted : s.config.flaw? = none
  orderly : s.Orderly
  accounted : s.Accounted
  grounded : s.Grounded
  told : s.page.Told

theorem Shown.sound (h : s.Shown) : s.Sound := h.orderly.sound

/-- What is shown is in order after every move. -/
theorem Shown.after (h : s.Shown) (m : Move) : (s.after m).Shown := by
  have acts := acts_after h.sound m
  have published := h.orderly.published m
  exact ⟨acts.config.symm ▸ h.accepted, h.orderly.acts acts, acts.accounted h.accounted,
    acts.grounded h.accepted h.accounted h.grounded,
    published.told h.told _ (List.mem_of_getLast? published.last)⟩

/-- What is shown is in order after every history. -/
theorem Shown.afterAll (h : s.Shown) (moves : List Move) : (s.afterAll moves).Shown :=
  afterAll_induction h (fun _ m h => h.after m) moves

theorem Shown.path (h : s.Shown) (m : Move) :
    s.page.Path Page.Precedes (s.published m) (s.after m).page := by
  have next := h.after m
  exact h.orderly.precedes m (next.grounded.ready_of_hasRecovered next.accepted next.accounted)

/-- Nothing that is shown is lost, the errors of retries that recover apart. -/
theorem Shown.precedes (h : s.Shown) (moves : List Move) :
    s.page.Precedes (s.afterAll moves).page := by
  induction moves generalizing s with
  | nil => exact .refl s.page
  | cons m moves ih =>
    have path := h.path m
    exact (path.precedes _ (List.mem_of_getLast? path.last)).trans (ih (h.after m))

theorem shown_initial (config : Config) (base : Web.Url) (token : String) (desktop : Desktop)
    (accepted : config.flaw? = none) : (initial config base token desktop).Shown :=
  ⟨accepted, orderly_initial config base token desktop, accounted_initial config base token desktop,
    grounded_initial config base token desktop, Page.told_initial config.contentUrl⟩

/-- A launch is done with a fetch of the content: one has ended, or a round went on without. -/
def HasTriedContent (s : Session) : Prop :=
  (∃ e ∈ s.client.ended, e.1.part = .content) ∨
    ∃ (task : Nat) (r : Round), s.round? task = some r ∧ r.content.isSome

variable (config : Config) (base : Web.Url) (token : String) (desktop : Desktop)

/-- Every page that is ever published shows one thing, hides no error and explains the one that it
shows. The content stays known, and the spinner does not come back; it is gone for good when a fetch
of the content has ended. -/
theorem one_thing_shown (accepted : config.flaw? = none) (moves : List Move) :
    let s := (initial config base token desktop).afterAll moves
    (∀ m, (∀ p ∈ s.page :: s.published m, p.Honest) ∧
      s.page.Path Page.Precedes (s.published m) (s.after m).page) ∧
    (∀ more, s.page.Precedes (s.afterAll more).page) ∧
    (s.HasTriedContent → ∀ more m, ∀ p ∈ (s.afterAll more).page :: (s.afterAll more).published m,
      p.view.showSpinner = false) := by
  intro s
  have shown : s.Shown := (shown_initial config base token desktop accepted).afterAll moves
  refine ⟨fun m =>
    ⟨fun p known => ((shown.orderly.published m).told shown.told p known).honest, shown.path m⟩,
    shown.precedes, fun tried more m p known => ?_⟩
  rw [Bool.eq_false_iff]
  intro spins
  have before : s.page.view.showSpinner :=
    (shown.precedes more).spinner (((shown.afterAll more).path m).precedes p known |>.spinner spins)
  rcases tried with ⟨e, ended, content⟩ | ⟨task, r, known, content⟩
  · exact shown.grounded.waits before e ended content
  · simp [shown.grounded.round_waits shown.accepted shown.accounted before known] at content

/-- When the content could not be fetched at first, the spinner is gone for good. -/
theorem spinner_gone :
    remote.config.flaw? = none ∧
      ∀ more,
        ((remote.afterAll (overtaken.take 2)).afterAll more).page.view.showSpinner = false := by
  have accepted : remote.config.flaw? = none := by decide +kernel
  obtain ⟨-, -, gone⟩ := one_thing_shown remote.config remote.client.base remote.client.token
    remote.desktop accepted (overtaken.take 2)
  have tried : (remote.afterAll (overtaken.take 2)).HasTriedContent :=
    .inr ⟨0, ⟨some false, none⟩, by decide +kernel, rfl⟩
  exact ⟨accepted, fun more => gone tried more .close _ List.mem_cons_self⟩

end Session

end CourseLaunch.Launch
