import CourseLaunch.Proofs.Launch.History
/-!
# The number of fetches

A page counts the fetches of its session: each is counted when it begins and until it ends, whether
it is sent or not and however it ends. So the count is the number of fetches that are under way.
-/

namespace CourseLaunch.Launch
open Activity Backend

def CallId.isFetch (id : CallId) : Bool := id.part ≠ .submission

namespace Session

variable {s t : Session}

def fetchCount (s : Session) : Nat := s.client.labels.countP CallId.isFetch

@[simp] theorem pendingFetches_recover (p : Page) :
    p.recover.pendingFetches = p.pendingFetches := by
  unfold Page.recover
  split <;> rfl

@[simp] theorem pendingFetches_fail (p : Page) (problem : Problem) (report : Report)
    (authorizationUrl : Option String) :
    (p.fail problem report authorizationUrl).pendingFetches = p.pendingFetches := by
  unfold Page.fail
  split <;> rfl

theorem pendingFetches_pageAfter (task : Nat) (part : Part) (ok : Bool) (page : Page) :
    (s.pageAfter task part ok page).pendingFetches = page.pendingFetches := by
  unfold pageAfter
  split <;> simp

/-- The end of a fetch counts once. -/
theorem Settles.pendingFetches {part : Part} {result : Except Failure Reply} {ok : Bool}
    {page : Page} {groups : Option (List String)} (h : s.Settles part result ok page groups) :
    page.pendingFetches = s.page.pendingFetches - 1 := by
  cases h with
  | content result url read => rfl
  | groups result groups read => rfl
  | failed part result failure failed => simp [Page.endFetch, Page.failFetch]

/-- A fetch that ends is no longer counted. -/
theorem Follows.pendingFetches {id : CallId} {p : Progress CallId} (h : s.Follows id p t) :
    t.page.pendingFetches =
      if id.isFetch ∧ p.2.isSome then s.page.pendingFetches - 1 else s.page.pendingFetches := by
  cases h with
  | underWay c => simp
  | fetched c result ok page groups fetches settles =>
    rw [if_pos ⟨by simpa [CallId.isFetch] using fetches, rfl⟩]
    exact (pendingFetches_pageAfter id.task id.part ok page).trans settles.pendingFetches
  | submitted c result page submits settles =>
    rw [if_neg (by simp [CallId.isFetch, submits])]
    cases settles <;> rfl

/-- A fetch that is begun counts, unless it ends at once. -/
theorem countP_of_begins {c : Client CallId} {id : CallId} {request : Request}
    {p : Progress CallId} (h : c.Begins id request p) (new : id ∉ c.labels) :
    p.1.labels.countP CallId.isFetch =
      c.labels.countP CallId.isFetch + if id.isFetch ∧ p.2.isNone then 1 else 0 := by
  cases h with
  | underWay d begun ended accepted labels =>
    rw [labels, Client.filter_ne_eq_self new]
    simp [List.countP_append, List.countP_cons]
  | refused d failure begun ended accepted labels => simp [labels]

/-- A fetch that ends does not count any more. -/
theorem countP_of_advances {c : Client CallId} {id : CallId} {p : Progress CallId}
    (h : c.Advances id p) (once : c.labels.Nodup) :
    p.1.labels.countP CallId.isFetch + (if id.isFetch ∧ p.2.isSome then 1 else 0) =
      c.labels.countP CallId.isFetch := by
  cases h with
  | underWay d begun ended accepted labels => simp [labels.countP_eq]
  | ends d result known begun ended accepted labels =>
    rw [labels, ← (Client.filter_ne_append_perm known once).countP_eq]
    simp [List.countP_append, List.countP_cons]

/-- The count is right after every step. -/
theorem Step.counts (h : Step s t) (sound : s.Sound)
    (counts : s.page.pendingFetches = s.fetchCount) : t.page.pendingFetches = t.fetchCount := by
  cases h with
  | skip task part fetches missing =>
    exact (pendingFetches_pageAfter task part true s.page).trans counts
  -- counted before its call is begun, and taken back if that ends at once
  | fetch id e p t fetches endpoint busy new begins follows =>
    have unknown : id ∉ s.client.labels := fun known => new (sound.client.begun_of_label known)
    have isFetch : id.isFetch := by simpa [CallId.isFetch] using fetches
    have begun : (s.onPage Page.beginFetch).page.pendingFetches = s.fetchCount + 1 :=
      congrArg (· + 1) counts
    have under := countP_of_begins begins unknown
    rw [follows.pendingFetches, fetchCount, follows.client, under, begun]
    cases p.2 <;> simp [isFetch, fetchCount]
  | advance id p t advances follows =>
    have under := countP_of_advances advances sound.client.labels_nodup
    unfold fetchCount at *
    rw [follows.pendingFetches, follows.client, counts]
    split
    case isTrue ends =>
      rw [if_pos ends] at under
      omega
    case isFalse continues =>
      rw [if_neg continues] at under
      exact under.symm
  | authorize task path t idle allowed page authorizes =>
    cases authorizes with
    | unresolved fault named =>
      simpa [Page.failAuthorization, Page.askAuthorization, fetchCount] using counts
    | _ => exact counts
  | _ => exact counts

theorem Act.counts (h : Act s t) (sound : s.Sound)
    (counts : s.page.pendingFetches = s.fetchCount) : t.page.pendingFetches = t.fetchCount := by
  cases h with
  | step t step => exact step.counts sound counts
  | submit task grading p t reports graded first ready begins follows =>
    have unknown : (⟨task, .submission⟩ : CallId) ∉ s.client.labels := fun known =>
      sound.unsubmitted first _ (sound.client.begun_of_label known) rfl
    have under := countP_of_begins begins unknown
    rw [follows.pendingFetches, fetchCount, follows.client, under]
    simpa [CallId.isFetch, fetchCount] using counts
  | _ => exact counts

/-- The count is right on the whole way. -/
theorem Acts.counts (h : s.Acts t) (sound : s.Sound)
    (counts : s.page.pendingFetches = s.fetchCount) : t.page.pendingFetches = t.fetchCount := by
  induction h with
  | refl => exact counts
  | tail acts act ih => exact act.counts (Acts.sound acts sound) ih

end Session

end CourseLaunch.Launch
