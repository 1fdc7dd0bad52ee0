import CourseLaunch.Proofs.Course.Navigation
/-!
# What a browser gives

A browser highlights an entry of the listing that it shows, and nothing while it shows none: every
new listing takes the highlighting away, and the answer of an older one changes nothing. So a file
that is given was in the listing of the folder that was current when it was taken.
-/

namespace CourseLaunch.Course
open Backend Popup

namespace Browser

variable {b c : Browser}

/-- What the tasks of a browser give, in the order in which they were started. -/
def results (b : Browser) : List Result := b.tasks.map Task.result

/-- A browser shows the files that were answered to the last listing that was asked for, which is
that of the current folder. -/
structure Lists (b : Browser) (files : List Entry) : Prop where
  status : b.status = .fetched files
  answered : ∃ task request, b.client.begun.getLast? = some (task, request) ∧
    b.trail.AskedBy request ∧ b.outcome? task = some (.ok files)

/-- A move takes an entry of the listing: the highlighted one, or the first one with the id of the
entry that it points at. -/
inductive Takes (b : Browser) (entry : Entry) : Move → Prop where
  | highlighted (selected : b.selected = some entry) : Takes b entry .confirm
  | pointed (target : Entry) (files : List Entry) (status : b.status = .fetched files)
      (first : files.find? (fun e => e.id = target.id) = some entry) :
      Takes b entry (.activate target)

/-- A move starts a task that gives a file. -/
structure Gives (b : Browser) (m : Move) (task : Nat) (entry : Entry) : Prop where
  next : b.nextTask = task
  takes : b.Takes entry m
  file : entry.kind = .file

/-! ### What is highlighted -/

/-- What is highlighted is an entry of the listing that is shown. -/
def Highlights (b : Browser) : Prop :=
  ∀ entry, b.selected = some entry → ∃ files, b.status = .fetched files ∧ entry ∈ files

/-- A browser in which nothing is highlighted any more, or all is as it was. -/
def Dims (b c : Browser) : Prop :=
  c.selected = none ∨ c.selected = b.selected ∧ c.status = b.status

/-- What is highlighted is still in the listing when it is the same or gone. -/
theorem Dims.highlights (dims : b.Dims c) (h : b.Highlights) : c.Highlights := by
  intro entry selected
  rcases dims with none | ⟨same, status⟩
  · simp [none] at selected
  · obtain ⟨files, shown, listed⟩ := h entry (same ▸ selected)
    exact ⟨files, status.trans shown, listed⟩

@[simp] theorem follow_selected (b : Browser) (task : Nat) (p : Progress Nat) :
    (b.follow task p).selected = b.selected := by
  unfold follow
  simp only
  split
  · unfold accept
    split <;> rfl
  · rfl

/-- A new listing takes the highlighting away. -/
@[simp] theorem fetch_selected (b : Browser) (task : Nat) (isReload : Bool) :
    (b.fetch task isReload).selected = none := by
  unfold fetch
  simp only
  split
  · unfold accept
    split <;> rfl
  · exact follow_selected _ _ _

/-- Going to a folder highlights nothing new. -/
theorem visit_dims (b : Browser) (result : Result) (folder : Entry) :
    b.Dims (b.visit result folder) := by
  unfold visit
  split
  · exact .inl (fetch_selected _ _ _)
  · exact .inr ⟨rfl, rfl⟩

theorem confirm_dims (b : Browser) : b.Dims b.confirm := by
  unfold confirm
  split
  · exact .inr ⟨rfl, rfl⟩
  · split
    · exact visit_dims b _ _
    · exact .inr ⟨rfl, rfl⟩

theorem authorize_dims (b : Browser) : b.Dims b.authorize := by
  unfold authorize
  split
  · exact .inl (fetch_selected _ _ _)
  · simp only
    split <;> exact .inr ⟨rfl, rfl⟩

theorem retry_dims (b : Browser) : b.Dims b.retry := by
  unfold retry
  split
  · exact authorize_dims b
  · exact .inl (fetch_selected _ _ _)

theorem look_dims (b : Browser) (task : Nat) : b.Dims (b.look task) := by
  unfold look
  split
  · split
    · exact .inr ⟨rfl, rfl⟩
    · exact .inl (fetch_selected _ _ _)
  · exact .inr ⟨rfl, rfl⟩

/-- Selecting highlights the first entry with an id, if a listing is shown and has one. -/
theorem selected_select_iff {id : String} {entry : Entry} :
    (b.select id).selected = some entry ↔
      ∃ files, b.status = .fetched files ∧ files.find? (fun e => e.id = id) = some entry := by
  show (b.status.files?.getD []).find? (fun e => e.id = id) = some entry ↔ _
  cases b.status with
  | fetched files => simp [Status.files?]
  | fetching _ | authorizing _ | failed _ => simp [Status.files?]

/-- What is selected is in the listing that is shown. -/
theorem select_highlights (b : Browser) (id : String) : (b.select id).Highlights := by
  intro entry selected
  obtain ⟨files, shown, first⟩ := selected_select_iff.mp selected
  exact ⟨files, shown, List.mem_of_find?_eq_some first⟩

/-- While the call of the last listing is under way, the browser waits for it. -/
theorem Latest.fetching {k task : Nat} {request : Request} {isReload again : Bool}
    (latest : b.Latest k request isReload) (valid : b.Valid) (under : task ∈ b.client.labels)
    (waits : b.phase? task = some (.listing b.lastListing again)) :
    b.status = .fetching isReload := by
  obtain ⟨i, request', isReload', found, waits'⟩ := valid.waits_of_label under
  have number : b.lastListing = i + 1 := by
    rw [waits] at waits'
    exact (Phase.listing.inj (Option.some.inj waits')).1
  have same : k = task := by
    have last := latest.last
    rw [List.getLast?_eq_getElem?, ← valid.numbered, number, Nat.add_sub_cancel, found] at last
    exact (Prod.mk.inj (Option.some.inj last)).1.symm
  have none : b.outcome? k = none := by
    rw [outcome?, lookup_eq_none (valid.client.not_ended_of_label (same ▸ under))]
    rfl
  have shows := latest.shows
  rw [none] at shows
  generalize b.status = status at shows
  cases shows with
  | waiting => rfl

/-- The end of the last listing finds nothing highlighted, and the end of another one leaves the
status alone. -/
theorem follow_highlights {task : Nat} {p : Progress Nat} (advances : b.client.Advances task p)
    (valid : b.Valid)
    (latest : b.client.begun = [] ∨ ∃ k request isReload, b.Latest k request isReload)
    (h : b.Highlights) : (b.follow task p).Highlights := by
  cases advances with
  | underWay d begun ended accepted labels => exact h
  | ends d result under begun ended accepted labels =>
    obtain ⟨i, request, isReload, found, waits⟩ := valid.waits_of_label under
    have after := follow_ended (d := d) waits result
    intro entry selected
    rw [follow_selected] at selected
    obtain ⟨files, shown, listed⟩ := h entry selected
    by_cases last : b.lastListing = i + 1
    · rcases latest with none | ⟨k, request', again, latest⟩
      · simp [none] at found
      · cases shown.symm.trans (latest.fetching valid under (last ▸ waits))
    · exact ⟨files, by rw [after.status, if_neg last, shown], listed⟩

/-- After every move what is highlighted is in the listing that is shown. -/
theorem highlights_after (valid : b.Valid)
    (latest : b.client.begun = [] ∨ ∃ k request isReload, b.Latest k request isReload)
    (h : b.Highlights) (m : Move) : (b.after m).Highlights := by
  have once := valid.client.labels_nodup
  cases m with
  | load | reload => exact Dims.highlights (.inl (fetch_selected _ _ _)) h
  | retry => exact (retry_dims b).highlights h
  | authorize => exact (authorize_dims b).highlights h
  | navigate folder => exact (visit_dims b _ folder).highlights h
  | confirm => exact (confirm_dims b).highlights h
  | activate entry => exact (confirm_dims _).highlights (select_highlights b entry.id)
  | select id => exact select_highlights b id
  | answer task a =>
    exact follow_highlights (Client.answer_advances once task a) valid latest h
  | wake task => exact follow_highlights (Client.resume_advances once task) valid latest h
  | look task => exact (look_dims b task).highlights h
  | dismiss _ | block _ => exact h

/-! ### What the tasks give -/

theorem length_results (b : Browser) : b.results.length = b.nextTask := by
  simp [results, nextTask]

@[simp] theorem results_add (b : Browser) (result : Result) :
    (b.add result).results = b.results ++ [result] := by
  simp [results, add]

@[simp] theorem results_setPhase (b : Browser) (task : Nat) (phase : Phase) :
    (b.setPhase task phase).results = b.results := by
  refine List.ext_getElem? fun k => ?_
  simp only [results, setPhase, List.getElem?_map, List.getElem?_modify]
  split <;> cases b.tasks[k]? <;> rfl

@[simp] theorem results_accept (b : Browser) (number : Nat) (status : Status) :
    (b.accept number status).results = b.results := by
  unfold accept
  split <;> rfl

@[simp] theorem results_follow (b : Browser) (task : Nat) (p : Progress Nat) :
    (b.follow task p).results = b.results := by
  unfold follow
  simp only
  split
  · rw [results_setPhase, results_accept]
    rfl
  · rfl

@[simp] theorem results_fetch (b : Browser) (task : Nat) (isReload : Bool) :
    (b.fetch task isReload).results = b.results := by
  unfold fetch
  simp only
  split
  · rw [results_setPhase, results_accept]
    rfl
  · rw [results_follow, results_setPhase]
    rfl

@[simp] theorem results_visit (b : Browser) (result : Result) (folder : Entry) :
    (b.visit result folder).results = b.results ++ [result] := by
  unfold visit
  split
  · rw [results_fetch, results_add]
    rfl
  · exact results_add b result

/-- What the task that a move starts gives, if it starts one. Only taking an entry gives one. -/
inductive Starts (b : Browser) (m : Move) : List Result → Prop where
  | none : Starts b m []
  | other (result : Result) (other : ∀ entry, result ≠ .emitted (some entry)) :
      Starts b m [result]
  | gives (entry : Entry) (takes : b.Takes entry m) (file : entry.kind = .file) :
      Starts b m [.emitted (some entry)]

/-- What is taken is the entry that is highlighted. -/
theorem results_confirm {m : Move} (same : c.results = b.results)
    (takes : ∀ entry, c.selected = some entry → b.Takes entry m) :
    ∃ more, c.confirm.results = b.results ++ more ∧ b.Starts m more := by
  unfold confirm
  cases selected : c.selected with
  | none =>
    exact ⟨_, by rw [results_add, same], .other _ fun entry => by simp⟩
  | some entry =>
    simp only
    split
    case isTrue folder =>
      exact ⟨_, by rw [results_visit, same], .other _ fun entry => by simp⟩
    case isFalse file =>
      exact ⟨_, by rw [results_add, same],
        .gives entry (takes entry selected) (Entry.isFolder_eq_false_iff.mp (by simpa using file))⟩

theorem results_authorize (b : Browser) (m : Move) :
    ∃ more, b.authorize.results = b.results ++ more ∧ b.Starts m more := by
  unfold authorize
  split
  · exact ⟨_, by rw [results_fetch, results_add], .other _ fun entry => by simp⟩
  · simp only
    split
    · exact ⟨[.authorized], by rw [results_setPhase, results_add]; rfl,
        .other _ fun entry => by simp⟩
    · exact ⟨[.blocked], by rw [results_add]; rfl, .other _ fun entry => by simp⟩

theorem results_retry (b : Browser) :
    ∃ more, b.retry.results = b.results ++ more ∧ b.Starts .retry more := by
  unfold retry
  split
  · exact results_authorize b _
  · exact ⟨_, by rw [results_fetch, results_add], .other _ fun entry => by simp⟩

theorem results_activate (b : Browser) (target : Entry) :
    ∃ more, (b.activate target).results = b.results ++ more ∧
      b.Starts (.activate target) more := by
  refine results_confirm (c := b.select target.id) rfl fun entry selected => ?_
  obtain ⟨files, shown, first⟩ := selected_select_iff.mp selected
  exact .pointed target files shown first

theorem results_look (b : Browser) (task : Nat) : (b.look task).results = b.results := by
  unfold look
  split
  · split
    · rfl
    · exact results_fetch _ _ _
  · rfl

/-- A move adds at most the result of the task that it starts, and changes no other result. -/
theorem results_after (b : Browser) (m : Move) :
    ∃ more, (b.after m).results = b.results ++ more ∧ b.Starts m more := by
  have silent {c : Browser} (same : c.results = b.results) :
      ∃ more, c.results = b.results ++ more ∧ b.Starts m more :=
    ⟨[], by rw [same, List.append_nil], .none⟩
  cases m with
  | load | reload =>
    exact ⟨[.nothing], by rw [after]; exact (results_fetch _ _ _).trans (results_add b _),
      .other _ fun entry => by simp⟩
  | retry => exact results_retry b
  | authorize => exact results_authorize b _
  | navigate folder =>
    exact ⟨_, results_visit b .nothing folder, .other _ fun entry => by simp⟩
  | confirm => exact results_confirm rfl fun entry selected => .highlighted selected
  | activate target => exact results_activate b target
  | select _ => exact silent rfl
  | answer task a => exact silent (results_follow b task _)
  | wake task => exact silent (results_follow b task _)
  | look task => exact silent (results_look b task)
  | dismiss _ | block _ => exact silent rfl

/-- What is taken is given, when it is a file. -/
theorem Gives.emitted {m : Move} {task : Nat} {entry : Entry} (gives : b.Gives m task entry) :
    (b.after m).results[task]? = some (.emitted (some entry)) := by
  obtain ⟨rfl, takes, file⟩ := gives
  have given {c : Browser} (same : c.results = b.results) (selected : c.selected = some entry) :
      c.confirm.results[b.nextTask]? = some (.emitted (some entry)) := by
    have opened : c.confirm = c.add (.emitted (some entry)) := by
      simp [confirm, selected, Entry.isFolder_eq_false_iff.mpr file]
    rw [opened, results_add, same]
    simp [← length_results]
  cases takes with
  | highlighted selected => exact given rfl selected
  | pointed target files shown first =>
    exact given rfl (selected_select_iff.mpr ⟨files, shown, first⟩)

/-- A file that a task gives is one that the move gave which started the task. -/
theorem given_after {m : Move} {task : Nat} {entry : Entry}
    (given : (b.after m).results[task]? = some (.emitted (some entry))) :
    b.results[task]? = some (.emitted (some entry)) ∨ b.Gives m task entry := by
  obtain ⟨more, results, starts⟩ := results_after b m
  rw [results] at given
  cases starts with
  | none => exact .inl (by simpa using given)
  | other result other =>
    rcases getElem?_append_singleton given with old | ⟨-, same⟩
    · exact .inl old
    · exact absurd same.symm (other entry)
  | gives taken takes file =>
    rcases getElem?_append_singleton given with old | ⟨last, same⟩
    · exact .inl old
    · cases same
      exact .inr ⟨last.symm ▸ (length_results b).symm, takes, file⟩

/-! ### Histories -/

/-- A file was given by a move of the history, at a state in which that move could give it. -/
theorem emitted_afterAll (moves : List Move) {task : Nat} {entry : Entry} :
    (b.afterAll moves).results[task]? = some (.emitted (some entry)) ↔
      b.results[task]? = some (.emitted (some entry)) ∨ ∃ before m since,
        moves = before ++ m :: since ∧ (b.afterAll before).Gives m task entry := by
  induction moves generalizing b with
  | nil => simp
  | cons m moves ih =>
    rw [afterAll_cons, ih]
    constructor
    · rintro (given | ⟨before, next, since, rfl, gives⟩)
      · exact (given_after given).imp id fun gives => ⟨[], m, moves, rfl, gives⟩
      · exact .inr ⟨m :: before, next, since, rfl, gives⟩
    · rintro (given | ⟨before, next, since, split, gives⟩)
      · obtain ⟨more, results, -⟩ := results_after b m
        refine .inl ?_
        rw [results, List.getElem?_append_left (List.getElem?_eq_some_iff.mp given).1, given]
      · cases before with
        | nil =>
          cases split
          exact .inl gives.emitted
        | cons first before =>
          cases split
          exact .inr ⟨before, next, since, rfl, gives⟩

/-- Nothing but an entry of the listing is ever highlighted. -/
theorem highlights_afterAll {start : Browser} (valid : start.Valid)
    (fresh : start.client.begun = []) (h : start.Highlights) (moves : List Move) :
    (start.afterAll moves).Highlights := by
  induction moves using List.reverseRecOn with
  | nil => exact h
  | append_singleton moves m ih =>
    rw [afterAll_append]
    refine highlights_after (valid_afterAll valid moves) ?_ ih m
    exact (latest_afterAll valid fresh moves).imp_right
      fun ⟨_, _, _, task, request, _, _, latest⟩ => ⟨task, request, _, latest⟩

/-- A listing that is shown is the answer to the last one that was asked for. -/
theorem lists_of_fetched {start : Browser} (valid : start.Valid)
    (fresh : start.client.begun = []) (moves : List Move) {files : List Entry}
    (shown : (start.afterAll moves).status = .fetched files) :
    (start.afterAll moves).Lists files := by
  rcases latest_afterAll valid fresh moves with
    none | ⟨-, m, -, task, request, -, -, latest⟩
  · rw [(valid_afterAll valid moves).silent none] at shown
    cases shown
  · refine ⟨shown, task, request, latest.last, latest.current, ?_⟩
    have shows := latest.shows
    rw [shown] at shows
    generalize (start.afterAll moves).outcome? task = outcome at shows ⊢
    cases shows with
    | listed files => rfl

/-- Only an entry of the listing that is shown is ever highlighted. A task gives an entry if and
only if it was started by taking a file, and that file is listed in the current folder then, by the
answer to the last listing that was asked for. -/
theorem given_listed {base : Web.Url} {token : String} {desktop : Desktop}
    {listing : Endpoint} {start : Browser}
    (opens : ofEndpoint (.fresh base token) desktop listing = .ok start) (moves : List Move) :
    (∀ entry, (start.afterAll moves).selected = some entry →
      ∃ files, (start.afterAll moves).Lists files ∧ entry ∈ files) ∧
    ∀ task entry, (start.afterAll moves).results[task]? = some (.emitted (some entry)) ↔
      ∃ before m since, moves = before ++ m :: since ∧
        (start.afterAll before).Gives m task entry ∧
        ∃ files, (start.afterAll before).Lists files ∧ entry ∈ files := by
  have valid := valid_ofEndpoint opens
  have fresh : start.client.begun = [] ∧ start.selected = none ∧ start.results = [] := by
    obtain ⟨authorization, rfl⟩ := ofEndpoint_eq opens
    exact ⟨rfl, rfl, rfl⟩
  obtain ⟨begun, selected, results⟩ := fresh
  -- what is highlighted is in the listing at every time, so also when it is taken
  have highlighted (moves : List Move) (entry : Entry)
      (chosen : (start.afterAll moves).selected = some entry) :
      ∃ files, (start.afterAll moves).Lists files ∧ entry ∈ files := by
    obtain ⟨files, shown, listed⟩ := highlights_afterAll valid begun
      (fun entry chosen => by simp [selected] at chosen) moves entry chosen
    exact ⟨files, lists_of_fetched valid begun moves shown, listed⟩
  have taken (moves : List Move) {m : Move} {task : Nat} {entry : Entry}
      (gives : (start.afterAll moves).Gives m task entry) :
      ∃ files, (start.afterAll moves).Lists files ∧ entry ∈ files := by
    cases gives.takes with
    | highlighted chosen => exact highlighted moves entry chosen
    | pointed target files shown first =>
      exact ⟨files, lists_of_fetched valid begun moves shown, List.mem_of_find?_eq_some first⟩
  refine ⟨highlighted moves, fun task entry => ?_⟩
  rw [emitted_afterAll, results]
  constructor
  · rintro (none | ⟨before, m, since, split, gives⟩)
    · simp at none
    · exact ⟨before, m, since, split, gives, taken before gives⟩
  · rintro ⟨before, m, since, split, gives, -⟩
    exact .inr ⟨before, m, since, split, gives⟩

/-- The entry that a result hands over. -/
def given? : Result → Option Entry
  | .emitted entry => entry
  | _ => none

/-- A folder is listed twice, the second listing is answered first, and a file of it is taken
after the answer to the first one came. -/
def takenFile : List Move :=
  [.load, .reload, .answer 1 (.whole 200 (Text.octets
      "[\x7b\"id\":\"a\",\"display_name\":\"Notes\",\"type\":\"File\"\x7d]")),
    .answer 0 (.whole 200 (Text.octets "[]")), .select "a", .confirm]

/-- The file is given, and it is listed in the current folder when it is taken. -/
theorem taken_file_listed :
    ofEndpoint sample.client sample.desktop (.ofPath "/files") = .ok sample ∧
      ∃ entry before m since, takenFile = before ++ m :: since ∧
        (sample.afterAll before).Gives m 2 entry ∧
        ∃ files, (sample.afterAll before).Lists files ∧ entry ∈ files := by
  have opens : ofEndpoint sample.client sample.desktop (.ofPath "/files") = .ok sample := rfl
  have given : ((sample.afterAll takenFile).results[2]?.bind given?).map Entry.id =
      some "a" := by decide +kernel
  obtain ⟨entry, given, -⟩ := Option.map_eq_some_iff.mp given
  obtain ⟨result, found, emitted⟩ := Option.bind_eq_some_iff.mp given
  cases result with
  | emitted taken =>
    cases emitted
    exact ⟨opens, entry, ((given_listed opens takenFile).2 2 entry).mp found⟩
  | nothing | authorized | blocked => cases emitted

end Browser

end CourseLaunch.Course
