import CourseLaunch.Proofs.Course.Move
/-!
# The last listing wins

Answers may come in any order, but only the listing that was asked for last decides what a browser
shows. It is numbered by the count of all listings so far, the task that waits for it knows its
number, and it asks for the folder that is current, because going to a folder and listing it is one
step.
-/

namespace CourseLaunch.Course
open Backend Popup

/-- What a browser shows of a listing: that it waits for it, or how it ended. -/
inductive Shows (isReload : Bool) : Option (Except Failure (List Entry)) → Status → Prop where
  | waiting : Shows isReload none (.fetching isReload)
  | listed (files : List Entry) : Shows isReload (some (.ok files)) (.fetched files)
  | unauthorized (f : Failure) (needs : f.needsAuthorization) :
      Shows isReload (some (.error f)) (.authorizing isReload)
  | failed (f : Failure) (other : f.needsAuthorization = false) :
      Shows isReload (some (.error f)) (.failed f.report)

/-- A request asks for the listing of the folder that is current. -/
def Trail.AskedBy (t : Trail) (request : Request) : Prop :=
  ∃ listing, t.current.contents = some listing ∧ request.AsksFor listing

namespace Browser

variable {b c : Browser}

/-- How the listing of a task ended, if it has. -/
def outcome? (b : Browser) (task : Nat) : Option (Except Failure (List Entry)) :=
  (b.client.ended.lookup task).map fun result =>
    result.bind fun r => r.decode (.list Entry.codec)

/-- The outcome of a listing is shown in one of three ways. -/
theorem shows_statusOf (isReload : Bool) (files : Except Failure (List Entry)) :
    Shows isReload (some files) (statusOf isReload files) := by
  cases files with
  | ok files => exact .listed files
  | error f =>
    cases needs : f.needsAuthorization with
    | true => simpa [statusOf, needs] using .unauthorized f needs
    | false => simpa [statusOf, needs] using .failed f needs

/-- What holds between moves. A task that waits for a listing knows which one in the order of all
listings it is. -/
structure Valid (b : Browser) : Prop where
  client : b.client.Consistent
  listed : b.trail.Listed
  asked : ∀ task ∈ b.asked,
    ∃ phase, b.phase? task = some phase ∧ ∀ popup, phase ≠ .watching popup
  numbered : b.lastListing = b.client.begun.length
  waits : ∀ (i task : Nat) (request : Request), b.client.begun[i]? = some (task, request) →
    task ∈ b.client.labels → ∃ isReload, b.phase? task = some (.listing (i + 1) isReload)
  silent : b.client.begun = [] → b.status = .fetching false

/-- The last listing is that of the current folder, and it is what the browser shows. -/
structure Latest (b : Browser) (task : Nat) (request : Request) (isReload : Bool) : Prop where
  last : b.client.begun.getLast? = some (task, request)
  current : b.trail.AskedBy request
  shows : Shows isReload (b.outcome? task) b.status
  waits : task ∈ b.client.labels → b.phase? task = some (.listing b.lastListing isReload)

/-! ### Moves that leave the calls alone -/

/-- A browser stays valid when no listing is asked for or ends. -/
theorem Quiet.valid (quiet : b.Quiet c) (valid : b.Valid) : c.Valid := by
  obtain ⟨client, status, lastListing, trail, phases⟩ := quiet
  refine ⟨client ▸ valid.client, trail ▸ valid.listed, fun task known => ?_, ?_,
    fun i task request found under => ?_, fun none => ?_⟩
  · rw [asked, client] at known
    obtain ⟨phase, found, other⟩ := valid.asked task known
    exact ⟨phase, phases task phase found, other⟩
  · rw [lastListing, client, valid.numbered]
  · rw [client] at found under
    obtain ⟨isReload, found⟩ := valid.waits i task request found under
    exact ⟨isReload, phases task _ found⟩
  · rw [client] at none
    exact status.trans (valid.silent none)

/-- The last listing is still the last one when none is asked for or ends. -/
theorem Quiet.latest (quiet : b.Quiet c) {task : Nat} {request : Request} {isReload : Bool}
    (latest : b.Latest task request isReload) : c.Latest task request isReload := by
  obtain ⟨client, status, lastListing, trail, phases⟩ := quiet
  refine ⟨client ▸ latest.last, trail ▸ latest.current, ?_, fun under => ?_⟩
  · rw [outcome?, client, status]
    exact latest.shows
  · rw [client] at under
    rw [lastListing]
    exact phases task _ (latest.waits under)

/-! ### The progress of a call -/

theorem lookup_eq_none {results : List (Nat × Except Failure Reply)} {task : Nat}
    (new : ∀ result, (task, result) ∉ results) : results.lookup task = none := by
  rw [List.lookup_eq_none_iff]
  rintro ⟨k, result⟩ known
  simpa using fun same : task = k => new result (same ▸ known)

theorem lookup_append_singleton {results : List (Nat × Except Failure Reply)} {task : Nat}
    (new : ∀ result, (task, result) ∉ results) (result : Except Failure Reply) (k : Nat) :
    (results ++ [(task, result)]).lookup k =
      if k = task then some result else results.lookup k := by
  rw [List.lookup_append, List.lookup_cons, List.lookup_nil]
  by_cases same : k = task
  · subst same
    simp [lookup_eq_none new]
  · have differs : (k == task) = false := by simpa using same
    simp [differs, same]

/-- What the end of the call of a task that waits for a listing makes of a browser. -/
theorem follow_ends {d : Client Nat} {task number : Nat} {isReload : Bool}
    (waits : b.phase? task = some (.listing number isReload)) (result : Except Failure Reply) :
    b.follow task (d, some result) =
      (({ b with client := d } : Browser).accept number (statusOf isReload
        (result.bind fun r => r.decode (.list Entry.codec)))).setPhase task .ended := by
  have same : ({ b with client := d } : Browser).phase? task =
    some (.listing number isReload) := waits
  simp only [follow, same]

@[simp] theorem accept_client (b : Browser) (number : Nat) (status : Status) :
    (b.accept number status).client = b.client := by
  unfold accept
  split <;> rfl

@[simp] theorem accept_lastListing (b : Browser) (number : Nat) (status : Status) :
    (b.accept number status).lastListing = b.lastListing := by
  unfold accept
  split <;> rfl

@[simp] theorem accept_trail (b : Browser) (number : Nat) (status : Status) :
    (b.accept number status).trail = b.trail := by
  unfold accept
  split <;> rfl

@[simp] theorem accept_phase? (b : Browser) (number : Nat) (status : Status) (task : Nat) :
    (b.accept number status).phase? task = b.phase? task := by
  unfold accept
  split <;> rfl

theorem accept_status (b : Browser) (number : Nat) (status : Status) :
    (b.accept number status).status = if b.lastListing = number then status else b.status := by
  unfold accept
  split <;> rfl

theorem follow_client (b : Browser) (task : Nat) (p : Progress Nat) :
    (b.follow task p).client = p.1 := by
  unfold follow
  simp only
  split
  · simp [setPhase]
  · rfl

/-- A browser after the listing of a task ended. -/
structure Ended (b : Browser) (task number : Nat) (isReload : Bool)
    (result : Except Failure Reply) (d : Client Nat) (c : Browser) : Prop where
  client : c.client = d
  lastListing : c.lastListing = b.lastListing
  trail : c.trail = b.trail
  status : c.status = if b.lastListing = number
    then statusOf isReload (result.bind fun r => r.decode (.list Entry.codec)) else b.status
  phase : c.phase? task = some .ended
  phases : ∀ k, k ≠ task → c.phase? k = b.phase? k

/-- The listing of a task that waits for it ends. -/
theorem follow_ended {d : Client Nat} {task number : Nat} {isReload : Bool}
    (waits : b.phase? task = some (.listing number isReload)) (result : Except Failure Reply) :
    b.Ended task number isReload result d (b.follow task (d, some result)) := by
  rw [follow_ends waits]
  refine ⟨accept_client _ _ _, accept_lastListing _ _ _, accept_trail _ _ _,
    accept_status _ _ _, ?_, fun k other => ?_⟩
  · have same : ({ b with client := d } : Browser).phase? task =
      some (.listing number isReload) := waits
    simp [phase?_setPhase, same]
  · rw [phase?_setPhase, if_neg (Ne.symm other), accept_phase?]
    rfl

/-- A call that is under way is one of those that were begun, and its task waits for it. -/
theorem Valid.waits_of_label (valid : b.Valid) {task : Nat} (under : task ∈ b.client.labels) :
    ∃ i request isReload, b.client.begun[i]? = some (task, request) ∧
      b.phase? task = some (.listing (i + 1) isReload) := by
  obtain ⟨⟨task', request⟩, known, rfl⟩ :=
    List.mem_map.mp (valid.client.begun_of_label under)
  obtain ⟨i, found⟩ := List.mem_iff_getElem?.mp known
  obtain ⟨isReload, waits⟩ := valid.waits i _ request found under
  exact ⟨i, request, isReload, found, waits⟩

/-- A browser stays valid when the call of a task goes on. -/
theorem follow_valid {task : Nat} {p : Progress Nat} (advances : b.client.Advances task p)
    (valid : b.Valid) : (b.follow task p).Valid := by
  have client := valid.client.advances advances
  cases advances with
  -- nothing has ended, so all tasks wait for what they waited for
  | underWay d begun ended accepted labels =>
    refine ⟨client, valid.listed, ?_, ?_, fun i k request found under => ?_, fun none => ?_⟩
    · have same : d.begun.map Prod.fst = b.asked := congrArg (List.map Prod.fst) begun
      exact fun k known => valid.asked k (same ▸ known)
    · exact valid.numbered.trans (congrArg List.length begun.symm)
    · exact valid.waits i k request (begun ▸ found) (labels.mem_iff.mp under)
    · exact valid.silent (begun ▸ none)
  | ends d result under begun ended accepted labels =>
    obtain ⟨i, request, isReload, found, waits⟩ := valid.waits_of_label under
    have after := follow_ended (d := d) waits result
    generalize b.follow task (d, some result) = c at after ⊢
    obtain ⟨rfl, lastListing, trail, status, phase, phases⟩ := after
    refine ⟨client, trail ▸ valid.listed, fun k known => ?_, ?_,
      fun j k request' found' under' => ?_,
      fun none => ?_⟩
    · by_cases same : k = task
      · exact ⟨.ended, same ▸ phase, by simp⟩
      · rw [phases k same]
        have asked : c.asked = b.asked := congrArg (List.map Prod.fst) begun
        exact valid.asked k (asked ▸ known)
    · rw [lastListing, begun, valid.numbered]
    · obtain ⟨under', other⟩ := List.mem_filter.mp (labels ▸ under')
      rw [phases k (by simpa using other)]
      exact valid.waits j k request' (begun ▸ found') under'
    · rw [begun] at none
      simp [none] at found

/-- The end of a listing is shown when it is the last one, and else it changes nothing. -/
theorem follow_latest {task k : Nat} {p : Progress Nat} {request : Request} {isReload : Bool}
    (advances : b.client.Advances task p) (valid : b.Valid)
    (latest : b.Latest k request isReload) : (b.follow task p).Latest k request isReload := by
  cases advances with
  | underWay d begun ended accepted labels =>
    refine ⟨begun ▸ latest.last, latest.current, ?_, fun under => ?_⟩
    · rw [outcome?, show (b.follow task (d, none)).client.ended = _ from ended]
      exact latest.shows
    · exact latest.waits (labels.mem_iff.mp under)
  | ends d result under begun ended accepted labels =>
    obtain ⟨i, request', isReload', found, waits⟩ := valid.waits_of_label under
    have after := follow_ended (d := d) waits result
    generalize b.follow task (d, some result) = c at after ⊢
    obtain ⟨rfl, lastListing, trail, status, phase, phases⟩ := after
    have lookup := lookup_append_singleton (valid.client.not_ended_of_label under) result
    refine ⟨begun ▸ latest.last, trail ▸ latest.current, ?_, fun under' => ?_⟩
    · rw [outcome?, ended, lookup]
      by_cases same : k = task
      · subst same
        have number := (latest.waits under).symm.trans waits
        simp only [Option.some.injEq, Phase.listing.injEq] at number
        obtain ⟨number, rfl⟩ := number
        rw [status, if_pos number, if_pos rfl]
        exact shows_statusOf isReload _
      · -- listings are numbered in the order of the calls, so another one is not the last
        have stale : b.lastListing ≠ i + 1 := by
          intro number
          have last := latest.last
          rw [List.getLast?_eq_getElem?, ← valid.numbered, number, Nat.add_sub_cancel, found]
            at last
          exact same (Prod.mk.inj (Option.some.inj last)).1.symm
        rw [status, if_neg stale, if_neg same]
        exact latest.shows
    · obtain ⟨under', other⟩ := List.mem_filter.mp (labels ▸ under')
      rw [lastListing, phases k (by simpa using other)]
      exact latest.waits under'

/-! ### The beginning of a listing -/

/-- A browser in which a task waits for a new listing of the current folder. -/
def asking (b : Browser) (task : Nat) (isReload : Bool) : Browser :=
  (b.renew isReload).setPhase task (.listing (b.lastListing + 1) isReload)

theorem fetch_eq {listing : Endpoint} (current : b.trail.current.contents = some listing)
    (task : Nat) (isReload : Bool) :
    b.fetch task isReload = (b.asking task isReload).follow task
      (b.client.begin task (.ofEndpoint listing)) := by
  have same : (b.renew isReload).trail.current.contents = some listing := current
  simp only [fetch, same]
  rfl

/-- A browser in which a new call was begun for the listing of the current folder. -/
structure Asks (b : Browser) (task : Nat) (request : Request) (isReload : Bool) (c : Browser) :
    Prop where
  begins : b.client.Begins task request (c.client, none)
  lastListing : c.lastListing = b.lastListing + 1
  listed : c.trail.Listed
  current : c.trail.AskedBy request
  status : c.status = .fetching isReload
  phase : c.phase? task = some (.listing c.lastListing isReload)
  phases : ∀ k phase, k ≠ task → b.phase? k = some phase → c.phase? k = some phase

/-- A task that may ask for a listing asks for that of the folder that is current by then. -/
theorem Ready.asks {task : Nat} {isReload : Bool} {request : Request} {d : Client Nat}
    (ready : b.Ready task c) (listed : b.trail.Listed)
    (current : c.trail.AskedBy request) (begins : b.client.Begins task request (d, none)) :
    b.Asks task request isReload { c.asking task isReload with client := d } := by
  refine ⟨begins, congrArg (· + 1) ready.lastListing, ready.listed listed, current, rfl, ?_,
    fun k phase other known => ?_⟩
  · obtain ⟨phase, known⟩ := Option.isSome_iff_exists.mp ready.known
    have same : (c.renew isReload).phase? task = some phase := known
    show (c.asking task isReload).phase? task = some (.listing (c.lastListing + 1) isReload)
    simp [asking, phase?_setPhase, same]
  · show (c.asking task isReload).phase? k = some phase
    rw [asking, phase?_setPhase, if_neg (Ne.symm other)]
    exact ready.phases k phase known

/-- No task asks for a listing twice. -/
theorem Ready.new {task : Nat} (ready : b.Ready task c) (valid : b.Valid) : task ∉ b.asked := by
  intro known
  obtain ⟨phase, found, other⟩ := valid.asked task known
  rcases ready.free with none | ⟨popup, watching, -⟩
  · simp [none] at found
  · exact other popup (Option.some.inj (found.symm.trans watching))

theorem getElem?_append_singleton {α : Type} {l : List α} {x y : α} {i : Nat}
    (h : (l ++ [x])[i]? = some y) : l[i]? = some y ∨ i = l.length ∧ y = x := by
  rcases Nat.lt_or_ge i l.length with old | beyond
  · exact .inl (by rwa [List.getElem?_append_left old] at h)
  · rw [List.getElem?_append_right beyond] at h
    obtain ⟨zero, same⟩ := List.getElem?_eq_some_iff.mp h
    have last : i = l.length := by
      rw [List.length_singleton] at zero
      omega
    exact .inr ⟨last, by simpa using same.symm⟩

/-- A browser stays valid when a listing is asked for. -/
theorem Asks.valid {task : Nat} {request : Request} {isReload : Bool}
    (asks : b.Asks task request isReload c) (valid : b.Valid) (new : task ∉ b.asked) :
    c.Valid := by
  have begun : c.client.begun = b.client.begun ++ [(task, request)] := asks.begins.begun_eq
  refine ⟨valid.client.begins new asks.begins, asks.listed, fun k known => ?_, ?_,
    fun i k r found under => ?_, fun none => ?_⟩
  · have known : k ∈ b.asked ∨ k = task := by
      simpa [Browser.asked, begun] using known
    by_cases same : k = task
    · exact ⟨_, same ▸ asks.phase, by simp⟩
    · obtain ⟨phase, found, other⟩ := valid.asked k (known.resolve_right same)
      exact ⟨phase, asks.phases k phase same found, other⟩
  · rw [asks.lastListing, begun, valid.numbered]
    simp
  · rw [begun] at found
    rcases getElem?_append_singleton found with found | ⟨last, same⟩
    · have other : k ≠ task := fun same =>
        new (same ▸ List.mem_map_of_mem (f := Prod.fst) (List.mem_of_getElem? found))
      obtain ⟨isReload', waits⟩ :=
        valid.waits i k r found ((asks.begins.mem_labels k under).resolve_right other)
      exact ⟨isReload', asks.phases k _ other waits⟩
    · obtain ⟨rfl, rfl⟩ := Prod.mk.inj same
      exact ⟨isReload, by rw [asks.phase, asks.lastListing, valid.numbered, last]⟩
  · rw [begun] at none
    simp at none

/-- The listing that was just asked for is the last one. -/
theorem Asks.latest {task : Nat} {request : Request} {isReload : Bool}
    (asks : b.Asks task request isReload c) (valid : b.Valid) (new : task ∉ b.asked) :
    c.Latest task request isReload := by
  refine ⟨?_, asks.current, ?_, fun _ => asks.phase⟩
  · rw [show c.client.begun = _ from asks.begins.begun_eq]
    simp
  · have notEnded : b.client.ended.lookup task = none :=
      lookup_eq_none fun result ended => new (valid.client.begun_of_ended ended)
    have same : c.client.ended = b.client.ended := by simpa using asks.begins.ended_eq
    rw [outcome?, same, notEnded, asks.status]
    exact .waiting

/-- A listing that begins is the last one, also when it ends at once. -/
theorem fetch_latest {task : Nat} (isReload : Bool) (valid : b.Valid) (ready : b.Ready task c) :
    (c.fetch task isReload).Valid ∧ ∃ request,
      (c.fetch task isReload).client.begun = b.client.begun ++ [(task, request)] ∧
      (c.fetch task isReload).Latest task request isReload := by
  obtain ⟨listing, current⟩ :=
    Option.isSome_iff_exists.mp (ready.listed valid.listed).current
  have new := ready.new valid
  have begins := Client.begin_begins b.client task (.ofEndpoint listing)
  obtain ⟨d, underWay, advances⟩ :=
    begins.split fun under => new (valid.client.begun_of_label under)
  have asks : b.Asks task (.ofEndpoint listing) isReload
      { c.asking task isReload with client := d } :=
    ready.asks valid.listed ⟨listing, current, Request.asksFor_ofEndpoint listing⟩ underWay
  have same : c.fetch task isReload = ({ c.asking task isReload with client := d } :
      Browser).follow task (b.client.begin task (.ofEndpoint listing)) := by
    rw [fetch_eq current, ready.client]
    rfl
  have valid' := asks.valid valid new
  rw [same]
  refine ⟨follow_valid advances valid', .ofEndpoint listing, ?_,
    follow_latest advances valid' (asks.latest valid new)⟩
  rw [follow_client, begins.begun_eq]

/-! ### Histories -/

/-- Every move keeps a browser valid. -/
theorem valid_after (valid : b.Valid) (m : Move) : (b.after m).Valid := by
  have after := after_after b m
  generalize b.after m = c at after ⊢
  cases after with
  | quiet c quiet => exact quiet.valid valid
  | fetches task c ready => exact (fetch_latest m.isReload valid ready).1
  | advances task p advances =>
    exact follow_valid (advances valid.client.labels_nodup) valid

/-- A move keeps the last listing, or begins a new one that is the last one then. -/
theorem latest_after (valid : b.Valid) (m : Move) :
    ((b.after m).client.begun = b.client.begun ∧ ∀ task request isReload,
      b.Latest task request isReload → (b.after m).Latest task request isReload) ∨
    ∃ task request, (b.after m).client.begun = b.client.begun ++ [(task, request)] ∧
      (b.after m).Latest task request m.isReload := by
  have after := after_after b m
  generalize b.after m = c at after ⊢
  cases after with
  | quiet c quiet =>
    exact .inl ⟨congrArg Client.begun quiet.client, fun _ _ _ latest => quiet.latest latest⟩
  | fetches task c ready =>
    obtain ⟨-, request, begun, latest⟩ := fetch_latest m.isReload valid ready
    exact .inr ⟨task, request, begun, latest⟩
  | advances task p advances =>
    have advances := advances valid.client.labels_nodup
    refine .inl ⟨?_, fun _ _ _ latest => follow_latest advances valid latest⟩
    rw [follow_client, advances.begun_eq]

theorem valid_afterAll (valid : b.Valid) (moves : List Move) : (b.afterAll moves).Valid := by
  induction moves generalizing b with
  | nil => exact valid
  | cons m moves ih => exact ih (valid_after valid m)

/-- In a history a move began the last listing, and the moves since then began none. -/
structure LastBegun (start : Browser) (before : List Move) (m : Move) (since : List Move)
    (task : Nat) (request : Request) : Prop where
  begins : (start.afterAll (before ++ [m])).client.begun =
    (start.afterAll before).client.begun ++ [(task, request)]
  last : (start.afterAll (before ++ m :: since)).client.begun =
    (start.afterAll (before ++ [m])).client.begun

theorem LastBegun.getLast?_begun {start : Browser} {before since : List Move} {m : Move}
    {task : Nat} {request : Request} (last : start.LastBegun before m since task request) :
    (start.afterAll (before ++ m :: since)).client.begun.getLast? = some (task, request) := by
  rw [last.last, last.begins]
  simp

/-- After every history the last listing that was begun is the one that is shown or awaited. -/
theorem latest_afterAll {start : Browser} (valid : start.Valid) (none : start.client.begun = [])
    (moves : List Move) :
    (start.afterAll moves).client.begun = [] ∨
      ∃ before m since task request, moves = before ++ m :: since ∧
        start.LastBegun before m since task request ∧
        (start.afterAll moves).Latest task request m.isReload := by
  -- the last move either asks for a listing, which is the last one then, or leaves the last one
  -- what it was
  induction moves using List.reverseRecOn with
  | nil => exact .inl none
  | append_singleton moves m ih =>
    have after (b : Browser) : b.afterAll [m] = b.after m := rfl
    rw [afterAll_append, after]
    rcases latest_after (valid_afterAll valid moves) m with
      ⟨same, keeps⟩ | ⟨task, request, begun, latest⟩
    · rw [same]
      refine ih.imp_right ?_
      rintro ⟨before, first, since, task, request, rfl, lastBegun, latest⟩
      refine ⟨before, first, since ++ [m], task, request, by simp, ⟨lastBegun.begins, ?_⟩,
        keeps _ _ _ latest⟩
      rw [← List.cons_append, ← List.append_assoc, afterAll_append, after, same, lastBegun.last]
    · refine .inr ⟨moves, m, [], task, request, rfl, ⟨?_, rfl⟩, latest⟩
      rw [afterAll_append, after, begun]

theorem ofEndpoint_eq {client : Client Nat} {desktop : Desktop} {listing : Endpoint}
    {start : Browser} (opens : ofEndpoint client desktop listing = .ok start) :
    ∃ authorization, start =
      ⟨client, desktop, authorization, .fetching false, .ofListing listing, 0, none, []⟩ := by
  unfold ofEndpoint at opens
  split at opens
  · exact ⟨_, (Except.ok.inj opens).symm⟩
  · split at opens
    · exact ⟨_, (Except.ok.inj opens).symm⟩
    · cases opens

/-- A browser is valid from the start. -/
theorem valid_ofEndpoint {base : Web.Url} {token : String} {desktop : Desktop}
    {listing : Endpoint} {start : Browser}
    (opens : ofEndpoint (.fresh base token) desktop listing = .ok start) : start.Valid := by
  obtain ⟨authorization, rfl⟩ := ofEndpoint_eq opens
  refine ⟨Client.consistent_fresh base token, ?_, by simp [asked], rfl, by simp, fun _ => rfl⟩
  simp [Trail.Listed, Trail.entries, Trail.ofListing, Entry.folder]

theorem head?_append {s : String} {c : Char} (h : s.toList.head? = some c) (t : String) :
    (s ++ t).toList.head? = some c := by
  simp [String.toList_append, h]

/-- No failure begins like the message about a folder without a listing. -/
theorem head?_message (f : Failure) : ∃ c, c ≠ 'f' ∧ f.message.toList.head? = some c := by
  cases f with
  | refused refusal =>
    exact ⟨'A', by decide, head?_append (head?_append (head?_append (head?_append rfl _) _) _) _⟩
  | interrupted path reason =>
    exact ⟨'r', by decide, head?_append (head?_append (head?_append rfl _) _) _⟩
  | malformed path fault =>
    exact ⟨'i', by decide, head?_append (head?_append (head?_append rfl _) _) _⟩
  | unresolved path fault =>
    exact ⟨'i', by decide, head?_append (head?_append (head?_append rfl _) _) _⟩

/-- The failure of a call does not look like a folder that cannot be listed. -/
theorem report_ne_unlisted (f : Failure) (folder : Entry) : f.report ≠ unlisted folder := by
  intro same
  obtain ⟨c, other, first⟩ := head?_message f
  have text : f.report.message = some f.message := by cases f <;> rfl
  have text' : (unlisted folder).message = some ("folder '" ++ folder.name ++ "' has no listing") :=
    rfl
  rw [same, text', Option.some_inj] at text
  rw [← text, head?_append (head?_append (c := 'f') rfl _) _] at first
  exact other (Option.some.inj first).symm

/-- Before the first listing a browser waits for it. Afterwards the last one that was begun asks
for the current folder, and its outcome is what the browser shows. No folder lacks a listing. -/
theorem last_listing_wins {base : Web.Url} {token : String} {desktop : Desktop}
    {listing : Endpoint} {start : Browser}
    (opens : ofEndpoint (.fresh base token) desktop listing = .ok start) (moves : List Move) :
    let b := start.afterAll moves
    b.trail.current.contents.isSome ∧ (∀ folder, b.status ≠ .failed (unlisted folder)) ∧
      (b.client.begun = [] ∧ b.status = .fetching false ∨
        ∃ before m since task request, moves = before ++ m :: since ∧
          start.LastBegun before m since task request ∧
          b.trail.AskedBy request ∧ Shows m.isReload (b.outcome? task) b.status) := by
  intro b
  have valid : b.Valid := valid_afterAll (valid_ofEndpoint opens) moves
  have none : start.client.begun = [] := by
    obtain ⟨authorization, rfl⟩ := ofEndpoint_eq opens
    rfl
  have shown : b.client.begun = [] ∧ b.status = .fetching false ∨
      ∃ before m since task request, moves = before ++ m :: since ∧
        start.LastBegun before m since task request ∧
        b.trail.AskedBy request ∧ Shows m.isReload (b.outcome? task) b.status := by
    rcases latest_afterAll (valid_ofEndpoint opens) none moves with
      none | ⟨before, m, since, task, request, split, lastBegun, latest⟩
    · exact .inl ⟨none, valid.silent none⟩
    · exact .inr ⟨before, m, since, task, request, split, lastBegun, latest.current, latest.shows⟩
  refine ⟨valid.listed.current, fun folder failed => ?_, shown⟩
  rcases shown with ⟨-, status⟩ | ⟨-, m, -, task, -, -, -, -, shows⟩
  · simp [status] at failed
  · rw [failed] at shows
    generalize b.outcome? task = outcome at shows
    -- no failure of a call reads like that of a folder without a listing
    generalize reported : unlisted folder = report at shows
    cases shows with
    | failed f other => exact report_ne_unlisted f folder reported.symm

/-- A browser on the local machine that has not listed anything. -/
def sample : Browser where
  client := .fresh ⟨"http", some ⟨"", "", .named "localhost", none⟩, .rooted [""], none, none⟩
    "token"
  desktop := .empty ⟨0, 0, 800, 600⟩
  authorization := none
  status := .fetching false
  trail := .ofListing (.ofPath "/files")
  lastListing := 0
  selected := none
  tasks := []

/-- The root is listed, a folder of it is opened and listed again, and the answer to the last call
comes before the one to the call that it replaced. -/
def weekAnswered (a : Answer) : List Move :=
  [.load, .answer 0 (.whole 200 (Text.octets
      ("[\x7b\"id\":\"w\",\"display_name\":\"Week\",\"type\":\"Folder\"," ++
        "\"contents\":\x7b\"path\":\"/week\"\x7d\x7d]"))),
    .navigate (.folder "w" "Week" (.ofPath "/week")), .reload, .answer 2 a,
    .answer 1 (.whole 200 (Text.octets "[]"))]

/-- An answer that asks the user to authorize. -/
def forbidden : Answer := .whole 403 (Text.octets "\x7b\x7d")

def oneFile : Answer :=
  .whole 200 (Text.octets "[\x7b\"id\":\"n\",\"display_name\":\"N\",\"type\":\"File\"\x7d]")

/-- What the last call is answered with is what the browser shows of the folder, and the empty list
that comes later is not: the user has to authorize again, or there is a file. -/
theorem week_listed_last :
    ofEndpoint sample.client sample.desktop (.ofPath "/files") = .ok sample ∧
      (∃ before m since request, weekAnswered forbidden = before ++ m :: since ∧
        sample.LastBegun before m since 2 request ∧ request.path = "/week" ∧
        (sample.afterAll (weekAnswered forbidden)).status = .authorizing true) ∧
      (sample.afterAll (weekAnswered oneFile)).status.files?.map (fun files => files.map Entry.id) =
        some ["n"] := by
  have opens : ofEndpoint sample.client sample.desktop (.ofPath "/files") = .ok sample := rfl
  have calls : (sample.afterAll (weekAnswered forbidden)).client.begun.map
      (fun call => (call.1, call.2.path)) = [(0, "/files"), (1, "/week"), (2, "/week")] := by
    decide +kernel
  have again : (sample.afterAll (weekAnswered forbidden)).status.isAuthorizing ∧
      (sample.afterAll (weekAnswered forbidden)).status.action none = (some .tryAgain, true) := by
    decide +kernel
  refine ⟨opens, ?_, by decide +kernel⟩
  rcases last_listing_wins opens (weekAnswered forbidden) with
    ⟨-, -, ⟨none, -⟩ | ⟨before, m, since, task, request, split, last, -, shows⟩⟩
  · simp [none] at calls
  · have named := congrArg List.getLast? calls
    rw [List.getLast?_map, split, last.getLast?_begun] at named
    obtain ⟨rfl, path⟩ : task = 2 ∧ request.path = "/week" := by simpa using named
    refine ⟨before, m, since, request, split, last, path, ?_⟩
    generalize (sample.afterAll (weekAnswered forbidden)).outcome? 2 = outcome at shows
    generalize (sample.afterAll (weekAnswered forbidden)).status = status at shows again ⊢
    cases shows with
    | unauthorized f needs =>
      cases reload : m.isReload with
      | true => rfl
      | false => simp [reload, Status.action] at again
    | waiting | listed _ | failed _ _ => simp [Status.isAuthorizing] at again

end Browser

end CourseLaunch.Course
