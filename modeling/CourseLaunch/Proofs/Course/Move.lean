import CourseLaunch.Course.Browser.Session
import CourseLaunch.Proofs.Backend.Journal
import CourseLaunch.Proofs.Course.Breadcrumbs
/-!
# Histories of a file browser

A history is a list of moves. A move starts a task, changes what is highlighted, lets a task go on,
or comes from outside. Every move does one of three things (`after_after`): it begins a listing of
the current folder, it lets the call of a task go on, or it leaves the calls and the status alone.
-/

namespace CourseLaunch.Course
open Backend Popup

/-- Something that happens to a browser. -/
inductive Move where
  | load
  | reload
  | retry
  | authorize
  | navigate (folder : Entry)
  | confirm
  | activate (entry : Entry)
  | select (id : String)
  | answer (task : Nat) (a : Answer)
  | wake (task : Nat)
  | look (task : Nat)
  | dismiss (popup : Nat)
  | block (blocked : Bool)

/-- Whether a listing that begins with a move is a reload. -/
def Move.isReload : Move → Bool
  | reload | retry | authorize | look _ => true
  | _ => false

namespace Trail

/-- Every folder of a trail can be listed. -/
def Listed (t : Trail) : Prop := ∀ e ∈ t.entries, e.contents.isSome

theorem Listed.current {t : Trail} (h : t.Listed) : t.current.contents.isSome := by
  exact h t.current (List.mem_of_getLast? t.getLast?_entries)

/-- A trail stays one of folders that can be listed when the next one can be. -/
theorem Listed.navigate {t : Trail} (h : t.Listed) {folder : Entry}
    (listed : folder.contents.isSome) : (t.navigate folder).Listed := by
  intro e known
  unfold Trail.navigate at known
  split at known
  · exact h e (by simp_all [entries])
  · split at known
    · rcases List.mem_cons.mp known with rfl | below
      · exact h _ List.mem_cons_self
      · exact h e (List.mem_cons_of_mem _ (List.mem_of_mem_take below))
    · simp only [entries, List.mem_cons, List.mem_append, List.not_mem_nil, or_false] at known
      rcases known with rfl | below | rfl
      · exact h _ List.mem_cons_self
      · exact h e (List.mem_cons_of_mem _ below)
      · exact listed

end Trail

namespace Browser

/-- The browser after a move. -/
def after (b : Browser) : Move → Browser
  | .load => b.load
  | .reload => b.reload
  | .retry => b.retry
  | .authorize => b.authorize
  | .navigate folder => b.navigate folder
  | .confirm => b.confirm
  | .activate entry => b.activate entry
  | .select id => b.select id
  | .answer task a => b.answer task a
  | .wake task => b.wake task
  | .look task => b.look task
  | .dismiss popup => { b with desktop := b.desktop.userCloses popup }
  | .block blocked => { b with desktop := b.desktop.block blocked }

def afterAll (b : Browser) (moves : List Move) : Browser := moves.foldl after b

@[simp] theorem afterAll_nil (b : Browser) : b.afterAll [] = b := rfl

@[simp] theorem afterAll_cons (b : Browser) (m : Move) (moves : List Move) :
    b.afterAll (m :: moves) = (b.after m).afterAll moves := rfl

@[simp] theorem afterAll_append (b : Browser) (moves more : List Move) :
    b.afterAll (moves ++ more) = (b.afterAll moves).afterAll more := List.foldl_append

variable {b c : Browser}

/-- The tasks that ever asked for a listing. -/
def asked (b : Browser) : List Nat := b.client.begun.map Prod.fst

/-- A new task has nothing to wait for, and the others wait as before. -/
theorem phase?_add (b : Browser) (result : Result) (task : Nat) :
    (b.add result).phase? task = if task = b.nextTask then some .ended else b.phase? task := by
  unfold phase? add nextTask
  split
  case isTrue last => simp [last]
  case isFalse other =>
    rcases Nat.lt_or_gt_of_ne other with old | beyond
    · simp only [List.getElem?_append_left old]
    · simp only
      rw [List.getElem?_eq_none (by simp; omega), List.getElem?_eq_none (by omega)]

theorem phase?_setPhase (b : Browser) (task : Nat) (phase : Phase) (k : Nat) :
    (b.setPhase task phase).phase? k =
      if task = k then (b.phase? k).map fun _ => phase else b.phase? k := by
  unfold phase? setPhase
  simp only [List.getElem?_modify]
  split <;> cases b.tasks[k]? <;> simp

/-! ### What a move does -/

/-- A browser that differs at most in its popups and in what is highlighted. -/
structure Same (b c : Browser) : Prop where
  client : c.client = b.client
  status : c.status = b.status
  lastListing : c.lastListing = b.lastListing
  trail : c.trail = b.trail
  tasks : c.tasks = b.tasks

/-- A browser with the same calls, the same status and more tasks. -/
structure Quiet (b c : Browser) : Prop where
  client : c.client = b.client
  status : c.status = b.status
  lastListing : c.lastListing = b.lastListing
  trail : c.trail = b.trail
  phases : ∀ task phase, b.phase? task = some phase → c.phase? task = some phase

/-- A browser that is about to list its current folder. Only the trail and the tasks may have
changed so far. The task of the listing is new, or the popup is closed that it waited for. -/
structure Ready (b : Browser) (task : Nat) (c : Browser) : Prop where
  client : c.client = b.client
  lastListing : c.lastListing = b.lastListing
  listed : b.trail.Listed → c.trail.Listed
  phases : ∀ task phase, b.phase? task = some phase → c.phase? task = some phase
  known : (c.phase? task).isSome
  free : b.phase? task = none ∨
    ∃ popup, b.phase? task = some (.watching popup) ∧ b.desktop.isOpen popup = false

/-- What a move makes of a browser. -/
inductive After (b : Browser) (m : Move) : Browser → Prop where
  | quiet (c : Browser) (quiet : b.Quiet c) : After b m c
  | fetches (task : Nat) (c : Browser) (ready : b.Ready task c) :
      After b m (c.fetch task m.isReload)
  | advances (task : Nat) (p : Progress Nat)
      (advances : b.client.labels.Nodup → b.client.Advances task p) :
      After b m (b.follow task p)

theorem Same.refl (b : Browser) : b.Same b := ⟨rfl, rfl, rfl, rfl, rfl⟩

theorem Same.phase?_eq (same : b.Same c) (task : Nat) : c.phase? task = b.phase? task := by
  simp [phase?, same.tasks]

theorem Same.nextTask_eq (same : b.Same c) : c.nextTask = b.nextTask := by
  simp [nextTask, same.tasks]

theorem phase?_nextTask (b : Browser) : b.phase? b.nextTask = none := by
  simp [phase?, nextTask]

theorem phase?_add_of_some {result : Result} {task : Nat} {phase : Phase}
    (known : b.phase? task = some phase) : (b.add result).phase? task = some phase := by
  rw [phase?_add, if_neg]
  · exact known
  · rintro rfl
    simp [phase?_nextTask] at known

theorem Same.quiet (same : b.Same c) : b.Quiet c :=
  ⟨same.client, same.status, same.lastListing, same.trail,
    fun task _ known => (same.phase?_eq task).trans known⟩

theorem Same.quiet_add (same : b.Same c) (result : Result) : b.Quiet (c.add result) :=
  ⟨same.client, same.status, same.lastListing, same.trail,
    fun task _ known => phase?_add_of_some ((same.phase?_eq task).trans known)⟩

/-- A new task is ready to list a folder, also one that it just went to. -/
theorem Same.ready_add (same : b.Same c) (result : Result) (trail : Trail)
    (listed : b.trail.Listed → trail.Listed) :
    b.Ready c.nextTask ({ c with trail := trail }.add result) where
  client := same.client
  lastListing := same.lastListing
  listed := listed
  phases task _ known :=
    phase?_add_of_some (b := { c with trail := trail }) ((same.phase?_eq task).trans known)
  known := by simp [phase?_add, nextTask]
  free := .inl (same.nextTask_eq ▸ b.phase?_nextTask)

/-- A visit asks for a new listing if the folder can be listed, and does nothing else. -/
theorem visit_after (same : b.Same c) {m : Move} (fresh : m.isReload = false) (result : Result)
    (folder : Entry) : b.After m (c.visit result folder) := by
  unfold visit
  split
  case isTrue can =>
    have contents : folder.contents.isSome := (Bool.and_eq_true _ _ ▸ can).2
    have ready := same.ready_add result (c.trail.navigate folder) fun listed =>
      (same.trail ▸ listed : c.trail.Listed).navigate contents
    exact fresh ▸ .fetches _ _ ready
  case isFalse => exact .quiet _ (same.quiet_add result)

/-- Taking what is highlighted goes to a folder or gives a file. -/
theorem confirm_after (same : b.Same c) {m : Move} (fresh : m.isReload = false) :
    b.After m c.confirm := by
  unfold confirm
  cases c.selected with
  | none => exact .quiet _ (same.quiet_add _)
  | some entry =>
    simp only
    split
    · exact visit_after same fresh _ entry
    · exact .quiet _ (same.quiet_add _)

/-- A new task asks for the listing of the current folder. -/
theorem fetch_after (b : Browser) (m : Move) (result : Result) :
    b.After m ((b.add result).fetch b.nextTask m.isReload) :=
  .fetches _ _ ((Same.refl b).ready_add result b.trail fun listed => listed)

/-- A task that waits for a popup asks for no listing. -/
theorem quiet_watch (same : b.Same c) (popup : Nat) :
    b.Quiet ((c.add .authorized).setPhase c.nextTask (.watching popup)) where
  client := same.client
  status := same.status
  lastListing := same.lastListing
  trail := same.trail
  phases task phase known := by
    have other : c.nextTask ≠ task := by
      rintro rfl
      simp [same.nextTask_eq, phase?_nextTask] at known
    rw [phase?_setPhase, if_neg other]
    exact phase?_add_of_some ((same.phase?_eq task).trans known)

/-- Authorizing lists again when there is nothing to authorize, and asks for no listing otherwise.
-/
theorem authorize_after (b : Browser) {m : Move} (again : m.isReload) :
    b.After m b.authorize := by
  unfold authorize
  cases b.authorization with
  | none => exact again ▸ fetch_after b m .authorized
  | some a =>
    have same (current : Option Authorization) (desktop : Desktop) :
        b.Same { b with authorization := current, desktop := desktop } :=
      ⟨rfl, rfl, rfl, rfl, rfl⟩
    simp only
    split
    case h_1 popup found => exact .quiet _ (quiet_watch (same _ _) popup)
    case h_2 => exact .quiet _ ((same _ _).quiet_add .blocked)

/-- A look at a popup lists again when the popup was closed. -/
theorem look_after (b : Browser) (task : Nat) : b.After (.look task) (b.look task) := by
  unfold look
  cases watched : b.watched? task with
  | none => exact .quiet _ (Same.refl b).quiet
  | some popup =>
    have watching : b.phase? task = some (.watching popup) := by
      unfold watched? at watched
      split at watched <;> simp_all
    simp only
    split
    · exact .quiet _ (Same.refl b).quiet
    case isFalse closed =>
      exact .fetches task _ ⟨rfl, rfl, fun h => h, fun _ _ h => h,
        Option.isSome_iff_exists.mpr ⟨_, watching⟩,
        .inr ⟨popup, watching, (Bool.not_eq_true _).mp closed⟩⟩

/-- Every move begins a listing, lets a call go on, or changes neither calls nor status. -/
theorem after_after (b : Browser) (m : Move) : b.After m (b.after m) := by
  cases m with
  | load => exact fetch_after b .load .nothing
  | reload => exact fetch_after b .reload .nothing
  | retry =>
    show b.After .retry b.retry
    unfold retry
    split
    · exact authorize_after b rfl
    · exact fetch_after b .retry .authorized
  | authorize => exact authorize_after b rfl
  | navigate folder => exact visit_after (Same.refl b) rfl .nothing folder
  | confirm => exact confirm_after (Same.refl b) rfl
  | activate entry =>
    have same : b.Same (b.select entry.id) := ⟨rfl, rfl, rfl, rfl, rfl⟩
    exact confirm_after (m := .activate entry) same rfl
  | select id => exact .quiet _ (Same.quiet ⟨rfl, rfl, rfl, rfl, rfl⟩)
  | answer task a =>
    exact .advances task _ fun once => Client.answer_advances once task a
  | wake task => exact .advances task _ fun once => Client.resume_advances once task
  | look task => exact look_after b task
  | dismiss popup => exact .quiet _ (Same.quiet ⟨rfl, rfl, rfl, rfl, rfl⟩)
  | block blocked => exact .quiet _ (Same.quiet ⟨rfl, rfl, rfl, rfl, rfl⟩)

end Browser

end CourseLaunch.Course
