import CourseLaunch.Proofs.Course.Navigation
import CourseLaunch.Proofs.Launch.Authorizing
/-!
# Authorizing before listing

A browser that asks the user to authorize lists nothing for that before its popup is closed. When
popups are blocked it lists nothing at all, and shows what it showed before, so that the user may
ask for a popup again. With this it does what a launch does.
-/

namespace CourseLaunch.Course
open Backend Popup

/-- How a task in a phase stands to popups. -/
def Phase.stance : Phase → Stance
  | .watching popup => .waits popup
  | .ended => .done
  | .listing _ _ => .active

namespace Browser

variable {b c : Browser}

/-- The popups of a browser and its tasks. -/
def watch (b : Browser) : Watch :=
  ⟨⟨b.authorization, b.desktop⟩, fun task => (b.phase? task).elim .active Phase.stance⟩

theorem stance_watch {task : Nat} {phase : Phase} (found : b.phase? task = some phase) :
    b.watch.stance task = phase.stance := by
  simp [watch, found]

theorem found_of_stance {task : Nat} (idle : b.watch.stance task ≠ .active) :
    ∃ phase, b.phase? task = some phase ∧ phase.stance ≠ .active := by
  cases found : b.phase? task with
  | none => simp [watch, found] at idle
  | some phase => exact ⟨phase, rfl, stance_watch found ▸ idle⟩

/-! ### Functions that leave the popups alone -/

def custody (b : Browser) : Custody := b.watch.custody

@[simp] theorem custody_add (b : Browser) (result : Result) : (b.add result).custody = b.custody :=
  rfl

@[simp] theorem custody_setPhase (b : Browser) (task : Nat) (phase : Phase) :
    (b.setPhase task phase).custody = b.custody := rfl

@[simp] theorem custody_accept (b : Browser) (number : Nat) (status : Status) :
    (b.accept number status).custody = b.custody := by
  unfold accept
  split <;> rfl

@[simp] theorem custody_follow (b : Browser) (task : Nat) (p : Progress Nat) :
    (b.follow task p).custody = b.custody := by
  unfold follow
  simp only
  split
  · rw [custody_setPhase, custody_accept]
    rfl
  · rfl

@[simp] theorem custody_fetch (b : Browser) (task : Nat) (isReload : Bool) :
    (b.fetch task isReload).custody = b.custody := by
  unfold fetch
  simp only
  split
  · rw [custody_setPhase, custody_accept]
    rfl
  · rw [custody_follow]
    rfl

@[simp] theorem custody_visit (b : Browser) (result : Result) (folder : Entry) :
    (b.visit result folder).custody = b.custody := by
  unfold visit
  split
  · rw [custody_fetch]
    rfl
  · rfl

@[simp] theorem custody_confirm (b : Browser) : b.confirm.custody = b.custody := by
  unfold confirm
  cases b.selected with
  | none => rfl
  | some entry =>
    simp only
    split
    · exact custody_visit b _ entry
    · rfl

/-! ### Moves -/

/-- Authorizing opens a popup at the page of the browser, or leaves the popups alone. -/
theorem authorize_stays (b : Browser) : b.custody.Stays b.authorize.custody := by
  unfold authorize
  cases held : b.authorization with
  | none => exact Custody.stays_of_eq (custody_fetch _ _ _)
  | some a =>
    have asked := Custody.stays_ask (c := b.custody) held b.client.token
    simp only
    split <;> exact asked

/-- A look at a popup lets go of it if it is closed. -/
theorem look_stays (b : Browser) (task : Nat) : b.custody.Stays (b.look task).custody := by
  unfold look
  cases b.watched? task with
  | none => exact Custody.stays_of_eq rfl
  | some popup =>
    simp only
    split
    · exact Custody.stays_of_eq rfl
    case isFalse isOpen =>
      rw [custody_fetch]
      exact Custody.stays_release (c := b.custody) ((Bool.not_eq_true _).mp isOpen)

/-- No move of a browser changes the page for authorization. -/
theorem custody_after (b : Browser) (m : Move) : b.custody.Stays (b.after m).custody := by
  cases m with
  | load => exact Custody.stays_of_eq (custody_fetch _ _ _)
  | reload => exact Custody.stays_of_eq (custody_fetch _ _ _)
  | retry =>
    show b.custody.Stays b.retry.custody
    unfold retry
    split
    · exact authorize_stays b
    · exact Custody.stays_of_eq (custody_fetch _ _ _)
  | authorize => exact authorize_stays b
  | navigate folder => exact Custody.stays_of_eq (custody_visit _ _ _)
  | confirm => exact Custody.stays_of_eq (custody_confirm b)
  | activate entry => exact Custody.stays_of_eq (custody_confirm (b.select entry.id))
  | select id => exact Custody.stays_of_eq rfl
  | answer task a => exact Custody.stays_of_eq (custody_follow _ _ _)
  | wake task => exact Custody.stays_of_eq (custody_follow _ _ _)
  | look task => exact look_stays b task
  | dismiss popup => exact ⟨Custody.Step.steps (.dismiss popup), rfl⟩
  | block blocked => exact ⟨Custody.Step.steps (.block blocked), rfl⟩

/-- What becomes of a call is no matter of tasks that wait for none. -/
theorem phase?_follow {k : Nat} {phase : Phase} (found : b.phase? k = some phase)
    (idle : phase.stance ≠ .active) (task : Nat) (p : Progress Nat) :
    (b.follow task p).phase? k = some phase := by
  unfold follow
  simp only
  split
  case h_1 result number isReload ended waits =>
    have other : task ≠ k := by
      rintro rfl
      obtain rfl : phase = .listing number isReload := Option.some.inj (found.symm.trans waits)
      exact idle rfl
    rw [phase?_setPhase, if_neg other, accept_phase?]
    exact found
  case h_2 => exact found

/-- A listing is no matter of the other tasks. -/
theorem phase?_fetch {k task : Nat} (other : k ≠ task) {phase : Phase}
    (found : b.phase? k = some phase) (idle : phase.stance ≠ .active) (isReload : Bool) :
    (b.fetch task isReload).phase? k = some phase := by
  unfold fetch
  simp only
  split
  · rw [phase?_setPhase, if_neg (Ne.symm other), accept_phase?]
    exact found
  · refine phase?_follow ?_ idle task _
    rw [phase?_setPhase, if_neg (Ne.symm other)]
    exact found

/-- A task that waits for a popup goes on only when it is closed. -/
theorem After.stance {m : Move} (h : b.After m c) {k : Nat}
    (idle : b.watch.stance k ≠ .active) : c.watch.stance k = b.watch.stance k ∨
      ∃ popup, b.watch.stance k = .waits popup ∧ b.desktop.isOpen popup = false := by
  obtain ⟨phase, found, known⟩ := found_of_stance idle
  have kept {d : Browser} (found' : d.phase? k = some phase) :
      d.watch.stance k = b.watch.stance k :=
    (stance_watch found').trans (stance_watch found).symm
  cases h with
  | quiet c quiet => exact .inl (kept (quiet.phases k phase found))
  | fetches task d ready =>
    by_cases same : k = task
    · subst same
      rcases ready.free with none | ⟨popup, watching, closed⟩
      · simp [none] at found
      · exact .inr ⟨popup, stance_watch watching, closed⟩
    · exact .inl (kept (phase?_fetch same (ready.phases k phase found) known m.isReload))
  | advances task p advances => exact .inl (kept (phase?_follow found known task p))

/-- Every move of a browser handles popups as a machine does. -/
theorem handles_after (b : Browser) (m : Move) : b.watch.Handles (b.after m).watch where
  -- the tasks that are idle stay so, apart from the one whose popup was closed
  custody := (custody_after b m).steps
  stance _ idle := ((after_after b m).stance idle).imp_right fun ⟨popup, waits, closed⟩ =>
    ⟨popup, waits, .inl closed⟩

/-- A task that has asked for a listing waits for no popup. -/
theorem Valid.stance_ne_waits (valid : b.Valid) {task : Nat} (asked : task ∈ b.asked)
    (popup : Nat) : b.watch.stance task ≠ .waits popup := by
  obtain ⟨phase, found, other⟩ := valid.asked task asked
  rw [stance_watch found]
  intro waits
  cases phase with
  | watching popup' => exact other popup' rfl
  | _ => cases waits

theorem stance_ne_gaveUp (b : Browser) (task : Nat) : b.watch.stance task ≠ .gaveUp := by
  intro gaveUp
  have idle : b.watch.stance task ≠ .active := by simp [gaveUp]
  obtain ⟨phase, found, -⟩ := found_of_stance idle
  rw [stance_watch found] at gaveUp
  cases phase <;> cases gaveUp

/-- A browser is as it was before it was refused a popup, but for what the task gives. -/
structure Kept (b c : Browser) : Prop where
  client : c.client = b.client
  told : c.tasks[b.nextTask]? = some ⟨.blocked, .ended⟩
  status : c.status = b.status
  trail : c.trail = b.trail
  selected : c.selected = b.selected
  lastListing : c.lastListing = b.lastListing

/-- A move that asks the user to authorize. -/
inductive Authorizing (b : Browser) : Move → Prop where
  | authorize : Authorizing b .authorize
  | retry (needed : b.status.isAuthorizing) : Authorizing b .retry

theorem Authorizing.after {m : Move} (h : b.Authorizing m) : b.after m = b.authorize := by
  cases h with
  | authorize => rfl
  | retry needed => exact if_pos needed

/-- A browser as a machine whose user asks for a popup. A task of it goes on when it lists
something. -/
def authorizer : Authorizer Browser Move where
  after := after
  watch := watch
  WentOn b task := task ∈ b.asked
  Valid := Valid
  valid_after := valid_after
  handles := handles_after
  not_waits valid asked := valid.stance_ne_waits asked
  not_gaveUp _ _ := stance_ne_gaveUp _ _
  token b := b.client.token
  nextTask := nextTask
  Asks := Authorizing
  block := .block
  Kept := Kept

/-! ### What can be relied on -/

/-- The page for authorization is the same after every history. -/
theorem page_afterAll (b : Browser) (moves : List Move) :
    (b.afterAll moves).authorization.map Authorization.page =
      b.authorization.map Authorization.page := by
  induction moves using List.reverseRecOn with
  | nil => rfl
  | append_singleton moves m ih =>
    rw [afterAll_append]
    exact (custody_after _ m).page.trans ih

/-- Only a task that is new or waits for a popup lists something. -/
theorem asked_after (valid : b.Valid) (m : Move) {task : Nat} (asked : task ∈ (b.after m).asked) :
    task ∈ b.asked ∨ b.phase? task = none ∨ ∃ popup, b.phase? task = some (.watching popup) := by
  have after := after_after b m
  generalize b.after m = c at after asked
  cases after with
  | quiet c quiet => exact .inl (by rwa [Browser.asked, quiet.client] at asked)
  | fetches k c ready =>
    obtain ⟨-, request, begun, -⟩ := fetch_latest m.isReload valid ready
    rw [Browser.asked, begun, List.map_append, List.mem_append] at asked
    refine asked.imp_right fun new => ?_
    obtain rfl : task = k := by simpa using new
    obtain unknown | ⟨popup, watching, -⟩ := ready.free
    · exact .inl unknown
    · exact .inr ⟨popup, watching⟩
  | advances k p advances =>
    rw [Browser.asked, follow_client, (advances valid.client.labels_nodup).begun_eq] at asked
    exact .inl asked

/-- A task that has ended without listing anything never lists anything. -/
theorem not_asked_afterAll (valid : b.Valid) {task : Nat} (ended : b.phase? task = some .ended)
    (silent : task ∉ b.asked) (moves : List Move) : task ∉ (b.afterAll moves).asked := by
  induction moves using List.reverseRecOn with
  | nil => exact silent
  | append_singleton moves m ih =>
    have done := authorizer.done_afterAll (stance_watch ended) moves
    rw [afterAll_append]
    intro asked
    rcases asked_after (valid_afterAll valid moves) m asked with old | none | ⟨popup, watching⟩
    · exact ih old
    · have active : (b.afterAll moves).watch.stance task = .active := by simp [watch, none]
      exact absurd (active.symm.trans done) nofun
    · exact absurd ((stance_watch watching).symm.trans done) nofun

theorem stance_watching (b : Browser) (result : Result) (popup : Nat) :
    ((b.add result).setPhase b.nextTask (.watching popup)).watch.stance b.nextTask =
      .waits popup := by
  have watching : ((b.add result).setPhase b.nextTask (.watching popup)).phase? b.nextTask =
      some (.watching popup) := by
    rw [phase?_setPhase, if_pos rfl, phase?_add, if_pos rfl]
    rfl
  exact stance_watch watching

theorem stance_nextTask_add (b : Browser) (result : Result) :
    (b.add result).watch.stance b.nextTask = .done := by
  have ended : (b.add result).phase? b.nextTask = some .ended := by rw [phase?_add, if_pos rfl]
  exact stance_watch ended

/-- A browser whose popup is not open asks for one. -/
theorem asksHost {m : Move} (asks : b.Authorizing m) {a : Authorization}
    (held : b.authorization = some a) (closed : a.openPopup? b.desktop = none) :
    authorizer.AsksHost a.page b m := by
  show (b.after m).desktop = (b.desktop.openPopup (a.address b.client.token)).2 ∧
    ((b.after m).watch.stance b.nextTask).popup? =
      (b.desktop.openPopup (a.address b.client.token)).1
  rw [asks.after, authorize]
  simp only [held, Authorization.openOrFocus_of_closed _ closed]
  rcases b.desktop.openPopup (a.address b.client.token) with ⟨popup, desktop⟩
  cases popup with
  | some popup =>
    let opened := { b with authorization := some { a with popup := some popup }, desktop := desktop }
    exact ⟨rfl, congrArg Stance.popup? (stance_watching opened .authorized popup)⟩
  | none =>
    let refused := { b with authorization := some { a with popup := none }, desktop := desktop }
    exact ⟨rfl, congrArg Stance.popup? (stance_nextTask_add refused .blocked)⟩

theorem nextTask_not_asked (valid : b.Valid) : b.nextTask ∉ b.asked := by
  intro known
  obtain ⟨phase, found, -⟩ := valid.asked _ known
  simp [phase?_nextTask] at found

/-- The task of a browser asks the user to authorize at the page that the browser knows. -/
theorem authorize_asked (valid : b.Valid) {a : Authorization} (held : b.authorization = some a) :
    authorizer.Asked (.ok a.page) b b.authorize := by
  have after : b.authorize.Valid := valid_after valid .authorize
  have turns : b.custody.Turns a.page a b.desktop := .held a held rfl
  have asks := a.openOrFocus_asks b.client.token b.desktop
  unfold authorize at after ⊢
  simp only [held] at after ⊢
  rcases asked : a.openOrFocus b.client.token b.desktop with ⟨popup, e, desktop⟩
  rw [asked] at asks
  simp only [asked] at after ⊢
  cases popup with
  | some popup =>
    have waits := stance_watching { b with authorization := some e, desktop := desktop }
      .authorized popup
    exact .opened a.page a e b.desktop desktop popup rfl turns asked rfl waits
  | none =>
    refine .blocked a.page a e b.desktop desktop rfl turns asked ⟨fun more => ?_, ?_, ?_⟩
    · have ended : (Browser.add { b with authorization := some e, desktop := desktop }
          .blocked).phase? b.nextTask = some .ended := by simp [phase?, add, nextTask]
      exact not_asked_afterAll after ended (nextTask_not_asked valid) more
    · exact ⟨rfl, by simp [add, nextTask], rfl, rfl, rfl, rfl⟩
    · intro m asks' blocked'
      -- a refusal changes nothing but the popup that is held, so the next call asks for the same
      -- page
      obtain ⟨closed, blocked⟩ := asks.blocked
      rw [Authorization.openOrFocus_of_blocked _ closed blocked] at asked
      obtain ⟨rfl, rfl⟩ : _ ∧ _ := by simpa using asked
      have again : Authorizing ((Browser.add { b with
          authorization := some { a with popup := none } } .blocked).after (.block blocked')) m := by
        cases asks' with
        | authorize => exact .authorize
        | retry needed => exact .retry needed
      exact asksHost (a := { a with popup := none }) again rfl rfl

/-- The page for authorization is the one that the endpoint names, as seen from the backend. -/
theorem ofEndpoint_page {client : Client Nat} {desktop : Desktop} {listing : Endpoint}
    {start : Browser} (opens : ofEndpoint client desktop listing = .ok start) {path : String}
    (asks : listing.authUrl = some path) :
    ∃ page, client.base.join path = .ok page ∧ start.authorization = some (.ofPage page) := by
  unfold ofEndpoint at opens
  simp only [asks] at opens
  split at opens
  case h_1 page named => exact ⟨page, named, by rw [← Except.ok.inj opens]⟩
  case h_2 => cases opens

end Browser

/-- A retry of a launch and the authorization of a browser come before what they fetch, and nothing
is lost when popups are blocked. This is so after every history, whatever else is under way. -/
theorem authorization_first :
    (∀ (config : Launch.Config) (base : Web.Url) (token : String) (desktop : Desktop)
        (moves : List Launch.Move) (path : String),
      let s := (Launch.Session.initial config base token desktop).afterAll moves
      s.page.problem.all Launch.Problem.allowsRetry → s.page.authorizationUrl = some path →
        Launch.Session.authorizer.AuthorizesFirst (s.client.base.join path) s (s.after .retry)) ∧
    (∀ (base : Web.Url) (token : String) (desktop : Desktop) (listing : Endpoint)
        (start : Browser) (path : String),
      Browser.ofEndpoint (.fresh base token) desktop listing = .ok start →
      listing.authUrl = some path → ∃ page, base.join path = .ok page ∧
        ∀ moves m, (start.afterAll moves).Authorizing m →
          Browser.authorizer.AuthorizesFirst (.ok page) (start.afterAll moves)
            ((start.afterAll moves).after m)) := by
  refine ⟨fun config base token desktop moves path => ?_, ?_⟩
  · intro s allowed asks
    have start := Launch.Session.sound_initial config base token desktop
    have sound : s.Sound := Launch.Session.sound_afterAll start moves
    exact (Launch.Session.retry_asked sound allowed asks).authorizesFirst
      (Launch.Session.sound_after sound .retry)
  · intro base token desktop listing start path opens asks
    obtain ⟨page, named, held⟩ := Browser.ofEndpoint_page opens asks
    refine ⟨page, named, fun moves m authorizing => ?_⟩
    have same := Browser.page_afterAll start moves
    rw [held] at same
    obtain ⟨a, current, rfl⟩ := Option.map_eq_some_iff.mp same
    have valid := Browser.valid_afterAll (Browser.valid_ofEndpoint opens) moves
    rw [authorizing.after]
    exact (Browser.authorize_asked valid current).authorizesFirst
      (Browser.valid_after valid .authorize)

def host : Web.Url := ⟨"http", some ⟨"", "", .named "localhost", none⟩, .rooted [""], none, none⟩

/-- A listing that the user has to authorize. -/
def guarded : Endpoint := ⟨"/files", some "/allow", none⟩

/-- A desktop that blocks popups. -/
def blockedDesktop : Desktop := ⟨⟨0, 0, 800, 600⟩, true, []⟩

/-- A launch whose content has to be authorized. -/
def refusedLaunch : Launch.Session :=
  (Launch.Session.initial ⟨⟨"token", some guarded, none⟩, none, none, none, []⟩ host "token"
    blockedDesktop).afterAll
      [.fetchAll, .answer ⟨0, .content⟩ (.whole 403 (Text.octets "\x7b\x7d"))]

/-- A browser whose listing has to be authorized. -/
def refusedBrowser : Browser where
  client := .fresh host "token"
  desktop := blockedDesktop
  authorization := some (.ofPage { host with path := .rooted ["allow"] })
  status := .fetching false
  trail := .ofListing guarded
  lastListing := 0
  selected := none
  tasks := []

theorem join_allow : host.join "/allow" = .ok { host with path := .rooted ["allow"] } := by
  decide +kernel

/-- On a desktop that blocks popups, a retry and a browser are refused one, and may ask again. -/
theorem blocked_popups_asked_again :
    (∃ page, refusedLaunch.client.base.join "/allow" = .ok page ∧
      refusedLaunch.custody.Refuses page ∧
      Launch.Session.authorizer.AuthorizesFirst (.ok page) refusedLaunch
        (refusedLaunch.after .retry)) ∧
    (refusedBrowser.custody.Refuses { host with path := .rooted ["allow"] } ∧
      Browser.authorizer.AuthorizesFirst (.ok { host with path := .rooted ["allow"] })
        refusedBrowser (refusedBrowser.after .authorize)) := by
  have allowed : refusedLaunch.page.problem.all Launch.Problem.allowsRetry := by decide +kernel
  have asks : refusedLaunch.page.authorizationUrl = some "/allow" := by decide +kernel
  have lacks : refusedLaunch.authorization.isNone ∧ refusedLaunch.desktop.blocked := by
    decide +kernel
  have based : refusedLaunch.client.base = host := by decide +kernel
  have named : refusedLaunch.client.base.join "/allow" =
      .ok { host with path := .rooted ["allow"] } := based ▸ join_allow
  have refuses : refusedLaunch.custody.Refuses { host with path := .rooted ["allow"] } := by
    refine ⟨fun a held => ?_, lacks.2⟩
    have held : refusedLaunch.authorization = some a := held
    simp [held] at lacks
  have first := authorization_first.1 _ host "token" blockedDesktop _ "/allow" allowed asks
  have opens : Browser.ofEndpoint (.fresh host "token") blockedDesktop guarded =
      .ok refusedBrowser := by
    unfold Browser.ofEndpoint
    simp only [guarded, Client.fresh, join_allow]
    rfl
  have refused : refusedBrowser.custody.Refuses { host with path := .rooted ["allow"] } := by
    refine ⟨fun a held _ => ?_, rfl⟩
    obtain rfl := Option.some.inj held
    rfl
  obtain ⟨page, named', later⟩ :=
    authorization_first.2 host "token" blockedDesktop guarded refusedBrowser "/allow" opens rfl
  obtain rfl := Except.ok.inj (join_allow.symm.trans named')
  exact ⟨⟨_, named, refuses, named ▸ first⟩, refused, later [] _ .authorize⟩

end CourseLaunch.Course
