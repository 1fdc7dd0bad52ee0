import CourseLaunch.Proofs.Course.Move
import CourseLaunch.Proofs.Launch.Publication
import CourseLaunch.Proofs.Launch.Token
/-!
# The token of a file browser

Two browsers that differ in the session token only go on doing so, as two launches do. So nothing
that is shown, reported or asked for tells anything about the token, but the headers and the
addresses of popups that carry it.
-/

namespace CourseLaunch.Course
open Backend Popup

namespace Browser

/-- Two browsers that differ in the session token only, which is in the headers of what was sent and
in the addresses of popups. -/
structure Alike (token token' : String) (b b' : Browser) : Prop where
  own : b.client.token = token
  client : b'.client = b.client.withToken token'
  desktop : b.desktop.Alike token token' b'.desktop
  authorization : b'.authorization = b.authorization
  status : b'.status = b.status
  trail : b'.trail = b.trail
  lastListing : b'.lastListing = b.lastListing
  selected : b'.selected = b.selected
  tasks : b'.tasks = b.tasks

variable {token token' : String} {b b' : Browser}

namespace Alike

theorem phase? (h : b.Alike token token' b') (task : Nat) : b'.phase? task = b.phase? task := by
  unfold Browser.phase?
  rw [h.tasks]

theorem nextTask (h : b.Alike token token' b') : b'.nextTask = b.nextTask :=
  congrArg List.length h.tasks

/-! ### Changes -/

theorem setPhase (h : b.Alike token token' b') (task : Nat) (phase : Phase) :
    (b.setPhase task phase).Alike token token' (b'.setPhase task phase) :=
  { h with tasks := by simp only [Browser.setPhase, h.tasks] }

theorem add (h : b.Alike token token' b') (result : Result) :
    (b.add result).Alike token token' (b'.add result) :=
  { h with tasks := congrArg (· ++ [_]) h.tasks }

theorem accept (h : b.Alike token token' b') (number : Nat) (status : Status) :
    (b.accept number status).Alike token token' (b'.accept number status) := by
  unfold Browser.accept
  rw [h.lastListing]
  split
  · exact { h with status := rfl, lastListing := rfl }
  · exact h

theorem renew (h : b.Alike token token' b') (isReload : Bool) :
    (b.renew isReload).Alike token token' (b'.renew isReload) :=
  { h with lastListing := congrArg (· + 1) h.lastListing, status := rfl, selected := rfl }

theorem select (h : b.Alike token token' b') (id : String) :
    (b.select id).Alike token token' (b'.select id) :=
  { h with selected := by simp only [Browser.select, h.status] }

/-- The call of a task goes on the same way, whatever the token is. -/
theorem follow (h : b.Alike token token' b') (task : Nat) {p : Progress Nat}
    (kept : p.1.token = token) :
    (b.follow task p).Alike token token' (b'.follow task (p.withToken token')) := by
  have moved : { b with client := p.1 }.Alike token token'
      { b' with client := p.1.withToken token' } := { h with own := kept, client := rfl }
  have same := moved.phase? task
  obtain ⟨client, result⟩ := p
  unfold Browser.follow
  simp only [Progress.withToken] at same ⊢
  rw [same]
  cases result with
  | none => exact moved
  | some result =>
    cases ({ b with client := client } : Browser).phase? task with
    | none => exact moved
    | some phase =>
      cases phase with
      | listing number isReload => exact (moved.accept _ _).setPhase task .ended
      | _ => exact moved

/-! ### Listings -/

section
variable (legal : Legal token token')
include legal

theorem answer (h : b.Alike token token' b') (task : Nat) (a : Answer) :
    (b.answer task a).Alike token token' (b'.answer task a) := by
  unfold Browser.answer
  rw [h.client, ← Client.withToken_answer (h.own ▸ legal)]
  exact h.follow task ((Client.token_answer _ _ _).trans h.own)

theorem wake (h : b.Alike token token' b') (task : Nat) :
    (b.wake task).Alike token token' (b'.wake task) := by
  unfold Browser.wake
  rw [h.client, ← Client.withToken_resume (h.own ▸ legal)]
  exact h.follow task ((Client.token_resume _ _).trans h.own)

theorem begin (h : b.Alike token token' b') (task : Nat) (request : Request) :
    (b.follow task (b.client.begin task request)).Alike token token'
      (b'.follow task (b'.client.begin task request)) := by
  rw [h.client, ← Client.withToken_begin (h.own ▸ legal)]
  exact h.follow task ((Client.token_begin _ _ _).trans h.own)

/-- A listing is asked for the same way, whatever the token is. -/
theorem fetch (h : b.Alike token token' b') (task : Nat) (isReload : Bool) :
    (b.fetch task isReload).Alike token token' (b'.fetch task isReload) := by
  have renewed := h.renew isReload
  unfold Browser.fetch
  simp only
  rw [renewed.trail, renewed.lastListing]
  split
  · exact (renewed.accept _ _).setPhase task .ended
  case h_2 listing current =>
    exact (renewed.setPhase task _).begin legal task (.ofEndpoint listing)

theorem fetchNew (h : b.Alike token token' b') (result : Result) (isReload : Bool) :
    ((b.add result).fetch b.nextTask isReload).Alike token token'
      ((b'.add result).fetch b'.nextTask isReload) := by
  rw [h.nextTask]
  exact (h.add result).fetch legal b.nextTask isReload

theorem visit (h : b.Alike token token' b') (result : Result) (folder : Entry) :
    (b.visit result folder).Alike token token' (b'.visit result folder) := by
  have moved : { b with trail := b.trail.navigate folder }.Alike token token'
      { b' with trail := b'.trail.navigate folder } :=
    { h with trail := congrArg (·.navigate folder) h.trail }
  unfold Browser.visit
  split
  · exact moved.fetchNew legal result false
  · exact h.add result

theorem confirm (h : b.Alike token token' b') : b.confirm.Alike token token' b'.confirm := by
  unfold Browser.confirm
  rw [h.selected]
  cases b.selected with
  | none => exact h.add _
  | some entry =>
    simp only
    split
    · exact h.visit legal _ entry
    · exact h.add _

/-! ### Authorization -/

/-- The user is asked to authorize the same way, whatever the token is; only the popup carries it.
-/
theorem authorize (h : b.Alike token token' b') :
    b.authorize.Alike token token' b'.authorize := by
  unfold Browser.authorize
  rw [h.authorization]
  cases b.authorization with
  | none => exact h.fetchNew legal .authorized true
  | some a =>
    have own' : b'.client.token = token' := congrArg Client.token h.client
    obtain ⟨popup, held, d, d', answer, answer', desktop⟩ :=
      Authorization.alike_openOrFocus h.desktop a
    simp only [h.own, own', answer, answer']
    have opened : { b with authorization := some held, desktop := d }.Alike token token'
        { b' with authorization := some held, desktop := d' } :=
      { h with desktop := desktop, authorization := rfl }
    cases popup with
    | none => exact opened.add _
    | some popup =>
      simp only
      rw [opened.nextTask]
      exact (opened.add _).setPhase _ _

theorem retry (h : b.Alike token token' b') : b.retry.Alike token token' b'.retry := by
  unfold Browser.retry
  rw [h.status]
  split
  · exact h.authorize legal
  · exact h.fetchNew legal .authorized true

omit legal in
theorem watched? (h : b.Alike token token' b') (task : Nat) :
    b'.watched? task = b.watched? task := by
  unfold Browser.watched?
  rw [h.phase? task]

theorem look (h : b.Alike token token' b') (task : Nat) :
    (b.look task).Alike token token' (b'.look task) := by
  unfold Browser.look
  rw [h.watched? task]
  cases b.watched? task with
  | none => exact h
  | some popup =>
    simp only [h.desktop.isOpen popup]
    split
    · exact h
    · have released : { b with
          authorization := b.authorization.map fun (a : Authorization) => a.release popup }.Alike
            token token' { b' with
              authorization := b'.authorization.map fun (a : Authorization) => a.release popup } :=
        { h with authorization := congrArg (Option.map _) h.authorization }
      exact released.fetch legal task true

/-! ### What a schedule looks at -/

omit legal in
theorem flights (h : b.Alike token token' b') :
    b'.client.flights =
      b.client.flights.map fun flight => (flight.1, flight.2.withToken token') := by
  rw [h.client, Client.flights_withToken]

omit legal in
theorem isReady (h : b.Alike token token' b') (task : Nat) :
    b'.client.canResume task = b.client.canResume task := by
  rw [h.client, Client.canResume_withToken]

omit legal in
theorem budget (h : b.Alike token token' b') : b'.client.budget = b.client.budget := by
  rw [h.client, Client.budget_withToken]

/-! ### Moves -/

/-- A move does the same, whatever the token is. -/
theorem after (h : b.Alike token token' b') (m : Move) :
    (b.after m).Alike token token' (b'.after m) := by
  cases m with
  | load => exact h.fetchNew legal .nothing false
  | reload => exact h.fetchNew legal .nothing true
  | retry => exact h.retry legal
  | authorize => exact h.authorize legal
  | navigate folder => exact h.visit legal .nothing folder
  | confirm => exact h.confirm legal
  | activate entry => exact (h.select entry.id).confirm legal
  | select id => exact h.select id
  | answer task a => exact h.answer legal task a
  | wake task => exact h.wake legal task
  | look task => exact h.look legal task
  | dismiss popup => exact { h with desktop := h.desktop.userCloses popup }
  | block blocked => exact { h with desktop := h.desktop.block blocked }

/-- A history does the same, whatever the token is. -/
theorem afterAll (h : b.Alike token token' b') (moves : List Move) :
    (b.afterAll moves).Alike token token' (b'.afterAll moves) := by
  induction moves generalizing b b' with
  | nil => exact h
  | cons m moves ih => exact ih (h.after legal m)

end

end Alike

/-- Two browsers of one endpoint with two tokens, or the same failure to have any. -/
theorem alike_ofEndpoint (base : Web.Url) (token token' : String) (desktop : Desktop)
    (listing : Endpoint) :
    EndsAlike (Alike token token') (ofEndpoint (.fresh base token) desktop listing)
      (ofEndpoint (.fresh base token') desktop listing) := by
  have alike (authorization : Option Authorization) : Alike token token'
      ⟨.fresh base token, desktop, authorization, .fetching false, .ofListing listing, 0, none, []⟩
      ⟨.fresh base token', desktop, authorization, .fetching false, .ofListing listing, 0, none,
        []⟩ :=
    ⟨rfl, rfl, .refl desktop, rfl, rfl, rfl, rfl, rfl, rfl⟩
  unfold ofEndpoint
  cases listing.authUrl with
  | none => exact .ok _ _ (alike none)
  | some path =>
    simp only [show ∀ token, (Client.fresh base token : Client Nat).base = base from fun _ => rfl]
    cases base.join path with
    | ok page => exact .ok _ _ (alike (some (.ofPage page)))
    | error fault => exact .failed _

end Browser

/-- Two launches of one configuration, or two browsers of one endpoint, that differ in the session
token only: whatever happens to both, they differ in the headers of what was sent and in the
addresses of popups only, and every page that is published is the same. -/
theorem token_kept_secret {token token' : String} (legal : isHeaderText token)
    (legal' : isHeaderText token') :
    (∀ (config : Launch.Config) (base : Web.Url) (desktop : Desktop) (moves : List Launch.Move),
      let s := (Launch.Session.initial (config.withToken token) base token desktop).afterAll moves
      let s' :=
        (Launch.Session.initial (config.withToken token') base token' desktop).afterAll moves
      s.Alike token token' s' ∧
        ∀ m, s.page.Path Launch.Page.Publishes (s.published m) (s.after m).page ∧
          s'.published m = s.published m) ∧
    (∀ (base : Web.Url) (desktop : Desktop) (listing : Endpoint),
      EndsAlike (fun start start' : Browser => ∀ moves,
          (start.afterAll moves).Alike token token' (start'.afterAll moves))
        (Browser.ofEndpoint (.fresh base token) desktop listing)
        (Browser.ofEndpoint (.fresh base token') desktop listing)) := by
  have tokens : Legal token token' := ⟨legal, legal'⟩
  refine ⟨fun config base desktop moves => ?_, fun base desktop listing => ?_⟩
  · have start := Launch.Session.alike_initial config base token token' desktop
    have alike := start.afterAll tokens moves
    have orderly := (Launch.Session.orderly_initial (config.withToken token) base token
      desktop).afterAll moves
    exact ⟨alike, fun m => ⟨orderly.published m, alike.published tokens m⟩⟩
  · have ends := Browser.alike_ofEndpoint base token token' desktop listing
    generalize Browser.ofEndpoint (.fresh base token) desktop listing = e,
      Browser.ofEndpoint (.fresh base token') desktop listing = e' at ends
    cases ends with
    | failed f => exact .failed f
    | ok start start' alike => exact .ok _ _ fun moves => alike.afterAll tokens moves

/-- The popups of two launches have different addresses, and everything else is the same. -/
theorem popup_addresses_differ :
    let config : Launch.Config :=
      ⟨⟨"", some ⟨"/content", some "/allow", none⟩, none⟩, none, none, none, []⟩
    let base : Web.Url :=
      ⟨"http", some ⟨"", "", .named "localhost", none⟩, .rooted [""], none, none⟩
    let moves : List Launch.Move :=
      [.fetchAll, .answer ⟨0, .content⟩ (.whole 403 (Text.octets "\x7b\x7d")), .retry]
    let s (token : String) := (Launch.Session.initial (config.withToken token) base token
      (.empty ⟨0, 0, 800, 600⟩)).afterAll moves
    (s "one").Alike "one" "two" (s "two") ∧
      (s "one").desktop.windows.map Window.address ≠
        (s "two").desktop.windows.map Window.address := by
  intro config base moves s
  have legal : isHeaderText "one" := by decide +kernel
  have legal' : isHeaderText "two" := by decide +kernel
  obtain ⟨launches, -⟩ := token_kept_secret legal legal'
  exact ⟨(launches config base (.empty ⟨0, 0, 800, 600⟩) moves).1, by decide +kernel⟩

end CourseLaunch.Course
