import CourseLaunch.Command.Run
import CourseLaunch.Proofs.Schedule.Token
/-!
# The token and what is printed

Two runs of one command, with two session tokens, print the same and end with the same status,
whatever the network answers, if it does not read the headers. They go through the same events, one
beside the other, so that they differ in what is in flight and in the addresses of popups only.
-/

namespace CourseLaunch.Command
open Backend Course Launch Popup Schedule

/-! ### Waiting for everything to end -/

section Attend

variable {σ : Type} [Tasks σ] {token : String} {R : σ → σ → Prop} {network : Network}

theorem dismissFor_alike (veils : Veils token R) {s t : σ} (h : R s t) (task : Nat) :
    R (dismissFor s task) (dismissFor t task) := by
  unfold dismissFor
  rw [veils.watched? h]
  cases Tasks.watched? s task with
  | none => exact h
  | some popup => exact veils.look (veils.dismiss h popup) task

theorem dismiss_alike (veils : Veils token R) {s t : σ} (h : R s t) : R (dismiss s) (dismiss t) := by
  unfold dismiss
  rw [veils.count h]
  generalize List.range (Tasks.count s) = tasks
  induction tasks generalizing s t with
  | nil => exact h
  | cons task tasks ih => exact ih (dismissFor_alike veils h task)

/-- Systems that differ in their tokens still do so after the same event and all that follows. -/
theorem attend_alike (veils : Veils token R) (blind : network.Ignores token) {s t : Scene σ}
    (h : s.Alike R t) (event : σ → σ) (keeps : R (event s.state) (event t.state)) :
    (attend network s event).Alike R (attend network t event) := by
  have waiting := Scene.settle_alike veils blind (s := { s with state := event s.state })
    (t := { t with state := event t.state }) ⟨keeps, h.answers⟩
  exact Scene.settle_alike veils blind ⟨dismiss_alike veils waiting.state, waiting.answers⟩

end Attend

/-- Two addresses that differ at most in the token. -/
inductive AddressAlike (token token' : String) : Web.Url → Web.Url → Prop where
  | same (address : Web.Url) : AddressAlike token token' address address
  | retokened (page : Web.Url) :
      AddressAlike token token' (page.withPair (tokenKey, token)) (page.withPair (tokenKey, token'))

/-- Two runs that differ at most in the token in the addresses of popups. -/
structure Transcript.Alike (token token' : String) (t t' : Transcript) : Prop where
  addresses : List.Forall₂ (AddressAlike token token') t.addresses t'.addresses
  output : t'.output = t.output
  complaint : t'.complaint = t.complaint
  status : t'.status = t.status

variable {token token' : String} {network : Network}

theorem addresses_alike {d d' : Desktop} (h : d.Alike token token' d') :
    List.Forall₂ (AddressAlike token token') (d.windows.map Window.address)
      (d'.windows.map Window.address) := by
  rw [List.forall₂_map_left_iff, List.forall₂_map_right_iff]
  refine h.windows.imp fun w w' alike => ?_
  cases alike with
  | same w => exact .same _
  | retokened page => exact .retokened page

theorem alike_ofTrouble {addresses addresses' : List Web.Url}
    (alike : List.Forall₂ (AddressAlike token token') addresses addresses') (t : Trouble) :
    (Transcript.ofTrouble addresses t).Alike token token' (.ofTrouble addresses' t) :=
  ⟨alike, rfl, rfl, rfl⟩

/-! ### Launching -/

section Launch

variable (legal : Legal token token') (blind : network.Ignores token') {s s' : Scene Session}
include legal blind

/-- Sessions that differ in their tokens are tried again equally often. -/
theorem retryUpTo_alike (attempts : Nat) (h : s.Alike (Session.Alike token token') s') :
    (retryUpTo network attempts s).Alike (Session.Alike token token')
      (retryUpTo network attempts s') := by
  induction attempts generalizing s s' with
  | zero => exact h
  | succ attempts ih =>
    unfold retryUpTo
    rw [h.state.page]
    split
    · exact ih (attend_alike (Session.veils legal) blind h Session.retry
        (h.state.after legal .retry))
    · exact h

/-- Launches that differ in their tokens do so to the end. -/
theorem launchAll_alike (attempts : Nat) {s s' : Session} (h : s.Alike token token' s') :
    (launchAll network attempts s).Alike token token' (launchAll network attempts s') := by
  have veils := Session.veils legal
  have fetched := attend_alike veils blind (s := ⟨s, 0⟩) (t := ⟨s', 0⟩) ⟨h, rfl⟩ Session.fetchAll
    (h.after legal .fetchAll)
  have tried := retryUpTo_alike legal blind attempts fetched
  unfold launchAll
  simp only
  generalize retryUpTo network attempts (attend network ⟨s, 0⟩ Session.fetchAll) = t,
    retryUpTo network attempts (attend network ⟨s', 0⟩ Session.fetchAll) = t' at tried
  have may : mayReport t'.state = mayReport t.state := by
    unfold mayReport Session.submitsOnAnnotation
    rw [tried.state.page, tried.state.grading]
  rw [may]
  split
  · exact (attend_alike veils blind tried Session.reportSubmission
      (tried.state.after legal .reportSubmission)).state.close
  · exact tried.state.close

end Launch

theorem launchTranscript_alike {s s' : Session} (h : s.Alike token token' s') :
    (launchTranscript s).Alike token token' (launchTranscript s') := by
  unfold launchTranscript
  rw [h.page]
  exact ⟨addresses_alike h.desktop, rfl, rfl, rfl⟩

/-! ### Listing files -/

section Files

variable (legal : Legal token token') (blind : network.Ignores token') {b b' : Scene Browser}
include legal blind

theorem authorizeIfNeeded_alike (h : b.Alike (Browser.Alike token token') b') :
    (authorizeIfNeeded network b).Alike (Browser.Alike token token')
      (authorizeIfNeeded network b') := by
  unfold authorizeIfNeeded
  rw [h.state.status]
  split
  · exact attend_alike (Browser.veils legal) blind h Browser.authorize
      (h.state.after legal .authorize)
  · exact h

/-- Browsers that differ in their tokens open the same folders, or fail at the same one. -/
theorem openAll_alike (ids : List String) (h : b.Alike (Browser.Alike token token') b') :
    (openAll network ids b).1.Alike (Browser.Alike token token') (openAll network ids b').1 ∧
      (openAll network ids b').2 = (openAll network ids b).2 := by
  induction ids generalizing b b' with
  | nil => exact ⟨h, rfl⟩
  | cons id ids ih =>
    unfold openAll
    rw [h.state.status, h.state.trail]
    split
    · split
      case h_1 folder found =>
        exact ih (authorizeIfNeeded_alike legal blind (attend_alike (Browser.veils legal) blind h
          (fun b => b.navigate folder) (h.state.after legal (.navigate folder))))
      case h_2 => exact ⟨h, rfl⟩
    · exact ⟨h, rfl⟩

/-- Browsers that differ in their tokens do so to the end. -/
theorem browseAll_alike (ids : List String) {b b' : Browser} (h : b.Alike token token' b') :
    (browseAll network ids b).1.Alike token token' (browseAll network ids b').1 ∧
      (browseAll network ids b').2 = (browseAll network ids b).2 := by
  have loaded := authorizeIfNeeded_alike legal blind (attend_alike (Browser.veils legal) blind
    (s := ⟨b, 0⟩) (t := ⟨b', 0⟩) ⟨h, rfl⟩ Browser.load (h.after legal .load))
  obtain ⟨opened, trouble⟩ := openAll_alike legal blind ids loaded
  exact ⟨opened.state, trouble⟩

end Files

theorem browserTranscript_alike {b b' : Browser} (h : b.Alike token token' b') :
    (browserTranscript b).Alike token token' (browserTranscript b') := by
  unfold browserTranscript
  rw [h.status]
  split <;> exact ⟨addresses_alike h.desktop, rfl, rfl, rfl⟩

/-! ### Whole commands -/

theorem backendBase_withToken (i : Invocation) (config : Launch.Config) (token : String) :
    backendBase i (config.withToken token) = backendBase i config := rfl

/-- Two runs of one command with two tokens print the same and end with the same status. -/
theorem perform_alike (legal : Legal token token') (blind : network.Ignores token')
    (i : Invocation) (config : Launch.Config) :
    (perform network i (config.withToken token)).Alike token token'
      (perform network i (config.withToken token')) := by
  unfold perform
  cases i.job with
  | launch attempts =>
    simp only [launchSession, backendBase_withToken]
    cases backendBase i config with
    | error t => exact alike_ofTrouble .nil t
    | ok base =>
      exact launchTranscript_alike (launchAll_alike legal blind attempts
        (Session.alike_initial config base token token' terminal))
  | files source ids =>
    have lists (token : String) : (config.withToken token).listFiles source =
      config.listFiles source := rfl
    simp only [sourceBrowser, lists, backendBase_withToken]
    cases config.listFiles source with
    | none => exact alike_ofTrouble .nil _
    | some listing =>
      cases backendBase i config with
      | error t => exact alike_ofTrouble .nil t
      | ok base =>
        have ends := Browser.alike_ofEndpoint base token token' terminal listing
        have known (token : String) : (config.withToken token).api.authToken = token := rfl
        simp only [known]
        -- both browsers start, or both endpoints have a page without an address
        generalize Browser.ofEndpoint (.fresh base token) terminal listing = e,
          Browser.ofEndpoint (.fresh base token') terminal listing = e' at ends
        cases ends with
        | failed failure => exact alike_ofTrouble .nil _
        | ok start start' alike =>
          obtain ⟨browsed, same⟩ := browseAll_alike legal blind ids alike
          simp only [Except.mapError]
          generalize browseAll network ids start = ended, browseAll network ids start' = ended'
            at browsed same
          obtain ⟨b, trouble⟩ := ended
          obtain ⟨b', trouble'⟩ := ended'
          obtain rfl : trouble' = trouble := same
          cases trouble' with
          | none => exact browserTranscript_alike browsed
          | some t => exact alike_ofTrouble (addresses_alike browsed.desktop) t

end CourseLaunch.Command
