import CourseLaunch.Proofs.Command.Attending
import CourseLaunch.Proofs.Command.Printing
import CourseLaunch.Proofs.Launch.Outcome
/-!
# A launch from the first fetch to the exit status

The program waits after every step until nothing goes on any more, closing the popups that tasks
wait for. So each round is over when the program looks at the page, and then the page shows the
content or a dialog. It tries again while the dialog offers to, reports when there is no dialog, and
its exit status tells whether there is one in the end.
-/

namespace CourseLaunch.Command
open Backend Launch Popup Schedule

variable {network : Network}

/-! ### Trying again -/

/-- A session that goes on without new tasks does so by moves that start none. -/
theorem filter_starts {s t : Session} (h : s.Continues t) :
    ∃ moves : List Move, t = s.afterAll moves ∧ moves.filter Move.starts = [] := by
  obtain ⟨moves, alone, rfl⟩ := h
  exact ⟨moves, rfl, List.filter_eq_nil_iff.mpr fun m known => by simp [alone m known]⟩

/-- A session came from another one by some first tasks and retries, of which there were so many at
most. There were fewer only if no dialog offers to try again, and nothing goes on any more. -/
structure Tries (first : List Move) (attempts : Nat) (s t : Session) : Prop where
  retries : ∃ (moves : List Move) (retries : Nat), t = s.afterAll moves ∧
    moves.filter Move.starts = first ++ List.replicate retries .retry ∧ retries ≤ attempts ∧
    (retries < attempts → ∀ dialog, t.page.view.dialog = some dialog → dialog.action = none)
  rests : t.Rests

/-- A task before some tries, and what goes on by itself in between. -/
theorem Tries.cons {first : List Move} {attempts : Nat} {s t u : Session} {m : Move}
    (tries : Tries first attempts t u) (starts : m.starts) (continues : (s.after m).Continues t) :
    Tries (m :: first) attempts s u := by
  obtain ⟨⟨moves, retries, rfl, shape, few, stops⟩, rests⟩ := tries
  obtain ⟨between, rfl, silent⟩ := filter_starts continues
  refine ⟨⟨m :: (between ++ moves), retries, ?_, ?_, few, stops⟩, rests⟩
  · rw [Session.afterAll_cons, Session.afterAll_append]
  · rw [List.filter_cons_of_pos starts, List.filter_append, silent, shape]
    rfl

/-- The program tries again only while a dialog offers to, and not too often. -/
theorem retryUpTo_tries (network : Network) (attempts : Nat) (scene : Scene Session)
    (calm : scene.state.Calm false) (rests : scene.state.Rests) :
    Tries [] attempts scene.state (retryUpTo network attempts scene).state ∧
      (retryUpTo network attempts scene).state.Calm false := by
  -- every attempt starts where the one before came to rest, so the scene is any one
  induction attempts generalizing scene with
  | zero => exact ⟨⟨⟨[], 0, rfl, rfl, Nat.le_refl 0, fun less => by simp at less⟩, rests⟩, calm⟩
  | succ attempts ih =>
    unfold retryUpTo
    split
    case isTrue offers =>
      have continues := continues_attend network scene Session.retry
      have began : scene.state.retry.Calm false := calm.after (m := .retry) rfl
      obtain ⟨kept, rested⟩ := attend_rests network scene Session.retry began
      obtain ⟨tries, still⟩ := ih (attend network scene Session.retry) kept rested
      obtain ⟨⟨moves, retries, same, shape, few, stops⟩, rests⟩ :=
        tries.cons (m := .retry) rfl continues
      refine ⟨⟨⟨moves, retries + 1, same, shape, by omega, fun less => ?_⟩, rests⟩, still⟩
      exact stops (by omega)
    case isFalse offersNot =>
      refine ⟨⟨⟨[], 0, rfl, rfl, Nat.zero_le _, fun _ dialog shown => ?_⟩, rests⟩, calm⟩
      simpa [shown] using offersNot

/-! ### Reporting -/

/-- A report at once makes one submission, if there is something to report. -/
theorem submissions_reportSubmission {s : Session} (calm : s.Calm false)
    (ready : s.page.contentReady) (atOnce : s.submitsOnAnnotation = false) {moves : List Move}
    (kept : (s.reportSubmission.afterAll moves).Calm s.config.grading.isSome) :
    (s.reportSubmission.afterAll moves).submissions.length =
      if s.config.grading.isSome then 1 else 0 := by
  have sound : s.Sound := calm.shown.sound
  have still : s.reportSubmission.Sound := Session.sound_after sound .reportSubmission
  have acts : s.Acts (s.reportSubmission.afterAll moves) :=
    (Session.acts_after sound .reportSubmission).trans (Session.acts_afterAll still moves)
  have none : s.submissions = [] := sound.submissions_eq_nil calm.quiet.isSubmitted
  cases graded : s.config.grading.isSome with
  | false =>
    rw [graded] at kept
    simp [kept.shown.sound.submissions_eq_nil kept.quiet.isSubmitted]
  | true =>
    have most : (s.reportSubmission.afterAll moves).submissions.length ≤ 1 :=
      acts.submissions_length sound (by simp [none])
    have least : (s.reportSubmission.afterAll moves).submissions ≠ [] :=
      (Session.acts_afterAll still moves).submissions_ne_nil still
        ((calm.quiet.reportSubmission ready atOnce).2 graded)
    have positive := List.length_pos_of_ne_nil least
    show _ = 1
    omega

/-- A session came from another one at the end of a launch: when there is something to report at
once and no dialog, it was reported, and nothing goes on any more. -/
structure Concludes (s t : Session) : Prop where
  report : ∃ moves : List Move, t = s.afterAll moves ∧
    moves.filter Move.starts = if mayReport s then [.reportSubmission] else []
  rests : t.Rests
  submissions : t.submissions.length =
    if (s.config.grading.any fun grading => !grading.submitOnAnnotation) &&
      s.page.view.dialog.isNone then 1 else 0

/-- A page that is ready for a report is reported once. -/
theorem concludes_of_mayReport {scene : Scene Session} (calm : scene.state.Calm false)
    (may : mayReport scene.state) :
    Concludes scene.state (attend network scene Session.reportSubmission).state.close ∧
      ∃ submitted, (attend network scene Session.reportSubmission).state.close.Calm submitted := by
  have reported := may
  simp only [mayReport, Bool.and_eq_true, Option.isNone_iff_eq_none, Bool.not_eq_true'] at may
  obtain ⟨⟨ready, silent⟩, atOnce⟩ := may
  obtain ⟨kept, rests⟩ := attend_rests network scene Session.reportSubmission
    (calm.reportSubmission ready atOnce)
  obtain ⟨moves, same, silent'⟩ :=
    filter_starts (continues_attend network scene Session.reportSubmission)
  have closed := kept.after (m := .close) rfl
  refine ⟨⟨⟨.reportSubmission :: (moves ++ [.close]), ?_, ?_⟩, rests.close, ?_⟩, _, closed⟩
  · rw [Session.afterAll_cons, Session.afterAll_append]
    exact congrArg Session.close same
  · rw [if_pos reported, List.filter_cons_of_pos rfl, List.filter_append, silent']
    rfl
  · have counted := submissions_reportSubmission calm ready atOnce (same ▸ kept)
    rw [Session.submissions_close, same, counted, silent]
    have graded : (scene.state.config.grading.any fun grading => !grading.submitOnAnnotation) =
        scene.state.config.grading.isSome := by
      unfold Session.submitsOnAnnotation at atOnce
      cases grading : scene.state.config.grading with
      | none => rfl
      | some g => simpa [grading] using atOnce
    rw [graded]
    simp

/-- Nothing is reported when the page is not ready for it, so nothing was to be reported at once. -/
theorem concludes_of_not_mayReport {s : Session} (calm : s.Calm false) (rests : s.Rests)
    (ready : s.page.view.dialog = none → s.page.contentReady) (not : mayReport s = false) :
    Concludes s s.close ∧ ∃ submitted, s.close.Calm submitted := by
  refine ⟨⟨⟨[.close], rfl, by simp [not, Move.starts, Move.task?]⟩, rests.close, ?_⟩, _,
    calm.after (m := .close) rfl⟩
  have none : s.close.submissions = [] := by
    rw [Session.submissions_close]
    exact calm.shown.sound.submissions_eq_nil calm.quiet.isSubmitted
  rw [none, if_neg]
  · rfl
  simp only [Bool.and_eq_true, Option.isNone_iff_eq_none]
  rintro ⟨graded, silent⟩
  obtain ⟨grading, known, atOnce⟩ := (Option.any_eq_true _ _).mp graded
  simp [mayReport, ready silent, silent, Session.deferred_of_grading known] at not
  simp [not] at atOnce

/-! ### The whole launch -/

/-- A file is accepted only if its configuration has no flaw. -/
theorem flaw?_of_ofFile {path : String} {file : Except Config.FileFault (List UInt8)}
    {config : Config} (accepted : Config.ofFile path file = .ok config) : config.flaw? = none := by
  cases file with
  | error fault => cases accepted
  | ok bytes =>
    unfold Config.ofFile at accepted
    cases read : Text.ofOctets? bytes with
    | none => simp [read] at accepted
    | some text =>
      simp only [read] at accepted
      unfold Config.ofText at accepted
      cases parsed : Config.codec.ofText text with
      | error fault => simp [parsed] at accepted
      | ok c =>
        simp only [parsed] at accepted
        cases flaw : c.flaw? with
        | some flaw' => simp [flaw] at accepted
        | none =>
          obtain rfl : c = config := by simpa [flaw] using accepted
          exact flaw

/-- A launch when nothing is tried again any more. -/
def triedAll (network : Network) (attempts : Nat) (s : Session) : Scene Session :=
  retryUpTo network attempts (attend network ⟨s, 0⟩ Session.fetchAll)

/-- Whatever is tried, a launch comes to rest, and at the end it does so too. Then it shows the
content if there is no dialog. -/
theorem launchAll_concludes (network : Network) (attempts : Nat) (config : Config) (base : Web.Url)
    (token : String) (desktop : Popup.Desktop) (accepted : config.flaw? = none) :
    let start := Session.initial config base token desktop
    let tried := (triedAll network attempts start).state
    let final := launchAll network attempts start
    Tries [.fetchAll] attempts start tried ∧ tried.config = config ∧ Concludes tried final ∧
      (final.page.view.dialog = none → final.page.contentReady) := by
  intro start tried final
  have calm : start.Calm false := Session.calm_initial config base token desktop accepted
  let fetched := attend network ⟨start, 0⟩ Session.fetchAll
  have continues := continues_attend network ⟨start, 0⟩ Session.fetchAll
  have began : start.fetchAll.Calm false := calm.after (m := .fetchAll) rfl
  obtain ⟨kept, rests⟩ := attend_rests network ⟨start, 0⟩ Session.fetchAll began
  obtain ⟨tries, still⟩ := retryUpTo_tries network attempts fetched kept rests
  have all : Tries [.fetchAll] attempts start tried :=
    tries.cons (m := .fetchAll) rfl continues
  -- the first task has a round from the start on, which shows at the end that all has ended
  have begun : (start.fetchAll.round? 0).isSome := by
    obtain ⟨r, first⟩ := Session.begun_fetchAll config base token desktop
    have tasks : start.fetchAll.tasks = [.fetching r] := first.tasks
    simp [Session.round?, tasks, Task.round?]
  have round : (fetched.state.round? 0).isSome := by
    obtain ⟨moves, -, same⟩ := continues
    exact same ▸ Session.round?_afterAll began.shown.sound begun moves
  have round' : (tried.round? 0).isSome := by
    obtain ⟨⟨moves, -, same, -⟩, -⟩ := tries
    have same : tried = fetched.state.afterAll moves := same
    exact same ▸ Session.round?_afterAll kept.shown.sound round moves
  have config' : tried.config = config := by
    obtain ⟨⟨moves, -, same, -⟩, -⟩ := all
    exact same ▸ (Session.acts_afterAll calm.shown.sound moves).config
  have ready := still.ready tries.rests round'
  obtain ⟨concludes, submitted, ended⟩ :
      Concludes tried final ∧ ∃ submitted, final.Calm submitted := by
    have split : final = (if mayReport tried then
        attend network (triedAll network attempts start) Session.reportSubmission
      else triedAll network attempts start).state.close := rfl
    rw [split]
    split
    case isTrue may => exact concludes_of_mayReport still may
    case isFalse not =>
      exact concludes_of_not_mayReport still tries.rests ready (Bool.eq_false_iff.mpr not)
  have round'' : (final.round? 0).isSome := by
    obtain ⟨⟨moves, same, -⟩, -, -⟩ := concludes
    exact same ▸ Session.round?_afterAll still.shown.sound round' moves
  exact ⟨all, config', concludes, ended.ready concludes.rests round''⟩

/-- The program launches what it is asked to, once file and backend are accepted. -/
theorem run_launch (network : Network) {i : Invocation}
    {file : Except Config.FileFault (List UInt8)} {config : Config} {base : Web.Url}
    {attempts : Nat} (accepted : Config.ofFile i.config file = .ok config)
    (valid : backendBase i config = .ok base) (asked : i.job = .launch attempts) :
    run network i file = launchTranscript (launchAll network attempts
      (Session.initial config base config.api.authToken terminal)) := by
  unfold run
  rw [accepted]
  show perform network i config = _
  unfold perform
  rw [asked]
  have starts : launchSession i config =
      .ok (Session.initial config base config.api.authToken terminal) := by
    unfold launchSession
    rw [valid]
    rfl
  simp only [starts]

theorem launchTranscript_eq (s : Session) :
    launchTranscript s = ⟨addresses s, printed s.page.view.toJson, "",
      if s.page.view.dialog.isNone then 0 else 2⟩ := by
  unfold launchTranscript
  simp only
  cases s.page.view.dialog <;> rfl

/-- The program makes a first round of fetches and then retries, so many at most, and fewer only if
no dialog offers one. When no dialog is left it reports the submission, once, if it is graded and
does not wait for annotation activity. Then everything has ended; what is printed is the view of the
page, field by field, and the exit status says whether there is a dialog. Without one the page shows
the content. -/
theorem launch_resolves (network : Network) (i : Invocation)
    (file : Except Config.FileFault (List UInt8)) {config : Config} {base : Web.Url}
    {attempts : Nat} (accepted : Config.ofFile i.config file = .ok config)
    (valid : backendBase i config = .ok base) (asked : i.job = .launch attempts) :
    let start := Session.initial config base config.api.authToken terminal
    let tried := (triedAll network attempts start).state
    let final := launchAll network attempts start
    Tries [.fetchAll] attempts start tried ∧
      (∃ moves : List Move, final = tried.afterAll moves ∧
        moves.filter Move.starts = if mayReport tried then [.reportSubmission] else []) ∧
      final.submissions.length =
        (if (config.grading.any fun grading => !grading.submitOnAnnotation) &&
          tried.page.view.dialog.isNone then 1 else 0) ∧
      final.Rests ∧
      run network i file = ⟨addresses final, printed final.page.view.toJson, "",
        if final.page.view.dialog.isNone then 0 else 2⟩ ∧
      final.page.view.PrintedBy (run network i file).output ∧
      (final.page.view.dialog = none → final.page.view.iframeUrl.isSome) := by
  intro start tried final
  obtain ⟨tries, config', ⟨report, rests, submissions⟩, ready⟩ :=
    launchAll_concludes network attempts config base config.api.authToken terminal
      (flaw?_of_ofFile accepted)
  rw [config'] at submissions
  have transcript := run_launch network accepted valid asked
  rw [launchTranscript_eq] at transcript
  refine ⟨tries, report, submissions, rests, transcript, ?_, fun silent => ?_⟩
  · rw [transcript]
    exact final.page.view.printedBy_printed
  -- without a dialog there is no problem, so the content that is known is shown
  have none : final.page.problem = none := by
    cases shown : final.page.problem with
    | none => rfl
    | some problem => simp [Page.view, shown] at silent
  exact (Session.view_iframeUrl _).mpr ⟨ready silent, none⟩

theorem exists_of_isOk {ε α : Type} {x : Except ε α} (read : x.isOk) : ∃ a, x = .ok a := by
  cases x with
  | error e => cases read
  | ok a => exact ⟨a, rfl⟩

/-- Asks for a launch on the local machine. -/
def localLaunch (attempts : Nat) : Invocation :=
  ⟨some "http://localhost", 10, 30, "launch.json", .launch attempts⟩

/-- A file with known content and work that is graded. -/
def gradedFile : Except Config.FileFault (List UInt8) :=
  .ok ("\x7b\"api\":\x7b\"authToken\":\"t\"\x7d,\"contentUrl\":\"c\"," ++
    "\"grading\":\x7b\"submissionParams\":\x7b\x7d\x7d\x7d").toUTF8.toList

/-- What is printed when the submission could not be sent. -/
def unsentOutput : String :=
  "\x7b\n  \"show_spinner\": false,\n  \"error_dialog\": \x7b\n" ++
    "    \"state\": \"error-reporting-submission\",\n    \"error\": \x7b\n" ++
    "      \"message\": \"request to /api/lti/submissions did not complete: " ++
    "error sending request for url (http://localhost/api/lti/submissions)\"\n    \x7d,\n" ++
    "    \"retry_action\": null\n  \x7d\n\x7d\n"

/-- Content that is known is shown, until its submission fails because nobody answers. -/
theorem unanswered_submission_resolves :
    ∃ config base, Config.ofFile "launch.json" gradedFile = .ok config ∧
      backendBase (localLaunch 1) config = .ok base ∧
      let final := launchAll .down 1 (.initial config base config.api.authToken terminal)
      final.Rests ∧ final.page.view.dialog.isSome ∧ final.page.view.PrintedBy unsentOutput ∧
        run .down (localLaunch 1) gradedFile = ⟨addresses final, unsentOutput, "", 2⟩ := by
  have read : (Config.ofFile "launch.json" gradedFile).isOk := by decide +kernel
  have parsed : (Web.Url.parse "http://localhost").isOk := by decide +kernel
  obtain ⟨failed, told⟩ : (run .down (localLaunch 1) gradedFile).status = 2 ∧
      (run .down (localLaunch 1) gradedFile).output = unsentOutput := by
    decide +kernel
  obtain ⟨config, accepted⟩ := exists_of_isOk read
  obtain ⟨base, known⟩ := exists_of_isOk parsed
  have valid : backendBase (localLaunch 1) config = .ok base := by
    show (Web.Url.parse "http://localhost").mapError _ = _
    rw [known]
    rfl
  obtain ⟨-, -, -, rests, transcript, printed, -⟩ :=
    launch_resolves .down (localLaunch 1) gradedFile accepted valid rfl
  rw [told] at printed
  refine ⟨config, base, accepted, valid, rests, ?_, printed, ?_⟩ <;>
    rw [transcript] at failed told
  · generalize launchAll _ _ _ = final at failed
    cases dialog : final.page.view.dialog with
    | none => simp [dialog] at failed
    | some d => rfl
  · rw [transcript, Transcript.mk.injEq]
    exact ⟨rfl, told, rfl, failed⟩

end CourseLaunch.Command
