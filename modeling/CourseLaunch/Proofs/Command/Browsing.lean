import CourseLaunch.Proofs.Command.Attending
import CourseLaunch.Proofs.Command.Printing
/-!
# Folders from the command line to the exit status

The program lists the root and then opens one folder after the other. It ends with status zero only
if the browser shows a listing in the end, so every folder was found in the listing that was shown
before. A folder that cannot be listed does not stop it: then the listing that was shown before is
still there, and its entries are printed as if they were those of the folder.
-/

namespace CourseLaunch.Command
open Backend Course Popup Schedule

variable {network : Network}

/-! ### Opening folders -/

theorem continues_authorizeIfNeeded (network : Network) (scene : Scene Browser) :
    scene.state.Continues (authorizeIfNeeded network scene).state := by
  unfold authorizeIfNeeded
  split
  · exact (Browser.continues_after _ (m := .authorize) rfl).trans
      (browser_continues_attend network scene Browser.authorize)
  · exact .refl _

/-- When a listing is shown in the end, every folder was found and opened. -/
theorem openAll_opens (ids : List String) {scene opened : Scene Browser} {files : List Entry}
    (opens : openAll network ids scene = (opened, none))
    (shown : opened.state.status = .fetched files) :
    ∃ folders : List Entry, folders.map Entry.id = ids ∧
      scene.state.Opens folders opened.state := by
  induction ids generalizing scene with
  | nil =>
    obtain rfl : scene = opened := congrArg Prod.fst opens
    exact ⟨[], rfl, .done _⟩
  | cons id ids ih =>
    unfold openAll at opens
    split at opens
    case h_1 files' shown' =>
      cases found : files'.find? fun e => e.id = id && e.isFolder with
      | none => simp [found] at opens
      | some folder =>
        simp only [found] at opens
        obtain ⟨folders, ids', rest⟩ := ih opens
        obtain ⟨same, isFolder⟩ : folder.id = id ∧ folder.isFolder := by
          simpa using List.find?_some found
        have continues := (browser_continues_attend network scene fun b => b.navigate folder).trans
          (continues_authorizeIfNeeded network _)
        exact ⟨folder :: folders, by rw [List.map_cons, same, ids'],
          .opens _ _ _ files' folder folders shown' (List.mem_of_find?_eq_some found) isFolder
            continues rest⟩
    case h_2 other =>
      obtain rfl : scene = opened := congrArg Prod.fst opens
      exact absurd shown (other files)

/-- The browser when the root was listed. -/
def loaded (network : Network) (start : Browser) : Scene Browser :=
  authorizeIfNeeded network (attend network ⟨start, 0⟩ Browser.load)

theorem continues_loaded (network : Network) (start : Browser) :
    start.Continues (loaded network start).state :=
  ((start.continues_after (m := .load) rfl).trans
    (browser_continues_attend network ⟨start, 0⟩ Browser.load)).trans
    (continues_authorizeIfNeeded network _)

theorem browseAll_eq (network : Network) (ids : List String) (start : Browser) :
    browseAll network ids start = ((openAll network ids (loaded network start)).1.state,
      (openAll network ids (loaded network start)).2) := rfl

/-! ### Listings -/

/-- A listing is the answer to the last call that was made, and that call was made for the folder
that is current. -/
structure Answered (b : Browser) (files : List Entry) : Prop where
  answer : ∃ (task : Nat) (request : Request) (reply : Reply),
    b.client.begun.getLast? = some (task, request) ∧
    b.trail.AskedBy request ∧ (task, .ok reply) ∈ b.client.ended ∧
    reply.decode (.list Entry.codec) = .ok files

/-- Files that a listing told of were decoded from the reply to its call. -/
theorem exists_of_outcome? {b : Browser} {task : Nat} {files : List Entry}
    (outcome : b.outcome? task = some (.ok files)) :
    ∃ reply, (task, .ok reply) ∈ b.client.ended ∧
      reply.decode (.list Entry.codec) = .ok files := by
  obtain ⟨result, found, read⟩ := Option.map_eq_some_iff.mp outcome
  cases result with
  | error failure => cases read
  | ok reply =>
    obtain ⟨before, after, split, -⟩ := List.lookup_eq_some_iff.mp found
    exact ⟨reply, by simp [split], read⟩

/-- The listing that is shown is the answer to the last call, which asked for the current folder. -/
theorem answered_of_fetched {start : Browser} (valid : start.Valid)
    (unasked : start.client.begun = []) (moves : List Course.Move) {files : List Entry}
    (shown : (start.afterAll moves).status = .fetched files) :
    Answered (start.afterAll moves) files := by
  rcases Browser.latest_afterAll valid unasked moves with
    none | ⟨-, m, -, task, request, -, -, latest⟩
  · have silent := (Browser.valid_afterAll valid moves).silent none
    simp [silent] at shown
  · have shows := latest.shows
    rw [shown] at shows
    have outcome : (start.afterAll moves).outcome? task = some (.ok files) := by
      generalize (start.afterAll moves).outcome? task = outcome at shows
      cases shows
      rfl
    obtain ⟨reply, ended, read⟩ := exists_of_outcome? outcome
    exact ⟨task, request, reply, latest.last, latest.current, ended, read⟩

/-! ### The whole command -/

/-- The program ends with status zero only if the browser shows a listing after all folders. -/
theorem perform_files {i : Invocation} {config : Launch.Config} {source : Source}
    {ids : List String} (asked : i.job = .files source ids)
    (done : (perform network i config).status = 0) :
    ∃ (start b : Browser) (files : List Entry), sourceBrowser i source config = .ok start ∧
      browseAll network ids start = (b, none) ∧ b.status = .fetched files ∧
      perform network i config =
        ⟨addresses b, printed (.array (files.map Entry.codec.write)), "", 0⟩ := by
  unfold perform at done ⊢
  rw [asked] at done ⊢
  simp only at done ⊢
  cases starts : sourceBrowser i source config with
  | error t => simp [starts, Transcript.ofTrouble] at done
  | ok start =>
    simp only [starts] at done ⊢
    cases browses : browseAll network ids start with
    | mk b trouble =>
      simp only [browses] at done ⊢
      cases trouble with
      | some t => simp [Transcript.ofTrouble] at done
      | none =>
        simp only at done ⊢
        unfold browserTranscript at done ⊢
        cases status : b.status with
        | fetched files => exact ⟨start, b, files, rfl, browses, status, rfl⟩
        | failed error => simp [status, unresolvedStatus] at done
        | fetching isReload => simp [status, unresolvedStatus] at done
        | authorizing isRetry => simp [status, unresolvedStatus] at done

/-- The browser that is used is the one of an endpoint of the source. -/
theorem sourceBrowser_eq {i : Invocation} {source : Source} {config : Launch.Config}
    {start : Browser} (starts : sourceBrowser i source config = .ok start) :
    ∃ base listing, Browser.ofEndpoint (.fresh base config.api.authToken) terminal listing =
      .ok start := by
  unfold sourceBrowser at starts
  cases lists : config.listFiles source with
  | none => simp [lists] at starts
  | some listing =>
    cases backend : backendBase i config with
    | error t => simp [lists, backend] at starts
    | ok base =>
      refine ⟨base, listing, ?_⟩
      simp only [lists, backend] at starts
      cases opens : Browser.ofEndpoint (.fresh base config.api.authToken) terminal listing with
      | error failure => simp [opens, Except.mapError] at starts
      | ok b => simpa [opens, Except.mapError] using starts

/-- When the program ends with status zero, every folder was found in the listing that was shown
before, and gone to if it can be listed. What is printed, entry by entry, is the answer to the last
call, which was made for the current folder. That is the last one that was asked for, if it can be
listed, and the root if none was. -/
theorem files_listed (network : Network) (i : Invocation)
    (file : Except Launch.Config.FileFault (List UInt8)) {source : Source} {ids : List String}
    (asked : i.job = .files source ids) (done : (run network i file).status = 0) :
    ∃ (config : Launch.Config) (start b : Browser) (folders files : List Entry),
      Launch.Config.ofFile i.config file = .ok config ∧
      sourceBrowser i source config = .ok start ∧ browseAll network ids start = (b, none) ∧
      folders.map Entry.id = ids ∧ (loaded network start).state.Opens folders b ∧
      b.trail =
        (folders.filter fun e => e.contents.isSome).foldl Trail.navigate start.trail ∧
      ((∀ folder ∈ folders.getLast?, folder.contents.isSome) →
        b.trail.current.id = ids.getLast?.getD Trail.rootId) ∧
      Answered b files ∧ Entry.PrintedBy files (run network i file).output ∧
      run network i file =
        ⟨addresses b, printed (.array (files.map Entry.codec.write)), "", 0⟩ := by
  unfold run at done ⊢
  cases accepted : Launch.Config.ofFile i.config file with
  | error e => simp [accepted, Transcript.ofTrouble] at done
  | ok config =>
    simp only [accepted] at done ⊢
    obtain ⟨start, b, files, starts, browses, shown, transcript⟩ := perform_files asked done
    obtain ⟨base, listing, opens⟩ := sourceBrowser_eq starts
    rw [browseAll_eq, Prod.mk.injEq] at browses
    obtain ⟨rfl, untroubled⟩ := browses
    obtain ⟨folders, found, opened⟩ := openAll_opens ids (Prod.ext rfl untroubled) shown
    have before := continues_loaded network start
    have root : start.trail.current.id = Trail.rootId := by
      obtain ⟨authorization, rfl⟩ := Browser.ofEndpoint_eq opens
      rfl
    have unasked : start.client.begun = [] := by
      obtain ⟨authorization, rfl⟩ := Browser.ofEndpoint_eq opens
      rfl
    -- one history from the start on, because the listing that is shown is that of a whole history
    obtain ⟨moves, history⟩ : ∃ moves,
        (openAll network ids (loaded network start)).1.state = start.afterAll moves := by
      obtain ⟨first, -, loads⟩ := before
      obtain ⟨rest, same⟩ := opened.afterAll
      exact ⟨first ++ rest, by rw [same, loads, Browser.afterAll_append]⟩
    refine ⟨config, start, _, folders, files, rfl, starts, ?_, found, opened, ?_, fun last => ?_,
      ?_, ?_, transcript⟩
    · rw [browseAll_eq, untroubled]
    · rw [opened.trail, before.trail]
    · rw [opened.id_current last, before.trail, root, ← found, List.getLast?_map]
    · rw [history] at shown ⊢
      exact answered_of_fetched (Browser.valid_ofEndpoint opens) unasked moves shown
    · rw [transcript]
      exact Entry.printedBy_printed files

/-- Asks for the files of a course on the local machine. -/
def localFiles (ids : List String) : Invocation :=
  ⟨some "http://localhost", 10, 30, "launch.json", .files .d2l ids⟩

/-- A file with a call that lists the files of a course. -/
def pickerFile : Except Launch.Config.FileFault (List UInt8) :=
  .ok ("\x7b\"api\":\x7b\"authToken\":\"t\"\x7d,\"contentUrl\":\"c\"," ++
    "\"filePicker\":\x7b\"d2l\":\x7b\"path\":\"/root\"\x7d\x7d\x7d").toUTF8.toList

/-- A network that answers with one listing first, and then with another one. -/
def listingFirst (first later : String) : Network := fun answers _ =>
  (0, .whole 200 (if answers = 0 then first else later).toUTF8.toList)

/-- A listing with one folder that can be listed. -/
def listedFolder : String :=
  "[\x7b\"id\":\"n\",\"display_name\":\"N\",\"type\":\"Folder\"," ++
    "\"contents\":\x7b\"path\":\"/n\"\x7d\x7d]"

/-- A listing with one folder that cannot be listed. -/
def unlistedFolder : String :=
  "[\x7b\"id\":\"n\",\"display_name\":\"N\",\"type\":\"Folder\"\x7d]"

def listedFile : String :=
  "[\x7b\"id\":\"f\",\"display_name\":\"F\",\"type\":\"File\"\x7d]"

/-- The folder that is current when all folders were opened. -/
def currentId? (network : Network) (ids : List String) : Option String :=
  (Launch.Config.ofFile "launch.json" pickerFile).toOption.bind fun config =>
    (sourceBrowser (localFiles ids) .d2l config).toOption.map fun start =>
      (browseAll network ids start).1.trail.current.id

/-- What is printed for an entry that stands alone, and has neither a date nor contents. -/
def loneEntryOutput (id name kind : String) : String :=
  "[\n  \x7b\n    \"id\": \"" ++ id ++ "\",\n    \"display_name\": \"" ++ name ++
    "\",\n    \"type\": \"" ++ kind ++ "\"\n  \x7d\n]\n"

/-- A folder that can be listed is opened, and what is printed is its listing. -/
theorem listed_folder_opened :
    (run (listingFirst listedFolder listedFile) (localFiles ["n"]) pickerFile).status = 0 ∧
      ∃ (start b : Browser) (folders files : List Entry), folders.map Entry.id = ["n"] ∧
        (loaded (listingFirst listedFolder listedFile) start).state.Opens folders b ∧
        b.trail = (folders.filter fun e => e.contents.isSome).foldl Trail.navigate start.trail ∧
        Answered b files ∧ Entry.PrintedBy files (loneEntryOutput "f" "F" "File") ∧
        run (listingFirst listedFolder listedFile) (localFiles ["n"]) pickerFile =
          ⟨addresses b, loneEntryOutput "f" "F" "File", "", 0⟩ := by
  obtain ⟨done, told⟩ :
      (run (listingFirst listedFolder listedFile) (localFiles ["n"]) pickerFile).status = 0 ∧
        (run (listingFirst listedFolder listedFile) (localFiles ["n"]) pickerFile).output =
          loneEntryOutput "f" "F" "File" := by
    decide +kernel
  obtain ⟨-, start, b, folders, files, -, -, -, found, opened, trail, -, answered, printed,
    transcript⟩ :=
    files_listed (listingFirst listedFolder listedFile) (localFiles ["n"]) pickerFile rfl done
  rw [told] at printed
  refine ⟨done, start, b, folders, files, found, opened, trail, answered, printed, ?_⟩
  rw [transcript] at told
  rw [transcript, Transcript.mk.injEq]
  exact ⟨rfl, told, rfl, rfl⟩

/-- A folder that cannot be listed is passed over: the root stays current, and its entries are
printed, although the folder that was asked for is another one. -/
theorem unlisted_folder_passed_over :
    (run (listingFirst unlistedFolder listedFile) (localFiles ["n"]) pickerFile).status = 0 ∧
      currentId? (listingFirst unlistedFolder listedFile) ["n"] = some Trail.rootId ∧
      Trail.rootId ≠ "n" ∧
      (run (listingFirst unlistedFolder listedFile) (localFiles ["n"]) pickerFile).output =
        loneEntryOutput "n" "N" "Folder" := by
  decide +kernel

end CourseLaunch.Command
