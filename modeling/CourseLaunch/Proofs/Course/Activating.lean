import CourseLaunch.Proofs.Course.Opening
import CourseLaunch.Proofs.Course.Selection
/-!
# Which entry is taken

An entry that is activated is looked up by its id in the listing that is shown, and nothing keeps
ids apart there. So the first entry with that id is taken. It is the one that was meant when no
other entry with its id stands in front of it.
-/

namespace CourseLaunch.Course
open Backend

namespace Browser

variable {b c : Browser} {entry : Entry}

/-- What taking an entry makes of a browser. A file is given. A folder that can be listed is gone
to, and one call is begun, which asks for the listing of the folder that is current then; when no
folder on the trail has its id, it is the folder itself. -/
structure ActsOn (b : Browser) (entry : Entry) (c : Browser) : Prop where
  gives : entry.kind = .file →
    c.results = b.results ++ [.emitted (some entry)] ∧ b.Quiet c
  opens : entry.kind = .folder → entry.contents.isSome →
    c.results = b.results ++ [.emitted none] ∧
      c.trail.current.id = entry.id ∧
      (entry.id ∉ b.trail.ids → c.trail.current = entry) ∧
      ∃ request, c.trail.AskedBy request ∧
        c.client.begun = b.client.begun ++ [(b.nextTask, request)] ∧
        c.client = (b.client.begin b.nextTask request).1
  ignores : entry.kind = .folder → entry.contents = none →
    c.results = b.results ++ [.emitted none] ∧ b.Quiet c

/-- A listing is asked for at the endpoint of the current folder. -/
theorem fetch_client {listing : Endpoint} (current : b.trail.current.contents = some listing)
    (task : Nat) (isReload : Bool) :
    (b.fetch task isReload).client = (b.client.begin task (.ofEndpoint listing)).1 := by
  rw [fetch_eq current, follow_client]

/-- Going to a folder that can be listed asks for the listing of the folder with its id on the
trail. -/
theorem visit_opens (same : b.Same c) (listed : b.trail.Listed) {folder : Entry}
    (isFolder : folder.isFolder) (contents : folder.contents.isSome) (result : Result) :
    (c.visit result folder).trail = b.trail.navigate folder ∧
      ∃ request, (b.trail.navigate folder).AskedBy request ∧
        (c.visit result folder).client = (b.client.begin b.nextTask request).1 := by
  have goes : c.visit result folder =
      ({ c with trail := c.trail.navigate folder }.add result).fetch c.nextTask false := by
    rw [visit, isFolder, contents, Bool.and_self, if_pos rfl]
  obtain ⟨listing, known⟩ := Option.isSome_iff_exists.mp (listed.navigate contents).current
  refine ⟨?_, .ofEndpoint listing, ⟨listing, known, Request.asksFor_ofEndpoint listing⟩, ?_⟩
  · rw [trail_visit isFolder, if_pos contents, same.trail]
  · have current : ({ c with trail := c.trail.navigate folder }.add result).trail.current.contents =
        some listing := by
      rw [← known, ← same.trail]
      rfl
    rw [goes, fetch_client current, ← same.client, ← same.nextTask_eq]
    rfl

/-- What is highlighted is what is taken. -/
theorem confirm_actsOn (same : b.Same c) (listed : b.trail.Listed)
    (selected : c.selected = some entry) : b.ActsOn entry c.confirm := by
  have results : c.results = b.results := by rw [Browser.results, Browser.results, same.tasks]
  have taken : c.confirm = if entry.isFolder then c.visit (.emitted none) entry
      else c.add (.emitted (some entry)) := by
    rw [confirm, selected]
  rw [taken]
  constructor
  case gives =>
    intro file
    rw [if_neg (by simp [Entry.isFolder_eq_false_iff.mpr file])]
    exact ⟨by rw [results_add, results], same.quiet_add _⟩
  case ignores =>
    intro folder none
    have ignored : c.visit (.emitted .none) entry = c.add (.emitted .none) := by
      simp [visit, none]
    rw [if_pos (Entry.isFolder_iff.mpr folder), ignored]
    exact ⟨by rw [results_add, results], same.quiet_add _⟩
  case opens =>
    intro folder contents
    have isFolder : entry.isFolder := Entry.isFolder_iff.mpr folder
    obtain ⟨trail, request, asks, begins⟩ :=
      visit_opens same listed isFolder contents (.emitted none)
    rw [if_pos isFolder, trail]
    exact ⟨by rw [results_visit, results], b.trail.id_current_navigate entry,
      Trail.current_navigate_of_new, request, asks,
      begins ▸ (Client.begin_begins b.client b.nextTask request).begun_eq, begins⟩

/-- Activating an entry takes the first one with its id. -/
theorem activate_actsOn {moves : List Move} {target : Entry} {files : List Entry}
    (listed : (b.afterAll moves).trail.Listed) (shown : (b.afterAll moves).status = .fetched files)
    (first : files.find? (fun e => e.id = target.id) = some entry) :
    (b.afterAll moves).ActsOn entry (b.afterAll (moves ++ [.activate target])) := by
  have selected : ((b.afterAll moves).select target.id).selected = some entry :=
    selected_select_iff.mpr ⟨files, shown, first⟩
  rw [afterAll_append]
  exact confirm_actsOn ⟨rfl, rfl, rfl, rfl, rfl⟩ listed selected

/-- The entry that is found is the first one with the id. -/
theorem find?_id_eq_some {files : List Entry} {target : Entry} :
    files.find? (fun e => e.id = target.id) = some entry ↔
      ∃ front behind, files = front ++ entry :: behind ∧ entry.id = target.id ∧
        ∀ e ∈ front, e.id ≠ target.id := by
  rw [List.find?_eq_some_iff_append]
  simp only [decide_eq_true_eq, Bool.not_eq_true', decide_eq_false_iff_not]
  constructor
  · rintro ⟨same, front, behind, split, others⟩
    exact ⟨front, behind, split, same, others⟩
  · rintro ⟨front, behind, split, same, others⟩
    exact ⟨same, front, behind, split, others⟩

/-- Whatever listing is shown, an entry of it that is activated is the one that is taken when no
other entry with its id stands in front of it. In every case the first entry with its id is. -/
theorem first_namesake_taken {base : Web.Url} {token : String} {desktop : Popup.Desktop}
    {listing : Endpoint} {start : Browser}
    (opens : ofEndpoint (.fresh base token) desktop listing = .ok start) (moves : List Move)
    {files : List Entry} (shown : (start.afterAll moves).status = .fetched files)
    {target : Entry} (listed : target ∈ files) :
    (∀ front behind, files = front ++ target :: behind → (∀ e ∈ front, e.id ≠ target.id) →
        (start.afterAll moves).ActsOn target (start.afterAll (moves ++ [.activate target]))) ∧
      ∃ front first behind, files = front ++ first :: behind ∧ first.id = target.id ∧
        (∀ e ∈ front, e.id ≠ target.id) ∧
        (start.afterAll moves).ActsOn first (start.afterAll (moves ++ [.activate target])) := by
  have valid := valid_afterAll (valid_ofEndpoint opens) moves
  have taken {entry : Entry} (first : files.find? (fun e => e.id = target.id) = some entry) :
      (start.afterAll moves).ActsOn entry (start.afterAll (moves ++ [.activate target])) :=
    activate_actsOn valid.listed shown first
  constructor
  · intro front behind split others
    exact taken (find?_id_eq_some.mpr ⟨front, behind, split, rfl, others⟩)
  · obtain ⟨first, found⟩ : ∃ first, files.find? (fun e => e.id = target.id) = some first := by
      rw [← Option.isSome_iff_exists, List.find?_isSome]
      exact ⟨target, listed, by simp⟩
    obtain ⟨front, behind, split, same, others⟩ := find?_id_eq_some.mp found
    exact ⟨front, first, behind, split, same, others, taken found⟩

/-- A listing of a folder and of a file behind it that has the same id. -/
def namesakes : List Move :=
  [.load, .answer 0 (.whole 200 (Text.octets
    ("[\x7b\"id\":\"a\",\"display_name\":\"Week\",\"type\":\"Folder\"," ++
      "\"contents\":\x7b\"path\":\"/week\"\x7d\x7d," ++
      "\x7b\"id\":\"a\",\"display_name\":\"Notes\",\"type\":\"File\"\x7d]")))]

theorem shown_namesakes :
    ∃ folder file, (sample.afterAll namesakes).status = .fetched [folder, file] ∧
      folder.kind = .folder ∧ folder.contents.isSome ∧ file.kind = .file ∧
      folder.id = "a" ∧ file.id = "a" ∧
      (sample.afterAll namesakes).trail.ids = [Trail.rootId] ∧
      (sample.afterAll namesakes).results.length = 1 := by
  have seen :
      ((sample.afterAll namesakes).status.files?.map fun files =>
          files.map fun e => (e.id, e.kind, e.contents.isSome)) =
        some [("a", .folder, true), ("a", .file, false)] ∧
      (sample.afterAll namesakes).trail.ids = [Trail.rootId] ∧
      (sample.afterAll namesakes).results.length = 1 := by decide +kernel
  obtain ⟨seen, trail, results⟩ := seen
  cases status : (sample.afterAll namesakes).status with
  | fetched files =>
    rw [status, Status.files?, Option.map_some, Option.some_inj] at seen
    obtain ⟨folder, rest, rfl, first, seen⟩ := List.map_eq_cons_iff.mp seen
    obtain ⟨file, rest, rfl, second, seen⟩ := List.map_eq_cons_iff.mp seen
    obtain rfl := List.map_eq_nil_iff.mp seen
    simp only [Prod.mk.injEq] at first second
    exact ⟨folder, file, rfl, first.2.1, first.2.2, second.2.1, first.1, second.1, trail, results⟩
  | fetching _ | authorizing _ | failed _ => simp [status, Status.files?] at seen

theorem folder_before_file_taken :
    ofEndpoint sample.client sample.desktop (.ofPath "/files") = .ok sample ∧
      ∃ folder file, (sample.afterAll namesakes).status = .fetched [folder, file] ∧
        folder ∈ [folder, file] ∧ folder.id = file.id ∧
        (sample.afterAll namesakes).ActsOn folder
          (sample.afterAll (namesakes ++ [.activate folder])) := by
  have opens : ofEndpoint sample.client sample.desktop (.ofPath "/files") = .ok sample := rfl
  obtain ⟨folder, file, shown, -, -, -, folderId, fileId, -, -⟩ := shown_namesakes
  have listed : folder ∈ [folder, file] := List.mem_cons_self
  have taken := (first_namesake_taken opens namesakes shown listed).1 [] [file] rfl (by simp)
  exact ⟨opens, folder, file, shown, listed, folderId.trans fileId.symm, taken⟩

/-- A file that is activated is not given when a folder with its id stands in front of it. The
folder is opened in its place. -/
theorem file_behind_folder_not_given :
    ∃ folder file, (sample.afterAll namesakes).status = .fetched [folder, file] ∧
      file.kind = .file ∧
      (sample.afterAll (namesakes ++ [.activate file])).results[1]? = some (.emitted none) ∧
      (sample.afterAll (namesakes ++ [.activate file])).trail.current = folder := by
  obtain ⟨folder, file, shown, isFolder, contents, isFile, folderId, fileId, root, one⟩ :=
    shown_namesakes
  have opens : ofEndpoint sample.client sample.desktop (.ofPath "/files") = .ok sample := rfl
  have listed := (valid_afterAll (valid_ofEndpoint opens) namesakes).listed
  have acts : (sample.afterAll namesakes).ActsOn folder
      (sample.afterAll (namesakes ++ [.activate file])) :=
    activate_actsOn listed shown (by simp [folderId, fileId])
  obtain ⟨results, -, new, -⟩ := acts.opens isFolder contents
  refine ⟨folder, file, shown, isFile, ?_, new ?_⟩
  · rw [results, List.getElem?_append_right one.le, one]
    rfl
  · rw [root, folderId]
    decide

end Browser

end CourseLaunch.Course
