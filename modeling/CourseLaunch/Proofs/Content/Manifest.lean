import CourseLaunch.Content.Manifest
import CourseLaunch.Proofs.Json.Reading
import CourseLaunch.Proofs.Web.Form
/-!
# What a manifest points at

A manifest that is read back, at once or from the text in which it is posted, points at what the
pairs of its link say. They are the pairs of the launch page and then those of the chosen content,
and the last pair with a key counts. A document that was chosen is found again under every launch
page. A file is found again only where the launch page names no document: a document counts before
a file, and the pairs of a file do not take the old document away.

Nothing is assumed of the link but that it is read back from its own text as the URL it is.
-/

namespace CourseLaunch.Web.Url

/-- Whether a URL is read back from its own text. -/
def Rereads (u : Url) : Prop := parse u.text = .ok u

theorem rereads_iff {u : Url} : u.Rereads ↔ (parse u.text).toOption = some u := by
  rw [Rereads]
  cases parse u.text <;> simp [Except.toOption]

instance (u : Url) : Decidable u.Rereads := decidable_of_iff _ rereads_iff.symm

end CourseLaunch.Web.Url

namespace CourseLaunch.Content

variable {launch : Web.Url} {content : Content} {extra : List (String × String)}

/-! ### Pairs -/

section LastValue

variable {key : String} {front behind pairs : List (String × String)}

/-- The pairs behind decide, if they have the key. -/
theorem lastValue?_append :
    lastValue? key (front ++ behind) = (lastValue? key behind).or (lastValue? key front) := by
  rw [lastValue?, List.reverse_append, List.lookup_append]
  rfl

theorem lastValue?_eq_none (absent : ∀ pair ∈ pairs, pair.1 ≠ key) :
    lastValue? key pairs = none := by
  rw [lastValue?, List.lookup_eq_none_iff]
  intro pair known
  rw [bne_iff_ne]
  exact (absent pair (List.mem_reverse.mp known)).symm

/-- Pairs with other keys change nothing. -/
theorem lastValue?_before (others : ∀ pair ∈ behind, pair.1 ≠ key) :
    lastValue? key (front ++ (pairs ++ behind)) =
      (lastValue? key pairs).or (lastValue? key front) := by
  rw [lastValue?_append, lastValue?_append, lastValue?_eq_none others, Option.none_or]

end LastValue

/-! ### Reading a manifest -/

/-- A manifest names the link that was made for the content. -/
theorem linkOf?_manifest :
    linkOf? (manifest launch content extra) = some (linkUrl launch content extra).text := by
  rw [manifest]
  cases linkTitle content <;> rfl

theorem pairs_linkUrl :
    (linkUrl launch content extra).pairs = launch.pairs ++ (linkPairs content ++ extra) :=
  launch.pairs_withPairs _

/-- A manifest points at what the pairs of its link point at. -/
theorem readManifest_manifest {target : Target}
    (reread : (linkUrl launch content extra).Rereads)
    (points : targetOf? (launch.pairs ++ (linkPairs content ++ extra)) = some target) :
    readManifest (manifest launch content extra) = .ok target := by
  rw [Web.Url.Rereads] at reread
  rw [readManifest, linkOf?_manifest]
  simp only [reread, pairs_linkUrl, points]

theorem canonical_manifest :
    (manifest launch content extra).canonical = manifest launch content extra := by
  rw [manifest]
  cases linkTitle content <;> rfl

theorem isWhole_manifest : (manifest launch content extra).isWhole := by
  rw [manifest]
  cases linkTitle content <;> rfl

theorem nested_manifest : (manifest launch content extra).Nested Json.greatestDepth := by
  rw [manifest]
  cases linkTitle content <;>
    simp [Json.greatestDepth, Json.nested_object_iff, Json.nested_array_iff]

/-- The text in which a manifest is posted is read back as the manifest. -/
theorem ofSource_contentItems :
    Json.ofSource (Json.Source.ofString (form launch content extra).contentItems) =
      .ok (manifest launch content extra) := by
  have read : Json.ofSource (Json.Source.ofString (manifest launch content extra).text) =
      .ok (manifest launch content extra).canonical :=
    Json.ofSource_text nested_manifest isWhole_manifest
  rw [canonical_manifest] at read
  exact read

/-! ### Documents -/

/-- A launch page without pairs of its own. -/
def freshPage : Web.Url :=
  ⟨"https", some ⟨"", "", .named "lms", none⟩, .rooted ["go"], none, some "top"⟩

/-- The same page with a document that was chosen earlier. -/
def usedPage : Web.Url := freshPage.withPairs [("url", "http://old")]

/-- A document is found again under every launch page, one that names another document included,
both in the manifest and in the text in which it is posted. The form names it as it is. -/
theorem document_recovered {address : String} {name : Option String}
    (others : ∀ pair ∈ extra, pair.1 ≠ "url")
    (reread : (linkUrl launch (.url address name) extra).Rereads) :
    readManifest (manifest launch (.url address name) extra) = .ok (.url address) ∧
      (∃ posted,
        Json.ofSource (Json.Source.ofString (form launch (.url address name) extra).contentItems) =
          .ok posted ∧
        readManifest posted = .ok (.url address)) ∧
      (form launch (.url address name) extra).documentUrl = some address := by
  have chosen : lastValue? "url" (launch.pairs ++ (linkPairs (.url address name) ++ extra)) =
      some address := lastValue?_before others
  have points : targetOf? (launch.pairs ++ (linkPairs (.url address name) ++ extra)) =
      some (.url address) := by
    rw [targetOf?, chosen]
  have found := readManifest_manifest reread points
  exact ⟨found, ⟨_, ofSource_contentItems, found⟩, rfl⟩

theorem newer_document_recovered :
    (∀ pair ∈ [("group_set", "7")], pair.1 ≠ "url") ∧
      (linkUrl usedPage (.url "http://new/?q=ü + 1%" none) [("group_set", "7")]).Rereads ∧
      readManifest (manifest usedPage (.url "http://new/?q=ü + 1%" none) [("group_set", "7")]) =
        .ok (.url "http://new/?q=ü + 1%") := by
  have others : ∀ pair ∈ [("group_set", "7")], pair.1 ≠ "url" := by simp
  have reread :
      (linkUrl usedPage (.url "http://new/?q=ü + 1%" none) [("group_set", "7")]).Rereads := by
    decide +kernel
  exact ⟨others, reread, (document_recovered others reread).1⟩

/-! ### Files -/

/-- A file is found again wherever the launch page names no document. Under a launch page that does
name one, the last document it names is found in place of the file. -/
theorem file_recovered {entry : Course.Entry}
    (others : ∀ pair ∈ extra, pair.1 ≠ "url" ∧ pair.1 ≠ "canvas_file" ∧ pair.1 ≠ "file_id")
    (reread : (linkUrl launch (.file entry) extra).Rereads) :
    ((∀ pair ∈ launch.pairs, pair.1 ≠ "url") →
        readManifest (manifest launch (.file entry) extra) = .ok (.canvasFile entry.id)) ∧
      ∀ address, lastValue? "url" launch.pairs = some address →
        readManifest (manifest launch (.file entry) extra) = .ok (.url address) := by
  have document : lastValue? "url" (launch.pairs ++ (linkPairs (.file entry) ++ extra)) =
      lastValue? "url" launch.pairs :=
    lastValue?_before fun pair known => (others pair known).1
  have mark : lastValue? "canvas_file" (launch.pairs ++ (linkPairs (.file entry) ++ extra)) =
      some "true" := lastValue?_before fun pair known => (others pair known).2.1
  have id : lastValue? "file_id" (launch.pairs ++ (linkPairs (.file entry) ++ extra)) =
      some entry.id := lastValue?_before fun pair known => (others pair known).2.2
  constructor
  · intro absent
    apply readManifest_manifest reread
    rw [targetOf?, document, lastValue?_eq_none absent, mark, id]
    rfl
  · intro address named
    apply readManifest_manifest reread
    rw [targetOf?, document, named]

/-- A file of a course, whose id has to be escaped in a link. -/
def syllabus : Course.Entry := ⟨"4 ü", "Syllabus.pdf", .file, none, none⟩

/-- The page of a course for which a file was chosen earlier, but no document. -/
def coursePage : Web.Url := freshPage.withPairs [("canvas_file", "false"), ("file_id", "1")]

/-- A file is found in place of one that was chosen earlier. -/
theorem newer_file_recovered :
    coursePage.query = some "canvas_file=false&file_id=1" ∧
      (linkUrl coursePage (.file syllabus) [("group_set", "7")]).Rereads ∧
      readManifest (manifest coursePage (.file syllabus) [("group_set", "7")]) =
        .ok (.canvasFile "4 ü") := by
  have reread : (linkUrl coursePage (.file syllabus) [("group_set", "7")]).Rereads := by
    decide +kernel
  have unnamed : ∀ pair ∈ coursePage.pairs, pair.1 ≠ "url" := by
    rw [coursePage, Web.Url.pairs_withPairs]
    simp [freshPage, Web.Url.pairs]
  have recovered := file_recovered (by simp) reread
  exact ⟨by decide +kernel, reread, recovered.1 unnamed⟩

/-- Under a page that names a document, that one is found and the chosen file is not. -/
theorem older_document_recovered :
    (linkUrl usedPage (.file syllabus) []).Rereads ∧
      readManifest (manifest usedPage (.file syllabus) []) = .ok (.url "http://old") ∧
      readManifest (manifest usedPage (.file syllabus) []) ≠ .ok (.canvasFile syllabus.id) := by
  have reread : (linkUrl usedPage (.file syllabus) []).Rereads := by decide +kernel
  have points : targetOf? (usedPage.pairs ++ (linkPairs (.file syllabus) ++ [])) =
      some (.url "http://old") := by
    rw [usedPage, Web.Url.pairs_withPairs]
    rfl
  have found := readManifest_manifest reread points
  refine ⟨reread, found, ?_⟩
  rw [found]
  simp

end CourseLaunch.Content
