import CourseLaunch.Content.Selection
import Mathlib.Data.List.TakeWhile
/-!
# Every picker makes content of its own form

A picker that was dismissed makes no content, and one that failed says so. All other content is of
the form that belongs to its picker, whatever the user typed or pasted: the guarantees for pages,
videos and articles come from the readers of links, and those for books and files from what the
picker reports. What has no such form is refused.
-/

namespace CourseLaunch.Text

theorem strip_eq_nil {p : Char → Bool} {cs : List Char} : strip p cs = [] ↔ ∀ c ∈ cs, p c := by
  rw [strip, dropTail, List.reverse_eq_nil_iff, List.dropWhile_eq_nil_iff]
  simp only [List.mem_reverse]
  constructor
  · intro blank c known
    rw [← List.takeWhile_append_dropWhile (p := p) (l := cs), List.mem_append] at known
    exact known.elim List.mem_takeWhile_imp (blank c)
  · intro blank c known
    exact blank c ((List.dropWhile_sublist p).mem known)

/-- A text is not blank when a character of it is none. -/
theorem isEmpty_trim {s : String} : (trim s).isEmpty = false ↔ ∃ c ∈ s.toList, ¬ isBlank c := by
  rw [← Bool.not_eq_true, trim, String.isEmpty_iff, ← String.toList_eq_nil_iff,
    String.toList_ofList, strip_eq_nil]
  simp

end CourseLaunch.Text

namespace CourseLaunch.Content
open Course (Entry)

/-! ### Pages -/

/-- A page on the web with a host. -/
structure IsPage (page : Web.Url) : Prop where
  scheme : page.scheme = "http" ∨ page.scheme = "https"
  host : page.host?.isSome

/-- The text of a page names its scheme and goes on with a host. -/
theorem IsPage.text {page : Web.Url} (h : IsPage page) :
    (page.scheme ++ "://").toList <+: page.text.toList := by
  obtain ⟨host, named⟩ := Option.isSome_iff_exists.mp h.host
  obtain ⟨authority, known, -⟩ := Option.bind_eq_some_iff.mp named
  refine ⟨(authority.text ++ page.path.text ++ page.queryText ++ page.fragmentText).toList, ?_⟩
  simp [Web.Url.text, Web.Url.textBeforeFragment, Web.Url.placeText, known]

/-- A page is entered by the text of an absolute web URL, with white space around it or not. -/
theorem enteredPage_eq_ok {input : String} {page : Web.Url} :
    enteredPage input = .ok page ↔
      Web.Url.parse (Text.trim input) = .ok page ∧ IsPage page := by
  unfold enteredPage webPage
  cases Web.Url.parse (Text.trim input) with
  | error fault => simp [Except.mapError]
  | ok url =>
    simp only [Except.ok.injEq]
    split
    case isTrue web =>
      split
      case isTrue host =>
        simp only [Except.mapError, Except.ok.injEq]
        exact ⟨fun same => ⟨same, same ▸ ⟨web, host⟩⟩, And.left⟩
      case isFalse hostless =>
        simp only [Except.mapError, reduceCtorEq, false_iff]
        rintro ⟨rfl, page⟩
        exact hostless page.host
    case isFalse other =>
      simp only [Except.mapError, reduceCtorEq, false_iff]
      rintro ⟨rfl, page⟩
      exact other page.scheme

/-! ### Videos -/

/-- The id of a video: letters, digits and two marks, and not empty. -/
structure IsVideo (id : String) : Prop where
  filled : id ≠ ""
  plain : ∀ c ∈ id.toList, c.isAlphanum ∨ c = '-' ∨ c = '_'

theorem isVideo_of_isVideoId {id : String} (h : isVideoId id) : IsVideo id := by
  simp only [isVideoId, isVideoChar, Bool.and_eq_true, Bool.not_eq_true', List.all_eq_true,
    Bool.or_eq_true, beq_iff_eq, or_assoc] at h
  exact ⟨by simpa using h.1, h.2⟩

/-- What is found in the link of a video is the id of one. -/
theorem isVideo_of_youtubeId? {input id : String} (found : youtubeId? input = some id) :
    IsVideo id := by
  simp only [youtubeId?, Option.bind_eq_bind, Option.bind_eq_some_iff] at found
  obtain ⟨url, -, host, -, segments, -, kept⟩ := found
  exact isVideo_of_isVideoId (Option.filter_eq_some_iff.mp kept).2

/-! ### Articles -/

/-- The id of an article: its number, or the name of a digital object. -/
inductive IsArticle (id : String) : Prop where
  | number (filled : id ≠ "") (digits : ∀ c ∈ id.toList, c.isDigit)
  | doi (front : ['1', '0', '.'] <+: id.toList) (slash : '/' ∈ id.toList)

theorem isNumeric_iff {s : String} : isNumeric s ↔ s ≠ "" ∧ ∀ c ∈ s.toList, c.isDigit := by
  simp [isNumeric, List.all_eq_true]

theorem startsLikeDoi_iff {s : String} : startsLikeDoi s ↔ ['1', '0', '.'] <+: s.toList := by
  rw [startsLikeDoi, List.isPrefixOf_iff_prefix]

theorem isArticle_of_isNumeric {id : String} (h : isNumeric id) : IsArticle id :=
  .number (isNumeric_iff.mp h).1 (isNumeric_iff.mp h).2

/-- Two segments that begin like the name of a digital object make one. -/
theorem isArticle_join {front : String} (h : startsLikeDoi front) (behind : String) :
    IsArticle (front ++ "/" ++ behind) := by
  refine .doi ?_ (by simp)
  rw [String.append_assoc, String.toList_append]
  exact (startsLikeDoi_iff.mp h).trans (List.prefix_append _ _)

/-- What is found in the path of an article is a number, or two of its segments. -/
theorem articleIn?_eq_some {segments : List String} {id : String}
    (found : articleIn? segments = some id) :
    isNumeric id ∨ ∃ front behind, front ∈ segments ∧ behind ∈ segments ∧ startsLikeDoi front ∧
      id = front ++ "/" ++ behind := by
  unfold articleIn? at found
  split at found
  case h_1 second rest =>
    simp only at found
    split at found
    case h_1 file named =>
      -- the file behind `pdf`, without its ending
      split at named
      case isTrue =>
        cases found
        exact .inl (Option.filter_eq_some_iff.mp named).2
      case isFalse => cases named
    case h_2 =>
      split at found
      case isTrue numeric => exact .inl (Option.some.inj found ▸ numeric)
      case isFalse =>
        split at found
        case isTrue front =>
          obtain ⟨third, known, rfl⟩ := Option.map_eq_some_iff.mp found
          have behind : third ∈ rest := List.mem_of_mem_head? known
          exact .inr ⟨second, third, by simp, by simp [behind], front, rfl⟩
        case isFalse => cases found
  case h_2 => cases found

theorem isArticle_of_articleIn? {segments : List String} {id : String}
    (found : articleIn? segments = some id) : IsArticle id := by
  rcases articleIn?_eq_some found with numeric | ⟨front, behind, -, -, starts, rfl⟩
  · exact isArticle_of_isNumeric numeric
  · exact isArticle_join starts behind

/-- An id is the text itself, or it is found in the path of the URL that the text is read as. -/
theorem jstorId?_eq_some {input id : String} (found : jstorId? input = some id) :
    (id = Text.trim input ∧ IsArticle id) ∨
      ∃ url segments, Web.Url.parse (Text.trim input) = .ok url ∧
        fullSegments? url = some segments ∧ articleIn? segments = some id := by
  unfold jstorId? at found
  simp only at found
  split at found
  case isTrue numeric =>
    cases found
    exact .inl ⟨rfl, isArticle_of_isNumeric numeric⟩
  case isFalse =>
    split at found
    case isTrue named =>
      obtain ⟨front, slash⟩ := (Bool.and_eq_true _ _).mp named
      cases found
      exact .inl ⟨rfl, .doi (startsLikeDoi_iff.mp front) (by simpa using slash)⟩
    case isFalse =>
      simp only [Option.bind_eq_bind, Option.bind_eq_some_iff] at found
      obtain ⟨url, read, host, -, found⟩ := found
      split at found
      case isTrue =>
        obtain ⟨segments, full, found⟩ := Option.bind_eq_some_iff.mp found
        have parsed : Web.Url.parse (Text.trim input) = .ok url := by
          cases known : Web.Url.parse (Text.trim input) with
          | ok page => simpa [known, Except.toOption] using read
          | error fault => simp [known, Except.toOption] at read
        exact .inr ⟨url, segments, parsed, full, found⟩
      case isFalse => cases found

/-- What is found in the text of a user is the id of an article. -/
theorem isArticle_of_jstorId? {input id : String} (found : jstorId? input = some id) :
    IsArticle id := by
  rcases jstorId?_eq_some found with ⟨-, article⟩ | ⟨url, segments, -, -, found⟩
  · exact article
  · exact isArticle_of_articleIn? found

/-! ### Content -/

/-- The content that a picker makes of what it reports. -/
inductive Makes : Picker → Outcome → Content → Prop where
  | page (input : String) (name : Option String) (page : Web.Url)
      (entered : Web.Url.parse (Text.trim input) = .ok page) (isPage : IsPage page)
      (text : (page.scheme ++ "://").toList <+: page.text.toList) :
      Makes .url (.url input name) (.url page.text name)
  | video (input : String) (name : Option String) (id : String)
      (found : youtubeId? input = some id) (isVideo : IsVideo id) :
      Makes .youtube (.url input name) (.url ("youtube://" ++ id) name)
  | article (input : String) (name : Option String) (id : String)
      (found : jstorId? input = some id) (isArticle : IsArticle id) :
      Makes .jstor (.url input name) (.url ("jstor://" ++ id) name)
  | drive (picker : Picker) (address : String) (name : Option String)
      (isDrive : picker = .googleDrive ∨ picker = .oneDrive)
      (filled : ∃ c ∈ address.toList, ¬ Text.isBlank c) :
      Makes picker (.url address name) (.url address name)
  | book (id : String) :
      Makes .vitalsource (.book id none) (.url ("vitalsource://book/bookID/" ++ id) none)
  | chapter (id location : String) :
      Makes .vitalsource (.book id (some location))
        (.url ("vitalsource://book/bookID/" ++ id ++ "/cfi/" ++ location) none)
  | canvasFile (entry : Course.Entry) (file : entry.kind = .file) :
      Makes (.course .canvas) (.file entry) (.file entry)
  | document (source : Course.Source) (entry : Course.Entry) (other : source ≠ .canvas)
      (file : entry.kind = .file) :
      Makes (.course source) (.file entry) (.url entry.id (some entry.name))

/-- How a picker refuses what it can make nothing of. Only what a user typed is an invalid URL. -/
inductive Refuses : Picker → Outcome → Refusal → Prop where
  | link (picker : Picker) (typed : picker = .url ∨ picker = .youtube ∨ picker = .jstor)
      (input : String) (name : Option String) (shown reason : String) :
      Refuses picker (.url input name) (.invalidUrl shown reason)
  | result (picker : Picker) (outcome : Outcome) (reason : String) :
      Refuses picker outcome (.unusable picker reason)

variable {picker : Picker} {outcome : Outcome} {content : Content}

/-- A picker makes its content from the outcomes that suit it. -/
theorem Makes.select_eq (h : Makes picker outcome content) :
    select picker outcome = .ok (some content) := by
  cases h with
  | page input name page entered isPage text =>
    rw [select, enteredPage_eq_ok.mpr ⟨entered, isPage⟩]
    rfl
  | video input name id found isVideo => simp only [select, found]
  | article input name id found isArticle => simp only [select, found]
  | drive _ address name isDrive filled =>
    have notBlank : (Text.trim address).isEmpty = false := Text.isEmpty_trim.mpr filled
    rcases isDrive with rfl | rfl <;> simp [select, notBlank]
  | book id => rfl
  | chapter id location => rfl
  | canvasFile entry file => simp [select, Entry.isFolder_eq_false_iff.mpr file, Content.ofEntry]
  | document source entry other file =>
    simp [select, Entry.isFolder_eq_false_iff.mpr file, Content.ofEntry, other]

/-- What comes of the outcome of a picker. -/
inductive Selects (picker : Picker) (outcome : Outcome) : Except Refusal (Option Content) → Prop where
  | nothing (dismissed : outcome = .cancelled) : Selects picker outcome (.ok none)
  | failed (report : Backend.Report) (failed : outcome = .failed report) :
      Selects picker outcome (.error (.pickerFailed picker report))
  | content (content : Content) (makes : Makes picker outcome content) :
      Selects picker outcome (.ok (some content))
  | refused (refusal : Refusal) (refuses : Refuses picker outcome refusal) :
      Selects picker outcome (.error refusal)

theorem Makes.selects (h : Makes picker outcome content) :
    Selects picker outcome (select picker outcome) := by
  rw [h.select_eq]
  exact .content content h

theorem enteredPage_eq_error {input : String} {refusal : Refusal}
    (refused : enteredPage input = .error refusal) :
    ∃ shown reason, refusal = .invalidUrl shown reason := by
  unfold enteredPage at refused
  cases known : webPage input with
  | ok page => simp [known, Except.mapError] at refused
  | error fault =>
    simp only [known, Except.mapError, Except.error.injEq] at refused
    exact ⟨_, _, refused.symm⟩

/-- Every text is selected as the page that it is the address of, or refused. -/
theorem selects_page (input : String) (name : Option String) :
    Selects .url (.url input name) (select .url (.url input name)) := by
  cases known : enteredPage input with
  | ok page =>
    obtain ⟨entered, isPage⟩ := enteredPage_eq_ok.mp known
    exact (Makes.page input name page entered isPage isPage.text).selects
  | error refusal =>
    obtain ⟨shown, reason, rfl⟩ := enteredPage_eq_error known
    rw [select, known]
    exact .refused _ (.link .url (by simp) input name shown reason)

/-- A file of a drive is selected by its address, or refused. -/
theorem selects_drive (isDrive : picker = .googleDrive ∨ picker = .oneDrive) (address : String)
    (name : Option String) :
    Selects picker (.url address name) (select picker (.url address name)) := by
  cases blank : (Text.trim address).isEmpty with
  | false => exact (Makes.drive picker address name isDrive (Text.isEmpty_trim.mp blank)).selects
  | true =>
    rcases isDrive with rfl | rfl <;>
    · rw [select, if_pos blank]
      exact .refused _ (.result _ _ _)

/-- An entry of a course is selected if it is a file of that course. -/
theorem selects_file (source : Course.Source) (entry : Course.Entry) :
    Selects (.course source) (.file entry) (select (.course source) (.file entry)) := by
  cases folder : entry.isFolder with
  | true =>
    rw [select, if_pos folder]
    exact .refused _ (.result _ _ _)
  | false =>
    have file : entry.kind = .file := Entry.isFolder_eq_false_iff.mp folder
    by_cases canvas : source = .canvas
    · subst canvas
      exact (Makes.canvasFile entry file).selects
    · exact (Makes.document source entry canvas file).selects

/-- Whatever a picker reports comes to one of the four ends. -/
theorem selects_select (picker : Picker) (outcome : Outcome) :
    Selects picker outcome (select picker outcome) := by
  -- a result of another kind than the picker's own
  have mismatch : Selects picker outcome
      (.error (.unusable picker "result type does not match picker")) :=
    .refused _ (.result picker outcome _)
  cases outcome with
  | cancelled => cases picker <;> exact .nothing rfl
  | failed report => cases picker <;> exact .failed report rfl
  | url input name =>
    cases picker with
    | url => exact selects_page input name
    | googleDrive => exact selects_drive (.inl rfl) input name
    | oneDrive => exact selects_drive (.inr rfl) input name
    | youtube =>
      cases found : youtubeId? input with
      | some id => exact (Makes.video input name id found (isVideo_of_youtubeId? found)).selects
      | none =>
        simp only [select, found]
        exact .refused _ (.link .youtube (by simp) input name _ _)
    | jstor =>
      cases found : jstorId? input with
      | some id => exact (Makes.article input name id found (isArticle_of_jstorId? found)).selects
      | none =>
        simp only [select, found]
        exact .refused _ (.link .jstor (by simp) input name _ _)
    | course source => exact mismatch
    | vitalsource => exact mismatch
  | book id location =>
    cases picker with
    | vitalsource =>
      cases location with
      | none => exact (Makes.book id).selects
      | some location => exact (Makes.chapter id location).selects
    | _ => exact mismatch
  | file entry =>
    cases picker with
    | course source => exact selects_file source entry
    | _ => exact mismatch

/-- A picker makes no content exactly when it was dismissed, and it tells a failure exactly when it
failed. All else that it makes is content of its own form, and it refuses what has no such form. -/
theorem content_of_own_form (picker : Picker) (outcome : Outcome) :
    (select picker outcome = .ok none ↔ outcome = .cancelled) ∧
      (∀ failing report, select picker outcome = .error (.pickerFailed failing report) ↔
        failing = picker ∧ outcome = .failed report) ∧
      (∀ content, select picker outcome = .ok (some content) ↔ Makes picker outcome content) ∧
      (outcome = .cancelled ∨ (∃ report, outcome = .failed report) ∨
        (∃ content, Makes picker outcome content) ∨
        ∃ refusal, select picker outcome = .error refusal ∧ Refuses picker outcome refusal) := by
  have selects := selects_select picker outcome
  refine ⟨⟨fun none => ?_, ?_⟩, fun failing report => ⟨fun failed => ?_, ?_⟩,
    fun content => ⟨fun chosen => ?_, Makes.select_eq⟩, ?_⟩
  · rw [none] at selects
    cases selects with
    | nothing dismissed => exact dismissed
  · rintro rfl
    cases picker <;> rfl
  · rw [failed] at selects
    cases selects with
    | failed report failed => exact ⟨rfl, failed⟩
    | refused refusal refuses => cases refuses
  · rintro ⟨rfl, rfl⟩
    cases failing <;> rfl
  · rw [chosen] at selects
    cases selects with
    | content content makes => exact makes
  · generalize select picker outcome = result at selects
    cases selects with
    | nothing dismissed => exact .inl dismissed
    | failed report failed => exact .inr (.inl ⟨report, failed⟩)
    | content content makes => exact .inr (.inr (.inl ⟨content, makes⟩))
    | refused refusal refuses => exact .inr (.inr (.inr ⟨refusal, rfl, refuses⟩))

end CourseLaunch.Content
