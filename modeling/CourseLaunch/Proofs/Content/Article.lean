import CourseLaunch.Proofs.Content.Selection
import CourseLaunch.Proofs.Web.Path
/-!
# Ids of articles are normal

Whatever an id was found in, it is found in itself again: it is a number or the name of a digital
object, and it has no white space at its ends. A number is found in all links to its article. The
name of a digital object is found in the link to it when it has one segment behind its front; of a
longer name the link gives the first of these segments only.
-/

namespace CourseLaunch.Content
open Web (Link IsSegment)
open Text (Trimmed isBlank)

/-! ### Ids are found in themselves -/

/-- An id that is typed in is read as itself. -/
theorem jstorId?_self {id : String} (article : IsArticle id) (trimmed : Trimmed isBlank id.toList) :
    jstorId? id = some id := by
  unfold jstorId?
  simp only [trimmed.trim_eq]
  cases article with
  | number filled digits => rw [if_pos (isNumeric_iff.mpr ⟨filled, digits⟩)]
  | doi front slash =>
    have named : startsLikeDoi id && id.toList.contains '/' := by
      rw [startsLikeDoi_iff.mpr front, Bool.true_and, List.contains_iff_mem]
      exact slash
    rw [if_pos named, ite_self]

/-! ### Ids have no white space at their ends -/

theorem plainInForm_of_isDigit {c : Char} (digit : c.isDigit) : Web.plainInForm c := by
  simp [Web.plainInForm, Char.isAlphanum, digit]

theorem isBare_of_isDigit {c : Char} (digit : c.isDigit) : Web.IsBare c :=
  (Web.isNaming_of_plainInForm (plainInForm_of_isDigit digit)).bare

theorem trimmed_of_isNumeric {id : String} (numeric : isNumeric id) : Trimmed isBlank id.toList :=
  .of_clear fun c known => (isBare_of_isDigit ((isNumeric_iff.mp numeric).2 c known)).blank

/-- The first character of such an id is a digit, and the last one is that of a segment. -/
theorem trimmed_join {front behind : String} (starts : startsLikeDoi front) (filled : behind ≠ "")
    (written : ∀ c ∈ behind.toList, Web.plainInPath c) :
    Trimmed isBlank (front ++ "/" ++ behind).toList where
  front c known := by
    obtain ⟨rest, text⟩ := startsLikeDoi_iff.mp starts
    obtain rfl : '1' = c := by simpa [← text] using known
    decide
  back c known := by
    have last : c ∈ behind.toList.getLast? := by
      rw [String.toList_append, List.getLast?_append_of_ne_nil _ (by simpa using filled)] at known
      exact known
    exact (Web.isBare_of_plainInPath (written c (List.mem_of_mem_getLast? last))).blank

/-- An id from a link has no white space around it, because no segment of a URL has any. -/
theorem trimmed_of_articleIn? {segments : List String} {id : String}
    (filled : ∀ s ∈ segments, s ≠ "") (written : Web.AreWritten segments)
    (found : articleIn? segments = some id) : Trimmed isBlank id.toList := by
  rcases articleIn?_eq_some found with numeric | ⟨front, behind, -, listed, starts, rfl⟩
  · exact trimmed_of_isNumeric numeric
  · exact trimmed_join starts (filled behind listed) (written behind listed)

/-- No id has white space around it, wherever it comes from. -/
theorem trimmed_of_jstorId? {input id : String} (found : jstorId? input = some id) :
    Trimmed isBlank id.toList := by
  rcases jstorId?_eq_some found with ⟨rfl, -⟩ | ⟨url, segments, read, full, found⟩
  · exact Text.trimmed_trim input
  · obtain ⟨all, rooted, rfl⟩ := Option.map_eq_some_iff.mp full
    have written : Web.AreWritten all := (Web.Url.isWritten_of_parse read).segments? rooted
    refine trimmed_of_articleIn? (fun s listed => ?_)
      (written.of_subset (List.filter_subset_self all)) found
    simpa using (List.mem_filter.mp listed).2

/-- Whatever an id was found in, it is a number or the name of a digital object, it has no white
space at its ends, and it is found in itself. -/
theorem article_ids_normal {input id : String} (found : jstorId? input = some id) :
    IsArticle id ∧ Trimmed isBlank id.toList ∧ jstorId? id = some id := by
  have article := isArticle_of_jstorId? found
  have trimmed := trimmed_of_jstorId? found
  exact ⟨article, trimmed, jstorId?_self article trimmed⟩

/-- White space inside a segment is in the id as it is written in the URL. -/
theorem spaced_id_normal :
    jstorId? "\u2003https://jstor.org//stable/10.2307/a b\u3000/c?d\n" =
        some "10.2307/a%20b%E3%80%80" ∧
      jstorId? "10.2307/a%20b%E3%80%80" = some "10.2307/a%20b%E3%80%80" := by
  have found : jstorId? "\u2003https://jstor.org//stable/10.2307/a b\u3000/c?d\n" =
      some "10.2307/a%20b%E3%80%80" := by decide +kernel
  exact ⟨found, (article_ids_normal found).2.2⟩

/-! ### Links to articles -/

/-- A page of the site of the articles. -/
def sitePage (segments : List String) : Link := ⟨"https", "www.jstor.org", segments, none, none⟩

/-- Pages of the site are read as they are written. -/
theorem sitePage_plain {segments : List String} (filled : segments ≠ [])
    (plain : ∀ s ∈ segments, IsSegment s) : (sitePage segments).Plain where
  scheme := .inr rfl
  host := by
    show Web.IsDomain "www.jstor.org"
    decide +kernel
  filled := filled
  segments := plain
  query := nofun

theorem toList_sitePage (segments : List String) :
    (sitePage segments).text.toList = "https://www.jstor.org".toList ++ Web.slashed segments := by
  simp [Link.toList_text, Link.toList_placeText, sitePage, Web.marked]

/-- The id of an article is read from the segments of its page. -/
theorem jstorId?_sitePage {segments : List String} (filled : segments ≠ [])
    (plain : ∀ s ∈ segments, IsSegment s) :
    jstorId? (sitePage segments).text = articleIn? segments := by
  have link := sitePage_plain filled plain
  obtain ⟨shown, read⟩ := link.parse "" "" nofun nofun
  rw [String.empty_append, String.append_empty] at read
  have text : (sitePage segments).text.toList = (sitePage segments).placeText.toList := by
    simp [Link.toList_text, sitePage, Web.marked]
  have trimmed : Text.trim (sitePage segments).text = (sitePage segments).text :=
    Trimmed.trim_eq (.of_clear fun c known => (link.bare c (text ▸ known)).1.blank)
  -- the text of a link is neither a number nor a name
  have letter : ¬ isNumeric (sitePage segments).text := fun numeric =>
    absurd ((isNumeric_iff.mp numeric).2 'h' (by simp [toList_sitePage])) (by decide)
  have unnamed : ¬ startsLikeDoi (sitePage segments).text := by
    simp [startsLikeDoi, toList_sitePage]
  have host : hostWithout "www." "www.jstor.org" = "jstor.org" := by decide +kernel
  have known : ((sitePage segments).url shown).host? = some "www.jstor.org" := link.host?_url shown
  have full := link.full_segments shown
  rw [trimmed] at read
  unfold jstorId?
  simp only [trimmed, letter, unnamed, read, Except.toOption, Option.bind_eq_bind, known, host,
    fullSegments?, full, Option.bind_some, Bool.false_eq_true, Bool.false_and, if_false, if_true]
  rfl

def stableLink (id : String) : String := "https://www.jstor.org/stable/" ++ id

def fileLink (number : String) : String := "https://www.jstor.org/stable/pdf/" ++ number ++ ".pdf"

/-- The name of a digital object: who registered it, and the segments behind that. -/
def objectName (registrant : String) (suffix : List String) : String :=
  "10." ++ registrant ++ String.join (suffix.map ("/" ++ ·))

theorem toList_stableLink (id : String) :
    (stableLink id).toList =
      "https://www.jstor.org".toList ++ ('/' :: "stable".toList ++ '/' :: id.toList) := by
  unfold stableLink
  simp

theorem stableLink_number (number : String) :
    stableLink number = (sitePage ["stable", number]).text := by
  rw [← String.toList_inj, toList_sitePage, toList_stableLink, Web.slashed, List.flatMap_cons,
    List.flatMap_singleton]

theorem fileLink_number (number : String) :
    fileLink number = (sitePage ["stable", "pdf", number ++ ".pdf"]).text := by
  rw [← String.toList_inj, toList_sitePage]
  unfold fileLink
  simp [Web.slashed]

theorem toList_objectName (registrant : String) (suffix : List String) :
    (objectName registrant suffix).toList = ("10." ++ registrant).toList ++ Web.slashed suffix := by
  simp [objectName, Web.slashed, String.toList_join, List.flatMap_map]

/-- The stable link of a name has one segment for the registrant and one for each part behind it. -/
theorem stableLink_objectName (registrant : String) (suffix : List String) :
    stableLink (objectName registrant suffix) =
      (sitePage ("stable" :: ("10." ++ registrant) :: suffix)).text := by
  rw [← String.toList_inj, toList_sitePage, toList_stableLink, toList_objectName]
  simp only [Web.slashed, List.flatMap_cons, List.cons_append]

/-! ### Segments of an article's page -/

theorem isSegment_append_of_digits {number ending : String} (filled : number ≠ "")
    (digits : ∀ c ∈ number.toList, c.isDigit) (plain : ∀ c ∈ ending.toList, Web.plainInForm c) :
    IsSegment (number ++ ending) where
  plain := by
    rw [String.toList_append, List.forall_mem_append]
    exact ⟨fun c known => plainInForm_of_isDigit (digits c known), plain⟩
  named c known := by
    rintro rfl
    cases text : number.toList with
    | nil => exact filled (String.toList_eq_nil_iff.mp text)
    | cons d rest =>
      obtain rfl : d = '.' := by simpa [text] using known
      exact absurd (digits '.' (by simp [text])) (by decide)
  filled := by simp [filled]

theorem stripFront_append {part : List Char} (filled : part ≠ []) (cs : List Char) :
    stripFront part (part ++ cs) = stripFront part cs := by
  cases part with
  | nil => exact absurd rfl filled
  | cons p ps =>
    rw [stripFront, if_pos (by simp), List.drop_left]

theorem stripFront_of_not_prefix {part cs : List Char} (apart : ¬ part <+: cs) :
    stripFront part cs = cs := by
  cases part with
  | nil => exact absurd List.nil_prefix apart
  | cons p ps =>
    rw [stripFront, if_neg]
    rwa [List.isPrefixOf_iff_prefix]

/-- An end is taken away once when there is another one in front of it. -/
theorem stripEnd_append {part front : List Char} (filled : part ≠ []) (other : ¬ part <:+ front) :
    stripEnd part (front ++ part) = front := by
  rw [stripEnd, List.reverse_append, stripFront_append (by simpa using filled),
    stripFront_of_not_prefix (by rwa [List.reverse_prefix]), List.reverse_reverse]

theorem articleIn?_number {number : String} (numeric : isNumeric number) :
    articleIn? ["stable", number] = some number := by
  simp [articleIn?, numeric]

/-- The number of an article is found in the link to its file, without the ending. -/
theorem articleIn?_file {number : String} (numeric : isNumeric number) :
    articleIn? ["stable", "pdf", number ++ ".pdf"] = some number := by
  have other : ¬ ['.', 'p', 'd', 'f'] <:+ number.toList := fun ends =>
    absurd ((isNumeric_iff.mp numeric).2 'f' (ends.mem (by decide))) (by decide)
  have file : String.ofList (stripEnd ['.', 'p', 'd', 'f'] (number ++ ".pdf").toList) = number := by
    rw [String.toList_append]
    show String.ofList (stripEnd ['.', 'p', 'd', 'f'] (number.toList ++ ['.', 'p', 'd', 'f'])) = _
    rw [stripEnd_append (by decide) other, String.ofList_toList]
  simp only [articleIn?, List.head?_cons, Option.map_some, file, if_true,
    Option.filter_some, numeric]

/-- Only one segment behind the front belongs to the id. -/
theorem articleIn?_name {front second : String} {rest : List String}
    (starts : startsLikeDoi front) :
    articleIn? ("stable" :: front :: second :: rest) = some (front ++ "/" ++ second) := by
  have page : front ≠ "pdf" := by
    rintro rfl
    exact absurd starts (by decide +kernel)
  have letters : ¬ isNumeric front := by
    intro numeric
    obtain ⟨behind, text⟩ := startsLikeDoi_iff.mp starts
    exact absurd ((isNumeric_iff.mp numeric).2 '.' (by simp [← text])) (by decide)
  simp [articleIn?, page, letters, starts]

/-! ### All links to an article -/

theorem isSegment_front {registrant : String} (digits : ∀ c ∈ registrant.toList, c.isDigit) :
    IsSegment ("10." ++ registrant) := by
  have segment : IsSegment ("10" ++ ("." ++ registrant)) := by
    have ten : ∀ c ∈ "10".toList, c.isDigit := List.all_eq_true.mp (by decide)
    refine isSegment_append_of_digits (by decide) ten fun c known => ?_
    rw [String.toList_append, List.mem_append] at known
    rcases known with mark | inside
    · obtain rfl : c = '.' := by simpa using mark
      decide
    · exact plainInForm_of_isDigit (digits c inside)
  rwa [← String.append_assoc] at segment

/-- The name of an object has no white space around it. -/
theorem objectName_trimmed {registrant : String} {suffix : List String}
    (digits : ∀ c ∈ registrant.toList, c.isDigit) (plain : ∀ s ∈ suffix, IsSegment s) :
    Trimmed isBlank (objectName registrant suffix).toList := by
  refine .of_clear fun c known => ?_
  rw [toList_objectName, List.mem_append] at known
  rcases known with front | behind
  · exact ((isSegment_front digits).naming c front).bare.blank
  · exact (Link.bare_slashed plain c behind).1.blank

/-- A name has one segment behind its front only if nothing more is in it. -/
theorem eq_nil_of_objectName_eq {registrant first : String} {rest : List String}
    (same : objectName registrant [first] = objectName registrant (first :: rest)) : rest = [] := by
  have length := congrArg (fun s => s.toList.length) same
  simp only [toList_objectName, Web.slashed, List.length_append, List.flatMap_cons] at length
  cases rest with
  | nil => rfl
  | cons s more =>
    simp only [List.flatMap_nil, List.flatMap_cons, List.length_append, List.length_cons,
      List.length_nil] at length
    omega

/-- A number is the id of its article in every link. As a registrant it makes the names of digital
objects: each is an id of its own, and the link to it gives its front and one segment, which is the
whole name exactly when there is no other segment. -/
theorem article_links_agree {number : String} (filled : number ≠ "")
    (digits : ∀ c ∈ number.toList, c.isDigit) :
    (jstorId? number = some number ∧ jstorId? (stableLink number) = some number ∧
      jstorId? (fileLink number) = some number) ∧
    ∀ (first : String) (rest : List String), (∀ s ∈ first :: rest, IsSegment s) →
      jstorId? (objectName number (first :: rest)) = some (objectName number (first :: rest)) ∧
        jstorId? (stableLink (objectName number (first :: rest))) =
          some (objectName number [first]) ∧
        (jstorId? (stableLink (objectName number (first :: rest))) =
          jstorId? (objectName number (first :: rest)) ↔ rest = []) := by
  have stable : IsSegment "stable" := by decide
  have numeric : isNumeric number := isNumeric_iff.mpr ⟨filled, digits⟩
  constructor
  · have segment : IsSegment number := by
      have bare : IsSegment (number ++ "") := isSegment_append_of_digits filled digits nofun
      rwa [String.append_empty] at bare
    have pdf : IsSegment "pdf" := by decide
    have file : IsSegment (number ++ ".pdf") :=
      isSegment_append_of_digits filled digits (List.all_eq_true.mp (by decide))
    refine ⟨jstorId?_self (.number filled digits) (trimmed_of_isNumeric numeric), ?_, ?_⟩
    · rw [stableLink_number, jstorId?_sitePage (List.cons_ne_nil _ _) (by simp [stable, segment]),
        articleIn?_number numeric]
    · rw [fileLink_number, jstorId?_sitePage (List.cons_ne_nil _ _) (by simp [stable, pdf, file]),
        articleIn?_file numeric]
  · intro first rest plain
    have starts : startsLikeDoi ("10." ++ number) := by simp [startsLikeDoi]
    have own : jstorId? (objectName number (first :: rest)) =
        some (objectName number (first :: rest)) := by
      refine jstorId?_self (.doi ?_ ?_) (objectName_trimmed digits plain)
      · simp [toList_objectName]
      · simp [toList_objectName, Web.slashed]
    have linked : jstorId? (stableLink (objectName number (first :: rest))) =
        some (objectName number [first]) := by
      rw [stableLink_objectName, jstorId?_sitePage (List.cons_ne_nil _ _), articleIn?_name starts]
      · simp [objectName, String.append_assoc]
      · exact List.forall_mem_cons.mpr ⟨stable, List.forall_mem_cons.mpr
          ⟨isSegment_front digits, plain⟩⟩
    refine ⟨own, linked, ?_⟩
    rw [own, linked, Option.some.injEq]
    -- the link keeps the first part of the name only, so it agrees with the name if that is all
    refine ⟨eq_nil_of_objectName_eq, ?_⟩
    rintro rfl
    rfl

theorem short_name_links_agree :
    jstorId? (stableLink "0042") = some "0042" ∧ jstorId? (fileLink "0042") = some "0042" ∧
      (∀ s ∈ ["1-a_B"], IsSegment s) ∧
      jstorId? (stableLink (objectName "2307" ["1-a_B"])) =
        jstorId? (objectName "2307" ["1-a_B"]) := by
  have number : ∀ c ∈ "0042".toList, c.isDigit := List.all_eq_true.mp (by decide)
  have registrant : ∀ c ∈ "2307".toList, c.isDigit := List.all_eq_true.mp (by decide)
  have plain : ∀ s ∈ ["1-a_B"], IsSegment s := by decide
  obtain ⟨⟨-, stable, file⟩, -⟩ := article_links_agree (by decide) number
  have same := ((article_links_agree (by decide) registrant).2 "1-a_B" [] plain).2.2.mpr rfl
  exact ⟨stable, file, plain, same⟩

/-- A name with two segments behind its front is not the id that its link gives. -/
theorem long_name_cut :
    (∀ s ∈ ["a", "b"], IsSegment s) ∧
      jstorId? (objectName "2307" ["a", "b"]) = some "10.2307/a/b" ∧
      jstorId? (stableLink (objectName "2307" ["a", "b"])) = some "10.2307/a" ∧
      jstorId? (objectName "2307" ["a", "b"]) ≠
        jstorId? (stableLink (objectName "2307" ["a", "b"])) := by
  have whole : jstorId? (objectName "2307" ["a", "b"]) = some "10.2307/a/b" := by decide +kernel
  have cut : jstorId? (stableLink (objectName "2307" ["a", "b"])) = some "10.2307/a" := by
    decide +kernel
  refine ⟨by decide, whole, cut, ?_⟩
  rw [whole, cut]
  decide

end CourseLaunch.Content
