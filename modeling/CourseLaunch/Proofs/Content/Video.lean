import CourseLaunch.Proofs.Content.Selection
import CourseLaunch.Proofs.Web.Link
/-!
# All links to a video agree

A video is shown on its own page, in a player, as a short, live, and behind a shorter host. Its id
is read from each of these links, whatever other parameters the link has, wherever they stand, and
whatever its fragment is.
-/

namespace CourseLaunch.Web

/-! ### Queries -/

/-- The parameters of a query with separators between them, if there are any. -/
def queryOf (parameters : List String) : Option String :=
  if parameters = [] then none else some ("&".intercalate parameters)

/-- The pairs of a query are those of its parameters, one by one. -/
theorem readPairs_intercalate {parts : List (List Char)}
    (clear : ∀ part ∈ parts, ∀ c ∈ part, (c == '&') = false) :
    readPairs (['&'].intercalate parts) =
      (parts.filter fun part => !part.isEmpty).map readPair := by
  induction parts with
  | nil => rfl
  | cons part rest ih =>
    rw [List.forall_mem_cons] at clear
    have alone : readPairs part = ([part].filter fun part => !part.isEmpty).map readPair := by
      rw [readPairs, Text.splitAll_of clear.1]
    cases rest with
    | nil => rw [List.intercalate_singleton, alone]
    | cons next rest =>
      rw [List.intercalate_cons_cons, List.append_assoc, List.singleton_append, readPairs_append,
        alone, ih clear.2, ← List.map_append, ← List.filter_append, List.singleton_append]

theorem forall_mem_intercalate {P : Char → Prop} {mark : Char} (atMark : P mark)
    {parts : List (List Char)} (every : ∀ part ∈ parts, ∀ c ∈ part, P c) :
    ∀ c ∈ [mark].intercalate parts, P c := by
  induction parts with
  | nil => nofun
  | cons part rest ih =>
    rw [List.forall_mem_cons] at every
    cases rest with
    | nil =>
      rw [List.intercalate_singleton]
      exact every.1
    | cons next rest =>
      intro c known
      rw [List.intercalate_cons_cons, List.mem_append, List.mem_append, List.mem_singleton] at known
      rcases known with (inside | rfl) | behind
      · exact every.1 c inside
      · exact atMark
      · exact ih every.2 c behind

theorem mem_queryOf {parameters : List String} {q : String} (asked : q ∈ queryOf parameters) :
    q.toList = ['&'].intercalate (parameters.map String.toList) := by
  rw [queryOf, Option.mem_def] at asked
  split at asked
  · cases asked
  · rw [← Option.some.inj asked, String.toList_intercalate]
    rfl

/-- The pairs of a URL are those of the parameters that it was made of. -/
theorem Url.pairs_of_query {u : Url} {parameters : List String}
    (asked : u.query = queryOf parameters)
    (clear : ∀ part ∈ parameters, ∀ c ∈ part.toList, (c == '&') = false) :
    u.pairs =
      ((parameters.map String.toList).filter fun part => !part.isEmpty).map readPair := by
  have every : ∀ part ∈ parameters.map String.toList, ∀ c ∈ part, (c == '&') = false := by
    intro part known
    obtain ⟨s, listed, rfl⟩ := List.mem_map.mp known
    exact clear s listed
  rw [← readPairs_intercalate every, pairs]
  cases known : u.query with
  | some q => simp only [mem_queryOf (asked.symm.trans known)]
  | none =>
    have none : parameters = [] := by
      by_contra filled
      rw [asked, queryOf, if_neg filled] at known
      cases known
    rw [none]
    rfl

end CourseLaunch.Web

namespace CourseLaunch.Content
open Web (Link IsDomain IsSegment readPair)

/-! ### Parameters -/

/-- A parameter of a query, in characters that may stand there, with whatever escapes. -/
structure IsParameter (part : String) : Prop where
  plain : ∀ c ∈ part.toList, Web.plainInSpecialQuery c
  single : ∀ c ∈ part.toList, (c == '&') = false

/-- A parameter with another key than that of a video. -/
structure IsOther (part : String) : Prop extends IsParameter part where
  key : (readPair part.toList).1 ≠ "v"

/-- The text of a pair can be a parameter. -/
theorem isParameter_formPair (pair : String × String) :
    IsParameter (String.ofList (Web.formPair pair)) := by
  have form : ∀ {c}, Web.plainInForm c → Web.plainInSpecialQuery c ∧ (c == '&') = false :=
    fun plain => Web.ascii_forall (P := fun c => Web.plainInForm c →
      Web.plainInSpecialQuery c ∧ (c == '&') = false) (by decide +kernel)
      (Web.low_of_plainInForm plain) plain
  have encoded : ∀ {s c}, c ∈ Web.formEncode s →
      Web.plainInSpecialQuery c ∧ (c == '&') = false := by
    intro s c known
    rcases Web.mem_formEncode known with plain | rfl | rfl
    · exact form plain
    · decide
    · decide
  have written : ∀ c ∈ Web.formPair pair,
      Web.plainInSpecialQuery c ∧ (c == '&') = false := by
    intro c known
    rw [Web.formPair, List.mem_append, List.mem_cons] at known
    rcases known with known | rfl | known
    · exact encoded known
    · decide
    · exact encoded known
  constructor <;> rw [String.toList_ofList]
  · exact fun c known => (written c known).1
  · exact fun c known => (written c known).2

/-- Every pair with another key, written as a form. -/
theorem isOther_formPair {key value : String} (other : key ≠ "v") :
    IsOther (String.ofList (Web.formPair (key, value))) where
  toIsParameter := isParameter_formPair (key, value)
  key := by rwa [String.toList_ofList, Web.readPair_formPair]

/-! ### Ids -/

theorem IsVideo.plain_form {id : String} (h : IsVideo id) : ∀ c ∈ id.toList, Web.plainInForm c := by
  intro c known
  rcases h.plain c known with letter | rfl | rfl
  · simp [Web.plainInForm, letter]
  · decide
  · decide

theorem IsVideo.isSegment {id : String} (h : IsVideo id) : IsSegment id where
  plain := h.plain_form
  filled := h.filled
  named c known := by
    rintro rfl
    rcases h.plain '.' (List.mem_of_mem_head? known) with letter | dash | low
    · exact absurd letter (by decide)
    · exact absurd dash (by decide)
    · exact absurd low (by decide)

theorem IsVideo.isVideoId {id : String} (h : IsVideo id) : isVideoId id := by
  have plain : ∀ c ∈ id.toList, isVideoChar c := fun c known => by
    simpa [isVideoChar, or_assoc] using h.plain c known
  simpa [Content.isVideoId, h.filled] using plain

/-- The parameter of the page of a video. -/
theorem IsVideo.parameter {id : String} (h : IsVideo id) :
    "v=" ++ id = String.ofList (Web.formPair ("v", id)) := by
  rw [Web.formPair, Web.formEncode_of_plain h.plain_form, ← String.toList_inj, String.toList_ofList]
  simp [Web.formEncode, Web.formChar, Web.plainInForm]

/-! ### Links -/

/-- The hosts that show videos, with what may stand in front of them. -/
def videoHosts : List String :=
  ["youtube.com", "www.youtube.com", "m.youtube.com",
    "youtube-nocookie.com", "www.youtube-nocookie.com", "m.youtube-nocookie.com"]

/-- The links to a video: their host, their segments and their parameters. -/
inductive ShowsVideo (id : String) : String → List String → List String → Prop where
  | player (host kind : String) (parameters : List String) (site : host ∈ videoHosts)
      (known : kind ∈ ["embed", "shorts", "live", "v"])
      (others : ∀ part ∈ parameters, IsOther part) :
      ShowsVideo id host [kind, id] parameters
  | page (host : String) (before behind : List String) (site : host ∈ videoHosts)
      (others : ∀ part ∈ before ++ behind, IsOther part) :
      ShowsVideo id host ["watch"] (before ++ ("v=" ++ id) :: behind)
  | short (parameters : List String) (others : ∀ part ∈ parameters, IsOther part) :
      ShowsVideo id "youtu.be" [id] parameters

variable {id host : String} {segments parameters : List String}

theorem isDomain_of_mem_videoHosts (site : host ∈ videoHosts) : IsDomain host := by
  have all : ∀ host ∈ videoHosts, IsDomain host := by decide +kernel
  exact all host site

/-- Without what stands in front, every host is one of the two sites. -/
theorem hostWithout_of_mem_videoHosts (site : host ∈ videoHosts) :
    hostWithout "m." (hostWithout "www." host) = "youtube.com" ∨
      hostWithout "m." (hostWithout "www." host) = "youtube-nocookie.com" := by
  have all : ∀ host ∈ videoHosts, hostWithout "m." (hostWithout "www." host) = "youtube.com" ∨
      hostWithout "m." (hostWithout "www." host) = "youtube-nocookie.com" := by decide +kernel
  exact all host site

namespace ShowsVideo

/-- All parameters of a link to a video can stand in a query. -/
theorem isParameter (h : ShowsVideo id host segments parameters) (isVideo : IsVideo id) :
    ∀ part ∈ parameters, IsParameter part := by
  cases h with
  | player host kind parameters site known others =>
    exact fun part listed => (others part listed).toIsParameter
  | page host before behind site others =>
    intro part listed
    rw [List.mem_append, List.mem_cons] at listed
    rcases listed with listed | rfl | listed
    · exact (others part (List.mem_append_left _ listed)).toIsParameter
    · rw [isVideo.parameter]
      exact isParameter_formPair ("v", id)
    · exact (others part (List.mem_append_right _ listed)).toIsParameter
  | short parameters others => exact fun part listed => (others part listed).toIsParameter

/-- All segments of a link to a video can stand in a path. -/
theorem isSegment (h : ShowsVideo id host segments parameters) (isVideo : IsVideo id) :
    ∀ s ∈ segments, IsSegment s := by
  have kinds : ∀ kind ∈ ["embed", "shorts", "live", "v", "watch"], IsSegment kind := by
    decide
  cases h with
  | player host kind parameters site known others =>
    have listed : kind ∈ ["embed", "shorts", "live", "v", "watch"] :=
      List.mem_append_left ["watch"] known
    simpa using ⟨kinds kind listed, isVideo.isSegment⟩
  | page host before behind site others => simpa using kinds "watch" (by decide)
  | short parameters others => simpa using isVideo.isSegment

/-- A link to a video needs no escapes in front of its fragment. -/
theorem plain (h : ShowsVideo id host segments parameters) (isVideo : IsVideo id) {scheme : String}
    (web : scheme = "http" ∨ scheme = "https") (fragment : Option String) :
    (Link.mk scheme host segments (Web.queryOf parameters) fragment).Plain where
  scheme := web
  host := by
    cases h with
    | player host kind parameters site known others => exact isDomain_of_mem_videoHosts site
    | page host before behind site others => exact isDomain_of_mem_videoHosts site
    | short parameters others =>
      show IsDomain "youtu.be"
      decide +kernel
  filled := by cases h <;> exact List.cons_ne_nil _ _
  segments := h.isSegment isVideo
  query q asked := by
    rw [Web.mem_queryOf asked]
    refine Web.forall_mem_intercalate (by decide) fun part known => ?_
    obtain ⟨s, listed, rfl⟩ := List.mem_map.mp known
    exact (h.isParameter isVideo s listed).plain

/-- The parameter of a page is found, whatever stands in front of it or behind it. -/
theorem lookup_page {before behind : List String} (isVideo : IsVideo id)
    (others : ∀ part ∈ before ++ behind, IsOther part) :
    ((((before ++ ("v=" ++ id) :: behind).map String.toList).filter fun part =>
      !part.isEmpty).map readPair).lookup "v" = some id := by
  have passed : (((before.map String.toList).filter fun part => !part.isEmpty).map
      readPair).lookup "v" = none := by
    rw [List.lookup_eq_none_iff]
    intro pair known
    obtain ⟨part, kept, rfl⟩ := List.mem_map.mp known
    obtain ⟨s, listed, rfl⟩ := List.mem_map.mp (List.mem_filter.mp kept).1
    rw [bne_iff_ne]
    exact (others s (List.mem_append_left _ listed)).key.symm
  have own : readPair ("v=" ++ id).toList = ("v", id) := by
    rw [isVideo.parameter, String.toList_ofList, Web.readPair_formPair]
  have filled : ("v=" ++ id).toList.isEmpty = false := by simp
  rw [List.map_append, List.filter_append, List.map_append, List.lookup_append, passed,
    Option.none_or, List.map_cons, List.filter_cons_of_pos (by rw [filled]; rfl), List.map_cons,
    own, List.lookup_cons_self]

/-- A link that shows a video is read as its id, whichever form it has. -/
theorem videoIn?_eq (h : ShowsVideo id host segments parameters) (isVideo : IsVideo id)
    {url : Web.Url} (asked : url.query = Web.queryOf parameters) :
    videoIn? url (hostWithout "m." (hostWithout "www." host)) segments = some id := by
  -- without the parts in front all hosts of the site are one
  have site : ∀ {host : String}, host ∈ videoHosts → ∀ segments,
      videoIn? url (hostWithout "m." (hostWithout "www." host)) segments =
        videoIn? url "youtube.com" segments := by
    intro host site segments
    rcases hostWithout_of_mem_videoHosts site with same | same <;> rw [same]
    simp [videoIn?]
  have pairs := Web.Url.pairs_of_query asked fun part listed =>
    (h.isParameter isVideo part listed).single
  cases h with
  | player host kind parameters known listed others =>
    rw [site known]
    have kinds : kind ≠ "watch" ∧
        (kind = "embed" ∨ kind = "shorts" ∨ kind = "live" ∨ kind = "v") := by
      revert kind
      decide
    simp [videoIn?, kinds]
  | page host before behind known others =>
    have found : url.pairs.lookup "v" = some id := by
      rw [pairs]
      exact lookup_page isVideo others
    rw [site known]
    simpa [videoIn?] using found
  | short parameters others =>
    have host : hostWithout "m." (hostWithout "www." "youtu.be") = "youtu.be" := by decide +kernel
    rw [host]
    simp [videoIn?]

end ShowsVideo

/-- The id of a video is read from every link to it, whatever white space stands around the link,
whatever its fragment is and whatever other parameters it has. These can be any pairs with another
key, written as a form. -/
theorem video_links_agree :
    (∀ key value, key ≠ "v" → IsOther (String.ofList (Web.formPair (key, value)))) ∧
      ∀ (id scheme host left right : String) (segments parameters : List String)
        (fragment : Option String), IsVideo id → (scheme = "http" ∨ scheme = "https") →
        ShowsVideo id host segments parameters → (∀ c ∈ (left ++ right).toList, Text.isBlank c) →
        youtubeId? (left ++ (Link.mk scheme host segments (Web.queryOf parameters) fragment).text ++
          right) = some id := by
  refine ⟨fun key value => isOther_formPair, ?_⟩
  intro id scheme host left right segments parameters fragment isVideo web shows blank
  rw [String.toList_append, List.forall_mem_append] at blank
  have plain := shows.plain isVideo web fragment
  obtain ⟨shown, read⟩ := plain.parse left right blank.1 blank.2
  have asked : ((Link.mk scheme host segments (Web.queryOf parameters) fragment).url shown).query =
      Web.queryOf parameters := rfl
  have found := shows.videoIn?_eq isVideo asked
  have segments := plain.full_segments shown
  simp only [youtubeId?, fullSegments?, read, Except.toOption, Option.bind_eq_bind,
    Option.bind_some, plain.host?_url, segments, found]
  rw [Option.filter_some, if_pos isVideo.isVideoId]

/-- A link with parameters on both sides of the video, an empty one among them, and a fragment that
looks like another video. -/
theorem crowded_link_read :
    IsVideo "a-_9Z" ∧
      youtubeId? "\u00a0http://m.youtube-nocookie.com/watch?list=PL%2F1&v=a-_9Z&&t=1+s#?v=b \u3000" =
        some "a-_9Z" := by
  have isVideo : IsVideo "a-_9Z" := isVideo_of_isVideoId (by decide)
  have others : ∀ part ∈ ["list=PL%2F1"] ++ ["", "t=1+s"], IsOther part := by
    have each : ∀ part ∈ ["list=PL%2F1"] ++ ["", "t=1+s"],
        part.toList.all Web.plainInSpecialQuery ∧ part.toList.all (· != '&') ∧
          (readPair part.toList).1 ≠ "v" := by decide +kernel
    intro part listed
    obtain ⟨plain, single, key⟩ := each part listed
    have apart : ∀ c ∈ part.toList, (c == '&') = false := fun c known => by
      simpa using List.all_eq_true.mp single c known
    exact ⟨⟨List.all_eq_true.mp plain, apart⟩, key⟩
  refine ⟨isVideo, ?_⟩
  exact video_links_agree.2 "a-_9Z" "http" "m.youtube-nocookie.com" "\u00a0" "\u3000" ["watch"]
    (["list=PL%2F1"] ++ ("v=" ++ "a-_9Z") :: ["", "t=1+s"]) (some "?v=b ") isVideo (.inl rfl)
    (.page _ _ _ (by decide) others) (List.all_eq_true.mp (by decide))

end CourseLaunch.Content
