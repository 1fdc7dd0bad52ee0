import CourseLaunch.Proofs.Text.Trimming
import CourseLaunch.Proofs.Web.Form
import CourseLaunch.Web.Url.Reader
import Mathlib.Data.List.Basic
import Mathlib.Data.List.TakeWhile
/-!
# Links to pages are read

A link to a page is read as the parts of which it was made, whatever white space stands around it
and whatever its fragment is: a domain name, segments without escapes, and a query in characters that
need none.
-/

namespace CourseLaunch.Web

/-! ### Characters that are left alone -/

theorem percentEncode_of_plain {plain : Char → Bool} {cs : List Char}
    (clear : ∀ c ∈ cs, plain c) : percentEncode plain cs = cs := by
  rw [percentEncode, List.flatMap_congr fun c known => if_pos (clear c known),
    List.flatMap_singleton']

theorem formEncode_of_plain {s : String} (clear : ∀ c ∈ s.toList, plainInForm c) :
    formEncode s = s.toList := by
  have same : ∀ c ∈ s.toList, formChar c = [c] := fun c known => if_pos (clear c known)
  rw [formEncode, List.flatMap_congr same, List.flatMap_singleton']

/-- A character that is not stripped from a reference and does not start its fragment. -/
structure IsBare (c : Char) : Prop where
  blank : Text.isBlank c = false
  padding : isPadding c = false
  line : isLineSpace c = false
  hash : (c == '#') = false

theorem isBare_of_isPrintable {c : Char} (printable : isPrintable c) (filled : c ≠ ' ')
    (apart : c ≠ '#') : IsBare c := by
  have low : c.toNat < 128 := by
    simp only [isPrintable, Bool.and_eq_true, decide_eq_true_eq] at printable
    omega
  have known := ascii_forall (P := fun c => isPrintable c ∧ c ≠ ' ' ∧ c ≠ '#' →
    Text.isBlank c = false ∧ isPadding c = false ∧ isLineSpace c = false ∧ (c == '#') = false)
    (by decide +kernel) low ⟨printable, filled, apart⟩
  exact ⟨known.1, known.2.1, known.2.2.1, known.2.2.2⟩

theorem isBare_of_plainInSpecialQuery {c : Char} (plain : plainInSpecialQuery c) : IsBare c := by
  simp only [plainInSpecialQuery, plainInQuery, Bool.and_eq_true, Bool.not_eq_true',
    Bool.or_eq_false_iff, decide_eq_false_iff_not] at plain
  exact isBare_of_isPrintable plain.1.1 (by simp [plain]) (by simp [plain])

theorem isBare_of_plainInPath {c : Char} (plain : plainInPath c) : IsBare c := by
  simp only [plainInPath, plainInFragment, Bool.and_eq_true, Bool.not_eq_true',
    Bool.or_eq_false_iff, decide_eq_false_iff_not] at plain
  exact isBare_of_isPrintable plain.1.1 (by simp [plain]) (by simp [plain])

/-- A character that names are made of: no mark of a reference, an authority or a path. -/
structure IsNaming (c : Char) : Prop where
  path : plainInPath c
  slash : isSlash true c = false
  query : (c == '?') = false
  user : (c == '@') = false
  port : (c == ':') = false
  bracket : (c == '[') = false

theorem isNaming_of_plainInForm {c : Char} (plain : plainInForm c) : IsNaming c := by
  have known := ascii_forall (P := fun c => plainInForm c → plainInPath c ∧
    isSlash true c = false ∧ (c == '?') = false ∧ (c == '@') = false ∧ (c == ':') = false ∧
      (c == '[') = false) (by decide +kernel) (low_of_plainInForm plain) plain
  obtain ⟨path, slash, query, user, port, bracket⟩ := known
  exact ⟨path, slash, query, user, port, bracket⟩

theorem IsNaming.bare {c : Char} (h : IsNaming c) : IsBare c := isBare_of_plainInPath h.path

/-! ### References -/

/-- A part of a reference with its mark in front. -/
def marked (mark : Char) : Option (List Char) → List Char
  | none => []
  | some cs => mark :: cs

section Marks

variable {p : Char → Bool} {front left right : List Char}

/-- Whatever is stripped at both ends, a text in front of a fragment stays. -/
theorem strip_marked (stays : p '#' = false) (filled : front ≠ [])
    (clear : ∀ c ∈ front, p c = false) (fragment : Option (List Char))
    (blankLeft : ∀ c ∈ left, p c) (blankRight : ∀ c ∈ right, p c) :
    ∃ kept, Text.strip p (left ++ (front ++ marked '#' fragment) ++ right) =
      front ++ marked '#' kept := by
  rw [List.append_assoc, Text.strip_append_left blankLeft, List.append_assoc, Text.strip,
    Text.dropWhile_append_eq_self filled clear]
  cases fragment with
  | none =>
    refine ⟨none, ?_⟩
    have whole := (Text.Trimmed.of_clear clear).strip_eq
    rw [Text.strip, Text.dropWhile_eq_self (Text.Trimmed.of_clear clear).front] at whole
    rw [marked, List.nil_append, Text.dropTail_append blankRight, whole, List.append_nil]
  | some cs =>
    refine ⟨some (Text.dropTail p (cs ++ right)), ?_⟩
    rw [marked, List.cons_append, Text.dropTail_append_cons stays]
    rfl

theorem splitFirst_marked {mark : Char} (clear : ∀ c ∈ front, (c == mark) = false)
    (behind : Option (List Char)) :
    Text.splitFirst (· == mark) (front ++ marked mark behind) = (front, behind) := by
  cases behind with
  | some cs => exact Text.splitFirst_of clear (beq_self_eq_true mark) cs
  | none =>
    rw [marked, List.append_nil]
    induction front with
    | nil => rfl
    | cons c rest ih =>
      rw [List.forall_mem_cons] at clear
      simp [Text.splitFirst, clear.1, ih clear.2]

end Marks

theorem bare_marked {body : List Char} {query : Option (List Char)} (bare : ∀ c ∈ body, IsBare c)
    (clear : ∀ cs ∈ query, ∀ c ∈ cs, IsBare c) : ∀ c ∈ body ++ marked '?' query, IsBare c := by
  intro c known
  rcases List.mem_append.mp known with inside | behind
  · exact bare c inside
  · cases query with
    | none => exact absurd behind List.not_mem_nil
    | some cs =>
      rcases List.mem_cons.mp behind with rfl | inside
      · exact isBare_of_isPrintable (by decide) (by decide) (by decide)
      · exact clear cs rfl c inside

/-- A reference is cut at its marks. -/
theorem ofText_marked {body : List Char} {query : Option (List Char)} (filled : body ≠ [])
    (bare : ∀ c ∈ body, IsBare c ∧ (c == '?') = false) (clear : ∀ cs ∈ query, ∀ c ∈ cs, IsBare c)
    (fragment : Option (List Char)) :
    ∃ kept, Reference.ofText (body ++ marked '?' query ++ marked '#' fragment) =
      ⟨body, query, kept⟩ := by
  have plain := bare_marked (fun c known => (bare c known).1) clear
  have nothing : ∀ c ∈ ([] : List Char), isPadding c := nofun
  obtain ⟨kept, start⟩ := strip_marked (by decide) (List.append_ne_nil_of_left_ne_nil filled _)
    (fun c known => (plain c known).padding) fragment nothing nothing
  have lines : ∀ c ∈ body ++ marked '?' query, (!isLineSpace c) = true := by
    intro c known
    rw [(plain c known).line]
    rfl
  have text : (Text.strip isPadding (body ++ marked '?' query ++ marked '#' fragment)).filter
      (fun c => !isLineSpace c) =
        body ++ marked '?' query ++ marked '#' (kept.map fun cs => cs.filter (!isLineSpace ·)) := by
    rw [List.nil_append, List.append_nil] at start
    rw [start, List.filter_append, List.filter_eq_self.mpr lines]
    cases kept <;> rfl
  refine ⟨kept.map fun cs => cs.filter (!isLineSpace ·), ?_⟩
  rw [Text.strip, Text.dropTail] at text
  simp only [Reference.ofText, text, splitFirst_marked fun c known => (bare c known).2,
    splitFirst_marked fun c known => (plain c known).hash]

/-! ### Segments -/

/-- A segment that is written as it is and leads to no other folder. -/
structure IsSegment (s : String) : Prop where
  plain : ∀ c ∈ s.toList, plainInForm c
  named : ∀ c ∈ s.toList.head?, c ≠ '.'
  filled : s ≠ ""

instance (s : String) : Decidable (IsSegment s) :=
  decidable_of_iff (s.toList.all plainInForm ∧ s.toList.head? ≠ some '.' ∧ s ≠ "")
    ⟨fun h => ⟨List.all_eq_true.mp h.1, fun _ known same => h.2.1 (same ▸ known), h.2.2⟩,
      fun h => ⟨List.all_eq_true.mpr h.plain, fun known => h.named '.' known rfl, h.filled⟩⟩

theorem IsSegment.naming {s : String} (h : IsSegment s) : ∀ c ∈ s.toList, IsNaming c :=
  fun c known => isNaming_of_plainInForm (h.plain c known)

theorem IsSegment.not_slash {s : String} (h : IsSegment s) :
    ∀ c ∈ s.toList, isSlash true c = false := fun c known => (h.naming c known).slash

/-- A plain segment does not lead up or stay where it is. -/
theorem IsSegment.not_dots {s : String} (h : IsSegment s) :
    isDot s.toList = false ∧ isDoubleDot s.toList = false := by
  have named := h.named
  have plain := h.plain
  cases text : s.toList with
  | nil => exact absurd (String.toList_eq_nil_iff.mp text) h.filled
  | cons c rest =>
    rw [text] at named plain
    have other : c ≠ '.' := named c rfl
    have known := plain c List.mem_cons_self
    have low := low_of_plainInForm known
    -- dot segments start with a dot or a percent sign
    have starts : c.toLower ≠ '.' ∧ c.toLower ≠ '%' := by
      revert known other
      exact ascii_forall (P := fun c => c ≠ '.' → plainInForm c → c.toLower ≠ '.' ∧ c.toLower ≠ '%')
        (by decide +kernel) low
    simp [isDot, isDoubleDot, starts]

/-- Segments with their slashes. -/
def slashed (segments : List String) : List Char := segments.flatMap fun s => '/' :: s.toList

/-- A walk along plain segments takes them over as they are. -/
theorem walk_of {more : List String} (plain : ∀ s ∈ more, IsSegment s) (segments : List String) :
    walk segments (more.map String.toList) = segments ++ more := by
  induction more generalizing segments with
  | nil => simp [walk]
  | cons s rest ih =>
    rw [List.forall_mem_cons] at plain
    obtain ⟨dot, doubleDot⟩ := plain.1.not_dots
    have written : String.ofList (percentEncode plainInPath s.toList) = s := by
      rw [percentEncode_of_plain fun c known => (plain.1.naming c known).path, String.ofList_toList]
    cases rest with
    | nil => simp [walk, dot, doubleDot, written]
    | cons t rest =>
      have further := ih plain.2 (segments ++ [s])
      rw [List.map_cons, List.map_cons, walk]
      · simp only [dot, doubleDot, written, Bool.false_eq_true, if_false]
        rw [← List.map_cons, further, List.append_assoc]
        rfl
      · simp

theorem splitAll_slashed {s : String} {rest : List String} (plain : ∀ t ∈ s :: rest, IsSegment t) :
    Text.splitAll (isSlash true) (s.toList ++ slashed rest) = (s :: rest).map String.toList := by
  induction rest generalizing s with
  | nil =>
    rw [List.forall_mem_singleton] at plain
    rw [slashed, List.flatMap_nil, List.append_nil, Text.splitAll_of plain.not_slash]
    rfl
  | cons t rest ih =>
    rw [List.forall_mem_cons] at plain
    rw [slashed, List.flatMap_cons, List.cons_append, ← slashed, Text.splitAll_append rfl,
      Text.splitAll_of plain.1.not_slash, ih plain.2]
    rfl

/-- A path is read back from its plain segments. -/
theorem pathBehind_slashed {segments : List String} (filled : segments ≠ [])
    (plain : ∀ s ∈ segments, IsSegment s) :
    pathBehind true (slashed segments) = .rooted segments := by
  cases segments with
  | nil => exact absurd rfl filled
  | cons s rest =>
    rw [slashed, List.flatMap_cons, List.cons_append, ← slashed, pathBehind,
      if_pos (by rfl), pathFrom, splitAll_slashed plain, walk_of plain]
    rfl

/-! ### Hosts -/

/-- A domain name that is read as it is. -/
structure IsDomain (name : String) : Prop where
  plain : ∀ c ∈ name.toList, plainInForm c
  filled : name ≠ ""
  read : (Host.ofDomain name.toList).toOption = some (.named name)

instance (name : String) : Decidable (IsDomain name) :=
  decidable_of_iff (name.toList.all plainInForm ∧ name ≠ "" ∧
      (Host.ofDomain name.toList).toOption = some (.named name))
    ⟨fun h => ⟨List.all_eq_true.mp h.1, h.2.1, h.2.2⟩,
      fun h => ⟨List.all_eq_true.mpr h.plain, h.filled, h.read⟩⟩

theorem IsDomain.naming {name : String} (h : IsDomain name) : ∀ c ∈ name.toList, IsNaming c :=
  fun c known => isNaming_of_plainInForm (h.plain c known)

theorem splitHost_of {cs : List Char}
    (clear : ∀ c ∈ cs, (c == ':') = false ∧ (c == '[') = false) :
    splitHost false cs = (cs, []) := by
  induction cs with
  | nil => rfl
  | cons c rest ih =>
    rw [List.forall_mem_cons] at clear
    simp [splitHost, clear.1, ih clear.2]

theorem splitLast_of {p : Char → Bool} {cs : List Char} (clear : ∀ c ∈ cs, p c = false) :
    Text.splitLast p cs = (none, cs) := by
  have whole : cs.reverse.takeWhile (fun c => !p c) = cs.reverse :=
    List.takeWhile_eq_self_iff.mpr fun c known => by simp [clear c (List.mem_reverse.mp known)]
  rw [Text.splitLast, whole, List.reverse_reverse]
  simp

/-- A domain name is read as a host without a port. -/
theorem readHostAndPort_of {name : String} (domain : IsDomain name) {port : Nat} :
    readHostAndPort (.special port) name.toList = .ok (.named name, none, []) := by
  have host : Host.ofDomain name.toList = .ok (.named name) := by
    have read := domain.read
    cases known : Host.ofDomain name.toList with
    | ok host => simpa [known, Except.toOption] using read
    | error fault => simp [known, Except.toOption] at read
  have filled : name.toList.isEmpty = false := by simpa using domain.filled
  have clear : ∀ c ∈ name.toList, (c == ':') = false ∧ (c == '[') = false := fun c known =>
    ⟨(domain.naming c known).port, (domain.naming c known).bracket⟩
  rw [readHostAndPort, splitHost_of clear]
  simp only [readHost, Rules.isSpecial, if_true, filled, Bool.false_eq_true, if_false, host]
  rfl

/-- Behind the slashes stand the host and then the path. -/
theorem readAuthority_of {name : String} (domain : IsDomain name) {segments : List String}
    (filled : segments ≠ []) (plain : ∀ s ∈ segments, IsSegment s) (port : Nat) (goesOn : Bool) :
    readAuthority (.special port) goesOn (name.toList ++ slashed segments) =
      .ok (⟨"", "", .named name, none⟩, .rooted segments) := by
  have clear : ∀ c ∈ name.toList, (!isSlash true c) = true := fun c known => by
    rw [(domain.naming c known).slash]
    rfl
  have users : ∀ c ∈ name.toList, (c == '@') = false := fun c known => (domain.naming c known).user
  have ends : (slashed segments).takeWhile (fun c => !isSlash true c) = [] ∧
      (slashed segments).dropWhile (fun c => !isSlash true c) = slashed segments := by
    cases segments with
    | nil => exact absurd rfl filled
    | cons s rest => exact ⟨rfl, rfl⟩
  have special : Rules.isSpecial (.special port) = true := rfl
  have nobody : readUser ((none : Option (List Char)).getD []) = ("", "") := by decide
  simp only [readAuthority, special, List.takeWhile_append_of_pos clear,
    List.dropWhile_append_of_pos clear, ends.1, ends.2, List.append_nil, splitLast_of users,
    readHostAndPort_of domain]
  rw [if_neg (by simp), nobody]
  show (if Host.isEmpty (.named name) && !(true && true) then _ else _) = _
  rw [Bool.and_self, Bool.not_true, Bool.and_false, if_neg Bool.false_ne_true]
  simp only [List.nil_append, pathBehind_slashed filled plain]

/-! ### Links -/

/-- A link to a page, in the parts that are written one behind the other. -/
structure Link where
  scheme : String
  host : String
  segments : List String
  query : Option String
  fragment : Option String
deriving DecidableEq, Repr

namespace Link

def placeText (l : Link) : String := l.scheme ++ "://" ++ l.host ++ (Path.rooted l.segments).text

def text (l : Link) : String :=
  l.placeText ++ (l.query.elim "" ("?" ++ ·)) ++ (l.fragment.elim "" ("#" ++ ·))

/-- A link that needs no escapes in front of its fragment. -/
structure Plain (l : Link) : Prop where
  scheme : l.scheme = "http" ∨ l.scheme = "https"
  host : IsDomain l.host
  filled : l.segments ≠ []
  segments : ∀ s ∈ l.segments, IsSegment s
  query : ∀ q ∈ l.query, ∀ c ∈ q.toList, plainInSpecialQuery c

/-- The URL that a link is read as, with the given fragment. -/
def url (l : Link) (fragment : Option String) : Url :=
  ⟨l.scheme, some ⟨"", "", .named l.host, none⟩, .rooted l.segments, l.query, fragment⟩

variable {l : Link}

theorem Plain.host?_url (h : l.Plain) (fragment : Option String) :
    (l.url fragment).host? = some l.host := by
  have named : Host.isEmpty (.named l.host) = false := by simpa [Host.isEmpty] using h.host.filled
  show (if Host.isEmpty (.named l.host) then none else some l.host) = some l.host
  rw [named, if_neg Bool.false_ne_true]

/-- No segment of a link is empty. -/
theorem Plain.full_segments (h : l.Plain) (fragment : Option String) :
    ((l.url fragment).path.segments?.map fun segments => segments.filter fun s => !s.isEmpty) =
      some l.segments := by
  have kept : l.segments.filter (fun s => !s.isEmpty) = l.segments :=
    List.filter_eq_self.mpr fun s listed => by simpa using (h.segments s listed).filled
  have rooted : (l.url fragment).path.segments? = some l.segments := by
    have filled := h.filled
    show (Path.rooted l.segments).segments? = _
    cases known : l.segments with
    | nil => exact absurd known filled
    | cons s rest => rfl
  rw [rooted, Option.map_some, kept]

theorem toList_placeText (l : Link) :
    l.placeText.toList =
      l.scheme.toList ++ (':' :: '/' :: '/' :: (l.host.toList ++ slashed l.segments)) := by
  simp [placeText, Path.text, slashed, String.toList_join, List.flatMap_map]

theorem toList_text (l : Link) :
    l.text.toList = l.placeText.toList ++ marked '?' (l.query.map String.toList) ++
      marked '#' (l.fragment.map String.toList) := by
  rw [text, String.toList_append, String.toList_append]
  cases l.query <;> cases l.fragment <;> simp [marked]

theorem bare_slashed {segments : List String} (plain : ∀ s ∈ segments, IsSegment s) :
    ∀ c ∈ slashed segments, IsBare c ∧ (c == '?') = false := by
  intro c known
  simp only [slashed, List.mem_flatMap, List.mem_cons] at known
  obtain ⟨s, listed, rfl | inside⟩ := known
  · exact ⟨isBare_of_plainInPath (by decide), by decide⟩
  · have naming := (plain s listed).naming c inside
    exact ⟨naming.bare, naming.query⟩

/-- No character up to the query is dropped or starts the fragment. -/
theorem Plain.bare (h : l.Plain) : ∀ c ∈ l.placeText.toList, IsBare c ∧ (c == '?') = false := by
  have name : ∀ {c}, IsNaming c → IsBare c ∧ (c == '?') = false := fun naming =>
    ⟨naming.bare, naming.query⟩
  have sign : ∀ {c}, plainInPath c → (c == '?') = false → IsBare c ∧ (c == '?') = false :=
    fun plain apart => ⟨isBare_of_plainInPath plain, apart⟩
  intro c known
  rw [toList_placeText] at known
  simp only [List.mem_append, List.mem_cons] at known
  rcases known with scheme | rfl | rfl | rfl | host | path
  · have plain : l.scheme.toList.all plainInForm := by
      rcases h.scheme with same | same <;> rw [same] <;> decide
    exact name (isNaming_of_plainInForm (List.all_eq_true.mp plain c scheme))
  · exact sign (by decide) (by decide)
  · exact sign (by decide) (by decide)
  · exact sign (by decide) (by decide)
  · exact name (h.host.naming c host)
  · exact bare_slashed h.segments c path

theorem splitScheme?_web (web : l.scheme = "http" ∨ l.scheme = "https") (behind : List Char) :
    splitScheme? (l.scheme.toList ++ ':' :: behind) = some (l.scheme, behind) := by
  rcases web with same | same <;>
  · rw [same]
    rfl

theorem rulesOf_web (web : l.scheme = "http" ∨ l.scheme = "https") :
    ∃ port, rulesOf l.scheme = .special port := by
  rcases web with same | same
  · exact ⟨80, same ▸ rfl⟩
  · exact ⟨443, same ▸ rfl⟩

/-- A link is resolved to the URL that it was made of. -/
theorem Plain.resolve (h : l.Plain) {r : Reference} (body : r.body = l.placeText.toList) :
    r.resolve none =
      .ok (r.finish l.scheme (some ⟨"", "", .named l.host, none⟩) (.rooted l.segments)) := by
  obtain ⟨port, rules⟩ := rulesOf_web h.scheme
  have filled : l.host.toList ≠ [] := by simpa using h.host.filled
  have starts : ∀ c ∈ l.host.toList, isAnySlash c = false := by
    intro c known
    have slash := (h.host.naming c known).slash
    simpa [isSlash, isAnySlash] using slash
  have slashes : ('/' :: '/' :: (l.host.toList ++ slashed l.segments)).dropWhile isAnySlash =
      l.host.toList ++ slashed l.segments := by
    rw [List.dropWhile_cons_of_pos (by decide), List.dropWhile_cons_of_pos (by decide),
      Text.dropWhile_append_eq_self filled starts]
  have cut : splitScheme? r.body =
      some (l.scheme, '/' :: '/' :: (l.host.toList ++ slashed l.segments)) := by
    rw [body, toList_placeText, splitScheme?_web h.scheme]
  simp only [Reference.resolve, cut, Reference.behindScheme, rules, Option.filter_none, slashes,
    Reference.atAuthority, readAuthority_of h.host h.filled h.segments]
  rfl

/-- A link is read as the URL with its parts, whatever white space stands around it. Only its
fragment may be written in another way. -/
theorem Plain.parse (h : l.Plain) (left right : String)
    (blankLeft : ∀ c ∈ left.toList, Text.isBlank c)
    (blankRight : ∀ c ∈ right.toList, Text.isBlank c) :
    ∃ fragment, Url.parse (Text.trim (left ++ l.text ++ right)) = .ok (l.url fragment) := by
  have filled : l.placeText.toList ≠ [] := by simp [toList_placeText]
  have query : ∀ cs ∈ l.query.map String.toList, ∀ c ∈ cs, IsBare c := by
    intro cs known c inside
    obtain ⟨q, asked, rfl⟩ := Option.map_eq_some_iff.mp known
    exact isBare_of_plainInSpecialQuery (h.query q asked c inside)
  have bare : ∀ c ∈ l.placeText.toList ++ marked '?' (l.query.map String.toList), IsBare c :=
    fun c known => bare_marked (fun d inside => (h.bare d inside).1) query c known
  obtain ⟨kept, trimmed⟩ := strip_marked (by decide) (List.append_ne_nil_of_left_ne_nil filled _)
    (fun c known => (bare c known).blank) (l.fragment.map String.toList) blankLeft blankRight
  have text : (Text.trim (left ++ l.text ++ right)).toList =
      l.placeText.toList ++ marked '?' (l.query.map String.toList) ++ marked '#' kept := by
    rw [Text.trim, String.toList_ofList, String.toList_append, String.toList_append, toList_text,
      trimmed]
  obtain ⟨shown, read⟩ := ofText_marked filled h.bare query kept
  refine ⟨encodedFragment shown, ?_⟩
  rw [Url.parse, text, read, h.resolve rfl, Reference.finish, Link.url]
  -- the query needs no escapes
  have asked : encodedQuery (rulesOf l.scheme) (l.query.map String.toList) = l.query := by
    obtain ⟨port, rules⟩ := rulesOf_web h.scheme
    cases known : l.query with
    | none => rfl
    | some q =>
      rw [encodedQuery, rules, Option.map_some, Option.map_some]
      simp only [Rules.isSpecial, if_true]
      rw [percentEncode_of_plain (h.query q known), String.ofList_toList]
  simp only [asked]

end Link

end CourseLaunch.Web
