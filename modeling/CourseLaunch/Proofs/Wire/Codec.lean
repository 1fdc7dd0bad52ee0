import CourseLaunch.Proofs.Json.Reading
import CourseLaunch.Wire.Codec
/-!
# Values that come back from the wire

A value comes back when it is read from the text that is written for it, and made from the JSON
value that is written for it. A codec is lawful when everything it reads or makes comes back, as far
as its numbers are whole, and when only `null` is written as `null`.
-/

namespace CourseLaunch.Wire.Codec
open Json

variable {α β : Type}

theorem map_eq_ok_iff {ε : Type} {e : Except ε α} {f : α → β} {y : β} :
    e.map f = .ok y ↔ ∃ x, e = .ok x ∧ f x = y := by
  rcases e with fault | x <;> simp [Except.map]

theorem bind_eq_ok_iff {ε : Type} {e : Except ε α} {next : α → Except ε β} {y : β} :
    e >>= next = .ok y ↔ ∃ x, e = .ok x ∧ next x = .ok y := by
  rcases e with f | x <;> simp [bind, Except.bind]

/-- What keeps a property at every step keeps it to the end. -/
theorem foldlM_keeps {σ ε : Type} {P : σ → Prop} {step : σ → α → Except ε σ} {l : List α}
    (keeps : ∀ acc a acc', a ∈ l → P acc → step acc a = .ok acc' → P acc') {acc last : σ}
    (start : P acc) (made : l.foldlM step acc = .ok last) : P last := by
  induction l generalizing acc with
  | nil =>
    cases made
    exact start
  | cons a l ih =>
    rw [List.foldlM_cons] at made
    rcases one : step acc a with f | acc'
    · rw [one] at made
      cases made
    · rw [one] at made
      exact ih (fun acc a acc' known => keeps acc a acc' (.tail _ known))
        (keeps acc a acc' (.head _) start one) made

/-- Whether a value comes back from its own text and from its own JSON value. -/
structure Returns (c : Codec α) (depth : Nat) (x : α) : Prop where
  nested : (c.write x).Nested depth
  reads : Reads (c.read depth) (chars (c.write x)) x
  fits : ∀ origin, c.fit origin (c.write x) = .ok x

/-- Whether all that a codec gives comes back, and is written as `null` only when it was `null`. -/
structure Lawful (c : Codec α) : Prop where
  of_read : ∀ {depth s x rest}, Outcome.Gives (c.read depth s) x rest → (c.write x).isWhole →
    c.Returns depth x
  of_fit : ∀ {depth origin j x}, c.fit origin j = .ok x → j.Nested depth → (c.write x).isWhole →
    c.Returns depth x
  null_read : ∀ {depth s x rest}, Outcome.Gives (c.read depth s) x rest → c.write x = .null →
    (skipBlank s).head? = some (.char 'n')
  null_fit : ∀ {origin j x}, c.fit origin j = .ok x → c.write x = .null → j = .null

/-- A codec is lawful when all values come back and none is written as `null`. -/
theorem lawful_of_returns {c : Codec α} (returns : ∀ depth x, c.Returns depth x)
    (full : ∀ x, c.write x ≠ .null) : c.Lawful where
  of_read _ _ := returns _ _
  of_fit _ _ _ := returns _ _
  null_read _ null := absurd null (full _)
  null_fit _ null := absurd null (full _)

/-! ### Readers behind blanks and brackets -/

variable {s rest : Source} {x : α}

@[simp]
theorem gives_blankThen_iff {r : Reader α} :
    Outcome.Gives (blankThen r s) x rest ↔ Outcome.Gives (r (skipBlank s)) x rest :=
  Outcome.gives_outcome

/-- Blanks in front of a value do not matter, so the value may start right away. -/
theorem reads_blankThen {r : Reader α} {c : Char} {cs more : List Char} (start : cs = c :: more)
    (full : isSpace (.char c) = false) (reads : Reads r cs x) : Reads (blankThen r) cs x := by
  intro rest stops
  have front : skipBlank (Source.of cs ++ rest) = Source.of cs ++ rest := by
    rw [start, Source.of_cons, List.cons_append, skipBlank_cons full]
  rw [gives_blankThen_iff, front]
  exact reads rest stops

/-- A value of another type gives nothing. -/
@[simp]
theorem not_gives_refuseType {expected : String} {t : Source} :
    ¬ Outcome.Gives (refuseType expected t : Outcome α s) x rest := by
  unfold refuseType
  split
  · exact Outcome.not_gives_stop
  · exact Outcome.not_gives_stop
  · split
    · exact Outcome.not_gives_error
    · exact Outcome.not_gives_stop

theorem gives_readBracket_iff {opening : Char} {expected : String} {depth : Nat}
    {inner : Nat → Reader α} :
    Outcome.Gives (readBracket opening expected depth inner s) x rest ↔
      ∃ behind outer, skipBlank s = .char opening :: behind ∧ depth = outer + 1 ∧
        Outcome.Gives (inner outer behind) x rest := by
  rw [readBracket, gives_blankThen_iff]
  rcases skipBlank s with _ | ⟨u, behind⟩
  · simp
  · by_cases opened : u = .char opening
    · subst opened
      rcases depth with _ | outer
      · simp
      · simp
    · simp [opened]

/-! ### Texts, truth values and variants -/

theorem reads_readText (expected text : String) :
    Reads (readText expected) (chars (.string text)) text := by
  refine reads_blankThen (c := '"') rfl rfl fun rest _ => ?_
  have written : Source.of (chars (.string text)) ++ rest =
      .char '"' :: (Source.of (text.toList.flatMap escape) ++ .char '"' :: rest) := by
    simp [chars, quote]
  rw [written]
  exact Outcome.gives_behind.mpr (readQuote_of text rest)

theorem returns_text (depth : Nat) (x : String) : text.Returns depth x :=
  ⟨nested_string depth x, reads_readText _ x, fun _ => rfl⟩

theorem lawful_text : text.Lawful := lawful_of_returns returns_text fun _ => nofun

theorem reads_readFlag (b : Bool) : Reads readFlag (chars (.bool b)) b := by
  cases b with
  | true =>
    refine reads_blankThen (c := 't') rfl rfl fun rest _ => ?_
    exact gives_word_iff.mpr ⟨rfl, skipWord_of ['r', 'u', 'e'] rest⟩
  | false =>
    refine reads_blankThen (c := 'f') rfl rfl fun rest _ => ?_
    exact gives_word_iff.mpr ⟨rfl, skipWord_of ['a', 'l', 's', 'e'] rest⟩

theorem returns_flag (depth : Nat) (b : Bool) : flag.Returns depth b :=
  ⟨nested_bool depth b, reads_readFlag b, fun _ => rfl⟩

theorem lawful_flag : flag.Lawful := lawful_of_returns returns_flag fun _ => nofun

namespace Choice

/-- Whether every variant is known by its name. -/
def Named (c : Choice α) : Prop := ∀ x, c.variants.lookup (c.name x) = some x

variable {c : Choice α}

theorem find_eq_ok_iff {name : String} :
    c.find name = .ok x ↔ c.variants.lookup name = some x := by
  rw [find]
  rcases c.variants.lookup name with _ | y <;> simp

theorem reads_readName {name : String} (known : c.variants.lookup name = some x) :
    Reads c.readName (chars (.string name)) x := by
  intro rest stops
  obtain ⟨shorter, read⟩ := reads_readText "variant identifier" name rest stops
  rw [readName, read]
  simp only [findAt, find_eq_ok_iff.mpr known, Except.mapError, Except.map]
  exact ⟨shorter, rfl⟩

/-- The variant that was read has a name. -/
theorem lookup_of_readName (given : Outcome.Gives (c.readName s) x rest) :
    ∃ name, c.variants.lookup name = some x := by
  rw [readName] at given
  split at given
  · exact absurd given Outcome.not_gives_error
  · rename_i name r _
    rcases found : c.find name with cause | y
    · rw [findAt, found] at given
      exact absurd given Outcome.not_gives_error
    · rw [findAt, found] at given
      obtain ⟨rfl, _⟩ := Outcome.gives_ok.mp given
      exact ⟨name, find_eq_ok_iff.mp found⟩

end Choice

/-- A variant is written as its name and read back from it. -/
theorem lawful_choice {c : Choice α} (named : c.Named) : (choice c).Lawful := by
  refine lawful_of_returns (fun depth x => ?_) (fun x => nofun)
  refine ⟨nested_string depth _, ?_, fun _ => Choice.find_eq_ok_iff.mpr (named x)⟩
  exact reads_blankThen (c := '"') rfl rfl (Choice.reads_readName (named x))

/-! ### Values of any kind -/

theorem returns_any {depth : Nat} {j : Json} (nested : j.Nested depth) (whole : j.isWhole)
    (canonical : j.canonical = j) : any.Returns depth j := by
  refine ⟨nested, fun rest stops => ?_, fun _ => congrArg _ canonical⟩
  exact Outcome.gives_mapValue.mpr ⟨j, reads_readRaw nested whole rest stops, canonical⟩

/-- Any value is written as it is and read back sorted. -/
theorem lawful_any : any.Lawful where
  of_read given whole := by
    obtain ⟨j, read, rfl⟩ := Outcome.gives_mapValue.mp given
    exact returns_any (nested_of_readRaw read).canonical whole (canonical_canonical j)
  of_fit made nested whole := by
    cases made
    exact returns_any nested.canonical whole (canonical_canonical _)
  null_read given null := by
    obtain ⟨j, read, rfl⟩ := Outcome.gives_mapValue.mp given
    obtain rfl : j = .null := canonical_eq_null_iff.mp null
    exact null_of_readRaw read
  null_fit made null := by
    cases made
    exact canonical_eq_null_iff.mp null

/-! ### Types that stand for others -/

section Through

variable {c : Codec α} {into : α → β} {back : β → α}

theorem write_through (y : β) : (c.through into back).write y = c.write (back y) := rfl

theorem fit_through (origin : Origin) (j : Json) :
    (c.through into back).fit origin j = (c.fit origin j).map into := rfl

theorem reads_through {depth : Nat} {cs : List Char} (reads : Reads (c.read depth) cs x) :
    Reads ((c.through into back).read depth) cs (into x) :=
  fun rest stops => Outcome.gives_mapValue.mpr ⟨x, reads rest stops, rfl⟩

/-- A value that is changed on the way returns if the change can be undone. -/
theorem returns_through {depth : Nat} (inverse : back (into x) = x)
    (returns : c.Returns depth x) : (c.through into back).Returns depth (into x) := by
  have written : (c.through into back).write (into x) = c.write x := congrArg c.write inverse
  refine ⟨written ▸ returns.nested, ?_, fun origin => ?_⟩
  · rw [written]
    exact reads_through returns.reads
  · rw [written, fit_through, returns.fits origin]
    rfl

/-- Codecs stay lawful when values are changed on the way and back. -/
theorem lawful_through (inverse : ∀ x, back (into x) = x) (lawful : c.Lawful) :
    (c.through into back).Lawful where
  of_read given whole := by
    obtain ⟨x, read, rfl⟩ := Outcome.gives_mapValue.mp given
    rw [write_through, inverse] at whole
    exact returns_through (inverse x) (lawful.of_read read whole)
  of_fit made nested whole := by
    obtain ⟨x, found, rfl⟩ := map_eq_ok_iff.mp made
    rw [write_through, inverse] at whole
    exact returns_through (inverse x) (lawful.of_fit found nested whole)
  null_read given null := by
    obtain ⟨x, read, rfl⟩ := Outcome.gives_mapValue.mp given
    rw [write_through, inverse] at null
    exact lawful.null_read read null
  null_fit made null := by
    obtain ⟨x, found, rfl⟩ := map_eq_ok_iff.mp made
    rw [write_through, inverse] at null
    exact lawful.null_fit found null

end Through

/-! ### Values that may be `null` -/

section Optional

variable {c : Codec α} {r : Reader α} {depth : Nat} {y : Option α}

/-- Reads `null`, or a value that does not start like it. -/
def nullOr (r : Reader α) : Reader (Option α) := fun s =>
  match s with
  | .char 'n' :: rest => (skipWord ['u', 'l', 'l'] rest).map fun r => (none, r.behind _)
  | s => (r s).mapValue some

theorem read_optional (c : Codec α) (depth : Nat) :
    c.optional.read depth = blankThen (nullOr (c.read depth)) := rfl

theorem nullOr_of_ne (other : s.head? ≠ some (.char 'n')) : nullOr r s = (r s).mapValue some := by
  rw [nullOr]
  rintro rest rfl
  exact other rfl

/-- What may be null is null or a value. -/
theorem nullOr_gives (given : Outcome.Gives (nullOr r s) y rest) :
    s.head? = some (.char 'n') ∧ y = none ∨
      s.head? ≠ some (.char 'n') ∧ ∃ x, Outcome.Gives (r s) x rest ∧ some x = y := by
  by_cases start : s.head? = some (.char 'n')
  · obtain ⟨behind, rfl⟩ := List.head?_eq_some_iff.mp start
    exact .inl ⟨start, (gives_word_iff.mp given).1.symm⟩
  · rw [nullOr_of_ne start] at given
    exact .inr ⟨start, Outcome.gives_mapValue.mp given⟩

theorem returns_none : c.optional.Returns depth none := by
  refine ⟨nested_null depth, ?_, fun _ => rfl⟩
  rw [read_optional]
  refine reads_blankThen (c := 'n') rfl rfl fun rest _ => ?_
  exact gives_word_iff.mpr ⟨rfl, skipWord_of ['u', 'l', 'l'] rest⟩

theorem fit_optional {j : Json} (full : j ≠ .null) (origin : Origin) :
    c.optional.fit origin j = (c.fit origin j).map some := by
  cases j <;> first | rfl | exact absurd rfl full

theorem returns_some (returns : c.Returns depth x) (full : c.write x ≠ .null)
    (whole : (c.write x).isWhole) : c.optional.Returns depth (some x) := by
  refine ⟨returns.nested, ?_, fun origin => ?_⟩
  · obtain ⟨d, more, text, blank, _, null⟩ := chars_start whole
    rw [read_optional]
    refine reads_blankThen text blank fun rest stops => ?_
    rw [nullOr_of_ne]
    · exact Outcome.gives_mapValue.mpr ⟨x, returns.reads rest stops, rfl⟩
    · change (Source.of (chars (c.write x)) ++ rest).head? ≠ _
      rw [text]
      rintro ⟨⟩
      exact full (null rfl)
  · exact (fit_optional full origin).trans (map_eq_ok_iff.mpr ⟨x, returns.fits origin, rfl⟩)

/-- Codecs stay lawful when the value may be missing. -/
theorem lawful_optional (lawful : c.Lawful) : c.optional.Lawful where
  of_read given whole := by
    rw [read_optional, gives_blankThen_iff] at given
    rcases nullOr_gives given with ⟨_, rfl⟩ | ⟨other, x, read, rfl⟩
    · exact returns_none
    · refine returns_some (lawful.of_read read whole) (fun null => other ?_) whole
      have start := lawful.null_read read null
      rwa [skipBlank_skipBlank] at start
  of_fit {depth origin j y} made nested whole := by
    by_cases null : j = .null
    · obtain rfl := null
      cases made
      exact returns_none
    · rw [fit_optional null] at made
      obtain ⟨x, found, rfl⟩ := map_eq_ok_iff.mp made
      exact returns_some (lawful.of_fit found nested whole)
        (fun written => null (lawful.null_fit found written)) whole
  -- null is read as nothing, so only null can come back as null
  null_read given null := by
    rw [read_optional, gives_blankThen_iff] at given
    rcases nullOr_gives given with ⟨start, _⟩ | ⟨other, x, read, rfl⟩
    · exact start
    · have start := lawful.null_read read null
      rwa [skipBlank_skipBlank] at start
  null_fit {origin j y} made written := by
    by_cases null : j = .null
    · exact null
    · rw [fit_optional null] at made
      obtain ⟨x, found, rfl⟩ := map_eq_ok_iff.mp made
      exact lawful.null_fit found written

end Optional

end CourseLaunch.Wire.Codec
