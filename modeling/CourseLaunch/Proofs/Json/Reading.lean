import CourseLaunch.Proofs.Json.Entries
import Mathlib.Data.List.Forall2
/-!
# Values in text

A value that can be read is nested no deeper than the reader allows. A value whose numbers are
whole is read from its own text as it stands, so the text of a value in canonical form is a text of
that value.
-/

namespace CourseLaunch.Json

variable {α : Type} {s rest : Source}

/-! ### The parts of a value -/

@[simp]
theorem gives_word_iff {letters : List Char} {u : Text.Symbol} {x y : α} :
    Outcome.Gives ((skipWord letters s).map fun r => (x, r.behind u)) y rest ↔
      x = y ∧ ∃ h, skipWord letters s = .ok ⟨rest, h⟩ := by
  rcases skipWord letters s with f | r
  · simp [Except.map]
  · simp only [Except.map, Outcome.gives_ok, Except.ok.injEq]
    constructor
    · rintro ⟨value, place⟩
      exact ⟨value, place ▸ r.2, Subtype.ext place⟩
    · rintro ⟨value, _, place⟩
      exact ⟨value, congrArg Subtype.val place⟩

theorem gives_readWord_iff {letters : List Char} {u : Text.Symbol} {j k : Json} :
    Outcome.Gives ((readWord letters j s).map fun p => (p.1, p.2.behind u)) k rest ↔
      j = k ∧ ∃ h, skipWord letters s = .ok ⟨rest, h⟩ := by
  rw [← gives_word_iff, readWord]
  rcases skipWord letters s with f | r <;> rfl

theorem gives_readField_iff {value : Reader α} {x : α} :
    Outcome.Gives (readField value s) x rest ↔
      ∃ q, skipColon s = .ok q ∧ Outcome.Gives (value q.1) x rest := by
  rw [readField]
  rcases skipColon s with f | q
  · simp
  · refine ⟨fun given => ⟨q, rfl, Outcome.gives_outcome.mp given⟩, ?_⟩
    rintro ⟨_, ⟨⟩, given⟩
    exact Outcome.gives_outcome.mpr given

theorem reads_readField {value : Reader α} {cs : List Char} {x : α} (h : Reads value cs x) :
    Reads (readField value) (':' :: cs) x :=
  fun rest stops => gives_readField_iff.mpr ⟨_, rfl, h rest stops⟩

/-- Blanks in front of a value do not matter. -/
theorem gives_readNested_iff {inner : Option (Reader Json)} {j : Json} :
    (readNested inner s).Gives j rest ↔ (readFront inner (skipBlank s)).Gives j rest :=
  Outcome.gives_outcome

/-- How the values inside the brackets of a value are read. -/
def innerReader : Nat → Option (Reader Json)
  | 0 => none
  | depth + 1 => some (readRaw depth)

theorem readRaw_eq (depth : Nat) : readRaw depth = readNested (innerReader depth) := by
  cases depth <;> rfl

/-! ### What was read -/

/-- What is neither a list nor an object is not nested, and is `null` only where an `n` stands. -/
theorem readPlain_gives {j : Json} (given : (readPlain s).Gives j rest) :
    (∀ depth, j.Nested depth) ∧ (j = .null → s.head? = some (.char 'n')) := by
  rcases s with _ | ⟨u, s⟩
  · exact absurd given Outcome.not_gives_refuse
  rw [readPlain] at given
  split at given
  case isTrue known =>
    obtain ⟨rfl, _⟩ := gives_readWord_iff.mp given
    exact ⟨nested_null, fun _ => known ▸ rfl⟩
  split at given
  case isTrue =>
    obtain ⟨rfl, _⟩ := gives_readWord_iff.mp given
    exact ⟨fun depth => nested_bool depth true, Json.noConfusion⟩
  split at given
  case isTrue =>
    obtain ⟨rfl, _⟩ := gives_readWord_iff.mp given
    exact ⟨fun depth => nested_bool depth false, Json.noConfusion⟩
  split at given
  case isTrue =>
    simp only [Outcome.gives_behind, Outcome.gives_mapValue] at given
    obtain ⟨text, _, rfl⟩ := given
    exact ⟨fun depth => nested_string depth text, Json.noConfusion⟩
  split at given
  case isTrue =>
    obtain ⟨n, _, rfl⟩ := Outcome.gives_mapValue.mp given
    exact ⟨fun depth => nested_number depth n, Json.noConfusion⟩
  exact absurd given Outcome.not_gives_refuse

/-- What was read is nested no deeper than the reader allows, if that holds of the values in it, and
is `null` only where an `n` stands. -/
theorem readFront_gives {depth : Nat} {j : Json}
    (within : ∀ inner s j rest, depth = inner + 1 → (readRaw inner s).Gives j rest → j.Nested inner)
    (given : (readFront (innerReader depth) s).Gives j rest) :
    j.Nested depth ∧ (j = .null → s.head? = some (.char 'n')) := by
  unfold readFront at given
  split at given
  case h_1 =>
    rcases depth with _ | inner
    · exact absurd given Outcome.not_gives_refuse
    · simp only [innerReader, Outcome.gives_behind, Outcome.gives_mapValue] at given
      obtain ⟨items, given, rfl⟩ := given
      have each : ∀ j ∈ items, j.Nested inner :=
        forall_mem_readItems (fun s j rest => within inner s j rest rfl) given
      exact ⟨nested_array_iff.mpr ⟨inner, rfl, each⟩, Json.noConfusion⟩
  case h_2 =>
    rcases depth with _ | inner
    · exact absurd given Outcome.not_gives_refuse
    · simp only [innerReader, Outcome.gives_behind, Outcome.gives_mapValue] at given
      obtain ⟨fields, given, rfl⟩ := given
      have each : ∀ f ∈ fields, f.2.Nested inner := by
        -- the entries are read one by one, so the invariant is that all values so far are nested
        refine readEntries_keeps (P := fun fields => ∀ f ∈ fields, f.2.Nested inner)
          (fun fields key s fields' rest known given f mem => ?_) (by simp) given
        simp only [readRawEntry, Outcome.gives_mapValue, gives_readField_iff] at given
        obtain ⟨value, ⟨q, _, read⟩, rfl⟩ := given
        rcases List.mem_append.mp mem with early | late
        · exact known f early
        · obtain rfl := List.mem_singleton.mp late
          exact within inner _ value _ rfl read
      exact ⟨nested_object_iff.mpr ⟨inner, rfl, each⟩, Json.noConfusion⟩
  case h_3 =>
    obtain ⟨nested, null⟩ := readPlain_gives given
    exact ⟨nested depth, null⟩

/-- What was read is nested no deeper than the reader allows. -/
theorem nested_of_readRaw {depth : Nat} {j : Json} (given : (readRaw depth s).Gives j rest) :
    j.Nested depth := by
  induction depth generalizing s j rest with
  | zero =>
    rw [readRaw_eq, gives_readNested_iff] at given
    exact (readFront_gives (fun _ _ _ _ same => absurd same.symm (Nat.succ_ne_zero _)) given).1
  | succ depth ih =>
    rw [readRaw_eq, gives_readNested_iff] at given
    refine (readFront_gives (fun inner s j rest same read => ?_) given).1
    obtain rfl : depth = inner := Nat.succ.inj same
    exact ih read

/-- Only where an `n` stands is `null` read. -/
theorem null_of_readRaw {depth : Nat} (given : (readRaw depth s).Gives .null rest) :
    (skipBlank s).head? = some (.char 'n') := by
  rw [readRaw_eq, gives_readNested_iff] at given
  exact (readFront_gives (fun _ _ _ _ _ => nested_of_readRaw) given).2 rfl

/-! ### The text of a value -/

/-- Whether a number may start with a character. -/
def StartsNumber (c : Char) : Prop := c = '-' ∨ c.isDigit

theorem StartsNumber.ne {c d : Char} (h : StartsNumber c) (sign : d ≠ '-')
    (digit : d.isDigit = false) : c ≠ d := by
  rintro rfl
  rcases h with minus | other
  · exact sign minus
  · exact absurd other (by simp [digit])

/-- A number starts with its sign or a digit. -/
theorem text_start {n : Number} (whole : n.isWhole) :
    ∃ c more, n.text.toList = c :: more ∧ StartsNumber c := by
  rcases n with (n | n) | value
  · have text : (Number.int (.ofNat n)).text.toList = Nat.toDigits 10 n := Nat.toList_repr
    rcases written : Nat.toDigits 10 n with _ | ⟨c, digits⟩
    · exact absurd written Nat.toDigits_ne_nil
    · refine ⟨c, digits, text.trans written, .inr ?_⟩
      refine @Nat.isDigit_of_mem_toDigits 10 n c (by omega) (by omega) ?_
      exact written ▸ List.mem_cons_self
  · exact ⟨'-', _, String.toList_append, .inl rfl⟩
  · obtain rfl : value = ⟨true, .zero⟩ := by simpa [Number.isWhole] using whole
    exact ⟨'-', ['0', '.', '0'], by simp [Number.text, Decimal.Binary64.text,
      Decimal.Magnitude.zero], .inl rfl⟩

/-- A value starts with neither a blank nor a closing bracket, and with an `n` only when it is
`null`. -/
theorem chars_start {j : Json} (whole : j.isWhole) :
    ∃ c more, chars j = c :: more ∧ isSpace (.char c) = false ∧ c ≠ ']' ∧
      (c = 'n' → j = .null) := by
  rcases j with _ | b | n | text | items | fields
  · exact ⟨'n', _, rfl, rfl, by decide, fun _ => rfl⟩
  · cases b
    · exact ⟨'f', _, rfl, rfl, by decide, nofun⟩
    · exact ⟨'t', _, rfl, rfl, by decide, nofun⟩
  · obtain ⟨c, more, text, start⟩ := text_start whole
    refine ⟨c, more, text, ?_, start.ne (by decide) rfl, fun same => ?_⟩
    · simp [isSpace, start.ne (d := ' ') (by decide) rfl, start.ne (d := '\n') (by decide) rfl,
        start.ne (d := '\t') (by decide) rfl, start.ne (d := '\r') (by decide) rfl]
    · exact absurd same (start.ne (by decide) rfl)
  · exact ⟨'"', _, rfl, rfl, by decide, nofun⟩
  · exact ⟨'[', _, rfl, rfl, by decide, nofun⟩
  · exact ⟨'\x7b', _, rfl, rfl, by decide, nofun⟩

theorem readFront_plain {c : Char} (square : c ≠ '[') (curly : c ≠ '\x7b')
    (inner : Option (Reader Json)) (s : Source) :
    readFront inner (.char c :: s) = readPlain (.char c :: s) := by
  rw [readFront]
  · rintro rest ⟨⟩
    exact square rfl
  · rintro rest ⟨⟩
    exact curly rfl

/-- What starts like a number is read as one. -/
theorem readPlain_number {c : Char} (start : StartsNumber c) (s : Source) :
    readPlain (.char c :: s) = (readNumber (.char c :: s)).mapValue .number := by
  have plain : ∀ d, d ≠ '-' → d.isDigit = false → Text.Symbol.char c ≠ .char d :=
    fun d sign digit same => start.ne sign digit (Text.Symbol.char.inj same)
  rw [readPlain, if_neg (plain 'n' (by decide) rfl), if_neg (plain 't' (by decide) rfl),
    if_neg (plain 'f' (by decide) rfl), if_neg (plain '"' (by decide) rfl), if_pos]
  rcases start with rfl | digit
  · exact .inl rfl
  · exact .inr (by simp [frontDigit?_char digit])

/-- A value is read back when it is without the blanks that could stand in front of it. -/
theorem reads_of_readFront {depth : Nat} {j : Json} (whole : j.isWhole)
    (front : Reads (readFront (innerReader depth)) (chars j) j) :
    Reads (readRaw depth) (chars j) j := by
  intro rest stops
  obtain ⟨c, more, text, full, _⟩ := chars_start whole
  have start : skipBlank (Source.of (chars j) ++ rest) = Source.of (chars j) ++ rest := by
    rw [text, Source.of_cons, List.cons_append, skipBlank_cons full]
  rw [readRaw_eq, gives_readNested_iff, start]
  exact front rest stops

theorem itemChars_eq_map (items : List Json) : itemChars items = items.map chars := by
  induction items with
  | nil => rfl
  | cons item rest ih => rw [itemChars, ih, List.map_cons]

/-- The items of a list are read from their texts. -/
theorem reads_items {inner : Nat} {items : List Json} (whole : ∀ j ∈ items, j.isWhole)
    (each : ∀ j ∈ items, Reads (readRaw inner) (chars j) j) (rest : Source) :
    (readItems (readRaw inner) true
      (Source.of ([','].intercalate (itemChars items)) ++ .char ']' :: rest)).Gives items rest := by
  rw [itemChars_eq_map]
  refine readItems_of (fun cs known => ?_) (List.forall₂_map_left_iff.mpr ?_) rest
  · obtain ⟨j, found, rfl⟩ := List.mem_map.mp known
    obtain ⟨c, more, text, full, apart, _⟩ := chars_start (whole j found)
    exact ⟨c, more, text, full, apart⟩
  · exact List.forall₂_same.mpr each

/-- The fields of an object are gathered from their texts. -/
theorem entered_fields {inner : Nat} {fields : List (String × Json)}
    (each : ∀ f ∈ fields, Reads (readRaw inner) (chars f.2) f.2) (found : List (String × Json)) :
    Entered (readRawEntry (readRaw inner)) found fields (found ++ fields) := by
  induction fields generalizing found with
  | nil =>
    rw [List.append_nil]
    exact .done found
  | cons field fields ih =>
    obtain ⟨key, value⟩ := field
    have others := ih (fun f known => each f (.tail _ known)) (found ++ [(key, value)])
    rw [List.append_assoc, List.singleton_append] at others
    refine .next (fun rest stops => ?_) others
    exact Outcome.gives_mapValue.mpr
      ⟨value, reads_readField (each (key, value) (.head _)) rest stops, rfl⟩

/-- A value whose numbers are whole is read from its own text. -/
theorem reads_readRaw {depth : Nat} {j : Json} (nested : j.Nested depth) (whole : j.isWhole) :
    Reads (readRaw depth) (chars j) j := by
  -- a nested value is read one level deeper, so the depth is any one
  induction j using induction generalizing depth with
  | null =>
    refine reads_of_readFront whole fun rest stops => ?_
    exact gives_readWord_iff.mpr ⟨rfl, skipWord_of ['u', 'l', 'l'] rest⟩
  | bool b =>
    refine reads_of_readFront whole fun rest stops => ?_
    cases b with
    | true => exact gives_readWord_iff.mpr ⟨rfl, skipWord_of ['r', 'u', 'e'] rest⟩
    | false => exact gives_readWord_iff.mpr ⟨rfl, skipWord_of ['a', 'l', 's', 'e'] rest⟩
  | number n =>
    refine reads_of_readFront whole fun rest stops => ?_
    have read := readNumber_text whole stops
    obtain ⟨c, more, text, start⟩ := text_start whole
    rw [chars, text, Source.of_cons, List.cons_append,
      readFront_plain (start.ne (by decide) rfl) (start.ne (by decide) rfl), readPlain_number start]
    rw [text] at read
    exact Outcome.gives_mapValue.mpr ⟨n, read, rfl⟩
  | string text =>
    refine reads_of_readFront whole fun rest stops => ?_
    have written : Source.of (chars (.string text)) ++ rest =
        .char '"' :: (Source.of (text.toList.flatMap escape) ++ .char '"' :: rest) := by
      simp [chars, quote]
    rw [written, readFront_plain (by decide) (by decide)]
    exact Outcome.gives_behind.mpr
      (Outcome.gives_mapValue.mpr ⟨text, readQuote_of text rest, rfl⟩)
  | array items ih =>
    obtain ⟨inner, rfl, within⟩ := nested_array_iff.mp nested
    have wholes := isWhole_array.mp whole
    refine reads_of_readFront whole fun rest stops => ?_
    have written : Source.of (chars (.array items)) ++ rest =
        .char '[' :: (Source.of ([','].intercalate (itemChars items)) ++ .char ']' :: rest) := by
      simp [chars, bracket]
    rw [written]
    exact Outcome.gives_behind.mpr (Outcome.gives_mapValue.mpr ⟨items,
      reads_items wholes (fun j known => ih j known (within j known) (wholes j known)) rest, rfl⟩)
  | object fields ih =>
    obtain ⟨inner, rfl, within⟩ := nested_object_iff.mp nested
    have wholes := isWhole_object.mp whole
    refine reads_of_readFront whole fun rest stops => ?_
    have entered : Entered (readRawEntry (readRaw inner)) [] fields fields :=
      entered_fields (fun f known => ih f known (within f known) (wholes f known)) []
    rw [of_chars_object]
    exact Outcome.gives_behind.mpr
      (Outcome.gives_mapValue.mpr ⟨fields, entered.readEntries rest, rfl⟩)

/-- A text that a reader takes as a value is a whole text of the value. -/
theorem Reads.readWhole {value : Reader α} {cs : List Char} {x : α} (h : Reads value cs x) :
    Json.readWhole value (Source.of cs) = .ok x := by
  have given := h [] stops_nil
  rw [List.append_nil] at given
  obtain ⟨shorter, read⟩ := given
  rw [Json.readWhole, read]
  rfl

/-- The text of a value is read as the canonical form of the value. -/
theorem ofSource_text {j : Json} (nested : j.Nested greatestDepth) (whole : j.isWhole) :
    ofSource (Source.ofString j.text) = .ok j.canonical := by
  have read := (reads_readRaw nested whole).readWhole
  rw [ofSource, Source.ofString_eq, text, String.toList_ofList, read]
  rfl

end CourseLaunch.Json
