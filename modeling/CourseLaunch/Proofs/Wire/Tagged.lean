import CourseLaunch.Proofs.Wire.Codec
import CourseLaunch.Wire.Tagged
/-!
# Tagged records that come back from the wire

What stands beside the tag is gathered as it is, and so a tagged record is read from its own text as
soon as the record can be made from the value that is written for it.
-/

namespace CourseLaunch.Wire.Tagged
open Json Codec

variable {α : Type} {t : Tagged α} {s rest : Source} {depth inner : Nat} {x : α}

/-- Reads a tagged record in front of which there are no blanks. -/
def readFront (t : Tagged α) (depth : Nat) : Reader α := fun s =>
  match s with
  | .char '[' :: rest => readBracket '[' t.label depth t.readArray (.char '[' :: rest)
  | s => readBracket '\x7b' t.label depth t.readObject s

theorem read_codec (t : Tagged α) (depth : Nat) :
    t.codec.read depth = blankThen (t.readFront depth) := rfl

theorem readFront_object (other : s.head? ≠ some (.char '[')) :
    t.readFront depth s = readBracket '\x7b' t.label depth t.readObject s := by
  rw [readFront]
  rintro rest rfl
  exact other rfl

/-! ### What was read -/

/-- Whether a record was made by the maker of a tag, from a value of limited depth. -/
def Made (t : Tagged α) (depth : Nat) (x : α) : Prop :=
  ∃ tag make content, (tag, make) ∈ t.tags ∧ Nested depth content ∧ make content = .ok x

@[simp]
theorem gives_settle_iff {make : Json → Except Cause α} {content : Json} {r : Rest s} :
    Outcome.Gives (settle make content r) x rest ↔ make content = .ok x ∧ r.1 = rest := by
  rw [settle]
  rcases make content with cause | y <;> simp

theorem mem_of_readName {make : Json → Except Cause α}
    (given : Outcome.Gives (t.choice.readName s) make rest) : ∃ tag, (tag, make) ∈ t.tags := by
  obtain ⟨tag, known⟩ := Choice.lookup_of_readName given
  obtain ⟨before, behind, split, _⟩ := List.lookup_eq_some_iff.mp known
  have listed : (tag, make) ∈ t.choice.variants := by simp [split]
  exact ⟨tag, listed⟩

/-- What is known of what was found in an object. -/
structure Sound (t : Tagged α) (depth : Nat) (found : Gathered α) : Prop where
  tag : ∀ make, found.1 = some make → ∃ tag, (tag, make) ∈ t.tags
  fields : ∀ field ∈ found.2, field.2.Nested depth

/-- What was gathered stays sound with one more entry. -/
theorem sound_readEntry {found found' : Gathered α} {key : String} (sound : Sound t inner found)
    (given : Outcome.Gives (t.readEntry inner found key s) found' rest) : Sound t inner found' := by
  rw [readEntry] at given
  split at given
  · split at given
    · exact absurd given Outcome.not_gives_stop
    · obtain ⟨make, value, rfl⟩ := Outcome.gives_mapValue.mp given
      obtain ⟨q, _, read⟩ := gives_readField_iff.mp value
      refine ⟨fun other same => ?_, sound.fields⟩
      cases same
      exact mem_of_readName read
  · obtain ⟨j, value, rfl⟩ := Outcome.gives_mapValue.mp given
    obtain ⟨q, _, read⟩ := gives_readField_iff.mp value
    refine ⟨sound.tag, fun field known => ?_⟩
    rcases List.mem_append.mp known with early | late
    · exact sound.fields field early
    · obtain rfl := List.mem_singleton.mp late
      exact nested_of_readRaw read

/-- A record that is read from an object was made by the maker of its tag. -/
theorem made_readObject (given : Outcome.Gives (t.readObject inner s) x rest) :
    t.Made (inner + 1) x := by
  have start : Sound t inner (none, []) := ⟨nofun, nofun⟩
  rw [readObject] at given
  rcases entries : readEntries (t.readEntry inner) true (none, []) s with e | ⟨⟨tag, fields⟩, r⟩
  · rw [entries] at given
    exact absurd given Outcome.not_gives_error
  · have sound : Sound t inner (tag, fields) :=
      readEntries_keeps (fun _ _ _ _ _ sound read => sound_readEntry sound read) start
        ⟨r.2, entries⟩
    rw [entries] at given
    rcases tag with _ | make
    · exact absurd given Outcome.not_gives_stop
    · obtain ⟨tag, listed⟩ := sound.tag make rfl
      exact ⟨tag, make, .object fields, listed, nested_object_iff.mpr ⟨inner, rfl, sound.fields⟩,
        (gives_settle_iff.mp given).1⟩

/-- A record that is read from a list was made by the maker of its tag. -/
theorem made_readArray (given : Outcome.Gives (t.readArray inner s) x rest) :
    t.Made (inner + 1) x := by
  rw [readArray] at given
  split at given
  · exact absurd given Outcome.not_gives_error
  · exact absurd given Outcome.not_gives_stop
  · obtain ⟨make, mid, name, later⟩ := Outcome.gives_andThen.mp (Outcome.gives_outcome.mp given)
    obtain ⟨tag, listed⟩ := mem_of_readName name
    rcases items : readItems (readRaw inner) false mid with e | ⟨items', r⟩
    · rw [items] at later
      exact absurd later Outcome.not_gives_error
    · rw [items] at later
      have each : ∀ j ∈ items', j.Nested inner :=
        forall_mem_readItems (fun _ _ _ => nested_of_readRaw) ⟨r.2, items⟩
      exact ⟨tag, make, .array items', listed, nested_array_iff.mpr ⟨inner, rfl, each⟩,
        (gives_settle_iff.mp later).1⟩

theorem made_readFront (given : Outcome.Gives (t.readFront depth s) x rest) : t.Made depth x := by
  unfold readFront at given
  split at given
  · obtain ⟨behind, inner, _, rfl, array⟩ := gives_readBracket_iff.mp given
    exact made_readArray array
  · obtain ⟨behind, inner, _, rfl, object⟩ := gives_readBracket_iff.mp given
    exact made_readObject object

/-- What was read was made by the maker of a tag. -/
theorem made_of_read (given : Outcome.Gives (t.codec.read depth s) x rest) : t.Made depth x := by
  rw [read_codec, gives_blankThen_iff] at given
  exact made_readFront given

/-! ### What is written -/

/-- What stands beside the tag is gathered as it is. -/
theorem entered_readEntry {make : Json → Except Cause α} {fields : List (String × Json)}
    (each : ∀ f ∈ fields, Reads (readRaw inner) (chars f.2) f.2)
    (apart : ∀ f ∈ fields, f.1 ≠ tagName) (found : List (String × Json)) :
    Entered (t.readEntry inner) (some make, found) fields (some make, found ++ fields) := by
  induction fields generalizing found with
  | nil =>
    rw [List.append_nil]
    exact .done _
  | cons field fields ih =>
    obtain ⟨key, value⟩ := field
    have others := ih (fun f known => each f (.tail _ known))
      (fun f known => apart f (.tail _ known)) (found ++ [(key, value)])
    rw [List.append_assoc, List.singleton_append] at others
    refine .next (fun rest stops => ?_) others
    rw [readEntry, if_neg (apart (key, value) (.head _))]
    exact Outcome.gives_mapValue.mpr
      ⟨value, reads_readField (each (key, value) (.head _)) rest stops, rfl⟩

/-- A tagged record is read from an object with its tag in front, if what stands beside the tag
makes the record. -/
theorem reads_codec {tag : String} {make : Json → Except Cause α} {fields : List (String × Json)}
    (known : t.tags.lookup tag = some make) (nested : ∀ f ∈ fields, f.2.Nested inner)
    (whole : ∀ f ∈ fields, f.2.isWhole) (apart : ∀ f ∈ fields, f.1 ≠ tagName)
    (made : make (.object fields) = .ok x) :
    Reads (t.codec.read (inner + 1)) (chars (.object ((tagName, .string tag) :: fields))) x := by
  have each : ∀ f ∈ fields, Reads (readRaw inner) (chars f.2) f.2 := fun f known =>
    reads_readRaw (nested f known) (whole f known)
  have entered : Entered (t.readEntry inner) (none, []) ((tagName, .string tag) :: fields)
      (some make, fields) := by
    refine .next (fun rest stops => ?_) (entered_readEntry each apart [])
    simp only [readEntry, if_true, Option.isSome_none, Bool.false_eq_true, if_false]
    exact Outcome.gives_mapValue.mpr
      ⟨make, reads_readField (Choice.reads_readName known) rest stops, rfl⟩
  rw [read_codec]
  refine reads_blankThen (c := '\x7b') rfl rfl fun rest stops => ?_
  rw [of_chars_object, readFront_object (by simp)]
  refine gives_readBracket_iff.mpr ⟨_, inner, skipBlank_cons rfl, rfl, ?_⟩
  obtain ⟨shorter, read⟩ := entered.readEntries rest
  rw [readObject, read]
  exact gives_settle_iff.mpr ⟨made, rfl⟩

end CourseLaunch.Wire.Tagged
