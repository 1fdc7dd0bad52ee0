import CourseLaunch.Wire.Record
/-!
# Tagged records

An object whose field `type` tells which record it is, or an array with that name in front. The
tag may stand anywhere in the object; what stands beside it is gathered as it is and made into the
record once all of it was read. Faults found then have no place.
-/

namespace CourseLaunch.Wire
open Json

def tagName : String := "type"

/-- The records of a tagged type: for each tag, how to make one from what stands beside it. -/
structure Tagged (α : Type) where
  name : String
  tags : List (String × (Json → Except Cause α))
  write : α → Json

namespace Tagged

variable {α : Type}

/-- What a tagged record is called in messages. -/
def label (t : Tagged α) : String := "internally tagged enum " ++ t.name

/-- The tags, as variants. -/
def choice (t : Tagged α) : Codec.Choice (Json → Except Cause α) := ⟨t.tags, fun _ => ""⟩

/-- What was found in an object: the tag, and the other fields in order. -/
abbrev Gathered (α : Type) := Option (Json → Except Cause α) × List (String × Json)

/-- Reads the value of a key. -/
def readEntry (t : Tagged α) (depth : Nat) (found : Gathered α) (key : String) :
    Reader (Gathered α) := fun s =>
  if key = tagName then
    if found.1.isSome then stop (pastClosing '\x7d' s) (.duplicateField tagName)
    else Outcome.mapValue (readField t.choice.readName s) fun tag => (some tag, found.2)
  else
    Outcome.mapValue (readField (readRaw depth) s) fun value =>
      (found.1, found.2 ++ [(key, value)])

/-- Makes the record once all of it was read. -/
def settle {s : Source} (tag : Json → Except Cause α) (content : Json) (r : Rest s) : Outcome α s :=
  match tag content with
  | .error cause => .error ⟨cause, none⟩
  | .ok x => .ok (x, r)

/-- Reads a tagged object behind its opening bracket. -/
def readObject (t : Tagged α) (depth : Nat) : Reader α := fun s =>
  match readEntries (t.readEntry depth) true (none, []) s with
  | .error f => .error f
  | .ok ((none, _), r) => stop r.1 (.missingField tagName)
  | .ok ((some tag, fields), r) => settle tag (.object fields) r

/-- Reads a tagged array behind its opening bracket. -/
def readArray (t : Tagged α) (depth : Nat) : Reader α := fun s =>
  match nextItem true s with
  | .error f => .error f
  | .ok (.finished r) => stop r.1 (.missingField tagName)
  | .ok (.item r) =>
    r.outcome <| (t.choice.readName r.1).andThen fun tag s =>
      match readItems (readRaw depth) false s with
      | .error f => .error f
      | .ok (items, r) => settle tag (.array items) r

/-- Makes a tagged record from a JSON value. -/
def fit (t : Tagged α) : Json → Except Cause α
  | .object fields =>
    match fields.lookup tagName with
    | none => .error (.missingField tagName)
    | some (.string tag) => do
      let make ← t.choice.find tag
      make (.object (fields.filter fun field => field.1 ≠ tagName))
    | some j => Codec.refuseValue j "variant identifier"
  | .array [] => .error (.missingField tagName)
  | .array (.string tag :: items) => do
    let make ← t.choice.find tag
    make (.array items)
  | .array (j :: _) => Codec.refuseValue j "variant identifier"
  | j => Codec.refuseValue j t.label

/-- The codec of a tagged type. -/
def codec (t : Tagged α) : Codec α where
  read depth := Codec.blankThen fun s =>
    match s with
    | .char '[' :: rest =>
      Codec.readBracket '[' t.label depth t.readArray (.char '[' :: rest)
    | s => Codec.readBracket '\x7b' t.label depth t.readObject s
  fit _ := t.fit
  write := t.write

end Tagged

end CourseLaunch.Wire
