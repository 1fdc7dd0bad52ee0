import CourseLaunch.Wire.Codec
/-!
# Records

A record is an object with known fields, or an array of their values in order. Unknown fields are
skipped, no field may be given twice, and a field with a default may be left out; in an array,
only at the end.
-/

namespace CourseLaunch.Wire
open Json

/-- A field of a record. It may have a second name, a default that stands in when it is left out,
and values that are not written. -/
structure Field (α : Type) where
  name : String
  alias? : Option String
  codec : Codec α
  default? : Option α
  omits : α → Bool

namespace Field

variable {α : Type}

/-- A field that must be given. -/
def needed (name : String) (codec : Codec α) : Field α := ⟨name, none, codec, none, fun _ => false⟩

/-- A field that may be left out, and is always written. -/
def defaulted (name : String) (codec : Codec α) (value : α) : Field α :=
  ⟨name, none, codec, some value, fun _ => false⟩

/-- A field that may be left out or `null`, and is written when there is a value. -/
def optional (name : String) (codec : Codec α) (second : Option String) : Field (Option α) :=
  ⟨name, second, codec.optional, some none, Option.isNone⟩

def accepts (f : Field α) (key : String) : Bool := key == f.name || f.alias? == some key

end Field

/-- The fields of a record, in order. The values of a record form a nested pair. -/
inductive Fields : Type → Type 1 where
  | nil : Fields Unit
  | cons {α β : Type} (field : Field α) (rest : Fields β) : Fields (α × β)

namespace Fields

/-- How many fields there are. -/
def count {α : Type} : Fields α → Nat
  | .nil => 0
  | .cons _ rest => rest.count + 1

/-- The values found so far. -/
def Slots : {α : Type} → Fields α → Type
  | _, .nil => Unit
  | _, @Fields.cons α _ _ rest => Option α × rest.Slots

/-- What was found for the first field. -/
def Slots.first {α β : Type} {f : Field α} {rest : Fields β} (slots : (cons f rest).Slots) :
    Option α :=
  Prod.fst slots

/-- What was found for the other fields. -/
def Slots.others {α β : Type} {f : Field α} {rest : Fields β} (slots : (cons f rest).Slots) :
    rest.Slots :=
  Prod.snd slots

/-- No value was found yet. -/
def vacant : {α : Type} → (fs : Fields α) → fs.Slots
  | _, .nil => ()
  | _, .cons _ rest => (none, rest.vacant)

/-- The values of a record, or the first field that is needed and was not found. -/
def complete : {α : Type} → (fs : Fields α) → fs.Slots → Except Cause α
  | _, .nil, _ => .ok ()
  | _, .cons f rest, slots =>
    match slots.first.or f.default? with
    | none => .error (.missingField f.name)
    | some x => (rest.complete slots.others).map (x, ·)

/-- The reader of the value of a key, if the key means a field. A fault that concerns the whole
record lies behind the bracket that closes it, if that comes next. -/
def entry? (depth : Nat) (key : String) : {α : Type} → (fs : Fields α) → fs.Slots →
    Option (Reader fs.Slots)
  | _, .nil, _ => none
  | _, .cons f rest, slots =>
    if f.accepts key then
      some fun s =>
        if slots.first.isSome then stop (pastClosing '\x7d' s) (.duplicateField f.name)
        else
          Outcome.mapValue (readField (f.codec.read depth) s) fun x => (some x, slots.others)
    else
      (rest.entry? depth key slots.others).map fun r s =>
        Outcome.mapValue (r s) fun others => (slots.first, others)

/-- Skips the value of a key. -/
def skipField {σ : Type} (acc : σ) : Reader σ := fun s =>
  match skipColon s with
  | .error f => .error f
  | .ok r =>
    (skipValue [] r.1).map fun r' => (acc, r.then r')

/-- Reads a record behind its opening curly bracket. -/
def readObject {α : Type} (fs : Fields α) (depth : Nat) : Reader α := fun s =>
  let entry (slots : fs.Slots) (key : String) : Reader fs.Slots :=
    (fs.entry? depth key slots).getD (skipField slots)
  match readEntries entry true fs.vacant s with
  | .error f => .error f
  | .ok (slots, r) =>
    match fs.complete slots with
    | .error cause => stop r.1 cause
    | .ok x => .ok (x, r)

/-- The defaults of the fields from the given position on, which were left out at the end of an
array. -/
def absent (label : String) : {α : Type} → (fs : Fields α) → (index : Nat) → Except Cause α
  | _, .nil, _ => .ok ()
  | _, .cons f rest, index =>
    match f.default? with
    | none => .error (.wrongLength index label)
    | some x => (rest.absent label (index + 1)).map (x, ·)

/-- Reads the values of the fields from the given position on in an array. -/
def readOrdered (label : String) (depth : Nat) : {α : Type} → (fs : Fields α) → (index : Nat) →
    Reader α
  | _, .nil, _, s => (closeList s).map fun r => ((), r)
  | _, .cons f rest, index, s =>
    match nextItem (index == 0) s with
    | .error f => .error f
    | .ok (.finished r) =>
      match (Fields.cons f rest).absent label index with
      | .error cause => stop r.1 cause
      | .ok x => .ok (x, r)
    | .ok (.item r) =>
      r.outcome <| (f.codec.read depth r.1).andThen fun x s =>
        Outcome.mapValue (rest.readOrdered label depth (index + 1) s) (x, ·)

/-- Sets the value of a key, if the key means a field. -/
def put (origin : Origin) (key : String) (value : Json) : {α : Type} → (fs : Fields α) →
    fs.Slots → Except Cause fs.Slots
  | _, .nil, slots => .ok slots
  | _, .cons f rest, slots =>
    if f.accepts key then
      if slots.first.isSome then .error (.duplicateField f.name)
      else (f.codec.fit origin value).map fun x => (some x, slots.others)
    else (rest.put origin key value slots.others).map fun others => (slots.first, others)

/-- Makes a record from the fields of an object. -/
def fitObject {α : Type} (fs : Fields α) (origin : Origin) (fields : List (String × Json)) :
    Except Cause α := do
  let slots ← fields.foldlM (fun slots field => fs.put origin field.1 field.2 slots) fs.vacant
  fs.complete slots

/-- Makes a record from the items of an array, and gives the items that are left. -/
def fitOrdered (label : String) (origin : Origin) : {α : Type} → (fs : Fields α) →
    (index : Nat) → List Json → Except Cause (α × List Json)
  | _, .nil, _, items => .ok ((), items)
  | _, .cons f rest, index, [] =>
    ((Fields.cons f rest).absent label index).map fun x => (x, [])
  | _, .cons f rest, index, item :: items => do
    let x ← f.codec.fit origin item
    let (y, items) ← rest.fitOrdered label origin (index + 1) items
    pure ((x, y), items)

/-- A number of elements in messages. -/
def elements (n : Nat) : String :=
  if n = 1 then "1 element" else toString n ++ " elements"

/-- What an array should have held instead of more items than there are fields. -/
def excessLabel {α : Type} (fs : Fields α) : Origin → String
  | .plain => "fewer elements in array"
  | .gathered => elements fs.count ++ " in sequence"

/-- Makes a record from a JSON value. -/
def fit {α : Type} (fs : Fields α) (label : String) (origin : Origin) : Json → Except Cause α
  | .object fields => fs.fitObject origin fields
  | .array items =>
    match fs.fitOrdered (label ++ " with " ++ elements fs.count) origin 0 items with
    | .error cause => .error cause
    | .ok (x, []) => .ok x
    | .ok (_, _ :: _) => .error (.wrongLength items.length (fs.excessLabel origin))
  | j => Codec.refuseValue j label

/-- The fields that are written. -/
def write : {α : Type} → (fs : Fields α) → α → List (String × Json)
  | _, .nil, _ => []
  | _, .cons f rest, (x, y) =>
    if f.omits x then rest.write y else (f.name, f.codec.write x) :: rest.write y

end Fields

/-- Records with the given name and fields. -/
def Codec.record {α : Type} (name : String) (fs : Fields α) : Codec α :=
  let label := "struct " ++ name
  { read := fun depth => Codec.blankThen fun s =>
      match s with
      | .char '[' :: rest =>
        Codec.readBracket '[' label depth
          (fs.readOrdered (label ++ " with " ++ Fields.elements fs.count) · 0)
          (.char '[' :: rest)
      | s => Codec.readBracket '\x7b' label depth fs.readObject s
    fit := fs.fit label
    write := fun x => .object (fs.write x) }

end CourseLaunch.Wire
