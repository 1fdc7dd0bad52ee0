import CourseLaunch.Json.Printer
import CourseLaunch.Json.Reader.Value
/-!
# Wire forms

A codec ties a type to its JSON form in three ways: it reads a value from text, it makes one from
a JSON value that was read before, and it writes one. Reading from text stops at the first fault
and knows its place; a fault in a JSON value has a cause only.
-/

namespace CourseLaunch.Wire
open Json

/-- Where a JSON value comes from. What stood beside a tag was gathered before its shape was
known, and is held to slightly different rules. -/
inductive Origin where
  | plain
  | gathered
deriving DecidableEq, Repr

/-- The JSON form of a type. The reader is told how many more brackets may be open. -/
structure Codec (α : Type) where
  read : Nat → Reader α
  fit : Origin → Json → Except Cause α
  write : α → Json

namespace Codec

variable {α β : Type}

/-- Reads a value from a text that holds nothing else. -/
def ofSource (c : Codec α) (s : Source) : Except Fault α := readWhole (c.read greatestDepth) s

def ofText (c : Codec α) (s : String) : Except Fault α := c.ofSource (Source.ofString s)

def ofJson (c : Codec α) (j : Json) : Except Cause α := c.fit .plain j

def toText (c : Codec α) (x : α) : String := (c.write x).text

/-- The codec of a type that stands for another one. -/
def through (c : Codec α) (into : α → β) (back : β → α) : Codec β where
  read depth s := (c.read depth s).mapValue into
  fit origin j := (c.fit origin j).map into
  write x := c.write (back x)

/-- Refuses a JSON value where something else was expected. -/
def refuseValue (j : Json) (expected : String) : Except Cause α :=
  .error (.wrongType (found j) expected)

/-- Reads behind the blanks in front. -/
def blankThen (r : Reader α) : Reader α := fun s =>
  (Left.blank s).outcome (r (skipBlank s))

/-- Reads a text, or refuses what stands in its place. -/
def readText (expected : String) : Reader String := blankThen fun s =>
  match s with
  | .char '"' :: rest => (readQuote rest).behind _
  | s => refuseType expected s

/-- Texts. -/
def text : Codec String where
  read _ := readText "a string"
  fit _
    | .string s => .ok s
    | j => refuseValue j "a string"
  write := .string

/-- Reads a truth value. -/
def readFlag : Reader Bool := blankThen fun s =>
  match s with
  | .char 't' :: rest =>
    (skipWord ['r', 'u', 'e'] rest).map fun r => (true, r.behind _)
  | .char 'f' :: rest =>
    (skipWord ['a', 'l', 's', 'e'] rest).map fun r => (false, r.behind _)
  | s => refuseType "a boolean" s

/-- Truth values. -/
def flag : Codec Bool where
  read _ := readFlag
  fit _
    | .bool b => .ok b
    | j => refuseValue j "a boolean"
  write := .bool

/-- Values of any kind. -/
def any : Codec Json where
  read depth s := (readRaw depth s).mapValue canonical
  fit _ j := .ok j.canonical
  write j := j

/-- Values that may be `null`. -/
def optional (c : Codec α) : Codec (Option α) where
  read depth := blankThen fun s =>
    match s with
    | .char 'n' :: rest =>
      (skipWord ['u', 'l', 'l'] rest).map fun r => (none, r.behind _)
    | s => (c.read depth s).mapValue some
  fit origin
    | .null => .ok none
    | j => (c.fit origin j).map some
  write
    | some x => c.write x
    | none => .null

/-- Reads what stands between brackets, or refuses what stands in their place. -/
def readBracket (opening : Char) (expected : String) (depth : Nat) (inner : Nat → Reader α) :
    Reader α := blankThen fun s =>
  match s with
  | u :: rest =>
    if u = .char opening then
      match depth with
      | 0 => refuse (u :: rest) .nestedTooDeep
      | depth + 1 => (inner depth rest).behind u
    else refuseType expected (u :: rest)
  | [] => refuseType expected []

/-- Lists. -/
def list (c : Codec α) : Codec (List α) where
  read depth :=
    readBracket '[' "a sequence" depth fun depth => readItems (c.read depth) true
  fit origin
    | .array items => items.mapM (c.fit origin)
    | j => refuseValue j "a sequence"
  write l := .array (l.map c.write)

/-- Named variants without content. -/
structure Choice (α : Type) where
  variants : List (String × α)
  name : α → String

namespace Choice

def names (c : Choice α) : List String := c.variants.map Prod.fst

/-- The variant of a name. -/
def find (c : Choice α) (name : String) : Except Cause α :=
  match c.variants.lookup name with
  | some x => .ok x
  | none => .error (.unknownVariant name c.names)

/-- The variant of a name that was read up to `s`. -/
def findAt (c : Choice α) (name : String) (s : Source) : Except Fault α :=
  (c.find name).mapError fun cause => ⟨cause, some s.size⟩

/-- Reads the name of a variant. -/
def readName (c : Choice α) : Reader α := fun s =>
  match readText "variant identifier" s with
  | .error f => .error f
  | .ok (name, r) => (c.findAt name r.1).map fun x => (x, r)

/-- Reads the `null` that stands for the missing content of a variant. -/
def readUnit : Reader Unit := blankThen fun s =>
  match s with
  | .char 'n' :: rest =>
    (skipWord ['u', 'l', 'l'] rest).map fun r => ((), r.behind _)
  | s => refuseType "unit" s

/-- Reads a variant written as an object with one key, behind the opening bracket. -/
def readKeyed (c : Choice α) : Reader α := fun s =>
  (c.readName s).andThen fun x s =>
    (readField readUnit s).andThen fun _ s =>
      match h : skipBlank s with
      | [] => refuse [] .endInObject
      | u :: rest =>
        if u = .char '\x7d' then .ok (x, Rest.past h)
        else stop (u :: rest) .expectedValue

/-- Reads a variant: its name, or an object with its name as the one key. -/
def read (c : Choice α) (depth : Nat) : Reader α := blankThen fun s =>
  match s with
  | [] => refuse [] .endInValue
  | .char '"' :: rest => c.readName (.char '"' :: rest)
  | .char '\x7b' :: rest =>
    match depth with
    | 0 => refuse (.char '\x7b' :: rest) .nestedTooDeep
    | _ + 1 => (c.readKeyed rest).behind _
  | s => refuse s .expectedValue

/-- Whether a JSON value stands for missing content. -/
def isUnit : Origin → Json → Bool
  | _, .null => true
  | .gathered, .object [] => true
  | _, _ => false

/-- The variant that a JSON value names. -/
def fit (c : Choice α) (origin : Origin) : Json → Except Cause α
  | .string name => c.find name
  | .object [(name, content)] =>
    match c.find name with
    | .error cause => .error cause
    | .ok x => if isUnit origin content then .ok x else refuseValue content "unit"
  | .object _ => .error (.wrongValue .map "map with a single key")
  | j => refuseValue j "string or map"

end Choice

/-- Variants, written by name. -/
def choice (c : Choice α) : Codec α where
  read := c.read
  fit := c.fit
  write x := .string (c.name x)

/-- The place of a key in the order of the variants. -/
def Choice.rank [DecidableEq α] (c : Choice α) (x : α) : Nat :=
  c.variants.findIdx fun v => v.2 = x

/-- Sets the value of a key in a list sorted by the order of the variants. -/
def Choice.insert [DecidableEq α] (c : Choice α) (key : α) (value : β) :
    List (α × β) → List (α × β)
  | [] => [(key, value)]
  | (k, v) :: rest =>
    if key = k then (key, value) :: rest
    else if c.rank key < c.rank k then (key, value) :: (k, v) :: rest
    else (k, v) :: Choice.insert c key value rest

/-- Objects whose keys are variants, sorted by the order of the variants. -/
def keyed [DecidableEq α] (keys : Choice α) (c : Codec β) : Codec (List (α × β)) where
  read depth :=
    readBracket '\x7b' "a map" depth fun depth =>
      readEntries (fun acc name s =>
        match keys.findAt name s with
        | .error f => .error f
        | .ok key => (readField (c.read depth) s).mapValue fun x => keys.insert key x acc) true []
  fit origin
    | .object fields =>
      fields.foldlM (fun acc field => do
        let key ← keys.find field.1
        let x ← c.fit origin field.2
        pure (keys.insert key x acc)) []
    | j => refuseValue j "a map"
  write l := .object (l.map fun p => (keys.name p.1, c.write p.2))

end Codec

end CourseLaunch.Wire
