import CourseLaunch.Json.Value
import CourseLaunch.Text.Octets
import CourseLaunch.Text.Quoted
/-!
# Why JSON was refused

A fault is a cause and, when the value was read from text, the place where reading stopped. The
place is kept as the number of octets left to read; lines and columns are worked out when the
message is written. Lines count from one, and a column is the number of octets since the line
began.
-/

namespace CourseLaunch.Json

/-- What stood where something else was expected. -/
inductive Found where
  | null
  | bool (b : Bool)
  | number (n : Number)
  | string (s : String)
  | sequence
  | map
deriving DecidableEq, Repr

/-- The kind of a value, as messages name it. -/
def found : Json → Found
  | .null => .null
  | .bool b => .bool b
  | .number n => .number n
  | .string s => .string s
  | .array _ => .sequence
  | .object _ => .map

/-- The name of a kind in messages. -/
def Found.text : Found → String
  | .null => "null"
  | .bool b => "boolean `" ++ toString b ++ "`"
  | .number (.int i) => "integer `" ++ toString i ++ "`"
  | .number (.real r) => "floating point `" ++ r.text ++ "`"
  | .string s => "string " ++ Text.quoted s
  | .sequence => "sequence"
  | .map => "map"

/-- Why reading stopped. The first group is about the grammar, the second about the shape. -/
inductive Cause where
  | endInList
  | endInObject
  | endInString
  | endInValue
  | expectedColon
  | expectedListEnd
  | expectedObjectEnd
  | expectedWord
  | expectedValue
  | invalidEscape
  | invalidNumber
  | numberOutOfRange
  | invalidCharacter
  | controlCharacter
  | keyNotString
  | loneSurrogate
  | surrogateCutShort
  | trailingComma
  | trailingCharacters
  | nestedTooDeep
  | wrongType (found : Found) (expected : String)
  | wrongValue (found : Found) (expected : String)
  | wrongLength (length : Nat) (expected : String)
  | unknownVariant (name : String) (known : List String)
  | missingField (name : String)
  | duplicateField (name : String)
deriving DecidableEq, Repr

/-- A name in backquotes. -/
def ticked (name : String) : String := "`" ++ name ++ "`"

/-- The choice among the known names. -/
def choiceText : List String → String
  | [a, b] => ticked a ++ " or " ++ ticked b
  | [a] => ticked a
  | known => "one of " ++ ", ".intercalate (known.map ticked)

/-- The message of a cause. -/
def Cause.text : Cause → String
  | .endInList => "EOF while parsing a list"
  | .endInObject => "EOF while parsing an object"
  | .endInString => "EOF while parsing a string"
  | .endInValue => "EOF while parsing a value"
  | .expectedColon => "expected `:`"
  | .expectedListEnd => "expected `,` or `]`"
  | .expectedObjectEnd => "expected `,` or `\x7d`"
  | .expectedWord => "expected ident"
  | .expectedValue => "expected value"
  | .invalidEscape => "invalid escape"
  | .invalidNumber => "invalid number"
  | .numberOutOfRange => "number out of range"
  | .invalidCharacter => "invalid unicode code point"
  | .controlCharacter =>
    "control character (\\u0000-\\u001F) found while parsing a string"
  | .keyNotString => "key must be a string"
  | .loneSurrogate => "lone leading surrogate in hex escape"
  | .surrogateCutShort => "unexpected end of hex escape"
  | .trailingComma => "trailing comma"
  | .trailingCharacters => "trailing characters"
  | .nestedTooDeep => "recursion limit exceeded"
  | .wrongType found expected => "invalid type: " ++ found.text ++ ", expected " ++ expected
  | .wrongValue found expected => "invalid value: " ++ found.text ++ ", expected " ++ expected
  | .wrongLength length expected =>
    "invalid length " ++ toString length ++ ", expected " ++ expected
  | .unknownVariant name known =>
    "unknown variant " ++ ticked name ++ ", expected " ++ choiceText known
  | .missingField name => "missing field " ++ ticked name
  | .duplicateField name => "duplicate field " ++ ticked name

/-- A text to be read as JSON, in symbols. -/
abbrev Source := List Text.Symbol

namespace Source

def ofString (s : String) : Source := s.toList.map .char

def size (s : Source) : Nat := s.foldr (fun u n => u.width + n) 0

end Source

/-- A cause, with the number of octets that were left, if the value was read from text. -/
structure Fault where
  cause : Cause
  left : Option Nat
deriving DecidableEq, Repr

/-- A place in a text. -/
structure Place where
  line : Nat
  column : Nat
deriving DecidableEq, Repr

/-- The place reached after `count` octets. -/
def Place.after : Source → Nat → Place
  | s, count => go s count ⟨1, 0⟩
where
  /-- The place `count` octets after `place`. -/
  go : Source → Nat → Place → Place
    | [], _, place => place
    | _, 0, place => place
    | u :: rest, count, place =>
      if u = .char '\n' then go rest (count - 1) ⟨place.line + 1, 0⟩
      else if count < u.width then ⟨place.line, place.column + count⟩
      else go rest (count - u.width) ⟨place.line, place.column + u.width⟩

/-- The message of a fault that arose while `s` was read. -/
def Fault.text (s : Source) (fault : Fault) : String :=
  match fault.left with
  | none => fault.cause.text
  | some left =>
    let place := Place.after s (s.size - left)
    fault.cause.text ++ " at line " ++ toString place.line ++ " column " ++ toString place.column

end CourseLaunch.Json
