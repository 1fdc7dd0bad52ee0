import CourseLaunch.Decimal.Shortest
/-!
# JSON values

Values with whole numbers and binary64 numbers kept apart, and objects as lists of fields. The
order of the fields is part of the value, so that a record can be printed in the order of its
definition; `canonical` sorts every object by key and keeps the last of several equal keys.
-/

namespace CourseLaunch

/-- A JSON number. -/
inductive Json.Number where
  | int (value : Int)
  | real (value : Decimal.Binary64)
deriving DecidableEq, Repr

/-- A JSON value. -/
inductive Json where
  | null
  | bool (b : Bool)
  | number (n : Json.Number)
  | string (s : String)
  | array (items : List Json)
  | object (fields : List (String × Json))
deriving Repr

namespace Json

/-- The text of a number. -/
def Number.text : Number → String
  | .int value => toString value
  | .real value => value.text

/-- Sets a key in a list of fields sorted by key. -/
def insertField (key : String) (value : Json) : List (String × Json) → List (String × Json)
  | [] => [(key, value)]
  | (k, v) :: rest =>
    if key = k then (key, value) :: rest
    else if key < k then (key, value) :: (k, v) :: rest
    else (k, v) :: insertField key value rest

mutual

/-- The value with every object sorted by key, where the last of several equal keys counts. -/
def canonical : Json → Json
  | .null => .null
  | .bool b => .bool b
  | .number n => .number n
  | .string s => .string s
  | .array items => .array (canonicalItems items)
  | .object fields => .object (canonicalFields [] fields)

/-- The items, each in canonical form. -/
def canonicalItems : List Json → List Json
  | [] => []
  | item :: rest => canonical item :: canonicalItems rest

/-- The sorted fields `sorted` with the given ones set in turn. -/
def canonicalFields (sorted : List (String × Json)) :
    List (String × Json) → List (String × Json)
  | [] => sorted
  | (key, value) :: rest => canonicalFields (insertField key (canonical value) sorted) rest

end

def ofNat (n : Nat) : Json := .number (.int n)

def ofStrings (l : List String) : Json := .array (l.map .string)

/-- An optional text, `null` when absent. -/
def ofString? : Option String → Json
  | some s => .string s
  | none => .null

/-- The value of the first field with the given key. -/
def field? (key : String) : Json → Option Json
  | .object fields => fields.lookup key
  | _ => none

/-- The text of a string value. -/
def string? : Json → Option String
  | .string s => some s
  | _ => none

/-- The items of an array. -/
def items? : Json → Option (List Json)
  | .array items => some items
  | _ => none

/-- Whether the value is `null`. -/
def isNull : Json → Bool
  | .null => true
  | _ => false

end Json

end CourseLaunch
