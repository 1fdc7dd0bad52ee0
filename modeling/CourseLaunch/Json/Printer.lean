import CourseLaunch.Json.Value
/-!
# JSON text

Compact text, and text with one item a line indented by two blanks. A quotation mark, a backslash
and the control characters below U+0020 are escaped, and nothing else.
-/

namespace CourseLaunch.Json

/-- The hexadecimal digit of a number below sixteen, in lower case. -/
def hexDigit (n : Nat) : Char := Nat.digitChar n

/-- The characters that stand for `c` between quotation marks. -/
def escape (c : Char) : List Char :=
  if c = '"' then ['\\', '"']
  else if c = '\\' then ['\\', '\\']
  else if 0x20 ≤ c.toNat then [c]
  else if c = '\x08' then ['\\', 'b']
  else if c = '\x0c' then ['\\', 'f']
  else if c = '\n' then ['\\', 'n']
  else if c = '\r' then ['\\', 'r']
  else if c = '\t' then ['\\', 't']
  else ['\\', 'u', '0', '0', hexDigit (c.toNat / 16), hexDigit (c.toNat % 16)]

def quote (s : String) : List Char :=
  '"' :: s.toList.flatMap escape ++ ['"']

/-- The lists in brackets, with commas between them. -/
def bracket (opening closing : Char) (parts : List (List Char)) : List Char :=
  opening :: [','].intercalate parts ++ [closing]

mutual

/-- The characters of the compact text. -/
def chars : Json → List Char
  | .null => ['n', 'u', 'l', 'l']
  | .bool true => ['t', 'r', 'u', 'e']
  | .bool false => ['f', 'a', 'l', 's', 'e']
  | .number n => n.text.toList
  | .string s => quote s
  | .array items => bracket '[' ']' (itemChars items)
  | .object fields => bracket '\x7b' '\x7d' (fieldChars fields)

/-- The compact text of each item. -/
def itemChars : List Json → List (List Char)
  | [] => []
  | item :: rest => chars item :: itemChars rest

/-- The compact text of each field. -/
def fieldChars : List (String × Json) → List (List Char)
  | [] => []
  | (key, value) :: rest => (quote key ++ ':' :: chars value) :: fieldChars rest

end

def text (j : Json) : String := String.ofList (chars j)

/-- The lists in brackets, one a line at the given depth, and nothing between the brackets when
there are none. -/
def block (depth : Nat) (opening closing : Char) (parts : List (List Char)) : List Char :=
  if parts.isEmpty then [opening, closing]
  else
    let line (d : Nat) := '\n' :: List.replicate (2 * d) ' '
    opening :: [','].intercalate (parts.map (line (depth + 1) ++ ·)) ++ line depth ++ [closing]

mutual

/-- The characters of the indented text of a value that stands at the given depth. -/
def indentedChars (depth : Nat) : Json → List Char
  | .array items => block depth '[' ']' (indentedItems (depth + 1) items)
  | .object fields => block depth '\x7b' '\x7d' (indentedFields (depth + 1) fields)
  | j => chars j

/-- The indented text of each item. -/
def indentedItems (depth : Nat) : List Json → List (List Char)
  | [] => []
  | item :: rest => indentedChars depth item :: indentedItems depth rest

/-- The indented text of each field. -/
def indentedFields (depth : Nat) : List (String × Json) → List (List Char)
  | [] => []
  | (key, value) :: rest =>
    (quote key ++ [':', ' '] ++ indentedChars depth value) :: indentedFields depth rest

end

/-- The text with one item a line. -/
def indented (j : Json) : String := String.ofList (indentedChars 0 j)

end CourseLaunch.Json
