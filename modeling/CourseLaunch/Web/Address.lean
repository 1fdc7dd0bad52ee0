import CourseLaunch.Text.Split
/-!
# Numeric addresses

Addresses of four and of sixteen octets. The shorter ones are read with up to four numbers in
decimal, octal or hexadecimal, of which the last fills the octets that are left. The longer ones
are eight groups of hexadecimal digits; one run of groups that are zero may be left out, and the
last two groups may be a shorter address.
-/

namespace CourseLaunch.Web

/-- The value of a digit in bases up to sixteen. -/
def digit? (base : Nat) (c : Char) : Option Nat :=
  let n :=
    if c.isDigit then c.toNat - '0'.toNat
    else if 'a' ≤ c && c ≤ 'f' then c.toNat - 'a'.toNat + 10
    else if 'A' ≤ c && c ≤ 'F' then c.toNat - 'A'.toNat + 10
    else base
  if n < base then some n else none

/-- The number that digits stand for, zero if there are none. -/
def number? (base : Nat) (cs : List Char) : Option Nat :=
  cs.foldlM (fun n c => (digit? base c).map (n * base + ·)) 0

/-- The number of a part of a short address. -/
def partNumber? : List Char → Option Nat
  | [] => none
  | '0' :: 'x' :: rest => number? 16 rest
  | '0' :: 'X' :: rest => number? 16 rest
  | '0' :: c :: rest => number? 8 (c :: rest)
  | cs => number? 10 cs

/-- The parts of a name, without an empty one at the end. -/
def addressParts (cs : List Char) : List (List Char) :=
  let parts := Text.splitAll (· == '.') cs
  if parts.getLast? = some [] ∧ 1 < parts.length then parts.dropLast else parts

/-- Whether a name has to be a short address, since its last part is a number. -/
def endsInNumber (cs : List Char) : Bool :=
  match (addressParts cs).getLast? with
  | none => false
  | some part => (!part.isEmpty && part.all Char.isDigit) || (partNumber? part).isSome

/-- The value of the parts of a short address when `room` octets are left. -/
def shortValue? (room : Nat) : List Nat → Option Nat
  | [] => none
  | [n] => if n < Nat.pow 256 room then some n else none
  | n :: rest =>
    if n < 256 then (shortValue? (room - 1) rest).map (n * Nat.pow 256 (room - 1) + ·) else none

/-- The short address of a name. -/
def shortAddress? (cs : List Char) : Option Nat :=
  let parts := addressParts cs
  if 4 < parts.length then none else (parts.mapM partNumber?).bind (shortValue? 4)

def decimal (n : Nat) : List Char := Nat.toDigits 10 n

/-- The text of a short address. -/
def shortText (n : Nat) : List Char :=
  ['.'].intercalate
    [decimal (n / Nat.pow 256 3), decimal (n / Nat.pow 256 2 % 256), decimal (n / 256 % 256),
      decimal (n % 256)]

/-- The value of a group of a long address. -/
def group? (cs : List Char) : Option Nat :=
  if cs.isEmpty || 4 < cs.length then none else number? 16 cs

/-- The value of an octet of a short address inside a long one. -/
def octet? (cs : List Char) : Option Nat :=
  if cs.isEmpty || 3 < cs.length || (cs.head? = some '0' && 1 < cs.length) then none
  else (number? 10 cs).filter (· < 256)

/-- The two groups of a short address inside a long one. -/
def shortGroups? (cs : List Char) : Option (List Nat) :=
  match (Text.splitAll (· == '.') cs).mapM octet? with
  | some [a, b, c, d] => some [a * 256 + b, c * 256 + d]
  | _ => none

/-- The groups of one side of a long address. -/
def groups? (isLast : Bool) : List (List Char) → Option (List Nat)
  | [] => some []
  | [part] =>
    if isLast && part.contains '.' then shortGroups? part else (group? part).map fun n => [n]
  | part :: rest => do return (← group? part) :: (← groups? isLast rest)

/-- The groups of one side of a long address, which may be empty. -/
def sideGroups? (isLast : Bool) (cs : List Char) : Option (List Nat) :=
  if cs.isEmpty then some [] else groups? isLast (Text.splitAll (· == ':') cs)

/-- What stands before and behind the first two colons in a row. -/
def splitDoubleColon : List Char → List Char × Option (List Char)
  | ':' :: ':' :: rest => ([], some rest)
  | c :: rest =>
    let (before, behind) := splitDoubleColon rest
    (c :: before, behind)
  | [] => ([], none)

/-- The long address of a text without its brackets, as eight groups. -/
def longAddress? (cs : List Char) : Option (List Nat) := do
  match splitDoubleColon cs with
  | (whole, none) =>
    let groups ← sideGroups? true whole
    if groups.length = 8 then some groups else none
  | (before, some behind) =>
    let left ← sideGroups? false before
    let right ← sideGroups? true behind
    if left.length + right.length < 8 then
      some (left ++ List.replicate (8 - left.length - right.length) 0 ++ right)
    else none

def zeroRun (groups : List Nat) : Nat := (groups.takeWhile (· == 0)).length

/-- The start and the length of the first of the longest runs of zeros, from position `i` on. -/
def longestRun (i : Nat) : List Nat → Nat × Nat
  | [] => (0, 0)
  | n :: rest =>
    let later := longestRun (i + 1) rest
    let here := zeroRun (n :: rest)
    if later.2 ≤ here then (i, here) else later

/-- The hexadecimal text of groups, with colons between them. -/
def groupsText (groups : List Nat) : List Char := [':'].intercalate (groups.map (Nat.toDigits 16))

/-- The text of a long address, with the first of the longest runs of zeros left out. -/
def longText (groups : List Nat) : List Char :=
  let (start, length) := longestRun 0 groups
  if length < 2 then groupsText groups
  else groupsText (groups.take start) ++ [':', ':'] ++ groupsText (groups.drop (start + length))

end CourseLaunch.Web
