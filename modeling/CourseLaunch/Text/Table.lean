/-!
# Tables of characters

A table lists ranges of code points, each with the numbers that belong to it. It is written as
text: `41-5A=61` for a range, `100/12E=101` for every second code point, `C6` for a single one,
and `DF=73.73` for several numbers, all hexadecimal.
-/

namespace CourseLaunch.Text

/-- A range of code points, every `step`-th of them, and the numbers that belong to it. -/
structure Row where
  first : Nat
  last : Nat
  step : Nat
  numbers : List Nat
deriving DecidableEq, Repr

abbrev Table := List Row

/-- The value of a hexadecimal digit, zero for other characters. -/
def tableDigit (c : Char) : Nat :=
  if c.isDigit then c.toNat - '0'.toNat
  else if 'A' ≤ c && c ≤ 'F' then c.toNat - 'A'.toNat + 10
  else 0

/-- The number that hexadecimal digits stand for. -/
def tableNumber (cs : List Char) : Nat := cs.foldl (fun n c => 16 * n + tableDigit c) 0

namespace Row

def covers (r : Row) (n : Nat) : Bool := r.first ≤ n && n ≤ r.last && (n - r.first) % r.step == 0

/-- A row under construction: the mark last seen and the digits behind it. -/
structure Draft where
  row : Row
  mark : Char
  digits : List Char

/-- Puts the digits where they belong. -/
def Draft.settle (d : Draft) : Row :=
  let n := tableNumber d.digits.reverse
  if d.mark = '-' then { d.row with last := n }
  else if d.mark = '/' then { d.row with last := n, step := 2 }
  else if d.mark = '=' ∨ d.mark = '.' then { d.row with numbers := d.row.numbers ++ [n] }
  else ⟨n, n, 1, []⟩

end Row

/-- Reads the rows behind a draft. -/
def Table.read (draft : Row.Draft) : List Char → List Row
  | [] => if draft.digits.isEmpty then [] else [draft.settle]
  | c :: rest =>
    if c = ' ' ∨ c = '\n' then
      if draft.digits.isEmpty then read draft rest
      else draft.settle :: read ⟨⟨0, 0, 1, []⟩, ' ', []⟩ rest
    else if c = '-' ∨ c = '/' ∨ c = '=' ∨ c = '.' then read ⟨draft.settle, c, []⟩ rest
    else read { draft with digits := c :: draft.digits } rest

namespace Table

def ofText (s : String) : Table := read ⟨⟨0, 0, 1, []⟩, ' ', []⟩ s.toList

def row? (t : Table) (c : Char) : Option Row := t.find? fun r => r.covers c.toNat

def contains (t : Table) (c : Char) : Bool := t.any fun r => r.covers c.toNat

/-- The number that belongs to all characters of a range. -/
def constant? (t : Table) (c : Char) : Option Nat := (t.row? c).bind fun r => r.numbers.head?

/-- The characters that belong to a character. In a range, the only number belongs to its first
character, and the others follow it. -/
def sequence? (t : Table) (c : Char) : Option (List Char) :=
  (t.row? c).map fun r =>
    match r.numbers with
    | [n] => [Char.ofNat (n + (c.toNat - r.first))]
    | ns => ns.map Char.ofNat

/-- The character to which the given numbers belong. -/
def inverse? (t : Table) (numbers : List Nat) : Option Char :=
  (t.find? fun r => r.numbers = numbers).map fun r => Char.ofNat r.first

end Table

end CourseLaunch.Text
