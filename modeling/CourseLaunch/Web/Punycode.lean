import CourseLaunch.Text.Split
/-!
# Labels in ASCII letters

A label with characters beyond ASCII is written as its ASCII characters, a hyphen, and numbers of
variable length that say where the others belong. The characters are inserted in ascending order,
and each number counts the steps from one insertion to the next.
-/

namespace CourseLaunch.Web.Punycode

def digitChar (n : Nat) : Char :=
  if n < 26 then Char.ofNat ('a'.toNat + n) else Char.ofNat ('0'.toNat + n - 26)

/-- The value of a digit. -/
def digitValue? (c : Char) : Option Nat :=
  if 'a' ≤ c && c ≤ 'z' then some (c.toNat - 'a'.toNat)
  else if 'A' ≤ c && c ≤ 'Z' then some (c.toNat - 'A'.toNat)
  else if c.isDigit then some (c.toNat - '0'.toNat + 26)
  else none

/-- The value below which a digit at position `k` is the last one. -/
def threshold (k bias : Nat) : Nat :=
  if k ≤ bias then 1 else if bias + 26 ≤ k then 26 else k - bias

theorem threshold_pos (k bias : Nat) : 1 ≤ threshold k bias := by
  unfold threshold; repeat' split
  all_goals omega

theorem threshold_le (k bias : Nat) : threshold k bias ≤ 26 := by
  unfold threshold; repeat' split
  all_goals omega

/-- The bias for a number of the given size, reached after `k`. -/
def settle (delta k : Nat) : Nat :=
  if 455 < delta then settle (delta / 35) (k + 36) else k + 36 * delta / (delta + 38)
termination_by delta
decreasing_by exact Nat.div_lt_self (by omega) (by decide)

/-- The bias after a number, when there are `count` characters. -/
def adapt (delta count : Nat) (first : Bool) : Nat :=
  let halved := if first then delta / 700 else delta / 2
  settle (halved + halved / count) 0

/-- The digits of a number from position `k` on. -/
def digits (bias k q : Nat) : List Char :=
  let t := threshold k bias
  if q < t then [digitChar q]
  else digitChar (t + (q - t) % (36 - t)) :: digits bias (k + 36) ((q - t) / (36 - t))
termination_by q
decreasing_by
  have h1 := threshold_pos k bias
  have h2 := threshold_le k bias
  rename_i h
  calc
    (q - threshold k bias) / (36 - threshold k bias) ≤ q - threshold k bias := Nat.div_le_self _ _
    _ < q := by omega

/-- How far the writer has come. -/
structure Writing where
  output : List Char
  delta : Nat
  bias : Nat
  handled : Nat
  basic : Nat

/-- Passes a character of the label while those with the code point `m` are inserted. -/
def Writing.pass (m : Nat) (w : Writing) (c : Char) : Writing :=
  if c.toNat < m then { w with delta := w.delta + 1 }
  else if c.toNat = m then
    ⟨w.output ++ digits w.bias 36 w.delta, 0,
      adapt w.delta (w.handled + 1) (w.handled == w.basic), w.handled + 1, w.basic⟩
  else w

/-- Inserts the characters with each of the code points, which ascend from `n`. -/
def Writing.insertAll (label : List Char) (w : Writing) (n : Nat) : List Nat → Writing
  | [] => w
  | m :: rest =>
    let start := { w with delta := w.delta + (m - n) * (w.handled + 1) }
    let stop := label.foldl (Writing.pass m) start
    insertAll label { stop with delta := stop.delta + 1 } (m + 1) rest

/-- Puts a number in an ascending list where it is not yet. -/
def ascending (n : Nat) : List Nat → List Nat
  | [] => [n]
  | m :: rest =>
    if n < m then n :: m :: rest else if n = m then m :: rest else m :: ascending n rest

/-- The ASCII letters of a label. -/
def encode (label : List Char) : List Char :=
  let basic := label.filter fun c => c.toNat < 0x80
  let others := (label.filter fun c => 0x80 ≤ c.toNat).map Char.toNat
  let start := if basic.isEmpty then [] else basic ++ ['-']
  (Writing.insertAll label ⟨start, 0, 72, basic.length, basic.length⟩ 0x80
    (others.foldl (fun l n => ascending n l) [])).output

/-- How far the reader has come: the label so far, the next code point and place, and the number
that is being read. -/
structure Reading where
  output : List Char
  code : Nat
  place : Nat
  bias : Nat
  sum : Nat
  weight : Nat
  position : Nat

/-- Inserts a character once its number is complete. -/
def Reading.insert? (r : Reading) : Option Reading :=
  let count := r.output.length + 1
  let total := r.place + r.sum
  let code := r.code + total / count
  let place := total % count
  if code.isValidChar then
    some ⟨r.output.take place ++ Char.ofNat code :: r.output.drop place, code, place + 1,
      adapt r.sum count (r.place == 0), 0, 1, 36⟩
  else none

/-- Reads digits. -/
def Reading.read (r : Reading) : List Char → Option (List Char)
  | [] => if r.position = 36 then some r.output else none
  | c :: rest =>
    match digitValue? c with
    | none => none
    | some d =>
      let t := threshold r.position r.bias
      let sum := r.sum + d * r.weight
      if d < t then ({ r with sum := sum }.insert?).bind fun r => r.read rest
      else read { r with
        sum := sum, weight := r.weight * (36 - t), position := r.position + 36 } rest

/-- The label of ASCII letters. -/
def decode? (cs : List Char) : Option (List Char) :=
  let (basic, numbers) := Text.splitLast (· == '-') cs
  let start := basic.getD []
  if start.all fun c => c.toNat < 0x80 then Reading.read ⟨start, 0x80, 0, 72, 0, 1, 36⟩ numbers
  else none

end CourseLaunch.Web.Punycode
