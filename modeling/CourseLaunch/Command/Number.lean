/-!
# Numbers in arguments

Whole numbers in decimal digits, perhaps behind a sign, within the range of a machine word. The
first character that goes wrong decides what is told.
-/

namespace CourseLaunch.Command

/-- Why a text is no number. -/
inductive NumberFault where
  | empty
  | invalidDigit
  | tooLarge
  | tooSmall
deriving DecidableEq, Repr

/-- The message of a fault. -/
def NumberFault.text : NumberFault → String
  | .empty => "cannot parse integer from empty string"
  | .invalidDigit => "invalid digit found in string"
  | .tooLarge => "number too large to fit in target type"
  | .tooSmall => "number too small to fit in target type"

/-- Reads digits behind those that make up `n`, up to a limit. -/
def readDigits (limit : Nat) (beyond : NumberFault) (n : Nat) :
    List Char → Except NumberFault Nat
  | [] => .ok n
  | c :: rest =>
    if !c.isDigit then .error .invalidDigit
    else
      let m := 10 * n + (c.toNat - '0'.toNat)
      if limit < m then .error beyond else readDigits limit beyond m rest

/-- Reads digits, of which there is at least one. -/
def readSome (limit : Nat) (beyond : NumberFault) : List Char → Except NumberFault Nat
  | [] => .error .invalidDigit
  | cs => readDigits limit beyond 0 cs

/-- A machine word of 64 bits, with or without a sign. -/
inductive Word where
  | signed
  | unsigned
deriving DecidableEq, Repr

/-- Reads a number. -/
def Word.read (w : Word) (s : String) : Except NumberFault Int :=
  match w, s.toList with
  | _, [] => .error .empty
  | .signed, '-' :: cs => (readSome (Nat.pow 2 63) .tooSmall cs).map fun n => -(n : Int)
  | .signed, '+' :: cs => (readSome (Nat.pow 2 63 - 1) .tooLarge cs).map Int.ofNat
  | .signed, cs => (readSome (Nat.pow 2 63 - 1) .tooLarge cs).map Int.ofNat
  | .unsigned, '+' :: cs => (readSome (Nat.pow 2 64 - 1) .tooLarge cs).map Int.ofNat
  | .unsigned, cs => (readSome (Nat.pow 2 64 - 1) .tooLarge cs).map Int.ofNat

/-- A range of numbers, ends included, and the word they are read into. -/
structure Range where
  word : Word
  low : Nat
  high : Nat
deriving DecidableEq, Repr

/-- Reads a number of a range, or says why it is none. -/
def Range.read (r : Range) (s : String) : Except String Nat :=
  match r.word.read s with
  | .error fault => .error fault.text
  | .ok n =>
    if (r.low : Int) ≤ n ∧ n ≤ r.high then .ok n.toNat
    else .error (toString n ++ " is not in " ++ toString r.low ++ "..=" ++ toString r.high)

end CourseLaunch.Command
