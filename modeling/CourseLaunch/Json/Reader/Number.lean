import CourseLaunch.Json.Reader.Basic
/-!
# Reading numbers

A number without fraction and exponent is whole when it lies between `-2 ^ 63` and `2 ^ 64`, and
all others are binary64. Of the digits, those are taken that keep the significand below `2 ^ 64`.
-/

namespace CourseLaunch.Json

/-- The digits gathered so far: their value, how many were taken, and how many were dropped since
the value would have become too great. -/
structure Digits where
  value : Nat
  taken : Nat
  dropped : Nat
deriving DecidableEq, Repr

/-- Adds a digit to those gathered so far. -/
def Digits.push (d : Digits) (c : Char) : Digits :=
  let v := d.value * 10 + (c.toNat - '0'.toNat)
  if d.dropped = 0 ∧ v < Nat.pow 2 64 then ⟨v, d.taken + 1, 0⟩
  else { d with dropped := d.dropped + 1 }

/-- The digit in front. -/
def frontDigit? : Source → Option Char
  | .char c :: _ => if c.isDigit then some c else none
  | _ => none

/-- Gathers the digits in front. -/
def gather (d : Digits) : (s : Source) → Digits × Left s
  | [] => (d, Left.all [])
  | u :: rest =>
    match frontDigit? (u :: rest) with
    | some c =>
      let p := gather (d.push c) rest
      (p.1, (p.2.behind u).left)
    | none => (d, Left.all (u :: rest))

/-- The greatest exponent that is worked out; beyond it the sign of the exponent decides. -/
def greatestExponent : Nat := Nat.pow 2 31 - 1

/-- Reads the digits of an exponent of which `value` is known. The second part is the text behind
the digit that made it too great. -/
def gatherExponent (value : Nat) : (s : Source) → Nat × Option Source × Left s
  | [] => (value, none, Left.all [])
  | u :: rest =>
    match frontDigit? (u :: rest) with
    | some c =>
      let v := value * 10 + (c.toNat - '0'.toNat)
      if greatestExponent < v then
        (v, some rest, ((gather ⟨0, 0, 0⟩ rest).2.behind u).left)
      else
        let p := gatherExponent v rest
        (p.1, p.2.1, (p.2.2.behind u).left)
    | none => (value, none, Left.all (u :: rest))

/-- The sign of an exponent, and the text behind it. -/
def exponentSign : (s : Source) → Bool × Left s
  | .char '+' :: rest => (false, (Rest.tail _ rest).left)
  | .char '-' :: rest => (true, (Rest.tail _ rest).left)
  | s => (false, Left.all s)

/-- The number `significand * 10 ^ exponent` in front of `s`. -/
def real (negative : Bool) (significand : Nat) (exponent : Int) (s : Source) :
    Except Fault (Number × Left s) :=
  match Decimal.Magnitude.ofDecimal? significand exponent with
  | some m => .ok (.real ⟨negative, m⟩, Left.all s)
  | none => stop s .numberOutOfRange

/-- Whether an exponent follows. -/
def marksExponent : Source → Bool
  | .char c :: _ => c == 'e' || c == 'E'
  | _ => false

/-- Reads the exponent behind its mark. -/
def readExponent (negative : Bool) (significand : Nat) (exponent : Int) (s : Source) :
    Except Fault (Number × Left s) :=
  let (down, r) := exponentSign s
  match r.1, frontDigit? r.1 with
  | [], _ => stop [] .endInValue
  | _, none => refuse r.1 .invalidNumber
  | _, some _ =>
    let (v, tooGreat, r') := gatherExponent 0 r.1
    let left := r.then r'
    match tooGreat with
    | some place =>
      if significand ≠ 0 ∧ !down then stop place .numberOutOfRange
      else .ok (.real ⟨negative, .zero⟩, left)
    | none =>
      (real negative significand (exponent + if down then -(v : Int) else v) left.1).map
        fun p => (p.1, left.then p.2)

/-- Reads the exponent, if there is one. -/
def readScale (negative : Bool) (significand : Nat) (exponent : Int) (s : Source) :
    Except Fault (Number × Left s) :=
  match s with
  | [] => real negative significand exponent []
  | u :: rest =>
    if marksExponent (u :: rest) then
      (readExponent negative significand exponent rest).map
        fun p => (p.1, (p.2.behind u).left)
    else real negative significand exponent (u :: rest)

/-- The number without fraction and exponent that the digits stand for. -/
def whole (negative : Bool) (d : Digits) (s : Source) : Except Fault (Number × Left s) :=
  if d.dropped ≠ 0 ∨ negative ∧ (d.value = 0 ∨ Nat.pow 2 63 < d.value) then
    real negative d.value d.dropped s
  else
    .ok (.int (if negative then -(d.value : Int) else d.value), Left.all s)

/-- Reads what follows the whole digits. -/
def readFraction (negative : Bool) (d : Digits) (s : Source) : Except Fault (Number × Left s) :=
  match s with
  | [] => whole negative d []
  | u :: rest =>
    if u = .char '.' then
      let (e, r) := gather ⟨d.value, 0, 0⟩ rest
      if e.taken + e.dropped = 0 then
        refuse r.1 (if r.1.isEmpty then .endInValue else .invalidNumber)
      else
        (readScale negative e.value (d.dropped - e.taken) r.1).map
          fun p => (p.1, ((r.then p.2).behind u).left)
    else if marksExponent (u :: rest) then readScale negative d.value d.dropped (u :: rest)
    else whole negative d (u :: rest)

/-- Reads a number behind its sign. -/
def readMagnitude (negative : Bool) (s : Source) : Outcome Number s :=
  match s with
  | [] => stop [] .endInValue
  | u :: rest =>
    match frontDigit? (u :: rest) with
    | none => refuse (u :: rest) .invalidNumber
    | some c =>
      if c = '0' ∧ (frontDigit? rest).isSome then refuse rest .invalidNumber
      else
        let (d, r) := gather (Digits.push ⟨0, 0, 0⟩ c) rest
        (readFraction negative d r.1).map
          fun p => (p.1, (r.then p.2).behind u)

/-- Reads a number. -/
def readNumber (s : Source) : Outcome Number s :=
  match s with
  | [] => stop [] .endInValue
  | u :: rest =>
    if u = .char '-' then (readMagnitude true rest).behind u
    else readMagnitude false (u :: rest)

/-- Skips digits, at least one. -/
def skipDigits (s : Source) : Except Fault (Rest s) :=
  match s with
  | [] => refuse [] .invalidNumber
  | u :: rest =>
    if (frontDigit? (u :: rest)).isSome then
      .ok ((gather ⟨0, 0, 0⟩ rest).2.behind u)
    else refuse (u :: rest) .invalidNumber

/-- Skips the exponent, if there is one. -/
def skipScale (s : Source) : Except Fault (Left s) :=
  match s with
  | [] => .ok (Left.all [])
  | u :: rest =>
    if marksExponent (u :: rest) then
      let r := (exponentSign rest).2
      (skipDigits r.1).map fun r' => ((r.thenRest r').behind u).left
    else .ok (Left.all (u :: rest))

/-- Skips the fraction and the exponent, if they are there. -/
def skipFraction (s : Source) : Except Fault (Left s) :=
  match s with
  | [] => .ok (Left.all [])
  | u :: rest =>
    if u = .char '.' then
      match skipDigits rest with
      | .error f => .error f
      | .ok r =>
        (skipScale r.1).map fun r' => ((r.then r').behind u).left
    else skipScale (u :: rest)

/-- Skips a number behind its sign. -/
def skipMagnitude (s : Source) : Except Fault (Rest s) :=
  match s with
  | [] => refuse [] .invalidNumber
  | u :: rest =>
    if u = .char '0' ∧ (frontDigit? rest).isSome then refuse rest .invalidNumber
    else
      match skipDigits (u :: rest) with
      | .error f => .error f
      | .ok r => (skipFraction r.1).map fun r' => r.then r'

/-- Skips a number. -/
def skipNumber (s : Source) : Except Fault (Rest s) :=
  match s with
  | [] => refuse [] .invalidNumber
  | u :: rest =>
    if u = .char '-' then (skipMagnitude rest).map fun r => r.behind u
    else skipMagnitude (u :: rest)

end CourseLaunch.Json
