/-!
# Binary floating point

Magnitudes of finite binary64 numbers as exact pairs of a mantissa and a binary exponent, with the
one rounding (to nearest, a tie to the even mantissa) that every operation on them applies.
-/

namespace CourseLaunch.Decimal

/-- A magnitude `mantissa * 2 ^ exponent`. -/
structure Magnitude where
  mantissa : Nat
  exponent : Int
deriving DecidableEq, Repr

/-- A finite binary64 number. Zero has a sign. -/
structure Binary64 where
  negative : Bool
  magnitude : Magnitude
deriving DecidableEq, Repr

namespace Magnitude

/-- The exponent of the least positive magnitude. -/
def leastExponent : Int := -1074

/-- The exponent of the greatest magnitudes. -/
def greatestExponent : Int := 971

def zero : Magnitude := ⟨0, leastExponent⟩

/-- The quotient rounded to the nearest natural number, a tie to the even one. -/
def roundQuotient (num den : Nat) : Nat :=
  let q := num / den
  let r := num % den
  if 2 * r < den || (2 * r == den && q % 2 == 0) then q else q + 1

/-- The numerator of `num / den / 2 ^ x` over the denominator `scaledDen`. -/
def scaledNum (num : Nat) (x : Int) : Nat := num * Nat.pow 2 (-x).toNat

/-- The denominator that belongs to `scaledNum`. -/
def scaledDen (den : Nat) (x : Int) : Nat := den * Nat.pow 2 x.toNat

/-- The magnitude nearest to a ratio, or `none` beyond the greatest one. -/
def ofRatio? (num den : Nat) : Option Magnitude :=
  if num = 0 then some zero
  else
    let guess : Int := (Nat.log2 num : Int) - (Nat.log2 den : Int)
    let floor := if scaledNum num guess < scaledDen den guess then guess - 1 else guess
    let x := max (floor - 52) leastExponent
    let q := roundQuotient (scaledNum num x) (scaledDen den x)
    let m : Magnitude := if q = Nat.pow 2 53 then ⟨Nat.pow 2 52, x + 1⟩ else ⟨q, x⟩
    if greatestExponent < m.exponent then none else some m

/-- The magnitude nearest to a natural number. -/
def ofNat? (n : Nat) : Option Magnitude := ofRatio? n 1

/-- The product, rounded. -/
def mul? (a b : Magnitude) : Option Magnitude :=
  let e := a.exponent + b.exponent
  ofRatio? (a.mantissa * b.mantissa * Nat.pow 2 e.toNat) (Nat.pow 2 (-e).toNat)

/-- The quotient by a positive magnitude, rounded. -/
def div? (a b : Magnitude) : Option Magnitude :=
  let e := a.exponent - b.exponent
  ofRatio? (a.mantissa * Nat.pow 2 e.toNat) (b.mantissa * Nat.pow 2 (-e).toNat)

/-- The greatest power of ten that has a magnitude of its own. -/
def greatestTen : Nat := 308

def ten (k : Nat) : Magnitude := (ofNat? (Nat.pow 10 k)).getD zero

/-- Multiplies by `10 ^ k` in steps of at most `10 ^ 308`, each rounded, or gives `none` when the
result is too great. Zero stays zero however great `k` is. -/
def scaleTen? (f : Magnitude) (k : Int) : Option Magnitude :=
  if k.natAbs ≤ greatestTen then
    if 0 ≤ k then f.mul? (ten k.natAbs) else f.div? (ten k.natAbs)
  else if f.mantissa = 0 then some f
  else if 0 ≤ k then none
  else (f.div? (ten greatestTen)).bind fun g => scaleTen? g (k + greatestTen)
termination_by k.natAbs
decreasing_by simp only [greatestTen] at *; omega

/-- Reads `significand * 10 ^ k`: the significand is rounded first, and then the scaled value. -/
def ofDecimal? (significand : Nat) (k : Int) : Option Magnitude :=
  (ofNat? significand).bind (scaleTen? · k)

end Magnitude

end CourseLaunch.Decimal
