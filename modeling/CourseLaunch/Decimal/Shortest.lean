import CourseLaunch.Decimal.Binary64
/-!
# Shortest decimals

The fewest digits that read back to a given magnitude, and their layout as text. On each decimal
grid the two neighbours of the value are tried; the coarsest grid with a neighbour inside the
interval of reals that round to the value wins, and of two neighbours the nearer one.
-/

namespace CourseLaunch.Decimal

/-- A decimal `digits * 10 ^ exponent`. -/
structure Numeral where
  digits : Nat
  exponent : Int
deriving DecidableEq, Repr

/-- The same decimal without zeros at the end of its digits. -/
def Numeral.reduced (n : Numeral) : Numeral :=
  if n.digits ≠ 0 ∧ n.digits % 10 = 0 then Numeral.reduced ⟨n.digits / 10, n.exponent + 1⟩ else n
termination_by n.digits
decreasing_by omega

def digitChars (n : Nat) : List Char := Nat.toDigits 10 n

namespace Magnitude

/-- The greatest `k` with `10 ^ k` at most the ratio, for a positive ratio. -/
def floorTen (num den : Nat) : Int :=
  if den ≤ num then ((digitChars (num / den)).length : Int) - 1
  else - ((digitChars ((den + num - 1) / num - 1)).length : Int)

/-- The neighbours of the magnitude on the grid of `10 ^ g` that round back to it: the nearer of
the two, a tie going to the even one. -/
def onGrid? (m : Magnitude) (g : Int) : Option Numeral :=
  -- all quantities are counted in quarters of the last mantissa bit
  let x := m.exponent - 2
  let up := Nat.pow 2 x.toNat * Nat.pow 10 (-g).toNat
  let down := Nat.pow 2 (-x).toNat * Nat.pow 10 g.toNat
  let value := 4 * m.mantissa * up
  let below := if m.mantissa = Nat.pow 2 52 && leastExponent < m.exponent then 1 else 2
  let low := (4 * m.mantissa - below) * up
  let high := (4 * m.mantissa + 2) * up
  let closed := m.mantissa % 2 == 0
  let inside (c : Nat) : Bool :=
    let p := c * down
    if closed then low ≤ p && p ≤ high else low < p && p < high
  let c := value / down
  let r := value % down
  let preferLower := 2 * r < down || (2 * r == down && c % 2 == 0)
  let first := if preferLower then c else c + 1
  let second := if preferLower then c + 1 else c
  if inside first then some ⟨first, g⟩
  else if inside second then some ⟨second, g⟩
  else none

/-- The shortest numeral that reads back to a positive magnitude. Seventeen digits always do. The
upper neighbour may be a power of ten, so zeros at the end are dropped. -/
def shortest (m : Magnitude) : Numeral :=
  let x := m.exponent
  let top := floorTen (m.mantissa * Nat.pow 2 x.toNat) (Nat.pow 2 (-x).toNat)
  ((List.range 17).findSome? fun (n : Nat) => m.onGrid? (top - n)).getD ⟨0, 0⟩ |>.reduced

end Magnitude

/-- The text of a finite number: positional from `1e-5` to below `1e16`, with at least one digit
after the point, and otherwise one digit before the point and a signed exponent. -/
def Binary64.text (f : Binary64) : String :=
  let sign := if f.negative then ['-'] else []
  String.ofList <| sign ++
    if f.magnitude.mantissa = 0 then ['0', '.', '0']
    else
      let numeral := f.magnitude.shortest
      let ds := digitChars numeral.digits
      let point := numeral.exponent + ds.length
      if 0 < point && point ≤ 16 then
        let k := point.toNat
        let whole := ds.take k ++ List.replicate (k - ds.length) '0'
        let rest := ds.drop k
        whole ++ ['.'] ++ (if rest.isEmpty then ['0'] else rest)
      else if -5 < point && point ≤ 0 then
        ['0', '.'] ++ List.replicate (-point).toNat '0' ++ ds
      else
        let e := point - 1
        let tail := ds.drop 1
        ds.take 1 ++ (if tail.isEmpty then [] else '.' :: tail) ++
          ['e', if e < 0 then '-' else '+'] ++ digitChars e.natAbs

end CourseLaunch.Decimal
