import Stepwise.Numeric.Decimal

/-! # The fewest digits that read back -/

namespace Stepwise

namespace Binary

/-- The exponent `x` with `10 ^ x ≤ num / den < 10 ^ (x + 1)`. -/
def decimalExponent (num den : Nat) : Int :=
  if den ≤ num then (digitCount (num / den) : Int) - 1
  else -(digitCount ((den + num - 1) / num - 1) : Int)

/-- The numbers that round to a value, in quarters of the value's last bit. -/
structure Interval where
  low : Nat
  mid : Nat
  high : Nat
  closed : Bool

/-- A value that is a power of two has a nearer neighbour below. The ends round to even. -/
def interval (f : BinaryFormat) (m : Nat) (e : Int) : Interval :=
  let below := if m = twoTo (f.precision - 1 : Nat) ∧ e > f.minExponent then 1 else 2
  ⟨4 * m - below, 4 * m, 4 * m + 2, m % 2 == 0⟩

/-- The decimal of the grid `10 ^ u` that lies in the interval, the nearest if there are two.
`left` and `right` bring grid points and quarters to one scale. -/
def onGrid (i : Interval) (left right : Nat) : Option Nat :=
  let inside (c : Nat) : Bool :=
    if i.closed then i.low * right ≤ c * left && c * left ≤ i.high * right
    else i.low * right < c * left && c * left < i.high * right
  let c := i.mid * right / left
  let down := i.mid * right - c * left
  let up := (c + 1) * left - i.mid * right
  if inside c && inside (c + 1) then
    if down < up ∨ (down = up ∧ c % 2 = 0) then some c else some (c + 1)
  else if inside c then some c
  else if inside (c + 1) then some (c + 1)
  else none

/-- Tries grids of more and more digits, starting with exponent `u`. -/
def refine (i : Interval) (e : Int) : Nat → Int → Nat × Int
  | 0, u => (0, u)
  | tries + 1, u =>
    let left := tenTo u * twoTo (2 - e)
    let right := tenTo (-u) * twoTo (e - 2)
    match onGrid i left right with
    | some c => (c, u)
    | none => refine i e tries (u - 1)

/-- The most digits that a value of these formats needs. -/
def maxDigits : Nat := 17

/-- The shortest decimal `(c, u)`, for `c · 10 ^ u`, that rounds to `m · 2 ^ e`. -/
def shortest (f : BinaryFormat) (m : Nat) (e : Int) : Nat × Int :=
  refine (interval f m e) e maxDigits (decimalExponent (m * twoTo e) (twoTo (-e)))

end Binary

/-- How a number's text is laid out around its digits. -/
structure NumberStyle where
  /-- The least decimal exponent that is written with leading zeros. -/
  leastPlain : Int
  /-- The least decimal exponent that is too large to be written without an exponent. -/
  leastScientific : Int

namespace NumberStyle

def trimZeros (cs : List Char) : List Char := (cs.reverse.dropWhile (· == '0')).reverse

/-- The sign of an exponent is always written. -/
def exponentText (x : Int) : List Char :=
  'e' :: (if x < 0 then '-' else '+') :: Nat.toDigits 10 x.natAbs

/-- Digits with the point after the first `x + 1` of them. There is always a fraction. -/
def plain (ds : List Char) (x : Int) : List Char :=
  if x < 0 then ['0', '.'] ++ List.replicate (x.natAbs - 1) '0' ++ ds
  else
    let n := x.toNat + 1
    let fraction := ds.drop n
    ds.take n ++ List.replicate (n - ds.length) '0'
      ++ '.' :: (if fraction = [] then ['0'] else fraction)

def scientific (ds : List Char) (x : Int) : List Char :=
  match ds with
  | [] => []
  | [d] => d :: exponentText x
  | d :: ds => d :: '.' :: ds ++ exponentText x

/-- The text of the finite value `c · 10 ^ u`. -/
def write (style : NumberStyle) (negative : Bool) (c : Nat) (u : Int) : List Char :=
  let all := Nat.toDigits 10 c
  let x := u + all.length - 1
  let ds := trimZeros all
  let body :=
    if c = 0 then ['0', '.', '0']
    else if style.leastPlain ≤ x ∧ x < style.leastScientific then plain ds x
    else scientific ds x
  if negative then '-' :: body else body

end NumberStyle

end Stepwise
