import Stepwise.Numeric.Decimal

/-!
# Numbers from a significand and a power of ten

JSON texts are read with a significand of one machine word, so a long number may come out next to
the nearest double.
-/

namespace Stepwise

def maxSignificand : Nat := UInt64.size - 1

/-- Appends digits to a significand while they fit. Also says how many were left over. -/
def appendDigits (n : Nat) : List Char → Nat × Nat
  | [] => (n, 0)
  | c :: cs =>
    let m := 10 * n + digitValue c
    if m ≤ maxSignificand then appendDigits m cs else (n, cs.length + 1)

/-- The significand and the power of ten of a number's text. Left over digits before the point
count, those after it do not. -/
def significandOf (whole fraction : List Char) (power : Int) : Nat × Int :=
  let (n, left) := appendDigits 0 whole
  let (n, lost) := appendDigits n fraction
  (n, power + left - (fraction.length - lost : Nat))

namespace Binary

/-- The largest power of ten that is a double. -/
def maxTen : Nat := 308

/-- The double nearest to a power of ten. -/
def ten (k : Nat) : Binary := ofInt .double (tenTo k)

def isZero : Binary → Bool
  | .finite _ m _ => m == 0
  | _ => false

/-- A finite product, rounded. -/
def timesTen (x : Binary) (k : Nat) : Binary :=
  match x, ten k with
  | .finite s m e, .finite _ n d => roundTo .double (.finite s (m * n) (e + d))
  | _, y => y

/-- A finite quotient, rounded. -/
def overTen (x : Binary) (k : Nat) : Binary :=
  match x, ten k with
  | .finite s m e, .finite _ n d =>
    round .double s (m * twoTo (e - d)) (n * twoTo (d - e))
  | _, _ => x

/-- Divides by the largest power of ten until what is left is a power in range. -/
def scaleDown (x : Binary) (k : Nat) : Binary :=
  if k ≤ maxTen then x.overTen k
  else if x.isZero then x
  else scaleDown (x.overTen maxTen) (k - maxTen)
termination_by k
decreasing_by
  have : maxTen = 308 := rfl
  omega

/-- The double for `± n · 10 ^ power`. It is infinite if there is none. -/
def ofScaled (negative : Bool) (n : Nat) (power : Int) : Binary :=
  let x := round .double negative n 1
  if power < 0 then x.scaleDown power.natAbs
  else if x.isZero then x
  else if power.toNat ≤ maxTen then x.timesTen power.toNat
  else .infinite negative

end Binary

end Stepwise
