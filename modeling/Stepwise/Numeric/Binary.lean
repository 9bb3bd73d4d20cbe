import Stepwise.Numeric.Power

/-!
# Binary floating-point values

`Binary.round` is the one place where a value is rounded.
-/

namespace Stepwise

/-- A binary format: its significant bits and the powers of two its last bit may have. -/
structure BinaryFormat where
  precision : Nat
  minExponent : Int
  maxExponent : Int
deriving DecidableEq, Repr

namespace BinaryFormat

/-- The format of the numbers in a JSON text. -/
def double : BinaryFormat := ⟨53, -1074, 971⟩

/-- The format of scores and temperatures. -/
def single : BinaryFormat := ⟨24, -149, 104⟩

end BinaryFormat

/-- A floating-point value. A finite one is `significand · 2 ^ exponent` with a sign. -/
inductive Binary where
  | nan
  | infinite (negative : Bool)
  | finite (negative : Bool) (significand : Nat) (exponent : Int)
deriving DecidableEq, Repr, Inhabited

namespace Binary

/-! ## Rounding -/

/-- A zero carries its sign. -/
def zero (negative : Bool) : Binary := .finite negative 0 0

/-- The whole part of `num / den / 2 ^ e`. -/
def quotient (num den : Nat) (e : Int) : Nat :=
  num * twoTo (-e) / (den * twoTo e)

/-- The whole number nearest to `num / den / 2 ^ e`. A half goes to the even neighbour. -/
def nearest (num den : Nat) (e : Int) : Nat :=
  let d := den * twoTo e
  let q := num * twoTo (-e) / d
  let r := num * twoTo (-e) % d
  if 2 * r > d ∨ (2 * r = d ∧ q % 2 = 1) then q + 1 else q

/-- The exponent at which `num / den` has as many bits as the format keeps. -/
def exponentFor (f : BinaryFormat) (num den : Nat) : Int :=
  let low : Int := (Nat.log2 num : Int) - (Nat.log2 den : Int) - (f.precision : Int)
  max f.minExponent (if quotient num den low < twoTo f.precision then low else low + 1)

/-- The value of the format nearest to `num / den`. -/
def round (f : BinaryFormat) (negative : Bool) (num den : Nat) : Binary :=
  if num = 0 then zero negative
  else
    let e := exponentFor f num den
    let q := nearest num den e
    -- Rounding up may reach one bit more, and then the last bit is zero.
    let (q, e) := if q = twoTo f.precision then (q / 2, e + 1) else (q, e)
    if q = 0 then zero negative
    else if e > f.maxExponent then .infinite negative
    else .finite negative q e

/-- A whole number, rounded to the format. -/
def ofInt (f : BinaryFormat) (n : Int) : Binary :=
  round f (n < 0) n.natAbs 1

/-- A value rounded to another format. -/
def roundTo (f : BinaryFormat) : Binary → Binary
  | .finite s m e => round f s (m * twoTo e) (twoTo (-e))
  | x => x

/-- A quotient, rounded to the format. -/
def divide (f : BinaryFormat) : Binary → Binary → Binary
  | .nan, _ => .nan
  | _, .nan => .nan
  | .infinite _, .infinite _ => .nan
  | .infinite s, .finite t .. => .infinite (s != t)
  | .finite s .., .infinite t => zero (s != t)
  | .finite s m e, .finite t n d =>
    if n = 0 then if m = 0 then .nan else .infinite (s != t)
    else round f (s != t) (m * twoTo (e - d)) (n * twoTo (d - e))

/-! ## Comparison -/

/-- The signed significand of a finite value at the power `e`, which is at most its own. -/
def signedAt (negative : Bool) (significand : Nat) (exponent e : Int) : Int :=
  let m : Int := (significand * twoTo (exponent - e) : Nat)
  if negative then -m else m

/-- The order of two values. There is none beside a NaN. -/
def compare? : Binary → Binary → Option Ordering
  | .nan, _ => none
  | _, .nan => none
  | .infinite s, .infinite t => some (compare (if s then 0 else 1 : Nat) (if t then 0 else 1))
  | .infinite s, .finite .. => some (if s then .lt else .gt)
  | .finite .., .infinite t => some (if t then .gt else .lt)
  | .finite s m e, .finite t n d =>
    let low := min e d
    some (compare (signedAt s m e low) (signedAt t n d low))

/-- Equal values. Both zeros are equal, and a NaN equals nothing. -/
def equal (x y : Binary) : Bool := compare? x y == some .eq

def less (x y : Binary) : Bool := compare? x y == some .lt

def atMost (x y : Binary) : Bool := less x y || equal x y

def isFinite : Binary → Bool
  | .finite .. => true
  | _ => false

end Binary

end Stepwise
