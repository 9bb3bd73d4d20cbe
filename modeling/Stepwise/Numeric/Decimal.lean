import Stepwise.Numeric.Binary
import Stepwise.Numeric.Count

/-! # Decimal text -/

namespace Stepwise

def digitValue (c : Char) : Nat := c.toNat - 48

/-- The number that a run of decimal digits stands for. -/
def natOfDigits (cs : List Char) : Nat := cs.foldl (fun n c => 10 * n + digitValue c) 0

def digitCount (n : Nat) : Nat := (Nat.toDigits 10 n).length

/-- The number `± digits · 10 ^ exponent`. -/
structure Decimal where
  negative : Bool
  digits : Nat
  exponent : Int
deriving DecidableEq, Repr

namespace Decimal

/-- No value beyond these powers of ten is finite and not zero in any format here. -/
def reach : Int := 400

/-- The nearest value of a binary format. -/
def toBinary (f : BinaryFormat) (d : Decimal) : Binary :=
  let top := (digitCount d.digits : Int) + d.exponent
  if d.digits = 0 then .zero d.negative
  else if top > reach then .infinite d.negative
  else if top < -reach then .zero d.negative
  else .round f d.negative (d.digits * tenTo d.exponent) (tenTo (-d.exponent))

/-- A decimal from the parts of its text: digits before the point, after it, and an exponent. -/
def ofParts (negative : Bool) (whole fraction : List Char) (exponent : Int) : Decimal :=
  ⟨negative, natOfDigits (whole ++ fraction), exponent - fraction.length⟩

/-! ## Free-standing numbers -/

/-- A sign in front of a text. -/
def splitSign : List Char → Bool × List Char
  | '-' :: cs => (true, cs)
  | '+' :: cs => (false, cs)
  | cs => (false, cs)

/-- An exponent part, to the end of the text. No text stands for exponent zero. -/
def readExponent : List Char → Option Int
  | [] => some 0
  | c :: cs =>
    if c = 'e' ∨ c = 'E' then
      let (negative, ds) := splitSign cs
      if ds ≠ [] ∧ ds.all Char.isDigit then
        some (if negative then -(natOfDigits ds : Int) else natOfDigits ds)
      else none
    else none

/-- A number with an optional sign, point and exponent. At least one digit is needed. -/
def ofText? (cs : List Char) : Option Decimal :=
  let (negative, cs) := splitSign cs
  let whole := cs.takeWhile Char.isDigit
  let rest := cs.dropWhile Char.isDigit
  let (fraction, rest) := match rest with
    | '.' :: r => (r.takeWhile Char.isDigit, r.dropWhile Char.isDigit)
    | r => ([], r)
  if whole = [] ∧ fraction = [] then none
  else (readExponent rest).map (ofParts negative whole fraction)

end Decimal

/-- A floating-point number written free-standing. Infinities and NaN are named in any case. -/
def Binary.ofText? (cs : List Char) : Option Binary :=
  let (negative, rest) := Decimal.splitSign cs
  let word := String.ofList (rest.map Char.toLower)
  if word = "inf" ∨ word = "infinity" then some (.infinite negative)
  else if word = "nan" then some .nan
  else (Decimal.ofText? cs).map (Decimal.toBinary .double)

/-- A whole number without a sign or with a plus, at most `max`. -/
def natOfText? (max : Nat) (cs : List Char) : Option Nat :=
  let ds := match cs with
    | '+' :: r => r
    | r => r
  if ds ≠ [] ∧ ds.all Char.isDigit ∧ natOfDigits ds ≤ max then some (natOfDigits ds) else none

/-- A signed whole number of 64 bits. -/
def intOfText? (cs : List Char) : Option Int :=
  let (negative, ds) := Decimal.splitSign cs
  let n : Int := if negative then -(natOfDigits ds : Int) else natOfDigits ds
  if ds ≠ [] ∧ ds.all Char.isDigit ∧ isSignedWord n then some n else none

end Stepwise
