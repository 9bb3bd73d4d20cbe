/-!
# Whole numbers of limited size
-/

namespace Stepwise

/-- The sum of two counts, or the greatest count if the sum is greater. -/
def saturatingAdd (a b : UInt32) : UInt32 :=
  UInt32.ofNat (min (a.toNat + b.toNat) (UInt32.size - 1))

/-- A failure that nothing handles. The program ends with it. -/
structure Panic where
  message : String
deriving DecidableEq, Repr

def Panic.addOverflow : Panic := ⟨"attempt to add with overflow"⟩

/-- The sum of two counts, which must be a count too. -/
def checkedAdd (a b : UInt32) : Except Panic UInt32 :=
  if a.toNat + b.toNat < UInt32.size then .ok (a + b) else .error .addOverflow

/-- Whole numbers of 64 bits, one of them for the sign. -/
def isSignedWord (n : Int) : Bool := -0x8000000000000000 ≤ n && n < 0x8000000000000000

end Stepwise
