/-!
# Names of runs

The name of a run is a random UUID after the word `exec`.
-/

namespace Stepwise

/-- Six bits of a UUID say that it is random. They sit at the top of two of its sixteen bytes. -/
def markRandom (i : Nat) (b : Nat) : Nat :=
  if i = 6 then 0x40 + b % 16
  else if i = 8 then 0x80 + b % 64
  else b % 256

/-- The lengths of the groups of a UUID, in bytes. -/
def uuidGroups : List Nat := [4, 2, 2, 2, 6]

def hexByte (b : Nat) : List Char := [Nat.digitChar (b / 16), Nat.digitChar (b % 16)]

/-- Cuts a list into groups of these lengths. -/
def cut {α : Type} : List Nat → List α → List (List α)
  | [], _ => []
  | n :: ns, xs => xs.take n :: cut ns (xs.drop n)

/-- The text of the UUID made of sixteen random bytes. -/
def uuidText (bytes : List UInt8) : String :=
  let marked := bytes.zipIdx.map fun (b, i) => markRandom i b.toNat
  "-".intercalate ((cut uuidGroups marked).map fun g => String.ofList (g.flatMap hexByte))

/-- The name of the run that got these random bytes. -/
def executionName (bytes : List UInt8) : String := "exec-" ++ uuidText bytes

end Stepwise
