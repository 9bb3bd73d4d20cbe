import Stepwise.Named
import Stepwise.Numeric.Binary

/-!
# JSON values

A value may be what a text says, so members stand in any order and a name may come twice.
`Json.canonical` brings them into order.
-/

namespace Stepwise

inductive JsonNumber where
  | int (n : Int)
  | real (x : Binary)
deriving DecidableEq, Repr, Inhabited

namespace JsonNumber

/-- The nearest double. Comparisons between numbers look at it. -/
def toDouble : JsonNumber → Binary
  | int n => .ofInt .double n
  | real x => x

/-- The same kind and the same value. Both zeros of the floating-point kind are the same. -/
def same : JsonNumber → JsonNumber → Bool
  | int m, int n => m == n
  | real x, real y => x.equal y
  | _, _ => false

/-- Whole numbers that a JSON text can hold as such. -/
def inRange (n : Int) : Bool := -0x8000000000000000 ≤ n && n < UInt64.size

end JsonNumber

inductive Json where
  | null
  | bool (b : Bool)
  | number (n : JsonNumber)
  | string (s : String)
  | array (items : List Json)
  | object (members : List (String × Json))
deriving Repr, Inhabited

namespace Json

def int (n : Int) : Json := .number (.int n)

def nat (n : Nat) : Json := .number (.int n)

/-- A floating-point number as a value, widened to a double. There is none for infinities and
NaN. -/
def ofBinary (x : Binary) : Json :=
  if x.isFinite then .number (.real (x.roundTo .double)) else .null

/-! ## Parts of values -/

/-- An object with its members in order. -/
def ofMembers (members : List (String × Json)) : Json := .object (Named.ordered members)

/-- A member of an object. Other values have none. -/
def get? (j : Json) (key : String) : Option Json :=
  match j with
  | .object members => Named.lookup key members
  | _ => none

/-- An item of an array. Other values have none. -/
def item? (j : Json) (i : Nat) : Option Json :=
  match j with
  | .array items => items[i]?
  | _ => none

def string? : Json → Option String
  | .string s => some s
  | _ => none

def bool? : Json → Option Bool
  | .bool b => some b
  | _ => none

def members? : Json → Option (List (String × Json))
  | .object members => some members
  | _ => none

def items? : Json → Option (List Json)
  | .array items => some items
  | _ => none

def number? : Json → Option JsonNumber
  | .number n => some n
  | _ => none

def isNull : Json → Bool
  | .null => true
  | _ => false

/-! ## Whole values -/

mutual

/-- The value with the members of every object in order, each name once. -/
def canonical : Json → Json
  | .array items => .array (canonicalItems items)
  | .object members => ofMembers (canonicalMembers members)
  | j => j

def canonicalItems : List Json → List Json
  | [] => []
  | j :: rest => canonical j :: canonicalItems rest

def canonicalMembers : List (String × Json) → List (String × Json)
  | [] => []
  | (k, j) :: rest => (k, canonical j) :: canonicalMembers rest

end

mutual

/-- Equal values at every level. A whole number differs from a floating-point number. -/
def same : Json → Json → Bool
  | .null, .null => true
  | .bool a, .bool b => a == b
  | .number a, .number b => a.same b
  | .string a, .string b => a == b
  | .array a, .array b => sameItems a b
  | .object a, .object b => sameMembers a b
  | _, _ => false

def sameItems : List Json → List Json → Bool
  | [], [] => true
  | a :: as, b :: bs => same a b && sameItems as bs
  | _, _ => false

def sameMembers : List (String × Json) → List (String × Json) → Bool
  | [], [] => true
  | (k, a) :: as, (l, b) :: bs => k == l && same a b && sameMembers as bs
  | _, _ => false

end

mutual

/-- Every string in the value is replaced. Names of members stay. -/
def mapStrings (f : String → String) : Json → Json
  | .string s => .string (f s)
  | .array items => .array (mapStringsItems f items)
  | .object members => .object (mapStringsMembers f members)
  | j => j

def mapStringsItems (f : String → String) : List Json → List Json
  | [] => []
  | j :: rest => mapStrings f j :: mapStringsItems f rest

def mapStringsMembers (f : String → String) : List (String × Json) → List (String × Json)
  | [] => []
  | (k, j) :: rest => (k, mapStrings f j) :: mapStringsMembers f rest

end

/-! ## Equality -/

mutual

def decideEq : (a b : Json) → Decidable (a = b)
  | .null, b => by cases b <;> first | exact isTrue rfl | exact isFalse (by simp)
  | .bool x, .bool y => if h : x = y then isTrue (h ▸ rfl) else isFalse (by simp [h])
  | .number x, .number y => if h : x = y then isTrue (h ▸ rfl) else isFalse (by simp [h])
  | .string x, .string y => if h : x = y then isTrue (h ▸ rfl) else isFalse (by simp [h])
  | .array x, .array y =>
    match decideEqItems x y with
    | isTrue h => isTrue (h ▸ rfl)
    | isFalse h => isFalse (by simp [h])
  | .object x, .object y =>
    match decideEqMembers x y with
    | isTrue h => isTrue (h ▸ rfl)
    | isFalse h => isFalse (by simp [h])
  | .bool _, .null | .bool _, .number _ | .bool _, .string _ | .bool _, .array _
  | .bool _, .object _ | .number _, .null | .number _, .bool _ | .number _, .string _
  | .number _, .array _ | .number _, .object _ | .string _, .null | .string _, .bool _
  | .string _, .number _ | .string _, .array _ | .string _, .object _ | .array _, .null
  | .array _, .bool _ | .array _, .number _ | .array _, .string _ | .array _, .object _
  | .object _, .null | .object _, .bool _ | .object _, .number _ | .object _, .string _
  | .object _, .array _ => isFalse (by simp)

def decideEqItems : (a b : List Json) → Decidable (a = b)
  | [], [] => isTrue rfl
  | [], _ :: _ => isFalse (by simp)
  | _ :: _, [] => isFalse (by simp)
  | x :: xs, y :: ys =>
    match decideEq x y, decideEqItems xs ys with
    | isTrue h, isTrue k => isTrue (by rw [h, k])
    | isFalse h, _ => isFalse (by simp [h])
    | _, isFalse k => isFalse (by simp [k])

def decideEqMembers : (a b : List (String × Json)) → Decidable (a = b)
  | [], [] => isTrue rfl
  | [], _ :: _ => isFalse (by simp)
  | _ :: _, [] => isFalse (by simp)
  | (k, x) :: xs, (l, y) :: ys =>
    if hk : k = l then
      match decideEq x y, decideEqMembers xs ys with
      | isTrue h, isTrue t => isTrue (by rw [hk, h, t])
      | isFalse h, _ => isFalse (by simp [h])
      | _, isFalse t => isFalse (by simp [t])
    else isFalse (by simp [hk])

end

instance : DecidableEq Json := decideEq

end Json

end Stepwise
