import Stepwise.Json.Reader
import Stepwise.Numeric.Shortest

/-!
# Layered settings

A later source is laid over the earlier ones, table by table.
-/

namespace Stepwise

/-- A value in a source of settings. -/
inductive Setting where
  | nothing
  | flag (b : Bool)
  | whole (n : Int)
  | real (x : Binary)
  | text (s : String)
  | list (items : List Setting)
  | table (members : List (String × Setting))
deriving Repr, Inhabited

namespace Setting

mutual

/-- The settings in a JSON value. Names are read in small letters. -/
def ofJson : Json → Setting
  | .null => nothing
  | .bool b => flag b
  | .number (.int n) => if isSignedWord n then whole n else real (.ofInt .double n)
  | .number (.real x) => real x
  | .string s => text s
  | .array items => list (ofItems items)
  | .object members => table (ofMembers members)

def ofItems : List Json → List Setting
  | [] => []
  | j :: rest => ofJson j :: ofItems rest

def ofMembers : List (String × Json) → List (String × Setting)
  | [] => []
  | (k, j) :: rest => (k.map Char.toLower, ofJson j) :: ofMembers rest

end

def members : Setting → List (String × Setting)
  | table ms => ms
  | _ => []

def get? (s : Setting) (name : String) : Option Setting := s.members.lookup name

/-- Sets a member. A value that is no table becomes one. -/
def put (s : Setting) (name : String) (value : Setting) : Setting :=
  table ((s.members.filter (·.1 != name)) ++ [(name, value)])

mutual

/-- Lays settings over others. Tables are joined, and all else is replaced. -/
def overlay (base : Setting) : Setting → Setting
  | table ms => overlayMembers base ms
  | v => v

def overlayMembers (base : Setting) : List (String × Setting) → Setting
  | [] => table base.members
  | (k, v) :: rest => overlayMembers (base.put k (overlay ((base.get? k).getD nothing) v)) rest

end

/-- Sets the value at a path of names. -/
def putAt (s : Setting) : List String → Setting → Setting
  | [], v => s.overlay v
  | name :: rest, v => s.put name (((s.get? name).getD nothing).putAt rest v)

/-! ## Values as types -/

/-- A number in decimal notation, without a fraction if it has none. -/
def realText : Binary → String
  | .nan => "NaN"
  | .infinite negative => if negative then "-inf" else "inf"
  | .finite negative m e =>
    let (c, u) := Binary.shortest .double m e
    let cs := NumberStyle.write ⟨-400, 400⟩ negative c u
    String.ofList (match cs.reverse with
      | '0' :: '.' :: rest => rest.reverse
      | _ => cs)

def asText? : Setting → Option String
  | text s => some s
  | flag b => some (if b then "true" else "false")
  | whole n => some (toString n)
  | real x => some (realText x)
  | _ => none

def maxNat : Nat := UInt64.size - 1

/-- The nearest whole number of 64 bits without a sign. A half goes up. -/
def roundNat : Binary → Nat
  | .finite false m e =>
    let d := twoTo (-e)
    min maxNat ((2 * m * twoTo e + d) / (2 * d))
  | .infinite false => maxNat
  | _ => 0

def asNat? : Setting → Option Nat
  | whole n => if 0 ≤ n then some n.toNat else none
  | flag b => some (if b then 1 else 0)
  | real x => some (roundNat x)
  | text s =>
    let word := s.map Char.toLower
    if ["true", "on", "yes"].contains word then some 1
    else if ["false", "off", "no"].contains word then some 0
    else natOfText? maxNat s.toList
  | _ => none

/-- The name of a choice, written as a text or as the only name of a table. -/
def asChoice? : Setting → Option String
  | text s => some s
  | table [(name, _)] => some name
  | _ => none

/-- The fields of a section, by name or by position. -/
def fields? (names : List String) : Setting → Option (List (String × Setting))
  | table ms => some ms
  | list items => some (names.zip items)
  | _ => none

end Setting

end Stepwise
