import Stepwise.Json.Reader
import Stepwise.Json.Writer
import Stepwise.Text.Quoted

/-! # Typed data from JSON values -/

namespace Stepwise

/-- A value as messages show it. -/
inductive Shape where
  | integer (n : Int)
  | real (x : Binary)
  | boolean (b : Bool)
  | text (s : String)
  | null
  | sequence
  | map
deriving DecidableEq, Repr

namespace Shape

def ofJson : Json → Shape
  | .null => null
  | .bool b => boolean b
  | .number (.int n) => integer n
  | .number (.real x) => real x
  | .string s => text s
  | .array _ => sequence
  | .object _ => map

def display : Shape → String
  | integer n => s!"integer `{n}`"
  | real x => "floating point `" ++ (JsonNumber.real x).text ++ "`"
  | boolean true => "boolean `true`"
  | boolean false => "boolean `false`"
  | text s => "string " ++ quoted s
  | null => "null"
  | sequence => "sequence"
  | map => "map"

end Shape

/-- Why a value does not have the shape it should have. -/
inductive DecodeError where
  | missingField (name : String)
  | duplicateField (name : String)
  | invalidType (found : Shape) (expected : String)
  | invalidValue (found : Shape) (expected : String)
  | invalidLength (length : Nat) (expected : String)
  | trailing
  | refused (message : String)
deriving DecidableEq, Repr

def DecodeError.message : DecodeError → String
  | missingField name => s!"missing field `{name}`"
  | duplicateField name => s!"duplicate field `{name}`"
  | invalidType found expected => "invalid type: " ++ found.display ++ ", expected " ++ expected
  | invalidValue found expected => "invalid value: " ++ found.display ++ ", expected " ++ expected
  | invalidLength length expected => s!"invalid length {length}, expected {expected}"
  | trailing => "trailing characters"
  | refused message => message

/-- A text is read to its end. A value that is already there can be counted. The two report an
array that is too long in different words. -/
inductive Origin where
  | text
  | value
deriving DecidableEq, Repr

namespace Json

abbrev Decoder (α : Type) := Json → Except DecodeError α

def mismatch {α : Type} (j : Json) (expected : String) : Except DecodeError α :=
  .error (.invalidType (.ofJson j) expected)

/-! ## Single values -/

def decodeString : Decoder String
  | .string s => .ok s
  | j => mismatch j "a string"

/-- A whole number below a bound. -/
def decodeNat (bound : Nat) (expected : String) : Decoder Nat
  | .number (.int n) =>
    if 0 ≤ n ∧ n < bound then .ok n.toNat else .error (.invalidValue (.integer n) expected)
  | j => mismatch j expected

def decodeU32 (j : Json) : Except DecodeError UInt32 :=
  (decodeNat UInt32.size "u32" j).map UInt32.ofNat

def decodeU64 (j : Json) : Except DecodeError UInt64 :=
  (decodeNat UInt64.size "u64" j).map UInt64.ofNat

/-- A number of things. -/
def decodeSize (j : Json) : Except DecodeError UInt64 :=
  (decodeNat UInt64.size "usize" j).map UInt64.ofNat

/-- Any value, with its members in order. -/
def decodeAny (j : Json) : Except DecodeError Json := .ok j.canonical

def decodeOption {α : Type} (decode : Decoder α) : Decoder (Option α)
  | .null => .ok none
  | j => (decode j).map some

def decodeItems {α : Type} (decode : Decoder α) : List Json → Except DecodeError (List α)
  | [] => .ok []
  | j :: rest => do
    let x ← decode j
    let xs ← decodeItems decode rest
    return x :: xs

def decodeList {α : Type} (decode : Decoder α) : Decoder (List α)
  | .array items => decodeItems decode items
  | j => mismatch j "a sequence"

/-- An object with arbitrary names. -/
def decodeMap (j : Json) : Except DecodeError (List (String × Json)) :=
  match j with
  | .object members => .ok (Named.ordered (canonicalMembers members))
  | j => mismatch j "a map"

/-! ## Records -/

structure FieldSpec where
  name : String
  /-- An array must be long enough to hold it. -/
  required : Bool
  check : Json → Except DecodeError Unit
  /-- The parts of its value that are looked at. -/
  outline : Outline

/-- A field that every written record has. -/
def required {α : Type} (name : String) (decode : Decoder α) : FieldSpec :=
  ⟨name, true, fun j => (decode j).map fun _ => (), .whole⟩

/-- A field that may be left out. -/
def omittable {α : Type} (name : String) (decode : Decoder α) : FieldSpec :=
  ⟨name, false, fun j => (decode j).map fun _ => (), .whole⟩

/-- The same field with a narrower look at its value. -/
def FieldSpec.within (field : FieldSpec) (outline : Outline) : FieldSpec :=
  { field with outline := outline }

/-- The parts of a record that are looked at. -/
def recordOutline (fields : List FieldSpec) : Outline :=
  .record (fields.map fun field => (field.name, field.outline))

/-- The fields of an object in the order of the text. Unknown names are skipped. -/
def collectMembers (fields : List FieldSpec) (seen : List (String × Json)) :
    List (String × Json) → Except DecodeError (List (String × Json))
  | [] => .ok seen
  | (k, v) :: rest =>
    match fields.find? (·.name == k) with
    | none => collectMembers fields seen rest
    | some field =>
      if (Named.lookup k seen).isSome then .error (.duplicateField k)
      else
        match field.check v with
        | .ok _ => collectMembers fields ((k, v) :: seen) rest
        | .error e => .error e

/-- The fields of an array. `i` of them have been read. -/
def collectItems (origin : Origin) (tooShort : Nat → DecodeError) (i : Nat) (total : Nat) :
    List FieldSpec → List Json → Except DecodeError (List (String × Json))
  | [], [] => .ok []
  | [], _ :: _ =>
    .error (if origin = .text then .trailing
      else .invalidLength total "fewer elements in array")
  | field :: fields, [] =>
    if field.required then .error (tooShort i)
    else collectItems origin tooShort (i + 1) total fields []
  | field :: fields, v :: vs =>
    match field.check v with
    | .ok _ => (collectItems origin tooShort (i + 1) total fields vs).map ((field.name, v) :: ·)
    | .error e => .error e

/-- The fields that a written record has. Each has passed its check. -/
def decodeRecord (origin : Origin) (name : String) (fields : List FieldSpec) (j : Json) :
    Except DecodeError (List (String × Json)) :=
  match j with
  | .object members => collectMembers fields [] members
  | .array items =>
    let count := fields.length
    let s := if count = 1 then "" else "s"
    collectItems origin (fun i => .invalidLength i s!"struct {name} with {count} element{s}")
      0 items.length fields items
  | j => mismatch j ("struct " ++ name)

/-- A field that must be there. -/
def need {α : Type} (record : List (String × Json)) (name : String) (decode : Decoder α) :
    Except DecodeError α :=
  match Named.lookup name record with
  | some j => decode j
  | none => .error (.missingField name)

/-- A field with a value for when it is left out. -/
def needOr {α : Type} (record : List (String × Json)) (name : String) (decode : Decoder α)
    (default : α) : Except DecodeError α :=
  match Named.lookup name record with
  | some j => decode j
  | none => .ok default

/-! ## Texts -/

/-- Why a text does not hold the data it should hold. -/
inductive TextError where
  | notJson
  | decode (cause : DecodeError)
deriving DecidableEq, Repr

/-- The data in a text. A text that is no JSON at all is told from one of the wrong shape. -/
def decodeText {α : Type} (outline : Outline) (decode : Decoder α) (s : String) :
    Except TextError α :=
  match outlined? outline s with
  | none => .error .notJson
  | some j => (decode j).mapError fun e => if (document? s).isNone then .notJson else .decode e

/-! ## Records as values -/

/-- The member of a field that may be left out. -/
def memberIfSome (name : String) : Option Json → List (String × Json)
  | some j => [(name, j)]
  | none => []

end Json

end Stepwise
