import Stepwise.Handler.Schema
import Stepwise.Service.Error

/-! # Reading params -/

namespace Stepwise

namespace Params

def refuse {α : Type} (message : String) : Except StepError α := .error (.invalidParams message)

def present? (params : Json) (name : String) : Option Json :=
  match params.get? name with
  | some .null => none
  | v => v

/-- A string with something in it besides blanks. -/
def requiredString (params : Json) (name : String) : Except StepError String :=
  match present? params name with
  | none => refuse s!"missing required param '{name}'"
  | some (.string s) =>
    if trim s.toList = [] then refuse s!"param '{name}' must not be empty" else .ok s
  | some _ => refuse s!"param '{name}' must be a string"

def optionalString (params : Json) (name : String) : Except StepError (Option String) :=
  match present? params name with
  | none => .ok none
  | some (.string s) => .ok (some s)
  | some _ => refuse s!"param '{name}' must be a string"

/-- A whole number of 64 bits that a value is or stands for. -/
def nat? : Json → Option Nat
  | .number (.int n) => if 0 ≤ n then some n.toNat else none
  | .string s => natOfText? (UInt64.size - 1) (trim s.toList)
  | _ => none

def optionalNat (params : Json) (name : String) : Except StepError (Option Nat) :=
  match present? params name with
  | none => .ok none
  | some v =>
    match nat? v with
    | some n => .ok (some n)
    | none => refuse s!"param '{name}' must be a non-negative integer"

/-- A number that a value is or stands for. -/
def double? : Json → Option Binary
  | .number n => some n.toDouble
  | .string s => Binary.ofText? (trim s.toList)
  | _ => none

def optionalDouble (params : Json) (name : String) : Except StepError (Option Binary) :=
  match present? params name with
  | none => .ok none
  | some v =>
    match double? v with
    | some x => .ok (some x)
    | none => refuse s!"param '{name}' must be a number"

def optionalBool (params : Json) (name : String) : Except StepError (Option Bool) :=
  match present? params name with
  | none => .ok none
  | some (.bool b) => .ok (some b)
  | some (.string "true") => .ok (some true)
  | some (.string "false") => .ok (some false)
  | some _ => refuse s!"param '{name}' must be a boolean"

def optionalObject (params : Json) (name : String) :
    Except StepError (Option (List (String × Json))) :=
  match present? params name with
  | none => .ok none
  | some (.object members) => .ok (some members)
  | some _ => refuse s!"param '{name}' must be an object"

end Params

/-- The failure of a service as the failure of a step. It is worth another attempt if it may
pass. -/
def ServiceError.toStepError (code : String) (e : ServiceError) : StepError :=
  ⟨code, e.message, e.isTransient⟩

end Stepwise
