import Stepwise.Handler.Result
import Stepwise.Numeric.Decimal
import Stepwise.Text.Blank

/-!
# The shape of params

Values that came out of templates are strings, so numbers and truth values are also accepted as
text.
-/

namespace Stepwise

inductive ParamType where
  | string
  | number
  | integer
  | boolean
  | object
  | array
  | any
deriving DecidableEq, Repr

namespace ParamType

/-- The name in messages. -/
def title : ParamType → String
  | string => "String"
  | number => "Number"
  | integer => "Integer"
  | boolean => "Boolean"
  | object => "Object"
  | array => "Array"
  | any => "Any"

/-- The name in schemas. -/
def name : ParamType → String
  | string => "string"
  | number => "number"
  | integer => "integer"
  | boolean => "boolean"
  | object => "object"
  | array => "array"
  | any => "any"

def all : List ParamType := [string, number, integer, boolean, object, array, any]

def ofName? (s : String) : Option ParamType := all.find? (·.name == s)

/-- A value of this type, or text that stands for one. -/
def accepts : ParamType → Json → Bool
  | string, .string _ => true
  | number, .number _ => true
  | number, .string s => (Binary.ofText? (trim s.toList)).isSome
  | integer, .number (.int _) => true
  | integer, .string s => (intOfText? (trim s.toList)).isSome
  | boolean, .bool _ => true
  | boolean, .string s => s == "true" || s == "false"
  | object, .object _ => true
  | array, .array _ => true
  | any, _ => true
  | _, _ => false

end ParamType

structure ParamField where
  name : String
  paramType : ParamType
  required : Bool
  description : Option String := none
  default : Option Json := none
deriving DecidableEq, Repr

def ParamField.toJson (f : ParamField) : Json :=
  .object ([("name", .string f.name), ("type", .string f.paramType.name),
      ("required", .bool f.required)]
    ++ Json.memberIfSome "description" (f.description.map .string)
    ++ Json.memberIfSome "default" f.default)

structure ParamSchema where
  fields : List ParamField
deriving DecidableEq, Repr

/-- What is wrong with params. -/
inductive ParamFault where
  | notAnObject
  | missing (name : String)
  | wrongType (name : String) (paramType : ParamType)
deriving DecidableEq, Repr

namespace ParamFault

def message : ParamFault → String
  | notAnObject => "params must be an object"
  | missing name => s!"missing required param '{name}'"
  | wrongType name paramType => s!"param '{name}' must be of type " ++ paramType.title

def toError (f : ParamFault) : StepError := .invalidParams f.message

end ParamFault

namespace ParamSchema

def toJson (s : ParamSchema) : Json := .object [("fields", .array (s.fields.map ParamField.toJson))]

def field? (s : ParamSchema) (name : String) : Option ParamField := s.fields.find? (·.name == name)

/-- What is wrong with one param. A null counts as absent. -/
def faultOf? (f : ParamField) (members : List (String × Json)) : Option ParamFault :=
  match Named.lookup f.name members with
  | none => if f.required then some (.missing f.name) else none
  | some .null => if f.required then some (.missing f.name) else none
  | some v => if f.paramType.accepts v then none else some (.wrongType f.name f.paramType)

/-- The first fault in the order of the fields. -/
def fault? (s : ParamSchema) (params : Json) : Option ParamFault :=
  match params with
  | .object members => s.fields.findSome? (faultOf? · members)
  | _ => some .notAnObject

/-- Checks that required params are there and that all params have their types. -/
def check (s : ParamSchema) (params : Json) : Except StepError Unit :=
  match s.fault? params with
  | none => .ok ()
  | some fault => .error fault.toError

end ParamSchema

end Stepwise
