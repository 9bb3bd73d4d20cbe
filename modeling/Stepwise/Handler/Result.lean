import Stepwise.Json.Decode
import Stepwise.Numeric.Count

/-! # What a step reports -/

namespace Stepwise

/-! ## Errors -/

structure StepError where
  code : String
  message : String
  /-- Another attempt may succeed. -/
  recoverable : Bool
deriving DecidableEq, Repr

namespace StepError

def retryable (code message : String) : StepError := ⟨code, message, true⟩

def fatal (code message : String) : StepError := ⟨code, message, false⟩

def invalidParamsCode : String := "INVALID_PARAMS"

def invalidParams (message : String) : StepError := fatal invalidParamsCode message

def display (e : StepError) : String := "[" ++ e.code ++ "] " ++ e.message

def toJson (e : StepError) : Json :=
  .object [("code", .string e.code), ("message", .string e.message),
    ("recoverable", .bool e.recoverable)]

end StepError

/-! ## Usage -/

structure StepMetadata where
  durationMs : UInt64 := 0
  retrievalCalls : UInt32 := 0
  llmCalls : UInt32 := 0
  externalCalls : UInt32 := 0
  promptTokens : UInt32 := 0
  completionTokens : UInt32 := 0
  totalTokens : UInt32 := 0
deriving DecidableEq, Repr

namespace StepMetadata

/-- Sets the tokens and their total. -/
def withTokens (m : StepMetadata) (prompt completion : UInt32) : StepMetadata :=
  { m with
    promptTokens := prompt
    completionTokens := completion
    totalTokens := saturatingAdd prompt completion }

/-- The members in the order of the fields. -/
def members (m : StepMetadata) : List (String × Json) :=
  [("durationMs", .nat m.durationMs.toNat), ("retrievalCalls", .nat m.retrievalCalls.toNat),
    ("llmCalls", .nat m.llmCalls.toNat), ("externalCalls", .nat m.externalCalls.toNat),
    ("promptTokens", .nat m.promptTokens.toNat),
    ("completionTokens", .nat m.completionTokens.toNat), ("totalTokens", .nat m.totalTokens.toNat)]

def toJson (m : StepMetadata) : Json := Json.ofMembers m.members

open Json (required omittable need needOr)

def fields : List Json.FieldSpec :=
  [required "durationMs" Json.decodeU64, omittable "retrievalCalls" Json.decodeU32,
    omittable "llmCalls" Json.decodeU32, omittable "externalCalls" Json.decodeU32,
    omittable "promptTokens" Json.decodeU32, omittable "completionTokens" Json.decodeU32,
    omittable "totalTokens" Json.decodeU32]

def decode (origin : Origin) (j : Json) : Except DecodeError StepMetadata := do
  let r ← Json.decodeRecord origin "StepMetadata" fields j
  let durationMs ← need r "durationMs" Json.decodeU64
  let retrievalCalls ← needOr r "retrievalCalls" Json.decodeU32 0
  let llmCalls ← needOr r "llmCalls" Json.decodeU32 0
  let externalCalls ← needOr r "externalCalls" Json.decodeU32 0
  let promptTokens ← needOr r "promptTokens" Json.decodeU32 0
  let completionTokens ← needOr r "completionTokens" Json.decodeU32 0
  let totalTokens ← needOr r "totalTokens" Json.decodeU32 0
  return { durationMs, retrievalCalls, llmCalls, externalCalls, promptTokens, completionTokens,
           totalTokens }

end StepMetadata

/-! ## Results -/

structure StepResult where
  success : Bool
  output : Json
  metadata : StepMetadata
  error : Option StepError
deriving DecidableEq, Repr

namespace StepResult

def succeeded (output : Json) (metadata : StepMetadata) : StepResult :=
  ⟨true, output, metadata, none⟩

def failed (error : StepError) (metadata : StepMetadata) : StepResult :=
  ⟨false, .null, metadata, some error⟩

/-- The error of a failure. A failure without one is worth another attempt. -/
def errorOrDefault (r : StepResult) : StepError :=
  r.error.getD (.retryable "STEP_FAILED" "Step reported failure without an error")

def toJson (r : StepResult) : Json :=
  .object (Json.memberIfSome "error" (r.error.map StepError.toJson)
    ++ [("metadata", r.metadata.toJson), ("output", r.output), ("success", .bool r.success)])

end StepResult

end Stepwise
