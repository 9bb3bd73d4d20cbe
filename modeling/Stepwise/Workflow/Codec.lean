import Stepwise.Json.Decode
import Stepwise.Workflow.Basic

/-! # Workflow definitions as JSON -/

namespace Stepwise

open Json (required omittable need needOr memberIfSome)

namespace RetryPolicy

def fields : List Json.FieldSpec :=
  [omittable "maxAttempts" Json.decodeU32, omittable "baseDelayMs" Json.decodeU64]

def decode (origin : Origin) (j : Json) : Except DecodeError RetryPolicy := do
  let r ← Json.decodeRecord origin "RetryPolicy" fields j
  let maxAttempts ← needOr r "maxAttempts" Json.decodeU32 1
  let baseDelayMs ← needOr r "baseDelayMs" Json.decodeU64 0
  return ⟨maxAttempts, baseDelayMs⟩

def toJson (p : RetryPolicy) : Json :=
  .object [("maxAttempts", .nat p.maxAttempts.toNat), ("baseDelayMs", .nat p.baseDelayMs.toNat)]

end RetryPolicy

namespace Step

def fields (origin : Origin) : List Json.FieldSpec :=
  [required "id" Json.decodeString, required "type" Json.decodeString,
    omittable "label" Json.decodeString, omittable "params" Json.decodeAny,
    omittable "nextStepId" (Json.decodeOption Json.decodeString),
    omittable "onSuccess" (Json.decodeOption Json.decodeString),
    omittable "onFailure" (Json.decodeOption Json.decodeString),
    (omittable "retry" (Json.decodeOption (RetryPolicy.decode origin))).within
      (Json.recordOutline RetryPolicy.fields),
    omittable "timeoutMs" (Json.decodeOption Json.decodeU64)]

def decode (origin : Origin) (j : Json) : Except DecodeError Step := do
  let r ← Json.decodeRecord origin "WorkflowStep" (fields origin) j
  let id ← need r "id" Json.decodeString
  let stepType ← need r "type" Json.decodeString
  let label ← needOr r "label" Json.decodeString ""
  let params ← needOr r "params" Json.decodeAny (.object [])
  let nextStepId ← needOr r "nextStepId" (Json.decodeOption Json.decodeString) none
  let onSuccess ← needOr r "onSuccess" (Json.decodeOption Json.decodeString) none
  let onFailure ← needOr r "onFailure" (Json.decodeOption Json.decodeString) none
  let retry ← needOr r "retry" (Json.decodeOption (RetryPolicy.decode origin)) none
  let timeoutMs ← needOr r "timeoutMs" (Json.decodeOption Json.decodeU64) none
  return { id, stepType, label, params, nextStepId, onSuccess, onFailure, retry, timeoutMs }

def toJson (s : Step) : Json :=
  .object ([("id", .string s.id), ("type", .string s.stepType), ("label", .string s.label),
      ("params", s.params)]
    ++ memberIfSome "nextStepId" (s.nextStepId.map .string)
    ++ memberIfSome "onSuccess" (s.onSuccess.map .string)
    ++ memberIfSome "onFailure" (s.onFailure.map .string)
    ++ memberIfSome "retry" (s.retry.map RetryPolicy.toJson)
    ++ memberIfSome "timeoutMs" (s.timeoutMs.map fun ms => .nat ms.toNat))

end Step

namespace WorkflowId

def decode (j : Json) : Except DecodeError WorkflowId := do
  let s ← Json.decodeString j
  (ofText s).mapError fun fault => .refused (WorkflowError.validation fault.message).message

end WorkflowId

namespace Workflow

def fields (origin : Origin) : List Json.FieldSpec :=
  [required "id" WorkflowId.decode, omittable "version" Json.decodeU32,
    omittable "name" (Json.decodeOption Json.decodeString),
    required "entryStepId" Json.decodeString,
    (omittable "steps" (Json.decodeList (Step.decode origin))).within
      (.list (Json.recordOutline (Step.fields origin))),
    omittable "maxSteps" Json.decodeSize,
    omittable "maxExecutionDurationMs" (Json.decodeOption Json.decodeU64)]

def decode (origin : Origin) (j : Json) : Except DecodeError Workflow := do
  let r ← Json.decodeRecord origin "Workflow" (fields origin) j
  let id ← need r "id" WorkflowId.decode
  let version ← needOr r "version" Json.decodeU32 1
  let name ← needOr r "name" (Json.decodeOption Json.decodeString) none
  let entryStepId ← need r "entryStepId" Json.decodeString
  let steps ← needOr r "steps" (Json.decodeList (Step.decode origin)) []
  let maxSteps ← needOr r "maxSteps" Json.decodeSize 50
  let maxExecutionDurationMs ←
    needOr r "maxExecutionDurationMs" (Json.decodeOption Json.decodeU64) none
  return { id, version, name, entryStepId, steps, maxSteps, maxExecutionDurationMs }

def toJson (w : Workflow) : Json :=
  .object ([("id", .string w.id.text), ("version", .nat w.version.toNat)]
    ++ memberIfSome "name" (w.name.map .string)
    ++ [("entryStepId", .string w.entryStepId), ("steps", .array (w.steps.map Step.toJson)),
      ("maxSteps", .nat w.maxSteps.toNat)]
    ++ memberIfSome "maxExecutionDurationMs" (w.maxExecutionDurationMs.map fun ms => .nat ms.toNat))

def ofText (s : String) : Except Json.TextError Workflow :=
  Json.decodeText (Json.recordOutline (fields .text)) (decode .text) s

end Workflow

end Stepwise
