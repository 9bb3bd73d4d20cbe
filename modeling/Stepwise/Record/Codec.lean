import Stepwise.Record.Execution

/-! # Records as JSON -/

namespace Stepwise

open Json (required omittable need needOr memberIfSome)

namespace Timestamp

def toJson (t : Timestamp) : Json := .string t.text

def decode (j : Json) : Except DecodeError Timestamp := do
  let s ← Json.decodeString j
  match ofText? s with
  | some t => .ok t
  | none => .error (.refused "input contains invalid characters")

end Timestamp

namespace StepStatus

def decode (j : Json) : Except DecodeError StepStatus := do
  let s ← Json.decodeString j
  match ofName? s with
  | some x => .ok x
  | none => .error (.refused s!"unknown variant `{s}`")

end StepStatus

namespace ExecutionStatus

def decode (j : Json) : Except DecodeError ExecutionStatus := do
  let s ← Json.decodeString j
  match ofName? s with
  | some x => .ok x
  | none => .error (.refused s!"unknown variant `{s}`")

end ExecutionStatus

namespace StepRecord

def toJson (r : StepRecord) : Json :=
  .object ([("stepId", .string r.stepId), ("stepType", .string r.stepType),
      ("status", .string r.status.name), ("input", r.input)]
    ++ memberIfSome "output" r.output
    ++ memberIfSome "error" (r.error.map .string)
    ++ memberIfSome "errorCode" (r.errorCode.map .string)
    ++ memberIfSome "metadata" (r.metadata.map fun m => .object m.members)
    ++ [("startedAt", r.startedAt.toJson)]
    ++ memberIfSome "completedAt" (r.completedAt.map Timestamp.toJson)
    ++ [("durationMs", .nat r.durationMs.toNat), ("retryCount", .nat r.retryCount.toNat)])

def fields (origin : Origin) : List Json.FieldSpec :=
  [required "stepId" Json.decodeString, required "stepType" Json.decodeString,
    required "status" StepStatus.decode, required "input" Json.decodeAny,
    required "output" (Json.decodeOption Json.decodeAny),
    required "error" (Json.decodeOption Json.decodeString),
    required "errorCode" (Json.decodeOption Json.decodeString),
    required "metadata" (Json.decodeOption (StepMetadata.decode origin)),
    required "startedAt" Timestamp.decode,
    required "completedAt" (Json.decodeOption Timestamp.decode),
    required "durationMs" Json.decodeU64, required "retryCount" Json.decodeU32]

def decode (origin : Origin) (j : Json) : Except DecodeError StepRecord := do
  let r ← Json.decodeRecord origin "StepExecution" (fields origin) j
  let stepId ← need r "stepId" Json.decodeString
  let stepType ← need r "stepType" Json.decodeString
  let status ← need r "status" StepStatus.decode
  let input ← need r "input" Json.decodeAny
  let output ← needOr r "output" (Json.decodeOption Json.decodeAny) none
  let error ← needOr r "error" (Json.decodeOption Json.decodeString) none
  let errorCode ← needOr r "errorCode" (Json.decodeOption Json.decodeString) none
  let metadata ← needOr r "metadata" (Json.decodeOption (StepMetadata.decode origin)) none
  let startedAt ← need r "startedAt" Timestamp.decode
  let completedAt ← needOr r "completedAt" (Json.decodeOption Timestamp.decode) none
  let durationMs ← need r "durationMs" Json.decodeU64
  let retryCount ← need r "retryCount" Json.decodeU32
  return { stepId, stepType, status, input, output, error, errorCode, metadata, startedAt,
           completedAt, durationMs, retryCount }

end StepRecord

namespace ExecutionError

def toJson (e : ExecutionError) : Json :=
  .object ([("code", .string e.code), ("message", .string e.message)]
    ++ memberIfSome "stepId" (e.stepId.map .string))

def fields : List Json.FieldSpec :=
  [required "code" Json.decodeString, required "message" Json.decodeString,
    required "stepId" (Json.decodeOption Json.decodeString)]

def decode (origin : Origin) (j : Json) : Except DecodeError ExecutionError := do
  let r ← Json.decodeRecord origin "ExecutionError" fields j
  let code ← need r "code" Json.decodeString
  let message ← need r "message" Json.decodeString
  let stepId ← needOr r "stepId" (Json.decodeOption Json.decodeString) none
  return { code, message, stepId }

end ExecutionError

namespace Execution

def toJson (e : Execution) : Json :=
  .object ([("id", .string e.id), ("workflowId", .string e.workflowId),
      ("workflowVersion", .nat e.workflowVersion.toNat), ("tenantId", .string e.tenantId),
      ("status", .string e.status.name), ("input", e.input)]
    ++ memberIfSome "output" e.output
    ++ [("steps", .array (e.steps.map StepRecord.toJson)), ("metrics", e.metrics.toJson)]
    ++ memberIfSome "error" (e.error.map ExecutionError.toJson)
    ++ [("createdAt", e.createdAt.toJson)]
    ++ memberIfSome "startedAt" (e.startedAt.map Timestamp.toJson)
    ++ memberIfSome "completedAt" (e.completedAt.map Timestamp.toJson))

def fields (origin : Origin) : List Json.FieldSpec :=
  [required "id" Json.decodeString, required "workflowId" Json.decodeString,
    required "workflowVersion" Json.decodeU32, required "tenantId" Json.decodeString,
    required "status" ExecutionStatus.decode, required "input" Json.decodeAny,
    required "output" (Json.decodeOption Json.decodeAny),
    required "steps" (Json.decodeList (StepRecord.decode origin)),
    required "metrics" (Metrics.decode origin),
    required "error" (Json.decodeOption (ExecutionError.decode origin)),
    required "createdAt" Timestamp.decode,
    required "startedAt" (Json.decodeOption Timestamp.decode),
    required "completedAt" (Json.decodeOption Timestamp.decode)]

def decode (origin : Origin) (j : Json) : Except DecodeError Execution := do
  let r ← Json.decodeRecord origin "WorkflowExecution" (fields origin) j
  let id ← need r "id" Json.decodeString
  let workflowId ← need r "workflowId" Json.decodeString
  let workflowVersion ← need r "workflowVersion" Json.decodeU32
  let tenantId ← need r "tenantId" Json.decodeString
  let status ← need r "status" ExecutionStatus.decode
  let input ← need r "input" Json.decodeAny
  let output ← needOr r "output" (Json.decodeOption Json.decodeAny) none
  let steps ← need r "steps" (Json.decodeList (StepRecord.decode origin))
  let metrics ← need r "metrics" (Metrics.decode origin)
  let error ← needOr r "error" (Json.decodeOption (ExecutionError.decode origin)) none
  let createdAt ← need r "createdAt" Timestamp.decode
  let startedAt ← needOr r "startedAt" (Json.decodeOption Timestamp.decode) none
  let completedAt ← needOr r "completedAt" (Json.decodeOption Timestamp.decode) none
  return { id, workflowId, workflowVersion, tenantId, status, input, output, steps, metrics, error,
           createdAt, startedAt, completedAt }

end Execution

end Stepwise
