import Stepwise.Record.Execution
import Stepwise.Workflow.Validation

/-! # Events of a run -/

namespace Stepwise

inductive Level where
  | info
  | warn
  | error
deriving DecidableEq, Repr

def Level.name : Level → String
  | info => "info"
  | warn => "warn"
  | error => "error"

/-- An event apart from the run it belongs to. -/
inductive Event where
  | started (workflowId tenantId : String)
  | warning (w : Warning)
  | stepStarted (stepId stepType : String)
  | retrying (stepId : String) (attempt maxAttempts delayMs : Nat) (error : StepError)
  | stepCompleted (stepId : String) (durationMs : UInt64) (next : Option String)
  | stepFailed (stepId : String) (error : StepError)
  | completed (stepsExecuted : UInt32) (durationMs : UInt64)
  | failed (status : ExecutionStatus) (error : WorkflowError)
deriving DecidableEq, Repr

namespace Event

def level : Event → Level
  | warning _ => .warn
  | retrying .. => .warn
  | stepFailed .. => .error
  | failed .. => .error
  | _ => .info

def message : Event → String
  | started .. => "Workflow execution started"
  | warning _ => "Workflow validation warning"
  | stepStarted .. => "Step started"
  | retrying .. => "Retrying step"
  | stepCompleted .. => "Step completed"
  | stepFailed .. => "Step failed"
  | completed .. => "Workflow execution completed"
  | failed .. => "Workflow execution failed"

def textOrNull (s : Option String) : Json := (s.map Json.string).getD .null

/-- The fields besides the id of the run. -/
def details : Event → List (String × Json)
  | started workflowId tenantId =>
    [("workflowId", .string workflowId), ("tenantId", .string tenantId)]
  | warning w => [("warning", .string w.message)]
  | stepStarted stepId stepType => [("stepId", .string stepId), ("stepType", .string stepType)]
  | retrying stepId attempt maxAttempts delayMs error =>
    [("stepId", .string stepId), ("attempt", .nat attempt), ("maxAttempts", .nat maxAttempts),
      ("delayMs", .nat delayMs), ("error", error.toJson)]
  | stepCompleted stepId durationMs next =>
    [("stepId", .string stepId), ("durationMs", .nat durationMs.toNat),
      ("nextStepId", textOrNull next)]
  | stepFailed stepId error =>
    [("stepId", .string stepId), ("code", .string error.code), ("error", .string error.message),
      ("recoverable", .bool error.recoverable)]
  | completed stepsExecuted durationMs =>
    [("stepsExecuted", .nat stepsExecuted.toNat), ("durationMs", .nat durationMs.toNat)]
  | failed status error =>
    [("status", .string status.name), ("code", .string error.code),
      ("stepId", textOrNull error.step?), ("error", .string error.message)]

/-- The fields of an event of a run. -/
def fields (executionId : String) (e : Event) : Json :=
  Json.ofMembers (("executionId", .string executionId) :: e.details)

end Event

end Stepwise
