/-! # Why a workflow cannot be read or run -/

namespace Stepwise

inductive WorkflowError where
  | validation (message : String)
  | stepNotFound (step : String)
  | handlerNotFound (step stepType : String)
  | invalidParams (step message : String)
  | stepExecution (step code message : String)
  | stepTimeout (step : String) (ms : UInt64)
  | timeout (limitMs : UInt64)
  | stepLimitExceeded (limit : UInt64)
  | cancelled
deriving DecidableEq, Repr

namespace WorkflowError

def message : WorkflowError → String
  | validation m => "Validation error: " ++ m
  | stepNotFound step => "Step not found: " ++ step
  | handlerNotFound step stepType =>
    s!"No handler registered for step type '{stepType}' (step '{step}')"
  | invalidParams step m => s!"Invalid parameters for step '{step}': " ++ m
  | stepExecution step _ m => s!"Step execution failed in '{step}': " ++ m
  | stepTimeout step ms => s!"Timeout in step '{step}' after {ms}ms"
  | timeout limitMs => s!"Workflow exceeded maximum execution duration of {limitMs}ms"
  | stepLimitExceeded limit => s!"Workflow exceeded maximum of {limit} executed steps"
  | cancelled => "Workflow execution was cancelled"

/-- The code that records of the run keep. -/
def code : WorkflowError → String
  | validation _ => "VALIDATION_ERROR"
  | stepNotFound _ => "STEP_NOT_FOUND"
  | handlerNotFound .. => "HANDLER_NOT_FOUND"
  | invalidParams .. => "INVALID_PARAMS"
  | stepExecution .. => "STEP_FAILED"
  | stepTimeout .. => "STEP_TIMEOUT"
  | timeout _ => "TIMEOUT"
  | stepLimitExceeded _ => "STEP_LIMIT_EXCEEDED"
  | cancelled => "CANCELLED"

def step? : WorkflowError → Option String
  | stepNotFound step => some step
  | handlerNotFound step _ => some step
  | invalidParams step _ => some step
  | stepExecution step _ _ => some step
  | stepTimeout step _ => some step
  | _ => none

/-- A limit of the whole run was reached. -/
def isTimeout : WorkflowError → Bool
  | timeout _ => true
  | stepLimitExceeded _ => true
  | _ => false

end WorkflowError

end Stepwise
