import Stepwise.Record.Metrics
import Stepwise.Record.Step

/-! # The record of a run -/

namespace Stepwise

inductive ExecutionStatus where
  | pending
  | running
  | completed
  | failed
  | timeout
  | cancelled
deriving DecidableEq, Repr

namespace ExecutionStatus

def name : ExecutionStatus → String
  | pending => "pending"
  | running => "running"
  | completed => "completed"
  | failed => "failed"
  | timeout => "timeout"
  | cancelled => "cancelled"

def all : List ExecutionStatus := [pending, running, completed, failed, timeout, cancelled]

def ofName? (s : String) : Option ExecutionStatus := all.find? (·.name == s)

/-- Nothing comes after this status. -/
def isTerminal : ExecutionStatus → Bool
  | pending => false
  | running => false
  | _ => true

/-- The status of a run that ends with an error. -/
def ofError : WorkflowError → ExecutionStatus
  | .cancelled => cancelled
  | e => if e.isTimeout then timeout else failed

end ExecutionStatus

/-- The error of a run as its record keeps it. -/
structure ExecutionError where
  code : String
  message : String
  stepId : Option String
deriving DecidableEq, Repr

def ExecutionError.ofError (e : WorkflowError) : ExecutionError := ⟨e.code, e.message, e.step?⟩

structure Execution where
  id : String
  workflowId : String
  workflowVersion : UInt32
  tenantId : String
  status : ExecutionStatus
  input : Json
  /-- The output of the last step that completed. -/
  output : Option Json
  steps : List StepRecord
  metrics : Metrics
  error : Option ExecutionError
  createdAt : Timestamp
  startedAt : Option Timestamp
  completedAt : Option Timestamp
deriving DecidableEq, Repr

def changeLast {α : Type} (f : α → α) : List α → List α
  | [] => []
  | [x] => [f x]
  | x :: xs => x :: changeLast f xs

namespace Execution

/-- The record of a run that has not started. -/
def new (id : String) (w : Workflow) (tenantId : String) (input : Json) (now : Timestamp) :
    Execution where
  id := id
  workflowId := w.id.text
  workflowVersion := w.version
  tenantId := tenantId
  status := .pending
  input := input
  output := none
  steps := []
  metrics := {}
  error := none
  createdAt := now
  startedAt := none
  completedAt := none

/-- Starts a pending run. The answer says whether it did. -/
def start (e : Execution) (now : Timestamp) : Bool × Execution :=
  if e.status = .pending then (true, { e with status := .running, startedAt := some now })
  else (false, e)

/-- Adds the record of a step to a run that has not ended. -/
def push (e : Execution) (r : StepRecord) : Execution :=
  if e.status.isTerminal then e else { e with steps := e.steps ++ [r] }

/-- The last record while its step is running. -/
def current? (e : Execution) : Option StepRecord :=
  e.steps.getLast?.filter (·.status == .running)

/-- Changes the last record while its step is running. -/
def changeCurrent (e : Execution) (f : StepRecord → StepRecord) : Execution :=
  if e.current?.isSome then { e with steps := changeLast f e.steps } else e

def changeMetrics (e : Execution) (f : Metrics → Metrics) : Execution :=
  { e with metrics := f e.metrics }

/-- The output of the last step that completed. -/
def lastOutput? (e : Execution) : Option Json :=
  (e.steps.reverse.find? (·.status == .completed)).bind StepRecord.output

/-- The record as the run ends with a status. -/
def ended (e : Execution) (status : ExecutionStatus) (now : Timestamp) : Execution :=
  { e with
    status
    completedAt := some now
    metrics := { e.metrics with totalDurationMs := (e.startedAt.getD e.createdAt).elapsedMs now } }

/-- Ends a run with the output of its last completed step. The answer says whether it did. -/
def complete (e : Execution) (now : Timestamp) : Bool × Execution :=
  if e.status.isTerminal then (false, e)
  else (true, { e.ended .completed now with output := e.lastOutput? })

/-- Ends a run with an error. The answer says whether it did. -/
def fail (e : Execution) (error : WorkflowError) (now : Timestamp) : Bool × Execution :=
  if e.status.isTerminal then (false, e)
  else (true, { e.ended (.ofError error) now with error := some (.ofError error) })

end Execution

end Stepwise
