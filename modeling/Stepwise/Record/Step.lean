import Stepwise.Handler.Result
import Stepwise.Record.Timestamp
import Stepwise.Workflow.Basic

/-! # The record of one step -/

namespace Stepwise

inductive StepStatus where
  | pending
  | running
  | completed
  | failed
  | skipped
deriving DecidableEq, Repr

namespace StepStatus

def name : StepStatus → String
  | pending => "pending"
  | running => "running"
  | completed => "completed"
  | failed => "failed"
  | skipped => "skipped"

def all : List StepStatus := [pending, running, completed, failed, skipped]

def ofName? (s : String) : Option StepStatus := all.find? (·.name == s)

/-- Nothing comes after this status. -/
def isTerminal : StepStatus → Bool
  | completed => true
  | failed => true
  | skipped => true
  | _ => false

end StepStatus

structure StepRecord where
  stepId : String
  stepType : String
  status : StepStatus
  /-- The params with their templates resolved. -/
  input : Json
  output : Option Json
  error : Option String
  errorCode : Option String
  metadata : Option StepMetadata
  startedAt : Timestamp
  completedAt : Option Timestamp
  durationMs : UInt64
  /-- Attempts after the first. -/
  retryCount : UInt32
deriving DecidableEq, Repr

namespace StepRecord

/-- The record of a step that starts. -/
def start (s : Step) (now : Timestamp) : StepRecord where
  stepId := s.id
  stepType := s.stepType
  status := .running
  input := s.params
  output := none
  error := none
  errorCode := none
  metadata := none
  startedAt := now
  completedAt := none
  durationMs := 0
  retryCount := 0

def setInput (r : StepRecord) (input : Json) : StepRecord := { r with input }

def setRetryCount (r : StepRecord) (retryCount : UInt32) : StepRecord := { r with retryCount }

/-- The record as it ends with a status. -/
def ended (r : StepRecord) (status : StepStatus) (now : Timestamp) : StepRecord :=
  { r with status, completedAt := some now, durationMs := r.startedAt.elapsedMs now }

def complete (r : StepRecord) (output : Json) (metadata : StepMetadata) (now : Timestamp) :
    StepRecord :=
  if r.status.isTerminal then r
  else { r.ended .completed now with output := some output, metadata := some metadata }

def fail (r : StepRecord) (error : StepError) (now : Timestamp) : StepRecord :=
  if r.status.isTerminal then r
  else { r.ended .failed now with error := some error.message, errorCode := some error.code }

/-- Ends a step that was interrupted before it had a result. -/
def skip (r : StepRecord) (reason : String) (now : Timestamp) : StepRecord :=
  if r.status.isTerminal then r else { r.ended .skipped now with error := some reason }

end StepRecord

end Stepwise
