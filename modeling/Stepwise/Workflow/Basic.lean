import Std.Data.HashMap
import Stepwise.Json.Basic
import Stepwise.Workflow.Error

/-!
# Workflow definitions

Where two steps have one id, the first declaration counts.
-/

namespace Stepwise

/-! ## Ids -/

/-- Why a text is no workflow id. -/
inductive IdFault where
  | empty
  | tooLong
  | malformed (id : String)
deriving DecidableEq, Repr

/-- The most bytes that an id may have. -/
def maxIdLength : Nat := 100

def IdFault.message : IdFault → String
  | empty => "Workflow ID cannot be empty"
  | tooLong => s!"Workflow ID exceeds maximum length of {maxIdLength} characters"
  | malformed id => s!"Invalid workflow ID '{id}': must be alphanumeric with hyphens or underscores"

/-- ASCII letters and digits. After the first character also hyphens and underscores. -/
def isIdText : List Char → Bool
  | [] => false
  | c :: cs => c.isAlphanum && cs.all fun d => d.isAlphanum || d == '_' || d == '-'

/-- What is wrong with a text as an id, if anything is. -/
def idFault? (s : String) : Option IdFault :=
  if s = "" then some .empty
  else if s.utf8ByteSize > maxIdLength then some .tooLong
  else if !isIdText s.toList then some (.malformed s)
  else none

structure WorkflowId where
  text : String
  valid : idFault? text = none
deriving DecidableEq, Repr

def WorkflowId.ofText (s : String) : Except IdFault WorkflowId :=
  match h : idFault? s with
  | none => .ok ⟨s, h⟩
  | some fault => .error fault

/-! ## Retries -/

/-- How often a step is attempted, and how long it rests between attempts. -/
structure RetryPolicy where
  maxAttempts : UInt32 := 1
  baseDelayMs : UInt64 := 0
deriving DecidableEq, Repr

namespace RetryPolicy

/-- A step is attempted at least once. -/
def attempts (p : RetryPolicy) : Nat := max p.maxAttempts.toNat 1

/-- The rest after a failed attempt, counted from one. It grows with every attempt. -/
def delayMs (p : RetryPolicy) (attempt : Nat) : Nat :=
  min (p.baseDelayMs.toNat * attempt) (UInt64.size - 1)

end RetryPolicy

/-! ## Steps -/

/-- The type of the steps that branch. -/
def conditionalType : String := "conditional"

/-- The params of a conditional step. -/
def conditionParam : String := "condition"
def onTrueParam : String := "onTrue"
def onFalseParam : String := "onFalse"

structure Step where
  id : String
  stepType : String
  label : String := ""
  params : Json := .object []
  nextStepId : Option String := none
  onSuccess : Option String := none
  onFailure : Option String := none
  retry : Option RetryPolicy := none
  timeoutMs : Option UInt64 := none
deriving DecidableEq, Repr

/-- The ways a step can hand over. -/
inductive EdgeKind where
  | next
  | success
  | failure
  | branch
deriving DecidableEq, Repr

def EdgeKind.label : EdgeKind → String
  | next => "nextStepId"
  | success => "onSuccess"
  | failure => "onFailure"
  | branch => "branch target"

namespace Step

def isConditional (s : Step) : Bool := s.stepType == conditionalType

/-- A param of a step that is a string. -/
def stringParam? (s : Step) (key : String) : Option String := (s.params.get? key).bind Json.string?

/-- The steps that a conditional step names in its params. Other steps have none. -/
def branchTargets (s : Step) : List String :=
  if s.isConditional then
    (s.stringParam? onTrueParam).toList ++ (s.stringParam? onFalseParam).toList
  else []

/-- All edges of a step: the linear one, the ones after success and failure, and the branches. -/
def edges (s : Step) : List (EdgeKind × String) :=
  s.nextStepId.toList.map (.next, ·) ++ s.onSuccess.toList.map (.success, ·)
    ++ s.onFailure.toList.map (.failure, ·) ++ s.branchTargets.map (.branch, ·)

/-- The steps that a step may hand over to. -/
def outgoing (s : Step) : List String := s.edges.map Prod.snd

end Step

/-! ## Workflows -/

structure Workflow where
  id : WorkflowId
  version : UInt32 := 1
  name : Option String := none
  entryStepId : String
  steps : List Step := []
  maxSteps : UInt64 := 50
  maxExecutionDurationMs : Option UInt64 := none
deriving DecidableEq, Repr

namespace Workflow

def step? (w : Workflow) (id : String) : Option Step := w.steps.find? (·.id == id)

def hasStep (w : Workflow) (id : String) : Bool := (w.step? id).isSome

def index (w : Workflow) : Std.HashMap String Step :=
  w.steps.foldl (fun m s => m.insertIfNew s.id s) ∅

end Workflow

end Stepwise
