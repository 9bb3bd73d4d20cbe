import Stepwise.Json.Basic

/-! # The context of a run -/

namespace Stepwise

/-- The constants of one run. -/
structure Scope where
  workflowId : String
  executionId : String
  tenantId : String
deriving DecidableEq, Repr

def Scope.toJson (s : Scope) : Json :=
  .object [("executionId", .string s.executionId), ("tenantId", .string s.tenantId),
    ("workflowId", .string s.workflowId)]

/-- The names a path can start with. -/
inductive Root where
  | input
  | steps
  | context
deriving DecidableEq, Repr

namespace Root

def name : Root → String
  | input => "input"
  | steps => "steps"
  | context => "context"

def ofName? : String → Option Root
  | "input" => some input
  | "steps" => some steps
  | "context" => some context
  | _ => none

end Root

/-- What a run has seen so far. `steps` holds an entry for every finished step, by its id. -/
structure Context where
  input : Json
  steps : Table Json
  scope : Scope
deriving Repr

namespace Context

/-- A context before the first step. -/
def new (input : Json) (scope : Scope) : Context := ⟨input, .empty, scope⟩

def completedEntry (output metadata : Json) : Json :=
  .object [("metadata", metadata), ("output", output)]

def failedEntry (error : Json) : Json := .object [("error", error), ("output", .null)]

/-- An entry for a step. It replaces an earlier entry of the same step. -/
def recordEntry (c : Context) (id : String) (entry : Json) : Context :=
  { c with steps := c.steps.insert id entry }

def recordStep (c : Context) (id : String) (output metadata : Json) : Context :=
  c.recordEntry id (completedEntry output metadata)

def recordFailure (c : Context) (id : String) (error : Json) : Context :=
  c.recordEntry id (failedEntry error)

def step? (c : Context) (id : String) : Option Json := c.steps.get? id

def stepOutput? (c : Context) (id : String) : Option Json := (c.step? id).bind (·.get? "output")

def stepCount (c : Context) : Nat := c.steps.size

/-- The value under a root. -/
def root (c : Context) : Root → Json
  | .input => c.input
  | .steps => .object c.steps.entries
  | .context => c.scope.toJson

/-- All three roots as one value. -/
def toJson (c : Context) : Json :=
  .object [("context", c.root .context), ("input", c.root .input), ("steps", c.root .steps)]

end Context

end Stepwise
