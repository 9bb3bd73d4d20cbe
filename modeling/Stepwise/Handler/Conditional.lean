import Stepwise.Expr.Parser
import Stepwise.Handler.Basic
import Stepwise.Handler.Params
import Stepwise.Workflow.Basic

/-! # Conditional steps -/

namespace Stepwise

namespace Conditional

def output (holds : Bool) (next : Option String) : Json :=
  .object [("nextStepId", ((next.map Json.string).getD .null)), ("result", .bool holds)]

/-- The param that names the next step. -/
def branchParam (holds : Bool) : String := if holds then onTrueParam else onFalseParam

def outcome (params : Json) (context : Context) : Except StepError Json := do
  let condition ← Params.requiredString params conditionParam
  let holds := Expr.holds condition context
  let next ← Params.optionalString params (branchParam holds)
  return output holds next

def schema : ParamSchema where
  fields := [
    { name := conditionParam, paramType := .string, required := true,
      description := some "Boolean expression over input, steps and context" },
    { name := onTrueParam, paramType := .string, required := false,
      description := some "Step to run when the condition holds" },
    { name := onFalseParam, paramType := .string, required := false,
      description := some "Step to run otherwise" }]

def validate (params : Json) : Except StepError Unit := do
  schema.check params
  let _ ← Params.requiredString params conditionParam
  let _ ← Params.optionalString params onTrueParam
  let _ ← Params.optionalString params onFalseParam

def result (params : Json) (context : Context) : StepResult :=
  match outcome params context with
  | .ok j => .succeeded j {}
  | .error e => .failed e {}

def handler {σ : Type} : Handler σ where
  validate := validate
  schema := schema
  execute params context world := (.now (result params context), world)

end Conditional

end Stepwise
