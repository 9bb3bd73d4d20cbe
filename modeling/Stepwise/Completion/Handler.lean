import Stepwise.Completion.Request
import Stepwise.Handler.Params

/-! # Completion steps -/

namespace Stepwise

namespace Completion

def temperatureInRange (x : Binary) : Bool :=
  (Binary.zero false).atMost x && x.atMost (.ofInt .double 2)

def temperatureOf (params : Json) : Except StepError (Option Binary) := do
  match ← Params.optionalDouble params "temperature" with
  | none => return none
  | some x =>
    if temperatureInRange x then return some (x.roundTo .single)
    else Params.refuse "param 'temperature' must be between 0 and 2"

def maxTokensOf (params : Json) : Except StepError (Option UInt32) := do
  match ← Params.optionalNat params "maxTokens" with
  | none => return none
  | some n =>
    if n < UInt32.size then return some (UInt32.ofNat n)
    else Params.refuse "param 'maxTokens' is too large"

/-- The model in the params, unless it is blank. -/
def modelOf (params : Json) (defaultModel : String) : Except StepError String := do
  match ← Params.optionalString params "model" with
  | none => return defaultModel
  | some m => return if trim m.toList = [] then defaultModel else m

/-- What the params of a completion step ask for. -/
def requestOf (defaultModel : String) (params : Json) : Except StepError CompletionRequest := do
  let model ← modelOf params defaultModel
  let prompt ← Params.requiredString params "prompt"
  let systemPrompt ← Params.optionalString params "systemPrompt"
  let temperature ← temperatureOf params
  let maxTokens ← maxTokensOf params
  return { model, prompt, systemPrompt, temperature, maxTokens }

def metadata : StepMetadata := { llmCalls := 1 }

/-- The result of a step from the answer of the service. -/
def result : Except ServiceError Completion → StepResult
  | .ok c =>
    .succeeded c.toJson (metadata.withTokens c.usage.promptTokens c.usage.completionTokens)
  | .error e => .failed (e.toStepError "COMPLETION_FAILED") metadata

def schema (defaultModel : String) : ParamSchema where
  fields := [
    { name := "model", paramType := .string, required := false,
      description := some "Model id; the configured default when omitted",
      default := some (.string defaultModel) },
    { name := "prompt", paramType := .string, required := true, description := some "User prompt" },
    { name := "systemPrompt", paramType := .string, required := false },
    { name := "temperature", paramType := .number, required := false },
    { name := "maxTokens", paramType := .integer, required := false }]

def validate (defaultModel : String) (params : Json) : Except StepError Unit := do
  (schema defaultModel).check params
  let _ ← requestOf defaultModel params

def handler {σ : Type} (service : CompletionService σ) (defaultModel : String) : Handler σ where
  validate := validate defaultModel
  schema := schema defaultModel
  execute params _ world :=
    match requestOf defaultModel params with
    | .error e => (.now (.failed e {}), world)
    | .ok request =>
      let (answer, world) := service request world
      (answer.map result, world)

end Completion

end Stepwise
