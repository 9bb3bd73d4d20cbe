import Stepwise.Handler.Basic
import Stepwise.Service.Error

/-!
# Completing a prompt
-/

namespace Stepwise

structure CompletionRequest where
  model : String
  prompt : String
  systemPrompt : Option String := none
  /-- A number of the single format. -/
  temperature : Option Binary := none
  maxTokens : Option UInt32 := none
deriving DecidableEq, Repr

def CompletionRequest.toJson (r : CompletionRequest) : Json :=
  .object ([("model", .string r.model), ("prompt", .string r.prompt)]
    ++ Json.memberIfSome "systemPrompt" (r.systemPrompt.map .string)
    ++ Json.memberIfSome "temperature" (r.temperature.map .ofBinary)
    ++ Json.memberIfSome "maxTokens" (r.maxTokens.map fun n => .nat n.toNat))

structure Usage where
  promptTokens : UInt32 := 0
  completionTokens : UInt32 := 0
  totalTokens : UInt32 := 0
deriving DecidableEq, Repr

namespace Usage

/-- The usage with the total of the tokens. -/
def ofTokens (prompt completion : UInt32) : Except Panic Usage := do
  return ⟨prompt, completion, ← checkedAdd prompt completion⟩

def toJson (u : Usage) : Json :=
  .object [("completionTokens", .nat u.completionTokens.toNat),
    ("promptTokens", .nat u.promptTokens.toNat), ("totalTokens", .nat u.totalTokens.toNat)]

end Usage

structure Completion where
  text : String
  model : String
  usage : Usage := {}
deriving DecidableEq, Repr

def Completion.toJson (c : Completion) : Json :=
  .object [("model", .string c.model), ("text", .string c.text), ("usage", c.usage.toJson)]

/-- A service that completes prompts, in a world `σ`. -/
abbrev CompletionService (σ : Type) :=
  CompletionRequest → σ → Reply (Except ServiceError Completion) × σ

end Stepwise
