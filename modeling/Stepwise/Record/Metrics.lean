import Stepwise.Handler.Result

/-!
# Counters of a run
-/

namespace Stepwise

structure Metrics where
  stepsExecuted : UInt32 := 0
  stepsFailed : UInt32 := 0
  retries : UInt32 := 0
  retrievalCalls : UInt32 := 0
  llmCalls : UInt32 := 0
  externalCalls : UInt32 := 0
  promptTokens : UInt32 := 0
  completionTokens : UInt32 := 0
  totalTokens : UInt32 := 0
  totalDurationMs : UInt64 := 0
deriving DecidableEq, Repr

namespace Metrics

/-- Adds what a step has used. -/
def record (m : Metrics) (d : StepMetadata) : Metrics :=
  { m with
    retrievalCalls := saturatingAdd m.retrievalCalls d.retrievalCalls
    llmCalls := saturatingAdd m.llmCalls d.llmCalls
    externalCalls := saturatingAdd m.externalCalls d.externalCalls
    promptTokens := saturatingAdd m.promptTokens d.promptTokens
    completionTokens := saturatingAdd m.completionTokens d.completionTokens
    totalTokens := saturatingAdd m.totalTokens d.totalTokens }

def toJson (m : Metrics) : Json :=
  .object [("stepsExecuted", .nat m.stepsExecuted.toNat), ("stepsFailed", .nat m.stepsFailed.toNat),
    ("retries", .nat m.retries.toNat), ("retrievalCalls", .nat m.retrievalCalls.toNat),
    ("llmCalls", .nat m.llmCalls.toNat), ("externalCalls", .nat m.externalCalls.toNat),
    ("promptTokens", .nat m.promptTokens.toNat),
    ("completionTokens", .nat m.completionTokens.toNat),
    ("totalTokens", .nat m.totalTokens.toNat), ("totalDurationMs", .nat m.totalDurationMs.toNat)]

open Json (required need)

def fields : List Json.FieldSpec :=
  [required "stepsExecuted" Json.decodeU32, required "stepsFailed" Json.decodeU32,
    required "retries" Json.decodeU32, required "retrievalCalls" Json.decodeU32,
    required "llmCalls" Json.decodeU32, required "externalCalls" Json.decodeU32,
    required "promptTokens" Json.decodeU32, required "completionTokens" Json.decodeU32,
    required "totalTokens" Json.decodeU32, required "totalDurationMs" Json.decodeU64]

def decode (origin : Origin) (j : Json) : Except DecodeError Metrics := do
  let r ← Json.decodeRecord origin "ExecutionMetrics" fields j
  let stepsExecuted ← need r "stepsExecuted" Json.decodeU32
  let stepsFailed ← need r "stepsFailed" Json.decodeU32
  let retries ← need r "retries" Json.decodeU32
  let retrievalCalls ← need r "retrievalCalls" Json.decodeU32
  let llmCalls ← need r "llmCalls" Json.decodeU32
  let externalCalls ← need r "externalCalls" Json.decodeU32
  let promptTokens ← need r "promptTokens" Json.decodeU32
  let completionTokens ← need r "completionTokens" Json.decodeU32
  let totalTokens ← need r "totalTokens" Json.decodeU32
  let totalDurationMs ← need r "totalDurationMs" Json.decodeU64
  return { stepsExecuted, stepsFailed, retries, retrievalCalls, llmCalls, externalCalls,
           promptTokens, completionTokens, totalTokens, totalDurationMs }

end Metrics

end Stepwise
