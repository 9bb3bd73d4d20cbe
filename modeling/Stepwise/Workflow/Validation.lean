import Stepwise.Expr.Parser
import Stepwise.Template
import Stepwise.Workflow.Graph

/-!
# Checking a workflow before it runs

Findings make a workflow invalid. Warnings do not.
-/

namespace Stepwise

inductive Finding where
  | noSteps
  | tooManySteps (count : Nat) (limit : UInt64)
  | duplicateStep (id : String)
  | noEntry (id : String)
  | danglingEdge (step target : String) (kind : EdgeKind)
  | cycle (path : List String)
  | unreachable (step entry : String)
deriving DecidableEq, Repr

def Finding.message : Finding → String
  | noSteps => "Workflow must contain at least one step"
  | tooManySteps count limit => s!"Workflow has {count} steps, exceeding maxSteps of {limit}"
  | duplicateStep id => s!"Duplicate step id '{id}'"
  | noEntry id => s!"Entry step '{id}' does not exist"
  | danglingEdge step target kind =>
    s!"Step '{step}' references non-existent step '{target}' in " ++ kind.label
  | cycle path => "Cycle detected: " ++ " -> ".intercalate path
  | unreachable step entry => s!"Step '{step}' is unreachable from entry step '{entry}'"

inductive Warning where
  | noAttempts (step : String)
  | ignoredEdges (step : String)
  | noCondition (step : String)
  | embeddedPlaceholders (step : String)
  | malformedCondition (step : String) (cause : ExprError)
deriving DecidableEq, Repr

def Warning.message : Warning → String
  | noAttempts step => s!"Step '{step}' has retry.maxAttempts of 0; it will be attempted once"
  | ignoredEdges step =>
    s!"Conditional step '{step}' declares nextStepId/onSuccess, which are ignored in favor of its branches"
  | noCondition step => s!"Conditional step '{step}' has no condition"
  | embeddedPlaceholders step =>
    s!"Conditional step '{step}' embeds placeholders in its condition; substituted values are parsed as expression syntax, reference paths directly instead"
  | malformedCondition step cause =>
    s!"Conditional step '{step}' has a condition that does not parse (" ++ cause.message
      ++ "); it will evaluate to false"

structure Report where
  findings : List Finding
  warnings : List Warning
deriving DecidableEq, Repr

namespace Report

def valid (r : Report) : Bool := r.findings.isEmpty

def errors (r : Report) : List String := r.findings.map Finding.message

/-- All findings as one error. -/
def toExcept (r : Report) : Except WorkflowError Unit :=
  if r.valid then .ok () else .error (.validation ("; ".intercalate r.errors))

def toJson (r : Report) : Json :=
  .object [("valid", .bool r.valid), ("errors", .array (r.errors.map .string)),
    ("warnings", .array (r.warnings.map fun w => .string w.message))]

end Report

namespace Workflow

/-! ## Findings -/

def sizeFindings (w : Workflow) : List Finding :=
  if w.steps.isEmpty then [.noSteps]
  else if w.steps.length > w.maxSteps.toNat then [.tooManySteps w.steps.length w.maxSteps]
  else []

/-- The ids that come a second time, in that order. `seen` have come, `named` more than once. -/
def repeatedIds (seen named : Std.HashSet String) : List String → List String
  | [] => []
  | id :: rest =>
    if seen.contains id && !named.contains id then
      id :: repeatedIds seen (named.insert id) rest
    else repeatedIds (seen.insert id) named rest

def duplicateFindings (w : Workflow) : List Finding :=
  (repeatedIds ∅ ∅ (w.steps.map Step.id)).map .duplicateStep

def entryFindings (w : Workflow) (ids : Std.HashSet String) : List Finding :=
  if !ids.contains w.entryStepId && !w.steps.isEmpty then [.noEntry w.entryStepId] else []

def danglingEdges (ids : Std.HashSet String) (s : Step) : List Finding :=
  (s.edges.filter fun (_, target) => !ids.contains target).map fun (kind, target) =>
    .danglingEdge s.id target kind

/-- A search needs an entry to start from. -/
def graphFindings (w : Workflow) (ids : Std.HashSet String) : List Finding :=
  if ids.contains w.entryStepId then
    let g := Graph.ofWorkflow w
    (g.cycles w.entryStepId).map .cycle
      ++ (g.unreachable w.entryStepId).map (.unreachable · w.entryStepId)
  else []

def findings (w : Workflow) : List Finding :=
  let ids := Graph.declared w
  w.sizeFindings ++ w.duplicateFindings ++ w.entryFindings ids
    ++ w.steps.flatMap (danglingEdges ids) ++ w.graphFindings ids

end Workflow

namespace Step

/-! ## Warnings -/

def startsWithBraces (cs : List Char) : Bool := ['\x7b', '\x7b'].isPrefixOf cs

def endsWithBraces (cs : List Char) : Bool := ['\x7d', '\x7d'].isSuffixOf cs

/-- The condition is one placeholder and nothing else. -/
def isSinglePlaceholder (condition : String) : Bool :=
  let cs := trim condition.toList
  startsWithBraces cs && endsWithBraces cs && (Template.paths (String.ofList cs)).length == 1

/-- A condition with placeholders can only be read once they have values. -/
def conditionWarnings (s : Step) : List Warning :=
  match s.stringParam? conditionParam with
  | none => [.noCondition s.id]
  | some condition =>
    if Template.hasPlaceholders condition then
      if isSinglePlaceholder condition then [] else [.embeddedPlaceholders s.id]
    else
      match Expr.parse condition with
      | .ok _ => []
      | .error e => [.malformedCondition s.id e]

def warnings (s : Step) : List Warning :=
  (if s.retry.any (·.maxAttempts == 0) then [.noAttempts s.id] else [])
    ++ (if s.isConditional then
        (if s.nextStepId.isSome || s.onSuccess.isSome then [.ignoredEdges s.id] else [])
          ++ s.conditionWarnings
      else [])

end Step

namespace Workflow

def validate (w : Workflow) : Report := ⟨w.findings, w.steps.flatMap Step.warnings⟩

end Workflow

end Stepwise
