import Stepwise.Handler.Params
import Stepwise.Retrieval.Search

/-! # Retrieval steps -/

namespace Stepwise

namespace Retrieval

def defaultTopK : Nat := 5

/-- What the params of a retrieval step ask for. -/
structure Query where
  collectionId : String
  query : String
  topK : Nat
  filters : List (String × Json)
  minScore : Option Binary
deriving DecidableEq, Repr

def Query.ofParams (params : Json) : Except StepError Query := do
  let topK := (← Params.optionalNat params "topK").getD defaultTopK
  if topK = 0 then Params.refuse "param 'topK' must be at least 1"
  let filters := (← Params.optionalObject params "filters").getD []
  let collectionId ← Params.requiredString params "collectionId"
  let query ← Params.requiredString params "query"
  let minScore := (← Params.optionalDouble params "minScore").map (·.roundTo .single)
  return { collectionId, query, topK, filters, minScore }

/-- The search that is made for a tenant. -/
def Query.request (q : Query) (tenantId : String) : SearchRequest where
  collectionId := q.collectionId
  query := q.query
  topK := UInt64.ofNat q.topK
  filters := q.filters
  tenantId := tenantId

def Query.keep (q : Query) (hits : List SearchHit) : List SearchHit :=
  hits.filter fun h => q.minScore.all (·.atMost h.score)

def output (q : Query) (hits : List SearchHit) : Json :=
  let results := q.keep hits
  .object [("count", .nat results.length), ("query", .string q.query),
    ("results", .array (results.map SearchHit.toJson))]

def metadata : StepMetadata := { retrievalCalls := 1 }

/-- The result of a step from the answer of the service. -/
def result (q : Query) : Except ServiceError (List SearchHit) → StepResult
  | .ok hits => .succeeded (output q hits) metadata
  | .error e => .failed (e.toStepError "RETRIEVAL_FAILED") metadata

def schema : ParamSchema where
  fields := [
    { name := "collectionId", paramType := .string, required := true,
      description := some "Collection to search" },
    { name := "query", paramType := .string, required := true, description := some "Search text" },
    { name := "topK", paramType := .integer, required := false,
      description := some "Maximum number of results", default := some (.nat defaultTopK) },
    { name := "filters", paramType := .object, required := false,
      description := some "Metadata equality filters" },
    { name := "minScore", paramType := .number, required := false,
      description := some "Drop results scoring below this value" }]

def validate (params : Json) : Except StepError Unit := do
  schema.check params
  let _ ← Query.ofParams params

def handler {σ : Type} (service : SearchService σ) : Handler σ where
  validate := validate
  schema := schema
  execute params context world :=
    match Query.ofParams params with
    | .error e => (.now (.failed e {}), world)
    | .ok q =>
      let (answer, world) := service (q.request context.scope.tenantId) world
      (answer.map (result q), world)

end Retrieval

end Stepwise
