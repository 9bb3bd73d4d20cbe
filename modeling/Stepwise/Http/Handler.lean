import Stepwise.Handler.Params
import Stepwise.Http.Request
import Stepwise.Json.Writer

/-! # HTTP steps -/

namespace Stepwise

namespace Http

def schemes : List String := ["http://", "https://"]

def hasScheme (url : String) : Bool := schemes.any fun s => s.toList.isPrefixOf url.toList

def urlOf (params : Json) : Except StepError String := do
  let url ← Params.requiredString params "url"
  if hasScheme url then return url
  else Params.refuse ("param 'url' must be an http(s) URL, got '" ++ url ++ "'")

def methodOf (params : Json) : Except StepError HttpMethod := do
  match ← Params.optionalString params "method" with
  | none => return .get
  | some m => (HttpMethod.ofText m).mapError .invalidParams

/-- Headers in the order of their names. -/
def headerValues : List (String × Json) → Except StepError (List (String × String))
  | [] => .ok []
  | (name, .string s) :: rest => do
    let more ← headerValues rest
    return (name, s) :: more
  | (name, _) :: _ => Params.refuse s!"header '{name}' must be a string"

/-- What the params of an HTTP step ask for. -/
structure Call where
  request : HttpRequest
  failOnError : Bool
deriving DecidableEq, Repr

def Call.ofParams (params : Json) : Except StepError Call := do
  let url ← urlOf params
  let method ← methodOf params
  let members ← Params.optionalObject params "headers"
  let headers ← headerValues (members.getD [])
  let body := Params.present? params "body"
  let failOnError := (← Params.optionalBool params "failOnError").getD true
  return ⟨{ method, url, headers, body }, failOnError⟩

/-- Another attempt may find another status. -/
def isRetryable (status : Nat) : Bool := status ≥ 500 || status == 429

def output (r : HttpResponse) : Json :=
  .object [("body", r.body), ("ok", .bool r.isSuccess), ("status", .nat r.status)]

def metadata : StepMetadata := { externalCalls := 1 }

def statusError (r : HttpResponse) : StepError :=
  ⟨"HTTP_ERROR", s!"HTTP {r.status}: " ++ r.body.compact, isRetryable r.status⟩

/-- The result of a step from the answer of the client. -/
def result (failOnError : Bool) : Except ServiceError HttpResponse → StepResult
  | .error e => .failed (.retryable "HTTP_REQUEST_FAILED" e.message) metadata
  | .ok r =>
    if failOnError && !r.isSuccess then .failed (statusError r) metadata
    else .succeeded (output r) metadata

def schema : ParamSchema where
  fields := [
    { name := "url", paramType := .string, required := true,
      description := some "http or https URL" },
    { name := "method", paramType := .string, required := false,
      default := some (.string HttpMethod.get.name) },
    { name := "headers", paramType := .object, required := false,
      description := some "Header name to string value" },
    { name := "body", paramType := .any, required := false,
      description := some "JSON request body" },
    { name := "failOnError", paramType := .boolean, required := false,
      description := some "Treat non-2xx responses as step failures",
      default := some (.bool true) }]

def validate (params : Json) : Except StepError Unit := do
  schema.check params
  let _ ← Call.ofParams params

def handler {σ : Type} (client : HttpClient σ) : Handler σ where
  validate := validate
  schema := schema
  execute params _ world :=
    match Call.ofParams params with
    | .error e => (.now (.failed e {}), world)
    | .ok call =>
      let (answer, world) := client.send call.request world
      (answer.map (result call.failOnError), world)

end Http

end Stepwise
