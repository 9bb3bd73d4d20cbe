import Stepwise.Completion.Handler
import Stepwise.Handler.Conditional
import Stepwise.Handler.Registry
import Stepwise.Http.Handler
import Stepwise.Retrieval.Handler

/-!
# The step types that come with the engine
-/

namespace Stepwise

inductive BuiltinType where
  | retrieval
  | completion
  | conditional
  | httpRequest
deriving DecidableEq, Repr

namespace BuiltinType

def name : BuiltinType → String
  | retrieval => "retrieval"
  | completion => "completion"
  | conditional => conditionalType
  | httpRequest => "http_request"

def all : List BuiltinType := [retrieval, completion, conditional, httpRequest]

def ofName? (s : String) : Option BuiltinType := all.find? (·.name == s)

def ofText (s : String) : Except String BuiltinType :=
  match ofName? s with
  | some t => .ok t
  | none => .error ("Unknown built-in step type: " ++ s)

end BuiltinType

/-- The services behind the built-in handlers. Steps of a type whose service is missing have no
handler. -/
structure Services (σ : Type) where
  search : Option (SearchService σ) := none
  /-- The service, and the model for steps that name none. -/
  completion : Option (CompletionService σ × String) := none
  http : HttpClient σ

def Registry.registerBuiltins {σ : Type} (r : Registry σ) (services : Services σ) : Registry σ :=
  let r := match services.search with
    | some service => r.register BuiltinType.retrieval.name (Retrieval.handler service)
    | none => r
  let r := match services.completion with
    | some (service, model) =>
      r.register BuiltinType.completion.name (Completion.handler service model)
    | none => r
  let r := r.register BuiltinType.conditional.name Conditional.handler
  r.register BuiltinType.httpRequest.name (Http.handler services.http)

end Stepwise
