import Stepwise.Handler.Basic
import Stepwise.Http.Status
import Stepwise.Service.Error

/-!
# Calling out over HTTP
-/

namespace Stepwise

inductive HttpMethod where
  | get
  | post
  | put
  | patch
  | delete
deriving DecidableEq, Repr

namespace HttpMethod

def name : HttpMethod → String
  | get => "GET"
  | post => "POST"
  | put => "PUT"
  | patch => "PATCH"
  | delete => "DELETE"

def all : List HttpMethod := [get, post, put, patch, delete]

/-- A method by its name in any case. -/
def ofText (s : String) : Except String HttpMethod :=
  let upper := s.map Char.toUpper
  match all.find? (·.name == upper) with
  | some m => .ok m
  | none => .error s!"Unsupported HTTP method '{upper}'"

def ofName? (s : String) : Option HttpMethod := all.find? (·.name == s)

end HttpMethod

structure HttpRequest where
  method : HttpMethod
  url : String
  headers : List (String × String) := []
  body : Option Json := none
deriving DecidableEq, Repr

/-- A response. A body that is no JSON is a string. -/
structure HttpResponse where
  status : Nat
  body : Json
deriving DecidableEq, Repr

def HttpResponse.isSuccess (r : HttpResponse) : Bool := Status.isSuccess r.status

/-- A client that calls out, in a world `σ`. -/
structure HttpClient (σ : Type) where
  /-- Any response that arrives is an answer. -/
  send : HttpRequest → σ → Reply (Except ServiceError HttpResponse) × σ
  /-- Posts a value and takes the value in the answer. Only success is an answer. -/
  postJson : String → List (String × String) → Json → σ → Reply (Except ServiceError Json) × σ

end Stepwise
