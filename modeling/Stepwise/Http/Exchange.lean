import Stepwise.Http.Request
import Stepwise.Http.Status
import Stepwise.Http.Url
import Stepwise.Json.Reader
import Stepwise.Json.Writer

/-! # One request and its response -/

namespace Stepwise

/-- A request that can go out. -/
structure Outgoing where
  method : HttpMethod
  url : Url
  /-- Names in small letters with their values. -/
  headers : List (String × String)
  body : Option String
deriving DecidableEq, Repr

/-- A response as it arrives. -/
structure Delivery where
  status : Nat
  body : String
deriving DecidableEq, Repr

namespace Http

def clientName : String := "http"

def clientError (message : String) : ServiceError := .provider clientName message

def requestFailed (detail : String) : ServiceError := clientError ("Request failed: " ++ detail)

/-! ## Before a request goes out -/

def builderError : String := "builder error"

def urlFailure : UrlFault → ServiceError
  | .malformed => requestFailed builderError
  | .otherScheme text => requestFailed (builderError ++ " for url (" ++ text ++ ")")

/-- The characters of header names besides letters and digits. -/
def nameMarks : List Char := "!#$%&*+-.^_|~".toList ++ [Char.ofNat 39, Char.ofNat 96]

def isHeaderName (s : String) : Bool :=
  s != "" && s.toList.all fun c => c.isAlphanum || nameMarks.contains c

/-- Header values are visible ASCII. Blanks and tabs count as visible. -/
def isHeaderValue (s : String) : Bool :=
  s.toList.all fun c => c == '\t' || (32 ≤ c.toNat && c.toNat < 127)

def checkedHeaders : List (String × String) → Option (List (String × String))
  | [] => some []
  | (name, value) :: rest =>
    if isHeaderName name && isHeaderValue value then
      (checkedHeaders rest).map ((name.map Char.toLower, value) :: ·)
    else none

def contentType : String := "content-type"

/-- A body is JSON unless a header says otherwise. -/
def withContentType (headers : List (String × String)) (body : Option Json) :
    List (String × String) :=
  if body.isSome && (headers.lookup contentType).isNone then
    headers ++ [(contentType, "application/json")]
  else headers

/-- Checks a request. A bad address comes before a bad header. -/
def prepare (r : HttpRequest) : Except ServiceError Outgoing :=
  match Url.ofText r.url with
  | .error fault => .error (urlFailure fault)
  | .ok url =>
    match checkedHeaders r.headers with
    | none => .error (requestFailed builderError)
    | some headers =>
      .ok ⟨r.method, url, withContentType headers r.body, r.body.map Json.compact⟩

/-! ## When a response has arrived -/

/-- The body as a value. No body is null, and what is no JSON is a string. -/
def bodyValue (body : String) : Json :=
  if body = "" then .null else (Json.ofText? body).getD (.string body)

def response (d : Delivery) : HttpResponse := ⟨d.status, bodyValue d.body⟩

def successValue (d : Delivery) : Except ServiceError Json :=
  if !Status.isSuccess d.status then
    .error (clientError ("HTTP " ++ Status.text d.status ++ ": " ++ d.body))
  else
    match Json.ofText? d.body with
    | some j => .ok j
    | none => .error (clientError "Failed to parse response: error decoding response body")

/-! ## A client over a transport -/

/-- Carries requests. It has no answer if none arrives. -/
abbrev Transport (σ : Type) := Outgoing → σ → Reply (Option Delivery) × σ

/-- Sends a request that has been checked. -/
def deliver {σ : Type} (transport : Transport σ) (o : Outgoing) (world : σ) :
    Reply (Except ServiceError Delivery) × σ :=
  let (reply, world) := transport o world
  let answer : Option Delivery → Except ServiceError Delivery
    | some d => .ok d
    | none => .error (requestFailed ("error sending request for url (" ++ o.url.text ++ ")"))
  (reply.map answer, world)

def exchange {σ : Type} (transport : Transport σ) (r : HttpRequest) (world : σ) :
    Reply (Except ServiceError Delivery) × σ :=
  match prepare r with
  | .error e => (.now (.error e), world)
  | .ok o => deliver transport o world

def client {σ : Type} (transport : Transport σ) : HttpClient σ where
  send r world :=
    let (reply, world) := exchange transport r world
    (reply.map (·.map response), world)
  postJson url headers body world :=
    let request := { method := .post, url, headers, body := some body }
    let (reply, world) := exchange transport request world
    (reply.map (·.bind successValue), world)

/-- A transport that reaches nobody. -/
def noTransport {σ : Type} : Transport σ := fun _ world => (.now none, world)

end Http

end Stepwise
