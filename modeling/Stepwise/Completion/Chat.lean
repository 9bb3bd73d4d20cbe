import Stepwise.Completion.Request
import Stepwise.Http.Request

/-! # Completions over a chat interface -/

namespace Stepwise

open Json (required need needOr)

namespace Chat

def defaultBaseUrl : String := "https://api.openai.com"

/-- Where the interface is, and the key to it if it needs one. -/
structure Endpoint where
  apiKey : Option String := none
  baseUrl : String := defaultBaseUrl
deriving DecidableEq, Repr

namespace Endpoint

/-- Slashes at the end of the base do not count. -/
def url (e : Endpoint) : String :=
  let base := (e.baseUrl.toList.reverse.dropWhile (· == '/')).reverse
  String.ofList base ++ "/v1/chat/completions"

/-- An empty key is no key. -/
def headers (e : Endpoint) : List (String × String) :=
  ("Content-Type", "application/json") ::
    match e.apiKey with
    | some key => if key = "" then [] else [("Authorization", "Bearer " ++ key)]
    | none => []

end Endpoint

/-! ## Requests -/

def message (role content : String) : Json :=
  .object [("content", .string content), ("role", .string role)]

def messages (r : CompletionRequest) : List Json :=
  r.systemPrompt.toList.map (message "system") ++ [message "user" r.prompt]

def body (r : CompletionRequest) : Json :=
  Json.ofMembers ([("model", .string r.model), ("messages", .array (messages r)),
      ("stream", .bool false)]
    ++ Json.memberIfSome "temperature" (r.temperature.map .ofBinary)
    ++ Json.memberIfSome "max_tokens" (r.maxTokens.map fun n => .nat n.toNat))

/-! ## Responses -/

structure Tokens where
  prompt : UInt32
  completion : UInt32
deriving DecidableEq, Repr

def Tokens.decode (j : Json) : Except DecodeError Tokens := do
  let r ← Json.decodeRecord .value "OpenAiUsage"
    [required "prompt_tokens" Json.decodeU32, required "completion_tokens" Json.decodeU32] j
  let prompt ← need r "prompt_tokens" Json.decodeU32
  let completion ← need r "completion_tokens" Json.decodeU32
  return ⟨prompt, completion⟩

/-- The content of a message, which may be missing. -/
def decodeMessage (j : Json) : Except DecodeError (Option String) := do
  let r ← Json.decodeRecord .value "OpenAiResponseMessage"
    [required "content" (Json.decodeOption Json.decodeString)] j
  needOr r "content" (Json.decodeOption Json.decodeString) none

/-- The content of the message of a choice. -/
def decodeChoice (j : Json) : Except DecodeError (Option String) := do
  let r ← Json.decodeRecord .value "OpenAiChoice" [required "message" decodeMessage] j
  need r "message" decodeMessage

structure Response where
  model : String
  choices : List (Option String)
  usage : Option Tokens
deriving DecidableEq, Repr

def Response.decode (j : Json) : Except DecodeError Response := do
  let r ← Json.decodeRecord .value "OpenAiResponse"
    [required "model" Json.decodeString, required "choices" (Json.decodeList decodeChoice),
      required "usage" (Json.decodeOption Tokens.decode)] j
  let model ← need r "model" Json.decodeString
  let choices ← need r "choices" (Json.decodeList decodeChoice)
  let usage ← needOr r "usage" (Json.decodeOption Tokens.decode) none
  return ⟨model, choices, usage⟩

def providerName : String := "openai"

def providerError (message : String) : ServiceError := .provider providerName message

def Tokens.usage? : Option Tokens → Except Panic Usage
  | some t => Usage.ofTokens t.prompt t.completion
  | none => .ok {}

/-- The completion in a response. Its tokens may be too many to add up. -/
def completion (j : Json) : Except Panic (Except ServiceError Completion) :=
  match Response.decode j with
  | .error e => .ok (.error (providerError ("Failed to parse response: " ++ e.message)))
  | .ok r =>
    match r.choices with
    | [] => .ok (.error (providerError "No choices in response"))
    | content :: _ => do
      let usage ← Tokens.usage? r.usage
      return .ok ⟨content.getD "", r.model, usage⟩

/-- The completion in the answer of a client. -/
def read : Except ServiceError Json → Except Panic (Except ServiceError Completion)
  | .error e => .ok (.error e)
  | .ok j => completion j

/-- The interface as a service over a client. -/
def service {σ : Type} (client : HttpClient σ) (e : Endpoint) : CompletionService σ :=
  fun request world =>
    let (answer, world) := client.postJson e.url e.headers (body request) world
    (answer.mapOrPanic read fun p => .error (providerError p.message), world)

end Chat

end Stepwise
