import Stepwise.Completion.Chat
import Stepwise.Settings.Environment
import Stepwise.Settings.Toml

/-! # The settings of the program -/

namespace Stepwise

inductive LogFormat where
  | pretty
  | json
deriving DecidableEq, Repr

namespace LogFormat

def title : LogFormat → String
  | pretty => "Pretty"
  | json => "Json"

def name : LogFormat → String
  | pretty => "pretty"
  | json => "json"

def ofName? (s : String) : Option LogFormat := [pretty, json].find? (·.name == s)

end LogFormat

structure Settings where
  logLevel : String := "info"
  logFormat : LogFormat := .pretty
  stepTimeoutMs : UInt64 := 60000
  baseUrl : String := Chat.defaultBaseUrl
  apiKey : Option String := none
  defaultModel : String := "gpt-4o-mini"
  requestTimeoutMs : UInt64 := 120000
deriving DecidableEq, Repr

namespace Settings

/-! ## Fields -/

/-- A field that has a default. -/
def fieldOr {α : Type} (fields : List (String × Setting)) (name : String)
    (read : Setting → Option α) (default : α) : Option α :=
  match fields.lookup name with
  | some s => read s
  | none => some default

def u64? (s : Setting) : Option UInt64 := s.asNat?.map UInt64.ofNat

def optionalText? : Setting → Option (Option String)
  | .nothing => some none
  | s => s.asText?.map some

def logFormat? (s : Setting) : Option LogFormat := s.asChoice?.bind LogFormat.ofName?

/-- A section that may be left out. -/
def section? (s : Setting) (name : String) (fields : List String) :
    Option (List (String × Setting)) :=
  fieldOr s.members name (Setting.fields? fields) []

/-- The settings in a tree. A value of the wrong type makes all of it unusable. -/
def ofSetting? (s : Setting) : Option Settings := do
  let d : Settings := {}
  let logging ← section? s "logging" ["level", "format"]
  let executor ← section? s "executor" ["default_step_timeout_ms"]
  let completion ← section? s "completion"
    ["base_url", "api_key", "default_model", "request_timeout_ms"]
  let logLevel ← fieldOr logging "level" Setting.asText? d.logLevel
  let logFormat ← fieldOr logging "format" logFormat? d.logFormat
  let stepTimeoutMs ← fieldOr executor "default_step_timeout_ms" u64? d.stepTimeoutMs
  let baseUrl ← fieldOr completion "base_url" Setting.asText? d.baseUrl
  let apiKey ← fieldOr completion "api_key" optionalText? d.apiKey
  let defaultModel ← fieldOr completion "default_model" Setting.asText? d.defaultModel
  let requestTimeoutMs ← fieldOr completion "request_timeout_ms" u64? d.requestTimeoutMs
  return { logLevel, logFormat, stepTimeoutMs, baseUrl, apiKey, defaultModel, requestTimeoutMs }

/-! ## Sources -/

/-- The files that are read if they are there, without their extensions, in order. -/
def fileNames : List String := ["config/default", "config/local"]

/-- The notations of files, by extension. -/
def notations : List (String × (String → Option Setting)) :=
  [("toml", Toml.ofText?), ("json", fun s => (Json.ofText? s).map Setting.ofJson)]

def fileName (name extension : String) : String := name ++ "." ++ extension

/-- The files that settings may be in. -/
def allFileNames : List String :=
  fileNames.flatMap fun name => notations.map fun (extension, _) => fileName name extension

/-- The text of a file in the first notation that is there, with the reader of the notation. -/
def findFile? (files : String → Option String) (name : String) :
    Option (String × (String → Option Setting)) :=
  notations.findSome? fun (extension, read) =>
    (files (fileName name extension)).map fun text => (text, read)

/-- The settings in a file. A file that is there has to hold a table. -/
def fileSettings? (files : String → Option String) (name : String) : Option Setting :=
  match findFile? files name with
  | none => some (.table [])
  | some (text, read) =>
    match read text with
    | some (.table ms) => some (.table ms)
    | _ => none

/-- The settings in files and variables, if all of them can be used. -/
def load? (files : String → Option String) (vars : List (String × String)) :
    Option Settings := do
  let sources ← fileNames.mapM (fileSettings? files)
  let base := sources.foldl Setting.overlay (.table [])
  ofSetting? (Environment.overlay base vars)

end Settings

end Stepwise
