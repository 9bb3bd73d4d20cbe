import Stepwise.Command.Arguments
import Stepwise.Handler.Builtin
import Stepwise.Http.Exchange
import Stepwise.Record.Codec
import Stepwise.Retrieval.Store
import Stepwise.Run.Engine
import Stepwise.Settings
import Stepwise.Settings.VariableFile
import Stepwise.Workflow.Codec

/-! # Carrying out commands -/

namespace Stepwise

inductive Failure where
  | unreadableWorkflow (file : String)
  | malformedWorkflow (file : String)
  | unreadableInput (file : String)
  | malformedInput
  | unreadableDocuments (file : String)
  | malformedDocuments (file : String)
  | invalidWorkflow (id : String) (errors : Nat)
  | unfinished (id : String) (status : ExecutionStatus)
  | panicked (panic : Panic)
deriving DecidableEq, Repr

namespace Failure

def message : Failure → String
  | unreadableWorkflow file => "Failed to read workflow file " ++ file
  | malformedWorkflow file => "Failed to parse workflow file " ++ file
  | unreadableInput file => "Failed to read input file " ++ file
  | malformedInput => "Input is not valid JSON"
  | unreadableDocuments file => "Failed to read documents file " ++ file
  | malformedDocuments file => "Failed to parse documents file " ++ file
  | invalidWorkflow id errors => s!"Workflow '{id}' is invalid ({errors} errors)"
  | unfinished id status => s!"Execution {id} finished with status " ++ status.name
  | panicked p => p.message

def exitCode : Failure → UInt32
  | panicked _ => 101
  | _ => 1

/-- The first line about a failure. -/
def complaint : Failure → String
  | f@(panicked _) => f.message
  | f => "Error: " ++ f.message

end Failure

/-- What a command leaves: a value to print, and a failure after that. -/
structure Outcome where
  printed : Option Json
  failure : Option Failure

namespace Outcome

def exitCode (o : Outcome) : UInt32 := (o.failure.map Failure.exitCode).getD 0

def complaint? (o : Outcome) : Option String := o.failure.map Failure.complaint

def failed (f : Failure) : Outcome := ⟨none, some f⟩

end Outcome

abbrev Files := String → Option String

namespace Command

/-! ## Files -/

def loadWorkflow (files : Files) (file : String) : Except Failure Workflow :=
  match files file with
  | none => .error (.unreadableWorkflow file)
  | some text => (Workflow.ofText text).mapError fun _ => .malformedWorkflow file

/-- The input itself, or the file that an at sign stands before. -/
def loadInput (files : Files) (input : String) : Except Failure Json := do
  let text ← match input.toList with
    | '@' :: name =>
      let file := String.ofList name
      match files file with
      | none => throw (.unreadableInput file)
      | some text => pure text
    | _ => pure input
  match Json.ofText? text with
  | some j => return j
  | none => throw .malformedInput

def decodeDocuments (text : String) : Except Json.TextError (List Document) :=
  Json.decodeText (.list (Json.recordOutline Document.fields))
    (Json.decodeList (Document.decode .text)) text

def loadDocuments (files : Files) : Option String → Except Failure (List Document)
  | none => .ok []
  | some file =>
    match files file with
    | none => .error (.unreadableDocuments file)
    | some text => (decodeDocuments text).mapError fun _ => .malformedDocuments file

/-- The name of the file with further variables. -/
def variableFile : String := ".env"

/-- The settings of a command. If any source cannot be used, all settings are the defaults. -/
def loadSettings (files : Files) (vars : List (String × String)) : Settings :=
  let more := VariableFile.ofText ((files variableFile).getD "")
  (Settings.load? files (VariableFile.extend vars more)).getD {}

def fileNames (c : Command) : List String :=
  let own := match c with
    | .validate file => [file]
    | .run o =>
      let input := match o.input.toList with
        | '@' :: name => [String.ofList name]
        | _ => []
      o.file :: input ++ o.documents.toList
  variableFile :: Settings.allFileNames ++ own

/-! ## Checking -/

def check (files : Files) (file : String) : Outcome :=
  match loadWorkflow files file with
  | .error f => .failed f
  | .ok w =>
    let report := w.validate
    ⟨some report.toJson,
      if report.valid then none else some (.invalidWorkflow w.id.text report.findings.length)⟩

/-! ## Running -/

/-- A run with all it needs from files. -/
structure Job where
  workflow : Workflow
  input : Json
  tenant : String
  documents : List Document
  settings : Settings

/-- A missing workflow comes before a missing input, and that before missing documents. -/
def prepare (files : Files) (settings : Settings) (o : RunOptions) : Except Failure Job := do
  let workflow ← loadWorkflow files o.file
  let input ← loadInput files o.input
  let documents ← loadDocuments files o.documents
  return { workflow, input, tenant := o.tenant, documents, settings }

namespace Job

variable {σ : Type}

def endpoint (job : Job) : Chat.Endpoint := ⟨job.settings.apiKey, job.settings.baseUrl⟩

/-- Documents in memory, and a chat interface and a client over one transport. -/
def services (job : Job) (transport : Http.Transport σ) : Services σ :=
  let client := Http.client transport
  { search := some (Store.service job.documents)
    completion := some (Chat.service client job.endpoint, job.settings.defaultModel)
    http := client }

def engine (job : Job) (transport : Http.Transport σ) (now : σ → Timestamp)
    (elapsedNanos : σ → Nat) : Engine σ where
  registry := Registry.empty.registerBuiltins (job.services transport)
  defaultTimeoutMs := job.settings.stepTimeoutMs
  now := now
  elapsedNanos := elapsedNanos

def request (job : Job) (executionId : String) : Engine.Request :=
  ⟨executionId, job.tenant, job.input⟩

/-- The outcome of a command from its run. -/
def outcome (run : Run σ) : Outcome :=
  match run.outcome with
  | .error p => .failed (.panicked p)
  | .ok run =>
    let e := run.execution
    ⟨some e.toJson, if e.status = .completed then none else some (.unfinished e.id e.status)⟩

end Job

end Command

end Stepwise
