/-! # The arguments of the program -/

namespace Stepwise

structure RunOptions where
  file : String
  /-- The input as text, or an at sign and the name of a file. -/
  input : String := "\x7b\x7d"
  tenant : String := "default"
  documents : Option String := none
deriving DecidableEq, Repr

inductive Command where
  | validate (file : String)
  | run (options : RunOptions)
deriving DecidableEq, Repr

namespace Command

/-- What has been read of the arguments: files and options. -/
structure Draft where
  files : List String := []
  options : List (String × String) := []
deriving DecidableEq, Repr

/-- Why arguments are not used for a command. -/
inductive Refusal where
  | usage
  | help
deriving DecidableEq, Repr

/-- Options that have been read as an option of the command. -/
def Draft.addOption (d : Draft) (known : List String) (name value : String) :
    Except Refusal Draft :=
  if known.contains name && (d.options.lookup name).isNone then
    .ok { d with options := d.options ++ [(name, value)] }
  else .error .usage

/-- Only one file is taken, and it has a name. -/
def Draft.addFile (d : Draft) (file : String) : Except Refusal Draft :=
  if d.files = [] ∧ file ≠ "" then .ok { d with files := [file] } else .error .usage

def isOption (arg : String) : Bool := "-".toList.isPrefixOf arg.toList && arg != "-"

/-- The arguments of a command with these options. -/
def readArguments (known : List String) (d : Draft) : List String → Except Refusal Draft
  | [] => .ok d
  | "--" :: rest => rest.foldlM Draft.addFile d
  | arg :: rest =>
    if arg = "--help" ∨ "-h".toList.isPrefixOf arg.toList then .error .help
    else if !isOption arg then do
      let d ← d.addFile arg
      readArguments known d rest
    else
      match arg.toList with
      | '-' :: '-' :: body =>
        let name := String.ofList (body.takeWhile (· != '='))
        match body.dropWhile (· != '=') with
        | _ :: value => do
          let d ← d.addOption known name (String.ofList value)
          readArguments known d rest
        | [] =>
          match rest with
          | value :: rest => do
            if isOption value then throw .usage
            let d ← d.addOption known name value
            readArguments known d rest
          | [] => .error .usage
      | _ => .error .usage

def runOptions : List String := ["input", "tenant", "documents"]

/-- A named file has a name. -/
def namedFile (s : Option String) : Except Refusal (Option String) :=
  if s = some "" then .error .usage else .ok s

def ofDraft (make : Draft → String → Except Refusal Command) (d : Draft) :
    Except Refusal Command :=
  match d.files with
  | [file] => make d file
  | _ => .error .usage

/-- The command that arguments ask for. -/
def ofArguments : List String → Except Refusal Command
  | "validate" :: rest => do
    let d ← readArguments [] {} rest
    ofDraft (fun _ file => .ok (.validate file)) d
  | "run" :: rest => do
    let d ← readArguments runOptions {} rest
    ofDraft (fun d file => do
      let documents ← namedFile (d.options.lookup "documents")
      return .run { file, documents
                    input := (d.options.lookup "input").getD "\x7b\x7d"
                    tenant := (d.options.lookup "tenant").getD "default" }) d
  | "help" :: _ => .error .help
  | arg :: _ =>
    if arg = "--help" ∨ arg = "--version" ∨ "-h".toList.isPrefixOf arg.toList
      ∨ "-V".toList.isPrefixOf arg.toList then .error .help
    else .error .usage
  | [] => .error .usage

def helpText : String :=
  "Usage: validate FILE\n       run FILE [--input TEXT] [--tenant NAME] [--documents FILE]"

end Command

end Stepwise
