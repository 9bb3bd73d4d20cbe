import Stepwise.Context

/-! # Value paths -/

namespace Stepwise

/-- One step of a walk. -/
inductive Segment where
  | key (name : String)
  | index (n : Nat)
deriving DecidableEq, Repr

/-- A path, with the text it was read from. -/
structure Path where
  raw : String
  root : Root
  segments : List Segment
deriving DecidableEq, Repr

/-- What is wrong with the text of a path. -/
inductive PathFault where
  | noRoot
  | noName
  | noIndex
  | indexTooLarge
  | unexpected (c : Char)
deriving DecidableEq, Repr

/-- Why a path cannot be read or walked. -/
inductive PathError where
  | empty
  | unknownRoot (name : String)
  | malformed (path : String) (fault : PathFault)
  | notAnObject (path : String) (segment : String)
  | notAnArray (path : String) (index : Nat)
deriving DecidableEq, Repr

def PathFault.message : PathFault → String
  | noRoot => "path must start with a root name"
  | noName => "expected a property name after '.'"
  | noIndex => "expected a non-negative integer index in '[...]'"
  | indexTooLarge => "array index out of range"
  | unexpected c => "unexpected character '" ++ c.toString ++ "'"

def PathError.message : PathError → String
  | empty => "Path is empty"
  | unknownRoot name => s!"Unknown root '{name}': expected one of input, steps, context"
  | malformed path fault => "Invalid path '" ++ path ++ "': " ++ fault.message
  | notAnObject path segment => s!"Cannot read property '{segment}' of a non-object in '{path}'"
  | notAnArray path index => s!"Cannot index [{index}] into a non-array in '{path}'"

namespace Path

/-- Walks from a value that may be undefined. -/
def walk (raw : String) : List Segment → Option Json → Except PathError (Option Json)
  | [], v => .ok v
  | .key name :: rest, some (.object members) => walk raw rest (Named.lookup name members)
  | .key name :: _, _ => .error (.notAnObject raw name)
  | .index n :: rest, some (.array items) => walk raw rest items[n]?
  | .index n :: _, _ => .error (.notAnArray raw n)

/-- The value at a path. `none` is an undefined value. -/
def resolve (p : Path) (c : Context) : Except PathError (Option Json) :=
  walk p.raw p.segments (some (c.root p.root))

end Path

end Stepwise
