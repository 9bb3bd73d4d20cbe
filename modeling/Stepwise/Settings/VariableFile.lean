import Stepwise.Text.Blank

/-! # Variables in a file -/

namespace Stepwise

namespace VariableFile

def isNameStart (c : Char) : Bool := c.isAlpha || c == '_'

def isNameChar (c : Char) : Bool := c.isAlphanum || c == '_' || c == '.'

def name? (cs : List Char) : Option (String × List Char) :=
  if cs.head?.any isNameStart then
    some (String.ofList (cs.takeWhile isNameChar), (cs.dropWhile isNameChar).dropWhile isBlank)
  else none

/-- Where the reading of a value stands. -/
inductive Place where
  | bare
  | strong
  | weak
  | ending
deriving DecidableEq, Repr

/-- The character that a backslash and `c` stand for. -/
def unescape? (c : Char) : Option Char :=
  if c = 'n' then some '\n'
  else if ['\\', '"', '$', ' ', Char.ofNat 39].contains c then some c
  else none

/-- A value. Blanks end it outside of quotes, and a comment may follow. -/
def value? : Place → List Char → Option (List Char)
  | .bare, [] => some []
  | .ending, [] => some []
  | _, [] => none
  | .ending, c :: rest =>
    if c = ' ' ∨ c = '\t' then value? .ending rest else if c = '#' then some [] else none
  | .strong, c :: rest =>
    if c.toNat = 39 then value? .bare rest else (value? .strong rest).map (c :: ·)
  | place, '\\' :: c :: rest => do
    let d ← unescape? c
    return d :: (← value? place rest)
  | .weak, c :: rest =>
    if c = '"' then value? .bare rest else (value? .weak rest).map (c :: ·)
  | .bare, c :: rest =>
    if c.toNat = 39 then value? .strong rest
    else if c = '"' then value? .weak rest
    else if c = ' ' ∨ c = '\t' then value? .ending rest
    else (value? .bare rest).map (c :: ·)

/-- An equals sign and a value. -/
def assigned? (name : String) : List Char → Option (String × String)
  | '=' :: rest =>
    let cs := trim rest
    if cs = [] ∨ cs.head? = some '#' then some (name, "")
    else (value? .bare cs).map fun v => (name, String.ofList v)
  | _ => none

/-- A variable with an equals sign. The word `export` may stand before it. -/
def entry? (cs : List Char) : Option (String × String) := do
  let (name, rest) ← name? cs
  if name = "export" ∧ rest.head? ≠ some '=' then
    let (name, rest) ← name? rest
    assigned? name rest
  else assigned? name rest

/-- The variables of some lines. -/
def ofLines : List String → List (String × String)
  | [] => []
  | line :: rest =>
    let cs := trim line.toList
    if cs = [] ∨ cs.head? = some '#' then ofLines rest
    else
      match entry? cs with
      | some v => v :: ofLines rest
      | none => []

def ofText (s : String) : List (String × String) := ofLines (s.splitOn "\n")

/-- Adds the variables of a file to those that are set already. The latter win. -/
def extend (set file : List (String × String)) : List (String × String) :=
  file.foldl (fun vs (name, value) =>
    if (vs.lookup name).isSome then vs else vs ++ [(name, value)]) set

end VariableFile

end Stepwise
