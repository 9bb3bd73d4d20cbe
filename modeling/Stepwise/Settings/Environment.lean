import Stepwise.Settings.Basic

/-! # Settings in the environment -/

namespace Stepwise

namespace Environment

/-- The start of the names that count. -/
def mark : List Char := "app__".toList

/-- Splits a name at pairs of underscores. -/
def splitName (done : List Char) : List Char → List (List Char)
  | '_' :: '_' :: rest => done.reverse :: splitName [] rest
  | c :: rest => splitName (c :: done) rest
  | [] => [done.reverse]

def isNameChar (c : Char) : Bool := c.isAlphanum || c == '_' || c == '-'

/-- The path that a variable sets. Other variables set nothing. -/
def path? (name : String) : Option (List String) :=
  let cs := name.toList.map Char.toLower
  if mark.isPrefixOf cs then
    let parts := splitName [] (cs.drop mark.length)
    if parts.all fun p => p != [] && p.all isNameChar then some (parts.map String.ofList) else none
  else none

/-- The value of a variable. Truth values and numbers are recognised. -/
def valueOf (s : String) : Setting :=
  let word := s.map Char.toLower
  if word = "true" then .flag true
  else if word = "false" then .flag false
  else
    match intOfText? s.toList with
    | some n => .whole n
    | none =>
      match Binary.ofText? s.toList with
      | some x => .real x
      | none => .text s

/-- Lays the variables over settings. -/
def overlay (base : Setting) (vars : List (String × String)) : Setting :=
  vars.foldl (fun s (name, value) =>
    match path? name with
    | some path => s.putAt path (valueOf value)
    | none => s) base

end Environment

end Stepwise
