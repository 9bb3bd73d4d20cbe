import Stepwise.Json.Basic
import Stepwise.Numeric.Shortest

/-! # JSON text from values -/

namespace Stepwise

namespace JsonNumber

/-- Values from a hundred-thousandth up to ten quadrillions are written without an exponent. -/
def style : NumberStyle := ⟨-5, 16⟩

def text : JsonNumber → String
  | int n => toString n
  | real (.finite negative m e) =>
    let (c, u) := Binary.shortest .double m e
    String.ofList (style.write negative c u)
  | real _ => "null"

end JsonNumber

namespace Json

/-- Quotes, backslashes and control characters are escaped, and nothing else. -/
def escapeChar (c : Char) : List Char :=
  if c = '"' then ['\\', '"']
  else if c = '\\' then ['\\', '\\']
  else if c = '\n' then ['\\', 'n']
  else if c = '\r' then ['\\', 'r']
  else if c = '\t' then ['\\', 't']
  else if c.toNat = 8 then ['\\', 'b']
  else if c.toNat = 12 then ['\\', 'f']
  else if c.toNat < 32 then
    ['\\', 'u', '0', '0', if c.toNat < 16 then '0' else '1', Nat.digitChar (c.toNat % 16)]
  else [c]

def stringText (s : String) : String :=
  String.ofList ('"' :: s.toList.flatMap escapeChar ++ ['"'])

mutual

/-- The text without blanks. Members come in the order they have in the value. -/
def compact : Json → String
  | .null => "null"
  | .bool true => "true"
  | .bool false => "false"
  | .number n => n.text
  | .string s => stringText s
  | .array items => "[" ++ ",".intercalate (compactItems items) ++ "]"
  | .object members => "\x7b" ++ ",".intercalate (compactMembers members) ++ "\x7d"

def compactItems : List Json → List String
  | [] => []
  | j :: rest => compact j :: compactItems rest

def compactMembers : List (String × Json) → List String
  | [] => []
  | (k, j) :: rest => (stringText k ++ ":" ++ compact j) :: compactMembers rest

end

/-- Two blanks for each level. -/
def indent (level : Nat) : String := String.ofList ('\n' :: List.replicate (2 * level) ' ')

/-- Lines between brackets, or the bare brackets if there are none. -/
def block (level : Nat) (opening closing : String) (lines : List String) : String :=
  if lines = [] then opening ++ closing
  else opening ++ indent (level + 1) ++ ("," ++ indent (level + 1)).intercalate lines
    ++ indent level ++ closing

mutual

/-- The text over several lines, from a level of indentation on. -/
def prettyAt (level : Nat) : Json → String
  | .array items => block level "[" "]" (prettyItems (level + 1) items)
  | .object members => block level "\x7b" "\x7d" (prettyMembers (level + 1) members)
  | .null => "null"
  | .bool true => "true"
  | .bool false => "false"
  | .number n => n.text
  | .string s => stringText s

def prettyItems (level : Nat) : List Json → List String
  | [] => []
  | j :: rest => prettyAt level j :: prettyItems level rest

def prettyMembers (level : Nat) : List (String × Json) → List String
  | [] => []
  | (k, j) :: rest => (stringText k ++ ": " ++ prettyAt level j) :: prettyMembers level rest

end

def pretty (j : Json) : String := prettyAt 0 j

end Json

end Stepwise
