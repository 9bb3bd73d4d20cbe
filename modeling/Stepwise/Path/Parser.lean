import Stepwise.Path.Basic
import Stepwise.Numeric.Decimal
import Stepwise.Text.Blank

/-! # Paths from text -/

namespace Stepwise

def Segment.chars : Segment → List Char
  | .key name => '.' :: name.toList
  | .index n => '[' :: Nat.toDigits 10 n ++ [']']

namespace Path

/-- The characters a name is made of. -/
def isNameChar (c : Char) : Bool := !isBlank c && c != '.' && c != '[' && c != ']'

def indexBound : Nat := UInt64.size

/-- The segments that fill a text. -/
def segments? (cs : List Char) : Except PathFault (List Segment) :=
  match cs with
  | [] => .ok []
  | '.' :: rest =>
    let name := rest.takeWhile isNameChar
    if name = [] then .error .noName
    else
      match segments? (rest.dropWhile isNameChar) with
      | .ok more => .ok (.key (String.ofList name) :: more)
      | .error e => .error e
  | '[' :: rest =>
    let digits := rest.takeWhile Char.isDigit
    match _h : rest.dropWhile Char.isDigit with
    | ']' :: rest' =>
      if digits = [] then .error .noIndex
      else if natOfDigits digits ≥ indexBound then .error .indexTooLarge
      else
        match segments? rest' with
        | .ok more => .ok (.index (natOfDigits digits) :: more)
        | .error e => .error e
    | _ => .error .noIndex
  | c :: _ => .error (.unexpected c)
termination_by cs.length
decreasing_by
  · simpa using Nat.lt_succ_of_le (List.dropWhile_sublist isNameChar).length_le
  · have := (List.dropWhile_sublist (l := rest) Char.isDigit).length_le
    rw [_h] at this
    simp at this ⊢
    omega

def parse (text : String) : Except PathError Path :=
  let cs := trim text.toList
  let raw := String.ofList cs
  let root := String.ofList (cs.takeWhile isNameChar)
  if cs = [] then .error .empty
  else if root = "" then .error (.malformed raw .noRoot)
  else
    match Root.ofName? root with
    | none => .error (.unknownRoot root)
    | some r =>
      match segments? (cs.dropWhile isNameChar) with
      | .ok segments => .ok ⟨raw, r, segments⟩
      | .error fault => .error (.malformed raw fault)

/-- The text of a root with segments after it. -/
def render (root : Root) (segments : List Segment) : String :=
  String.ofList (root.name.toList ++ segments.flatMap Segment.chars)

end Path

end Stepwise
