import Stepwise.Expr.Token
import Stepwise.Path.Parser
import Stepwise.Text.Letters

/-! # Tokens from text -/

namespace Stepwise

namespace Token

def isWordStart (c : Char) : Bool := isAlphabetic c || c == '_' || c == '$'

/-- Words hold whole paths, so dots and brackets belong to them. -/
def isWordChar (c : Char) : Bool :=
  isAlphanumeric c || c == '_' || c == '$' || c == '-' || c == '.' || c == '[' || c == ']'

/-- The character that stands for a backslash and `c` in a string. -/
def unescape (c : Char) : Char :=
  match c with
  | 'n' => '\n'
  | 't' => '\t'
  | 'r' => '\r'
  | c => c

/-- The characters of a string up to its closing quote, and how many were read. -/
def stringBody? (quote : Char) : List Char → Option (List Char × Nat)
  | [] => none
  | c :: rest =>
    if c = quote then some ([], 1)
    else if c = '\\' then
      match rest with
      | [] => none
      | e :: rest => (stringBody? quote rest).map fun (s, n) => (unescape e :: s, n + 2)
    else (stringBody? quote rest).map fun (s, n) => (c :: s, n + 1)

/-- The sign that starts with `c`, and how many characters of the rest it takes. -/
def sign? (c : Char) (next : Option Char) : Option (TokenKind × Nat) :=
  match c, next with
  | '=', some '=' => some (.compare .eq, 1)
  | '!', some '=' => some (.compare .ne, 1)
  | '!', _ => some (.not, 0)
  | '>', some '=' => some (.compare .ge, 1)
  | '>', _ => some (.compare .gt, 0)
  | '<', some '=' => some (.compare .le, 1)
  | '<', _ => some (.compare .lt, 0)
  | '&', some '&' => some (.logical .and, 1)
  | '|', some '|' => some (.logical .or, 1)
  | '(', _ => some (.openParen, 0)
  | ')', _ => some (.closeParen, 0)
  | _, _ => none

/-- The exponent part at the front of a text, which may lack its digits. -/
def exponentPart : List Char → List Char
  | c :: rest =>
    if c = 'e' ∨ c = 'E' then
      match rest with
      | s :: rest =>
        if s = '+' ∨ s = '-' then c :: s :: rest.takeWhile Char.isDigit
        else c :: (s :: rest).takeWhile Char.isDigit
      | [] => [c]
    else []
  | [] => []

/-- The text of the number at the front of a text. It may be malformed. -/
def numberPart (cs : List Char) : List Char :=
  let (sign, body) := match cs with
    | '-' :: rest => (['-'], rest)
    | cs => ([], cs)
  let isPart (c : Char) : Bool := c.isDigit || c == '.'
  sign ++ body.takeWhile isPart ++ exponentPart (body.dropWhile isPart)

/-- A number is whole if it can be, and must not run into a word. -/
def number? (text : List Char) (next : Option Char) : Option JsonNumber :=
  if next.any isWordChar then none
  else
    match intOfText? text with
    | some n => some (.int n)
    | none =>
      match Decimal.ofText? text with
      | some d =>
        match d.toBinary .double with
        | .finite s m e => some (.real (.finite s m e))
        | _ => none
      | none => none

/-- The token a whole word stands for. -/
def ofWord (text : String) : Except PathError TokenKind :=
  match text with
  | "true" => .ok (.literal (.bool true))
  | "false" => .ok (.literal (.bool false))
  | "null" => .ok (.literal .null)
  | "contains" => .ok (.compare .contains)
  | "startsWith" => .ok (.compare .startsWith)
  | "endsWith" => .ok (.compare .endsWith)
  | _ =>
    match Path.parse text with
    | .ok p => .ok (.path p)
    | .error e => .error e

/-- The token that starts with `c`, and how many characters of the rest belong to it. -/
def read (offset : Nat) (c : Char) (rest : List Char) : Except ExprError (TokenKind × Nat) :=
  if c = '"' ∨ c.toNat = 39 then
    match stringBody? c rest with
    | some (s, n) => .ok (.literal (.string (String.ofList s)), n)
    | none => .error (.unterminatedString offset)
  else if c.isDigit ∨ (c = '-' ∧ rest.head?.any Char.isDigit) then
    let text := numberPart (c :: rest)
    match number? text (rest.drop (text.length - 1)).head? with
    | some n => .ok (.literal (.number n), text.length - 1)
    | none => .error (.invalidNumber (String.ofList text) offset)
  else if isWordStart c then
    let text := c :: rest.takeWhile isWordChar
    match ofWord (String.ofList text) with
    | .ok kind => .ok (kind, text.length - 1)
    | .error cause => .error (.unknownToken (String.ofList text) offset cause)
  else
    match sign? c rest.head? with
    | some answer => .ok answer
    | none => .error (.unexpectedCharacter c offset)

/-- The tokens of a text that starts `offset` characters into the condition. -/
def tokensFrom (offset : Nat) (cs : List Char) : Except ExprError (List Token) :=
  match cs with
  | [] => .ok []
  | c :: rest =>
    if isBlank c then tokensFrom (offset + 1) rest
    else
      match read offset c rest with
      | .error e => .error e
      | .ok (kind, n) =>
        match tokensFrom (offset + 1 + n) (rest.drop n) with
        | .error e => .error e
        | .ok more => .ok (⟨kind, offset⟩ :: more)
termination_by cs.length
decreasing_by
  · simp
  · simp only [List.length_drop, List.length_cons]
    omega

def tokens (cs : List Char) : Except ExprError (List Token) := tokensFrom 0 cs

end Token

end Stepwise
