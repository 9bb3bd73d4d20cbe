import Stepwise.Numeric.Decimal

/-! # Web addresses -/

namespace Stepwise

structure Url where
  scheme : String
  /-- A name and a password. -/
  credentials : Option (String × String)
  host : String
  /-- `none` is the port number that the scheme usually has. -/
  port : Option Nat
  path : String
  query : Option String
  fragment : Option String
deriving DecidableEq, Repr

inductive UrlFault where
  | malformed
  /-- An address of another kind, in its usual form. -/
  | otherScheme (text : String)
deriving DecidableEq, Repr

namespace Url

/-! ## Percent signs -/

def hexDigit (n : Nat) : Char := (Nat.digitChar n).toUpper

def percentByte (b : UInt8) : List Char := ['%', hexDigit (b.toNat / 16), hexDigit (b.toNat % 16)]

/-- Control characters and everything beyond ASCII cannot stand for themselves. -/
def isControl (c : Char) : Bool := c.toNat < 32 || c.toNat > 126

/-- Writes the characters that are controls or among `special` as percent signs. -/
def encode (special : List Char) (cs : List Char) : List Char :=
  cs.flatMap fun c =>
    if isControl c || special.contains c then c.toString.toUTF8.toList.flatMap percentByte else [c]

def inFragment : List Char := [' ', '"', '<', '>', Char.ofNat 96]

def inPath : List Char := inFragment ++ ['#', '?', '\x7b', '\x7d']

def inQuery : List Char := [' ', '"', '#', '<', '>', Char.ofNat 39]

def inCredentials : List Char := inPath ++ ['/', ':', ';', '=', '@', '[', '\\', ']', '^', '|']

def hexValue? (c : Char) : Option Nat :=
  if c.isDigit then some (digitValue c)
  else if 'a' ≤ c.toLower ∧ c.toLower ≤ 'f' then some (c.toLower.toNat - 87)
  else none

/-- The bytes that percent signs stand for. -/
def decodeBytes : List Char → List UInt8
  | '%' :: a :: b :: rest =>
    match hexValue? a, hexValue? b with
    | some x, some y => UInt8.ofNat (16 * x + y) :: decodeBytes rest
    | _, _ => '%'.toString.toUTF8.toList ++ decodeBytes (a :: b :: rest)
  | c :: rest => c.toString.toUTF8.toList ++ decodeBytes rest
  | [] => []

/-! ## Schemes -/

/-- The schemes with hosts, and their usual ports. -/
def ports : List (String × Nat) :=
  [("http", 80), ("https", 443), ("ftp", 21), ("ws", 80), ("wss", 443)]

/-- The schemes that requests can be made with. -/
def webSchemes : List String := ["http", "https"]

def isSchemeChar (c : Char) : Bool := c.isAlphanum || c == '+' || c == '-' || c == '.'

/-- The scheme in front of a text, in small letters, and what comes after its colon. -/
def scheme? (cs : List Char) : Option (String × List Char) :=
  let name := cs.takeWhile isSchemeChar
  match cs.dropWhile isSchemeChar with
  | ':' :: rest =>
    if name.head?.any Char.isAlpha then some (String.ofList (name.map Char.toLower), rest) else none
  | _ => none

/-! ## Hosts -/

/-- One number of a numeric host, in decimal, octal or hexadecimal digits. -/
def hostNumber? (cs : List Char) : Option Nat :=
  let digits (base : Nat) (ds : List Char) : Option Nat :=
    ds.foldl (fun n c => do
      let v ← hexValue? c
      if v < base then return base * (← n) + v else none) (some 0)
  match cs with
  | '0' :: 'x' :: rest => digits 16 rest
  | '0' :: c :: rest => digits 8 (c :: rest)
  | _ => if cs = [] then none else digits 10 cs

/-- The labels of a host. A dot at its end does not count. -/
def labels (cs : List Char) : List (List Char) :=
  let parts := (String.ofList cs).splitOn "." |>.map String.toList
  match parts.reverse with
  | [] :: rest => if rest = [] then parts else rest.reverse
  | _ => parts

/-- A host whose last label is a number has to be a numeric address. -/
def endsInNumber (cs : List Char) : Bool :=
  match (labels cs).getLast? with
  | some label => label != [] && (label.all Char.isDigit || (hostNumber? label).isSome)
  | none => false

/-- A numeric address as one number. The last label fills all bytes that are left. -/
def addressOf? (numbers : List Nat) : Option Nat :=
  let rec go (left : Nat) : List Nat → Option Nat
    | [] => none
    | [n] => if n < Nat.pow 256 left then some n else none
    | n :: rest =>
      match left with
      | 0 => none
      | left + 1 => if n < 256 then (go left rest).map (n * Nat.pow 256 left + ·) else none
  if numbers.length ≤ 4 then go 4 numbers else none

/-- A numeric address with dots. -/
def dotted (n : Nat) : String :=
  s!"{n / 0x1000000 % 256}.{n / 0x10000 % 256}.{n / 0x100 % 256}.{n % 256}"

def inNoHost : List Char :=
  [' ', '#', '%', '/', ':', '<', '>', '?', '@', '[', '\\', ']', '^', '|']

/-- A host in its usual form. Hosts are in ASCII. -/
def host? (cs : List Char) : Option String :=
  match cs with
  | '[' :: rest =>
    let inner := rest.dropLast.map Char.toLower
    let isPart (c : Char) : Bool := (hexValue? c).isSome || c == ':' || c == '.'
    if rest.getLast? = some ']' ∧ inner.all isPart ∧ inner.contains ':' then
      some (String.ofList ('[' :: inner ++ [']']))
    else none
  | _ =>
    match String.fromUTF8? (ByteArray.mk (decodeBytes cs).toArray) with
    | none => none
    | some s =>
      let name := s.toList.map Char.toLower
      if name = [] ∨ name.any fun c => isControl c || inNoHost.contains c then none
      else if endsInNumber name then
        (((labels name).mapM hostNumber?).bind addressOf?).map dotted
      else some (String.ofList name)

/-- A port number. No digits stand for the usual one. -/
def port? (usual : Nat) (cs : List Char) : Option (Option Nat) :=
  if cs = [] then some none
  else if cs.all Char.isDigit ∧ natOfDigits cs < 65536 then
    some (if natOfDigits cs = usual then none else some (natOfDigits cs))
  else none

/-- Cuts a text at the last occurrence of a character. -/
def cutLast? (c : Char) (cs : List Char) : Option (List Char × List Char) :=
  if cs.contains c then
    let after := cs.reverse.takeWhile (· != c)
    some (cs.take (cs.length - after.length - 1), after.reverse)
  else none

/-- A host and a port number. The colons of a host in brackets do not count. -/
def hostAndPort (cs : List Char) : List Char × List Char :=
  match cutLast? ':' cs with
  | some (host, port) => if port.contains ']' then (cs, []) else (host, port)
  | none => (cs, [])

/-! ## Paths -/

def isSingleDot (cs : List Char) : Bool :=
  [".", "%2e"].contains (String.ofList (cs.map Char.toLower))

def isDoubleDot (cs : List Char) : Bool :=
  ["..", ".%2e", "%2e.", "%2e%2e"].contains (String.ofList (cs.map Char.toLower))

/-- The segments of a path without dot segments. `done` are those before them, in reverse. -/
def plainSegments (done : List (List Char)) : List (List Char) → List (List Char)
  | [] => done.reverse
  | s :: rest =>
    let last := rest.isEmpty
    if isDoubleDot s then plainSegments (if last then [] :: done.tail else done.tail) rest
    else if isSingleDot s then plainSegments (if last then [] :: done else done) rest
    else plainSegments (s :: done) rest

/-- The path of an address in its usual form. It starts with a slash. -/
def pathOf (cs : List Char) : String :=
  let straight := cs.map fun c => if c = '\\' then '/' else c
  let body := match straight with
    | '/' :: rest => rest
    | rest => rest
  let segments := ((String.ofList body).splitOn "/").map String.toList
  let plain := plainSegments [] segments
  String.ofList (plain.flatMap fun s => '/' :: encode inPath s)

/-! ## Whole addresses -/

/-- Splits off what comes after the first occurrence of a character. -/
def cutFirst (c : Char) (cs : List Char) : List Char × Option (List Char) :=
  match cs.dropWhile (· != c) with
  | _ :: after => (cs.takeWhile (· != c), some after)
  | [] => (cs, none)

def isSlash (c : Char) : Bool := c == '/' || c == '\\'

def credentialsOf (cs : List Char) : Option (String × String) :=
  let (name, password) := cutFirst ':' cs
  let text (part : List Char) : String := String.ofList (encode inCredentials part)
  if name = [] ∧ (password.getD []) = [] then none
  else some (text name, text (password.getD []))

/-- An address from what follows its scheme. -/
def afterScheme? (scheme : String) (usual : Nat) (cs : List Char) : Option Url := do
  let (cs, fragment) := cutFirst '#' cs
  let (cs, query) := cutFirst '?' cs
  let cs := cs.dropWhile isSlash
  let authority := cs.takeWhile (!isSlash ·)
  let (credentials, place) := match cutLast? '@' authority with
    | some (before, after) => (credentialsOf before, after)
    | none => (none, authority)
  let (host, port) := hostAndPort place
  let host ← host? host
  let port ← port? usual port
  return { scheme, credentials, host, port
           path := pathOf (cs.dropWhile (!isSlash ·))
           query := query.map fun q => String.ofList (encode inQuery q)
           fragment := fragment.map fun f => String.ofList (encode inFragment f) }

/-- Blanks around a text and line breaks inside it do not count. -/
def tidy (cs : List Char) : List Char :=
  let isEdge (c : Char) : Bool := c.toNat ≤ 32
  let inner := (cs.dropWhile isEdge).reverse.dropWhile isEdge |>.reverse
  inner.filter fun c => c != '\t' && c != '\n' && c != '\r'

/-- The host with its port number, unless that is the usual one. -/
def authority (u : Url) : String :=
  u.host ++ (match u.port with | some p => s!":{p}" | none => "")

/-- What a request asks the host for. -/
def target (u : Url) : String :=
  u.path ++ (match u.query with | some q => "?" ++ q | none => "")

/-- The address without name and password. -/
def text (u : Url) : String :=
  u.scheme ++ "://" ++ u.authority ++ u.target
    ++ (match u.fragment with | some f => "#" ++ f | none => "")

def ofText (s : String) : Except UrlFault Url :=
  match scheme? (tidy s.toList) with
  | none => .error .malformed
  | some (scheme, rest) =>
    match ports.lookup scheme with
    | none => .error (.otherScheme (scheme ++ ":" ++ String.ofList (encode [] rest)))
    | some usual =>
      match afterScheme? scheme usual rest with
      | some u => if webSchemes.contains scheme then .ok u else .error (.otherScheme u.text)
      | none => .error .malformed

def portNumber (u : Url) : Nat := u.port.getD ((ports.lookup u.scheme).getD 80)

end Url

end Stepwise
