import Stepwise.Settings.Basic

/-! # Settings in TOML -/

namespace Stepwise

namespace Toml

open Json (Reader)

/-- A reader from a function that says what is left. An answer that takes nothing is refused. -/
def guarded {α : Type} (read : List Char → Option (α × List Char)) : Reader α := fun cs =>
  match read cs with
  | some (x, rest) => if h : rest.length < cs.length then some ⟨x, rest, h⟩ else none
  | none => none

/-! ## Blanks and comments -/

def isBlankChar (c : Char) : Bool := c == ' ' || c == '\t'

def skipBlanks (cs : List Char) : List Char := cs.dropWhile isBlankChar

/-- A comment reaches to the end of its line. -/
def skipComment : List Char → List Char
  | '#' :: rest => rest.dropWhile (· != '\n')
  | cs => cs

/-- Skips blanks, line ends and comments. -/
def skipLines (cs : List Char) : List Char :=
  match cs with
  | [] => []
  | '#' :: rest => skipLines (rest.dropWhile (· != '\n'))
  | c :: rest => if isBlankChar c || c == '\n' || c == '\r' then skipLines rest else c :: rest
termination_by cs.length
decreasing_by
  · simpa using Nat.lt_succ_of_le (Json.length_dropWhile_le (· != '\n') rest)
  · simp

/-- The rest of a line that holds nothing more. -/
def lineEnd? (cs : List Char) : Option (List Char) :=
  match skipComment (skipBlanks cs) with
  | [] => some []
  | '\n' :: rest => some rest
  | '\r' :: '\n' :: rest => some rest
  | _ => none

/-! ## Texts -/

def isText (c : Char) : Bool := c == '\t' || (c.toNat ≥ 32 && c.toNat != 127)

/-- The character with a number, if there is one. -/
def charAt? (n : Nat) : Option Char := if Nat.isValidChar n then some (Char.ofNat n) else none

def hexNumber? (ds : List Char) : Option Nat :=
  ds.foldl (fun n d => do return 16 * (← n) + (← Json.hexValue? d)) (some 0)

/-- What a backslash stands for, from the text after it. -/
def escape? : List Char → Option (Char × List Char)
  | 'b' :: rest => some (Char.ofNat 8, rest)
  | 't' :: rest => some ('\t', rest)
  | 'n' :: rest => some ('\n', rest)
  | 'f' :: rest => some (Char.ofNat 12, rest)
  | 'r' :: rest => some ('\r', rest)
  | '"' :: rest => some ('"', rest)
  | '\\' :: rest => some ('\\', rest)
  | c :: rest =>
    let width := if c = 'u' then 4 else if c = 'U' then 8 else 0
    let ds := rest.take width
    if width = 0 ∨ ds.length < width then none
    else ((hexNumber? ds).bind charAt?).map (·, rest.drop width)
  | [] => none

/-- A backslash at the end of a line joins it to the next one. -/
def joined? (cs : List Char) : Option (List Char) :=
  match skipBlanks cs with
  | '\n' :: rest => some (rest.dropWhile fun c => isBlankChar c || c == '\n' || c == '\r')
  | '\r' :: '\n' :: rest => some (rest.dropWhile fun c => isBlankChar c || c == '\n' || c == '\r')
  | _ => none

/-- The rest of a text up to its closing quote. A `raw` text has no escapes. `left` bounds the
number of characters. -/
def lineText? (quote : Char) (raw : Bool) :
    (left : Nat) → List Char → Option (List Char × List Char)
  | 0, _ => none
  | _, [] => none
  | left + 1, c :: rest =>
    if c = quote then some ([], rest)
    else if c = '\\' ∧ !raw then
      match escape? rest with
      | some (d, rest) => (lineText? quote raw left rest).map fun (s, r) => (d :: s, r)
      | none => none
    else if isText c then (lineText? quote raw left rest).map fun (s, r) => (c :: s, r)
    else none

/-- The rest of a text over several lines, up to three closing quotes. One or two more quotes
belong to the text. -/
def blockText? (quote : Char) (raw : Bool) :
    (left : Nat) → List Char → Option (List Char × List Char)
  | 0, _ => none
  | _, [] => none
  | left + 1, c :: rest =>
    let quotes := (c :: rest).takeWhile (· == quote)
    if quotes.length ≥ 3 then
      let extra := min (quotes.length - 3) 2
      some (List.replicate extra quote, (c :: rest).drop (3 + extra))
    else if c = '\\' ∧ !raw then
      match joined? rest with
      | some rest => blockText? quote raw left rest
      | none =>
        match escape? rest with
        | some (d, rest) => (blockText? quote raw left rest).map fun (s, r) => (d :: s, r)
        | none => none
    else if isText c ∨ c = '\n' ∨ c = '\r' then
      (blockText? quote raw left rest).map fun (s, r) => (c :: s, r)
    else none

/-- A line end right after the opening quotes does not count. -/
def dropFirstLineEnd : List Char → List Char
  | '\n' :: rest => rest
  | '\r' :: '\n' :: rest => rest
  | cs => cs

def apostrophe : Char := Char.ofNat 39

/-- A quoted text on one line. -/
def quotedLine? : List Char → Option (String × List Char)
  | c :: rest =>
    if c = '"' ∨ c = apostrophe then
      (lineText? c (c == apostrophe) (rest.length + 1) rest).map fun (s, r) => (String.ofList s, r)
    else none
  | [] => none

def quoted? (cs : List Char) : Option (String × List Char) :=
  match cs with
  | a :: b :: c :: rest =>
    if a = b ∧ b = c ∧ (a = '"' ∨ a = apostrophe) then
      let body := dropFirstLineEnd rest
      (blockText? a (a == apostrophe) (body.length + 1) body).map fun (s, r) => (String.ofList s, r)
    else quotedLine? cs
  | _ => quotedLine? cs

/-! ## Names -/

def isBareChar (c : Char) : Bool := c.isAlphanum || c == '_' || c == '-'

def name? (cs : List Char) : Option (String × List Char) :=
  match quotedLine? cs with
  | some answer => some answer
  | none =>
    let bare := cs.takeWhile isBareChar
    if bare = [] then none else some (String.ofList bare, cs.dropWhile isBareChar)

/-- Names with dots between them. `left` bounds their number. -/
def names? : (left : Nat) → List Char → Option (List String × List Char)
  | 0, _ => none
  | left + 1, cs => do
    let (name, rest) ← name? (skipBlanks cs)
    match skipBlanks rest with
    | '.' :: rest =>
      let (more, rest) ← names? left rest
      return (name :: more, rest)
    | rest => return ([name], rest)

/-- A path of names. Settings are read in small letters. -/
def path? (cs : List Char) : Option (List String × List Char) :=
  (names? (cs.length + 1) cs).map fun (path, rest) => (path.map (·.map Char.toLower), rest)

/-! ## Plain values -/

/-- Digits without their underscores. An underscore stands between two digits. -/
def plainDigits? (isDigit : Char → Bool) : List Char → Option (List Char)
  | [] => some []
  | '_' :: d :: rest =>
    if isDigit d then (plainDigits? isDigit rest).map (d :: ·) else none
  | d :: rest => if isDigit d then (plainDigits? isDigit rest).map (d :: ·) else none

/-- Digits with the first of them checked. -/
def digits? (isDigit : Char → Bool) (cs : List Char) : Option (List Char) :=
  if cs.head?.any isDigit then plainDigits? isDigit cs else none

def inBase? (base : Nat) (cs : List Char) : Option Nat := do
  let isDigit (c : Char) : Bool := (Json.hexValue? c).any (· < base)
  let ds ← digits? isDigit cs
  ds.foldl (fun n d => do return base * (← n) + (← Json.hexValue? d)) (some 0)

def natural? : List Char → Option Nat
  | '0' :: 'x' :: rest => inBase? 16 rest
  | '0' :: 'o' :: rest => inBase? 8 rest
  | '0' :: 'b' :: rest => inBase? 2 rest
  | ['0'] => some 0
  | '0' :: _ => none
  | cs => inBase? 10 cs

def whole? (cs : List Char) : Option Int :=
  let (negative, ds) := Decimal.splitSign cs
  match natural? ds with
  | some n =>
    let v : Int := if negative then -n else n
    if isSignedWord v then some v else none
  | none => none

/-- A number with a fraction or a power of ten. -/
def real? (cs : List Char) : Option Binary :=
  let (negative, ds) := Decimal.splitSign cs
  if ds = "inf".toList then some (.infinite negative)
  else if ds = "nan".toList then some .nan
  else
    let isPart (c : Char) : Bool := c.isDigit || c == '_'
    let whole := ds.takeWhile isPart
    let rest := ds.dropWhile isPart
    let isRest := rest.head?.any fun c => c == '.' || c == 'e' || c == 'E'
    if isRest ∧ (digits? Char.isDigit whole).isSome ∧ ¬(whole.length > 1 ∧ whole.head? = some '0')
    then (Decimal.ofText? (cs.filter (· != '_'))).map (Decimal.toBinary .double)
    else none

/-- Dates and times stay as they are written. -/
def looksLikeTime (cs : List Char) : Bool :=
  (cs.take 4).all Char.isDigit && cs[4]? == some '-'
    || (cs.take 2).all Char.isDigit && cs[2]? == some ':'

def plain? (cs : List Char) : Option Setting :=
  if cs = "true".toList then some (.flag true)
  else if cs = "false".toList then some (.flag false)
  else
    match whole? cs, real? cs with
    | some n, _ => some (.whole n)
    | none, some x => some (.real x)
    | none, none =>
      if cs.length ≥ 8 ∧ looksLikeTime cs then some (.text (String.ofList cs)) else none

def isPlainChar (c : Char) : Bool :=
  c.isAlphanum || c == '_' || c == '-' || c == '+' || c == '.' || c == ':'

/-! ## Values -/

/-- Changes the value at a path. Tables on the way are made as needed. Where the path meets a list,
it goes on in the last item. -/
def update? (change : Option Setting → Option Setting) : List String → Setting → Option Setting
  | [], _ => none
  | name :: rest, s =>
    let inside (ms : List (String × Setting)) : Option Setting := do
      let v ← match rest with
        | [] => change (ms.lookup name)
        | _ :: _ => update? change rest ((ms.lookup name).getD (.table []))
      return (Setting.table ms).put name v
    match s with
    | .table ms => inside ms
    | .list items =>
      match items.getLast? with
      | some (.table ms) => (inside ms).map fun t => .list (items.dropLast ++ [t])
      | _ => none
    | _ => none

/-- Sets a value. Nothing is set twice. -/
def setAt? (s : Setting) (path : List String) (v : Setting) : Option Setting :=
  update? (fun old => if old.isSome then none else some v) path s

/-- Makes a table, unless it is there already. -/
def addTable? (s : Setting) (path : List String) : Option Setting :=
  update? (fun
    | none => some (.table [])
    | some (.table ms) => some (.table ms)
    | some _ => none) path s

/-- Adds a table to a list of tables. -/
def addItem? (s : Setting) (path : List String) : Option Setting :=
  update? (fun
    | none => some (.list [.table []])
    | some (.list items) => some (.list (items ++ [.table []]))
    | some _ => none) path s

/-- A path, an equals sign and a value. -/
def assignment? (value : Reader Setting) (cs : List Char) :
    Option ((List String × Setting) × List Char) := do
  let (path, rest) ← path? cs
  match skipBlanks rest with
  | '=' :: rest =>
    let t ← value (skipBlanks rest)
    return ((path, t.value), t.rest)
  | _ => none

/-- Items up to a closing bracket. A comma may follow the last one. `left` bounds their number. -/
def items? (value : Reader Setting) : (left : Nat) → List Char → Option (List Setting × List Char)
  | 0, _ => none
  | left + 1, cs =>
    match skipLines cs with
    | ']' :: rest => some ([], rest)
    | cs => do
      let t ← value cs
      match skipLines t.rest with
      | ',' :: rest =>
        let (more, rest) ← items? value left rest
        return (t.value :: more, rest)
      | ']' :: rest => return ([t.value], rest)
      | _ => none

/-- The members of a table on one line. -/
def members? (value : Reader Setting) :
    (left : Nat) → Setting → List Char → Option (Setting × List Char)
  | 0, _, _ => none
  | left + 1, s, cs => do
    let ((path, v), rest) ← assignment? value cs
    let s ← setAt? s path v
    match skipBlanks rest with
    | ',' :: rest => members? value left s rest
    | '\x7d' :: rest => return (s, rest)
    | _ => none

/-- A value with at most `depth` lists and tables around one another. -/
def value (depth : Nat) : Reader Setting := guarded fun cs =>
  match cs, depth with
  | '[' :: rest, depth + 1 =>
    (items? (value depth) (rest.length + 1) rest).map fun (xs, r) => (.list xs, r)
  | '\x7b' :: rest, depth + 1 =>
    match skipBlanks rest with
    | '\x7d' :: rest => some (.table [], rest)
    | rest => members? (value depth) (rest.length + 1) (.table []) rest
  | cs, _ =>
    match quoted? cs with
    | some (s, rest) => some (.text s, rest)
    | none => (plain? (cs.takeWhile isPlainChar)).map (·, cs.dropWhile isPlainChar)

/-- How many lists and tables may be open at one place. -/
def maxDepth : Nat := 80

/-! ## Lines -/

inductive Line where
  | table (path : List String)
  | item (path : List String)
  | set (path : List String) (value : Setting)

/-- A line from the front of a text. -/
def line? (cs : List Char) : Option (Line × List Char) :=
  match cs with
  | '[' :: '[' :: rest => do
    let (path, rest) ← path? rest
    match rest with
    | ']' :: ']' :: rest => return (.item path, ← lineEnd? rest)
    | _ => none
  | '[' :: rest => do
    let (path, rest) ← path? rest
    match rest with
    | ']' :: rest => return (.table path, ← lineEnd? rest)
    | _ => none
  | cs => do
    let ((path, v), rest) ← assignment? (value maxDepth) cs
    return (.set path v, ← lineEnd? rest)

/-- The lines of a text. `left` bounds their number. -/
def lines? : (left : Nat) → List Char → Option (List Line)
  | 0, _ => none
  | left + 1, cs =>
    match skipLines cs with
    | [] => some []
    | cs => do
      let (line, rest) ← line? cs
      let more ← lines? left rest
      return line :: more

/-- A document that is being read: its settings, the table named last, and all tables named. -/
structure Draft where
  settings : Setting := .table []
  here : List String := []
  named : List (List String) := []

def Draft.add? (d : Draft) : Line → Option Draft
  | .set path v => do
    let settings ← setAt? d.settings (d.here ++ path) v
    return { d with settings }
  | .item path => do
    let settings ← addItem? d.settings path
    return { d with settings, here := path }
  | .table path =>
    if d.named.contains path then none
    else do
      let settings ← addTable? d.settings path
      return { settings, here := path, named := path :: d.named }

/-- The settings in a text. -/
def ofText? (s : String) : Option Setting := do
  let cs := s.toList
  let lines ← lines? (cs.length + 1) cs
  let d ← lines.foldlM Draft.add? {}
  return d.settings

end Toml

end Stepwise
