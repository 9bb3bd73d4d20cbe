import Stepwise.Json.Basic
import Stepwise.Numeric.Scaled
import Stepwise.Text.Taken

/-!
# JSON values from text

An `Outline` says which parts of a text are read for their values. The others only have to be well
formed.
-/

namespace Stepwise

namespace Json

abbrev Reader (α : Type) := (cs : List Char) → Option (Taken α cs)

/-- What becomes of a part of the text. A kept one needs a value. A skipped one may hold numbers
that are too large and halves of characters. -/
inductive Use where
  | kept
  | skipped
deriving DecidableEq, Repr

/-! ## Blanks -/

def isSpace (c : Char) : Bool := c == ' ' || c == '\n' || c == '\t' || c == '\r'

def skipSpace (cs : List Char) : List Char := cs.dropWhile isSpace

theorem length_dropWhile_le (p : Char → Bool) (cs : List Char) :
    (cs.dropWhile p).length ≤ cs.length :=
  (List.dropWhile_sublist p).length_le

theorem length_skipSpace_le (cs : List Char) : (skipSpace cs).length ≤ cs.length :=
  length_dropWhile_le isSpace cs

/-! ## Strings -/

def hexValue? (c : Char) : Option Nat :=
  if c.isDigit then some (c.toNat - 48)
  else if 'a' ≤ c ∧ c ≤ 'f' then some (c.toNat - 87)
  else if 'A' ≤ c ∧ c ≤ 'F' then some (c.toNat - 55)
  else none

def hexUnit? (a b c d : Char) : Option Nat := do
  return 4096 * (← hexValue? a) + 256 * (← hexValue? b) + 16 * (← hexValue? c) + (← hexValue? d)

def isHighUnit (u : Nat) : Bool := 0xD800 ≤ u && u < 0xDC00

def isLowUnit (u : Nat) : Bool := 0xDC00 ≤ u && u < 0xE000

/-- The character that a backslash and one letter stand for. -/
def plainEscape? (c : Char) : Option Char :=
  match c with
  | '"' => some '"'
  | '\\' => some '\\'
  | '/' => some '/'
  | 'b' => some (Char.ofNat 8)
  | 'f' => some (Char.ofNat 12)
  | 'n' => some '\n'
  | 'r' => some '\r'
  | 't' => some '\t'
  | _ => none

/-- The second half of a pair of units, and the text after it. -/
def lowUnit? : List Char → Option (Nat × List Char)
  | '\\' :: 'u' :: a :: b :: c :: d :: rest =>
    match hexUnit? a b c d with
    | some u => if isLowUnit u then some (u, rest) else none
    | none => none
  | _ => none

theorem length_lowUnit? {cs rest : List Char} {u : Nat} (h : lowUnit? cs = some (u, rest)) :
    rest.length ≤ cs.length := by
  unfold lowUnit? at h
  split at h
  · split at h
    · split at h
      · cases h
        simp only [List.length_cons]
        omega
      · cases h
    · cases h
  · cases h

/-- What a lone half of a pair of units is read as. -/
def loneUnit? : Use → Option Char
  | .kept => none
  | .skipped => some (Char.ofNat 0xFFFD)

/-- One character of a string, escaped or not. -/
def readChar (use : Use) : Reader Char
  | '\\' :: 'u' :: a :: b :: c :: d :: rest =>
    let lone : Option (Taken Char ('\\' :: 'u' :: a :: b :: c :: d :: rest)) :=
      (loneUnit? use).map fun c => ⟨c, rest, by simp only [List.length_cons]; omega⟩
    match hexUnit? a b c d with
    | none => none
    | some u =>
      if isHighUnit u then
        match h : lowUnit? rest with
        | some (v, rest') =>
          some ⟨Char.ofNat (0x10000 + 1024 * (u - 0xD800) + (v - 0xDC00)), rest', by
            have := length_lowUnit? h
            simp only [List.length_cons]
            omega⟩
        | none => lone
      else if isLowUnit u then lone
      else some ⟨Char.ofNat u, rest, by simp only [List.length_cons]; omega⟩
  | '\\' :: c :: rest =>
    match plainEscape? c with
    | some d => some ⟨d, rest, by simp only [List.length_cons]; omega⟩
    | none => none
  | c :: rest => if c = '\\' ∨ c.toNat < 32 then none else some ⟨c, rest, by simp⟩
  | [] => none

/-- The rest of a string after its opening quote. -/
def readStringTail (use : Use) (read : List Char) (cs : List Char) : Option (Taken String cs) :=
  match cs with
  | '"' :: rest => some ⟨String.ofList read.reverse, rest, by simp⟩
  | cs =>
    match readChar use cs with
    | some t =>
      have := t.shorter
      match readStringTail use (t.value :: read) t.rest with
      | some u => some (u.widen (Nat.le_of_lt t.shorter))
      | none => none
    | none => none
termination_by cs.length

def readString (use : Use) : Reader String
  | '"' :: rest => (readStringTail use [] rest).map fun t => t.widen (by simp)
  | _ => none

/-! ## Numbers -/

/-- Digits after a point. At least one is needed. -/
def readFraction (cs : List Char) : Option (List Char × List Char) :=
  match cs with
  | '.' :: rest =>
    let ds := rest.takeWhile Char.isDigit
    if ds = [] then none else some (ds, rest.dropWhile Char.isDigit)
  | cs => some ([], cs)

/-- An exponent and the text after it. `none` inside stands for no exponent part. -/
def readPower (cs : List Char) : Option (Option Int × List Char) :=
  match cs with
  | c :: rest =>
    if c = 'e' ∨ c = 'E' then
      let (negative, rest) := Decimal.splitSign rest
      let ds := rest.takeWhile Char.isDigit
      if ds = [] then none
      else
        let n : Int := natOfDigits ds
        some (some (if negative then -n else n), rest.dropWhile Char.isDigit)
    else some (none, cs)
  | [] => some (none, [])

/-- The number with these parts. A whole number in range without point and exponent stays whole.
A minus zero does not. -/
def numberOfParts (negative : Bool) (whole fraction : List Char) (power : Option Int) :
    Option JsonNumber :=
  let n : Int := natOfDigits whole
  let signed := if negative then -n else n
  if fraction = [] ∧ power = none ∧ JsonNumber.inRange signed ∧ ¬(negative ∧ n = 0) then
    some (.int signed)
  else
    let (m, e) := significandOf whole fraction (power.getD 0)
    let x := Binary.ofScaled negative m e
    if x.isFinite then some (.real x) else none

/-- A number from the front of a text. A zero has no digit after it. -/
def numberAt (use : Use) (cs : List Char) : Option (JsonNumber × List Char) := do
  let (negative, cs) := match cs with
    | '-' :: rest => (true, rest)
    | cs => (false, cs)
  let whole := cs.takeWhile Char.isDigit
  if whole = [] ∨ (whole.head? = some '0' ∧ whole.length > 1) then none
  let (fraction, rest) ← readFraction (cs.dropWhile Char.isDigit)
  let (power, rest) ← readPower rest
  if use = .skipped then return (.int 0, rest)
  let n ← numberOfParts negative whole fraction power
  return (n, rest)

def readNumber (use : Use) : Reader JsonNumber := fun cs =>
  match numberAt use cs with
  | some (n, rest) => if h : rest.length < cs.length then some ⟨n, rest, h⟩ else none
  | none => none

/-! ## Values -/

/-- Items separated by commas up to a closing bracket, the first at place `i`. There is at least
one. -/
def readMore {α : Type} (close : Char) (item : Nat → Reader α) (i : Nat) (cs : List Char) :
    Option (Taken (List α) cs) :=
  match item i (skipSpace cs) with
  | none => none
  | some t =>
    match h : skipSpace t.rest with
    | [] => none
    | c :: rest =>
      have shorter : rest.length < cs.length := by
        have := t.shorter
        have := length_skipSpace_le cs
        have := length_skipSpace_le t.rest
        simp [h] at this
        omega
      if c = close then some ⟨[t.value], rest, shorter⟩
      else if c = ',' then
        match readMore close item (i + 1) rest with
        | some u => some ((u.map (t.value :: ·)).widen (Nat.le_of_lt shorter))
        | none => none
      else none
termination_by cs.length

/-- Items up to a closing bracket, or none. -/
def readItems {α : Type} (close : Char) (item : Nat → Reader α) (cs : List Char) :
    Option (Taken (List α) cs) :=
  match h : skipSpace cs with
  | c :: rest =>
    if c = close then
      some ⟨[], rest, by
        have := length_skipSpace_le cs
        simp [h] at this
        omega⟩
    else readMore close item 0 cs
  | [] => none

/-- A name, a colon and a value. -/
def readMember (use : Use) (value : String → Reader Json) : Reader (String × Json) := fun cs =>
  match readString use cs with
  | none => none
  | some name =>
    match h : skipSpace name.rest with
    | ':' :: rest =>
      have shorter : rest.length ≤ cs.length := by
        have := name.shorter
        have := length_skipSpace_le name.rest
        simp [h] at this
        omega
      (value name.value (skipSpace rest)).map fun t =>
        (t.map (name.value, ·)).widen (Nat.le_trans (length_skipSpace_le rest) shorter)
    | _ => none

/-- A word that stands for a value. -/
def readWord (word : String) (j : Json) : Reader Json := fun cs =>
  let n := word.toList.length
  if h : cs.take n = word.toList ∧ 0 < n ∧ n ≤ cs.length then
    some ⟨j, cs.drop n, by simp only [List.length_drop]; omega⟩
  else none

/-- A value with at most `depth` arrays and objects around one another. -/
def readValue (use : Use) (depth : Nat) : Reader Json := fun cs =>
  match cs with
  | '"' :: rest => (readString use ('"' :: rest)).map (·.map .string)
  | '[' :: rest =>
    match depth with
    | 0 => none
    | depth + 1 =>
      (readItems ']' (fun _ => readValue use depth) rest).map fun t =>
        (t.map .array).widen (by simp)
  | '\x7b' :: rest =>
    match depth with
    | 0 => none
    | depth + 1 =>
      (readItems '\x7d' (fun _ => readMember use fun _ => readValue use depth) rest).map fun t =>
        (t.map .object).widen (by simp)
  | 't' :: rest => readWord "true" (.bool true) ('t' :: rest)
  | 'f' :: rest => readWord "false" (.bool false) ('f' :: rest)
  | 'n' :: rest => readWord "null" .null ('n' :: rest)
  | cs => (readNumber use cs).map (·.map .number)

/-- A value of any depth that nobody looks at. A text cannot be deeper than it is long. -/
def skipValue : Reader Json := fun cs => readValue .skipped cs.length cs

/-- How many arrays and objects may be open at one place of a text. -/
def maxDepth : Nat := 127

/-! ## Parts of a text -/

/-- The parts of a text that are looked at. -/
inductive Outline where
  /-- All of it. -/
  | whole
  /-- A list of things with one outline. -/
  | list (item : Outline)
  /-- The members with these names. As an array, these items. -/
  | record (fields : List (String × Outline))

namespace Outline

/-- The outline of an item of an array. -/
def item : Outline → Nat → Outline
  | whole, _ => whole
  | list o, _ => o
  | record fields, i => (fields[i]?.map (·.2)).getD whole

/-- The outline of a member of an object, if it is looked at. -/
def member? : Outline → String → Option Outline
  | record fields, name => Named.lookup name fields
  | _, _ => some whole

end Outline

/-- A value whose parts outside the outline are skipped. -/
def readOutlined (depth : Nat) (outline : Outline) : Reader Json := fun cs =>
  match cs, depth with
  | '[' :: rest, depth + 1 =>
    (readItems ']' (fun i => readOutlined depth (outline.item i)) rest).map fun t =>
      (t.map .array).widen (by simp)
  | '\x7b' :: rest, depth + 1 =>
    let value (name : String) : Reader Json :=
      match outline.member? name with
      | some o => readOutlined depth o
      | none => skipValue
    (readItems '\x7d' (fun _ => readMember .kept value) rest).map fun t =>
      (t.map .object).widen (by simp)
  | cs, depth => readValue .kept depth cs

/-- The value that a text holds, with members in the order of the text. -/
def outlined? (outline : Outline) (s : String) : Option Json :=
  match readOutlined maxDepth outline (skipSpace s.toList) with
  | some t => if skipSpace t.rest = [] then some t.value else none
  | none => none

/-- The value that a text holds. All of it needs a value. -/
def document? (s : String) : Option Json := outlined? .whole s

/-- The value that a text holds, with members in order. -/
def ofText? (s : String) : Option Json := (document? s).map canonical

end Json

end Stepwise
