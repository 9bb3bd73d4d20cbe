import Stepwise.Path.Parser
import Stepwise.Json.Writer

/-!
# Templates

A placeholder `{{path}}` ends at the first closing braces, on the line it starts on.
-/

namespace Stepwise

/-- A value as it appears in text. Strings stand for themselves, null and undefined for nothing. -/
def formatted : Option Json → String
  | none => ""
  | some .null => ""
  | some (.string s) => s
  | some j => j.compact

namespace Template

inductive Piece where
  | literal (c : Char)
  | placeholder (body : List Char)
deriving DecidableEq, Repr

/-- The body of a placeholder after its opening braces, and the text after its closing braces. -/
def closing? : List Char → Option (List Char × List Char)
  | '\x7d' :: '\x7d' :: rest => some ([], rest)
  | '\n' :: _ => none
  | c :: rest =>
    match closing? rest with
    | some (body, after) => some (c :: body, after)
    | none => none
  | [] => none

theorem length_closing? {cs body after : List Char} (h : closing? cs = some (body, after)) :
    after.length < cs.length := by
  fun_induction closing? cs generalizing body after with
  | case1 rest =>
    obtain ⟨-, rfl⟩ := Prod.mk.inj (Option.some.inj h)
    simp only [List.length_cons]
    omega
  | case2 => simp at h
  | case3 c rest _ _ body' after' hr ih =>
    obtain ⟨-, rfl⟩ := Prod.mk.inj (Option.some.inj h)
    exact Nat.lt_succ_of_lt (ih hr)
  | case4 => simp at h
  | case5 => simp at h

/-- The pieces of a template, from the left. Braces that open nothing are literal. -/
def pieces (cs : List Char) : List Piece :=
  match cs with
  | [] => []
  | '\x7b' :: '\x7b' :: rest =>
    match _h : closing? rest with
    | some (body, after) => .placeholder body :: pieces after
    | none => .literal '\x7b' :: pieces ('\x7b' :: rest)
  | c :: rest => .literal c :: pieces rest
termination_by cs.length
decreasing_by
  · have := length_closing? _h
    simp only [List.length_cons]
    omega
  · simp
  · simp

/-- The text a piece has in the template. -/
def Piece.source : Piece → List Char
  | .literal c => [c]
  | .placeholder body => ['\x7b', '\x7b'] ++ body ++ ['\x7d', '\x7d']

def lookUp (body : String) (c : Context) : Except PathError (Option Json) :=
  match Path.parse body with
  | .ok p => p.resolve c
  | .error e => .error e

def Piece.text (c : Context) : Piece → List Char
  | .literal ch => [ch]
  | .placeholder body =>
    match lookUp (String.ofList body) c with
    | .ok v => (formatted v).toList
    | .error _ => Piece.source (.placeholder body)

/-- The template with every placeholder replaced by its value. -/
def resolve (template : String) (c : Context) : String :=
  String.ofList ((pieces template.toList).flatMap (Piece.text c))

/-- Every string in a value is a template. Names of members are not. -/
def resolveValue (value : Json) (c : Context) : Json := value.mapStrings (resolve · c)

/-- The bodies of the placeholders without blanks around them, in order. -/
def paths (template : String) : List String :=
  (pieces template.toList).filterMap fun
    | .literal _ => none
    | .placeholder body => some (String.ofList (trim body))

def hasPlaceholders (template : String) : Bool :=
  (pieces template.toList).any fun
    | .literal _ => false
    | .placeholder _ => true

end Template

end Stepwise
