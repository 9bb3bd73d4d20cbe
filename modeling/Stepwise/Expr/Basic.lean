import Stepwise.Path.Basic

/-! # Conditions as trees -/

namespace Stepwise

/-! ## Values in conditions -/

namespace Json

/-- Null, zero and the empty string are false. Arrays and objects are true. -/
def truthy : Json → Bool
  | .null => false
  | .bool b => b
  | .number n => n.toDouble != .nan && !n.toDouble.equal (.zero false)
  | .string s => s != ""
  | .array _ => true
  | .object _ => true

/-- Equality in conditions. Two numbers are equal when their doubles are. -/
def looselySame : Json → Json → Bool
  | .number a, .number b => a.toDouble.equal b.toDouble
  | a, b => a.same b

/-- A relation between two numbers. It holds of nothing else. -/
def numbersSatisfy (relation : Binary → Binary → Bool) : Json → Json → Bool
  | .number a, .number b => relation a.toDouble b.toDouble
  | _, _ => false

/-- A relation between two strings. It holds of nothing else. -/
def stringsSatisfy (relation : List Char → List Char → Bool) : Json → Json → Bool
  | .string a, .string b => relation a.toList b.toList
  | _, _ => false

def hasInfix (needle : List Char) : List Char → Bool
  | [] => needle.isEmpty
  | c :: cs => needle.isPrefixOf (c :: cs) || hasInfix needle cs

/-- A text contains its parts, an array its items. -/
def contains : Json → Json → Bool
  | .string a, .string b => hasInfix b.toList a.toList
  | .array items, b => items.any (looselySame · b)
  | _, _ => false

end Json

/-! ## Trees -/

inductive CompareOp where
  | eq
  | ne
  | gt
  | lt
  | ge
  | le
  | contains
  | startsWith
  | endsWith
deriving DecidableEq, Repr

namespace CompareOp

def symbol : CompareOp → String
  | eq => "=="
  | ne => "!="
  | gt => ">"
  | lt => "<"
  | ge => ">="
  | le => "<="
  | contains => "contains"
  | startsWith => "startsWith"
  | endsWith => "endsWith"

/-- The result of a comparison. Values of the wrong kind give `false`, except under `ne`: they are not
equal. -/
def apply : CompareOp → Json → Json → Bool
  | eq, a, b => a.looselySame b
  | ne, a, b => !a.looselySame b
  | gt, a, b => Json.numbersSatisfy (fun x y => y.less x) a b
  | lt, a, b => Json.numbersSatisfy Binary.less a b
  | ge, a, b => Json.numbersSatisfy (fun x y => y.atMost x) a b
  | le, a, b => Json.numbersSatisfy Binary.atMost a b
  | contains, a, b => a.contains b
  | startsWith, a, b => Json.stringsSatisfy (fun s t => t.isPrefixOf s) a b
  | endsWith, a, b => Json.stringsSatisfy (fun s t => t.isSuffixOf s) a b

end CompareOp

inductive LogicalOp where
  | and
  | or
deriving DecidableEq, Repr

def LogicalOp.symbol : LogicalOp → String
  | and => "&&"
  | or => "||"

inductive Expr where
  | literal (value : Json)
  | path (p : Path)
  | not (inner : Expr)
  | compare (op : CompareOp) (left right : Expr)
  | logical (op : LogicalOp) (left right : Expr)
deriving DecidableEq, Repr

namespace Expr

/-- The height of a tree. A single value has height one. -/
def depth : Expr → Nat
  | literal _ => 1
  | path _ => 1
  | not e => 1 + e.depth
  | compare _ l r => 1 + max l.depth r.depth
  | logical _ l r => 1 + max l.depth r.depth

/-- The paths in a tree, from left to right. -/
def paths : Expr → List Path
  | literal _ => []
  | path p => [p]
  | not e => e.paths
  | compare _ l r => l.paths ++ r.paths
  | logical _ l r => l.paths ++ r.paths

/-! ## Evaluation -/

/-- The value of a tree. A right operand that cannot change the result is not looked at. -/
def value (c : Context) : Expr → Except PathError Json
  | literal v => .ok v
  | path p => do
    let v ← p.resolve c
    return v.getD .null
  | not e => do
    let v ← e.value c
    return .bool !v.truthy
  | compare op l r => do
    let a ← l.value c
    let b ← r.value c
    return .bool (op.apply a b)
  | logical .and l r => do
    let a ← l.value c
    if a.truthy then
      let b ← r.value c
      return .bool b.truthy
    else return .bool false
  | logical .or l r => do
    let a ← l.value c
    if a.truthy then return .bool true
    else
      let b ← r.value c
      return .bool b.truthy

def evaluate (e : Expr) (c : Context) : Except PathError Bool := do
  let v ← e.value c
  return v.truthy

end Expr

end Stepwise
