import Stepwise.Expr.Lexer
import Stepwise.Text.Taken

/-!
# Conditions from tokens

From the loosest to the tightest: `||`, `&&`, one comparison, `!`, and a value or parentheses.
-/

namespace Stepwise

namespace Expr

abbrev Parser := (ts : List Token) → Except ExprError (Taken Expr ts)

/-- A tree that is not too high. -/
def checked (e : Expr) : Except ExprError Expr :=
  if e.depth > maxDepth then .error .tooDeep else .ok e

/-- Joins more operands to a tree as long as the connective follows. -/
def chainOn (op : LogicalOp) (item : Parser) (left : Expr) (ts : List Token) :
    Except ExprError (Expr × { rest : List Token // rest.length ≤ ts.length }) :=
  match ts with
  | ⟨.logical o, offset⟩ :: rest =>
    if o = op then do
      let right ← item rest
      let joined ← checked (.logical op left right.value)
      have := right.shorter
      let (e, ⟨last, h⟩) ← chainOn op item joined right.rest
      return (e, ⟨last, by simp only [List.length_cons]; omega⟩)
    else .ok (left, ⟨⟨.logical o, offset⟩ :: rest, Nat.le_refl _⟩)
  | ts => .ok (left, ⟨ts, Nat.le_refl _⟩)
termination_by ts.length

/-- Operands joined by one connective. -/
def chain (op : LogicalOp) (item : Parser) : Parser := fun ts => do
  let first ← item ts
  let (e, ⟨rest, h⟩) ← chainOn op item first.value first.rest
  return ⟨e, rest, Nat.lt_of_le_of_lt h first.shorter⟩

/-- One operand, or two with a comparison between them. -/
def comparison (item : Parser) : Parser := fun ts => do
  let left ← item ts
  match _h : left.rest with
  | ⟨.compare op, _⟩ :: rest =>
    let right ← item rest
    let e ← checked (.compare op left.value right.value)
    return ⟨e, right.rest, by
      have := left.shorter
      have := right.shorter
      simp only [_h, List.length_cons] at *
      omega⟩
  | _ => return left

/-- A whole condition over the given operands. -/
def disjunction (item : Parser) : Parser := chain .or (chain .and (comparison item))

def close (ts : List Token) : Except ExprError { rest : List Token // rest.length < ts.length } :=
  match ts with
  | ⟨.closeParen, _⟩ :: rest => .ok ⟨rest, by simp⟩
  | ⟨kind, offset⟩ :: _ => .error (.unexpectedToken .closeParen kind offset)
  | [] => .error (.unexpectedEnd .closeParen)

/-- An operand, with at most `budget` parentheses and negations open inside. -/
def operand (budget : Nat) : Parser := fun ts =>
  match ts with
  | [] => .error (.unexpectedEnd .aValue)
  | ⟨.literal v, _⟩ :: rest => .ok ⟨.literal v, rest, by simp⟩
  | ⟨.path p, _⟩ :: rest => .ok ⟨.path p, rest, by simp⟩
  | ⟨.not, _⟩ :: rest =>
    match budget with
    | 0 => .error .tooDeep
    | budget + 1 => do
      let inner ← operand budget rest
      let e ← checked (.not inner.value)
      return ⟨e, inner.rest, by
        have := inner.shorter
        simp only [List.length_cons]
        omega⟩
  | ⟨.openParen, _⟩ :: rest =>
    match budget with
    | 0 => .error .tooDeep
    | budget + 1 => do
      let inner ← disjunction (operand budget) rest
      let ⟨after, h⟩ ← close inner.rest
      return ⟨inner.value, after, by
        have := inner.shorter
        simp only [List.length_cons]
        omega⟩
  | ⟨kind, offset⟩ :: _ => .error (.unexpectedToken .aValue kind offset)

/-- The condition that a whole list of tokens forms. -/
def ofTokens (ts : List Token) : Except ExprError Expr :=
  if ts = [] then .error .empty
  else do
    let t ← disjunction (operand maxDepth) ts
    match t.rest with
    | [] => return t.value
    | ⟨kind, offset⟩ :: _ => .error (.unexpectedToken .theEnd kind offset)

def parse (text : String) : Except ExprError Expr := do
  let ts ← Token.tokens text.toList
  ofTokens ts

/-! ## Conditions as text -/

/-- The truth value of a condition given as text. -/
def evaluateText (text : String) (c : Context) : Except ExprError Bool := do
  let e ← parse text
  (e.evaluate c).mapError .resolution

/-- The same, with every failure taken as false. -/
def holds (text : String) (c : Context) : Bool :=
  match evaluateText text c with
  | .ok b => b
  | .error _ => false

end Expr

end Stepwise
