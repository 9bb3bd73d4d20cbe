import Stepwise.Expr.Basic
import Stepwise.Json.Writer

/-! # Tokens of a condition -/

namespace Stepwise

inductive TokenKind where
  | literal (value : Json)
  | path (p : Path)
  | compare (op : CompareOp)
  | logical (op : LogicalOp)
  | not
  | openParen
  | closeParen
deriving DecidableEq, Repr

/-- The text of a token in messages. -/
def TokenKind.display : TokenKind → String
  | literal v => v.compact
  | path p => p.raw
  | compare op => "'" ++ op.symbol ++ "'"
  | logical op => "'" ++ op.symbol ++ "'"
  | not => "'!'"
  | openParen => "'('"
  | closeParen => "')'"

/-- A token and the number of characters before it. -/
structure Token where
  kind : TokenKind
  offset : Nat
deriving DecidableEq, Repr

/-- What the parser was looking for. -/
inductive Expected where
  | aValue
  | closeParen
  | theEnd
deriving DecidableEq, Repr

def Expected.text : Expected → String
  | aValue => "a value"
  | closeParen => "')'"
  | theEnd => "end of expression"

/-- Why a condition cannot be read or evaluated. -/
inductive ExprError where
  | empty
  | unexpectedCharacter (c : Char) (offset : Nat)
  | unterminatedString (offset : Nat)
  | invalidNumber (text : String) (offset : Nat)
  | unknownToken (text : String) (offset : Nat) (cause : PathError)
  | unexpectedToken (expected : Expected) (found : TokenKind) (offset : Nat)
  | unexpectedEnd (expected : Expected)
  | tooDeep
  | resolution (cause : PathError)
deriving DecidableEq, Repr

/-- The greatest height of a tree, and the most parentheses and negations open at once. -/
def Expr.maxDepth : Nat := 64

def ExprError.message : ExprError → String
  | empty => "Expression is empty"
  | unexpectedCharacter c offset =>
    "Unexpected character '" ++ c.toString ++ s!"' at offset {offset}"
  | unterminatedString offset => s!"Unterminated string literal starting at offset {offset}"
  | invalidNumber text offset => s!"Invalid number '{text}' at offset {offset}"
  | unknownToken text offset cause =>
    s!"Unknown token '{text}' at offset {offset}: " ++ cause.message
  | unexpectedToken expected found offset =>
    "Expected " ++ expected.text ++ ", found " ++ found.display ++ s!" at offset {offset}"
  | unexpectedEnd expected => "Expected " ++ expected.text ++ ", found end of expression"
  | tooDeep => s!"Expression nesting exceeds maximum depth of {Expr.maxDepth}"
  | resolution cause => "Path resolution failed: " ++ cause.message

end Stepwise
