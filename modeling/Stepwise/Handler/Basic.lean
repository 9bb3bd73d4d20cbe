import Stepwise.Context
import Stepwise.Handler.Schema
import Stepwise.Numeric.Count

/-! # Handlers -/

namespace Stepwise

/-- An answer in time. Before it waits, the callee may ask for the run to be cancelled. -/
structure Reply (α : Type) where
  value : α
  /-- The callee asks for cancellation. -/
  cancels : Bool := false
  /-- How long the answer takes. Zero is an answer at once. -/
  waitMs : Nat := 0
  /-- The callee panics instead of answering. Nobody gets the value then. -/
  panic? : Option Panic := none
deriving Repr

namespace Reply

variable {α β : Type}

/-- An answer at once. -/
def now (value : α) : Reply α := { value }

def map (f : α → β) (r : Reply α) : Reply β := { r with value := f r.value }

/-- Works on the value of an answer, and panics where the work does. The stub fills the place of a
value then. -/
def mapOrPanic (f : α → Except Panic β) (stub : Panic → β) (r : Reply α) : Reply β :=
  match f r.value with
  | .ok value => { r with value }
  | .error p => { r with value := stub p, panic? := r.panic? <|> some p }

/-- What comes of the answer: its value, or a panic. -/
def outcome (r : Reply α) : Except Panic α :=
  match r.panic? with
  | some p => .error p
  | none => .ok r.value

end Reply

/-- The work of one step type in a world `σ`. -/
structure Handler (σ : Type) where
  /-- Refuses params before anything is done with them. -/
  validate : Json → Except StepError Unit
  /-- One attempt. -/
  execute : Json → Context → σ → Reply StepResult × σ
  schema : ParamSchema

end Stepwise
