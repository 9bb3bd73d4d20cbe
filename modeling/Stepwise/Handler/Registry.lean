import Stepwise.Handler.Basic
import Stepwise.Named

/-!
# Handlers by step type
-/

namespace Stepwise

/-- The handlers that are registered, by their step types. -/
structure Registry (σ : Type) extends Table (Handler σ)

namespace Registry

variable {σ : Type}

def empty : Registry σ := ⟨.empty⟩

/-- Adds a handler. It replaces an earlier one of the same type. -/
def register (r : Registry σ) (stepType : String) (h : Handler σ) : Registry σ :=
  ⟨r.toTable.insert stepType h⟩

/-- The registry with a handler added, for registries that are put together in one expression. -/
def withHandler (r : Registry σ) (stepType : String) (h : Handler σ) : Registry σ :=
  r.register stepType h

def get? (r : Registry σ) (stepType : String) : Option (Handler σ) := r.toTable.get? stepType

/-- Removes the handler of a type, and gives it back. -/
def unregister (r : Registry σ) (stepType : String) : Option (Handler σ) × Registry σ :=
  (r.get? stepType, ⟨r.toTable.erase stepType⟩)

def clear (_ : Registry σ) : Registry σ := empty

def has (r : Registry σ) (stepType : String) : Bool := (r.get? stepType).isSome

/-- The step types in ascending order. -/
def types (r : Registry σ) : List String := r.toTable.names

/-- The handlers in the order of their step types. -/
def handlers (r : Registry σ) : List (Handler σ) := r.entries.map Prod.snd

def size (r : Registry σ) : Nat := r.toTable.size

def isEmpty (r : Registry σ) : Bool := r.entries.isEmpty

end Registry

end Stepwise
