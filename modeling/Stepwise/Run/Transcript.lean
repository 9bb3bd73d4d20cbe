import Stepwise.Http.Exchange
import Stepwise.Record.Timestamp

/-!
# Runs that are continued

With each answer a run is made again from the start, and gets further.
-/

namespace Stepwise

/-- The answer to a request, and when it was there. -/
structure Answer where
  delivery : Option Delivery
  waitMs : Nat
  /-- Nanoseconds after the start of the run. -/
  endedAt : Nat
deriving Repr

/-- The answers that are known, in the order of the requests. -/
structure Transcript where
  /-- Nanoseconds since 1970. -/
  startedAt : Nat
  known : List Answer
  reached : Nat := 0
  /-- The first request without an answer. -/
  open? : Option Outgoing := none

namespace Transcript

/-- Answers what is known. What is not known cancels the run. -/
def transport : Http.Transport Transcript := fun o t =>
  match t.known with
  | a :: rest =>
    ({ value := a.delivery, waitMs := a.waitMs }, { t with known := rest, reached := a.endedAt })
  | [] => ({ value := none, cancels := true }, { t with open? := t.open? <|> some o })

def now (t : Transcript) : Timestamp := .ofUnixNanos (t.startedAt + t.reached)

/-- Some time has always passed. -/
def elapsedNanos (t : Transcript) : Nat := t.reached + 1

end Transcript

end Stepwise
