import Stepwise.Handler.Basic

/-!
# Waiting and cancellation

Cancellation may come from a callee, from outside at a set time, or from another thread at any time.
-/

namespace Stepwise

/-- The time of a run in milliseconds, and what is known about its cancellation. -/
structure Clock where
  now : Nat := 0
  cancelled : Bool := false
  /-- When the run is cancelled from outside. It takes effect when the run waits. -/
  alarm : Option Nat := none
  /-- How many more looks at the clock come before another thread cancels the run. -/
  looksLeft : Option Nat := none
deriving DecidableEq, Repr

/-- How an attempt came to its end. -/
inductive Attempt (α : Type) where
  | answered (value : α)
  | timedOut
  | cancelled
deriving Repr

namespace Clock

def cancel (c : Clock) : Clock := { c with cancelled := true }

def look (c : Clock) : Bool × Clock :=
  if c.cancelled then (true, c)
  else
    match c.looksLeft with
    | none => (false, c)
    | some 0 => (true, c.cancel)
    | some (n + 1) => (false, { c with looksLeft := some n })

/-- Waits for some time, and says whether the run was cancelled before it was over. -/
def wait (c : Clock) (ms : Nat) : Bool × Clock :=
  match c.look with
  | (true, c) => (true, c)
  | (false, c) =>
    let later := { c with now := c.now + ms }
    match c.alarm with
    | none => (false, later)
    | some t =>
      if t ≤ c.now + ms then (true, { c.cancel with now := max c.now t }) else (false, later)

/-- Rests between two attempts, and says whether the run was cancelled. No time is no wait. -/
def rest (c : Clock) (ms : Nat) : Bool × Clock := if ms = 0 then c.look else c.wait ms

/-- Waits for the answer of a callee, at most until the timeout. An answer that comes with the
timeout counts. -/
def await {α : Type} (c : Clock) (timeoutMs : Nat) (reply : Reply α) : Attempt α × Clock :=
  let c := if reply.cancels then c.cancel else c
  if reply.waitMs = 0 then (.answered reply.value, c)
  else if timeoutMs = 0 then (.timedOut, c)
  else
    match c.wait (min reply.waitMs timeoutMs) with
    | (true, c) => (.cancelled, c)
    | (false, c) => if reply.waitMs ≤ timeoutMs then (.answered reply.value, c) else (.timedOut, c)

end Clock

end Stepwise
