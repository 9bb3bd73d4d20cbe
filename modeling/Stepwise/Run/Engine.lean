import Stepwise.Handler.Registry
import Stepwise.Run.Clock
import Stepwise.Run.Event

/-! # Running a workflow -/

namespace Stepwise

/-- What runs workflows in a world `σ`: the handlers, and the readings of the world's clocks. -/
structure Engine (σ : Type) where
  registry : Registry σ
  /-- The timeout of an attempt for steps that set none. -/
  defaultTimeoutMs : UInt64 := 60000
  now : σ → Timestamp
  /-- Nanoseconds since the run began. -/
  elapsedNanos : σ → Nat

structure Run (σ : Type) where
  world : σ
  clock : Clock
  execution : Execution
  context : Context
  events : List Event
  /-- The first panic of a handler. What the run does after it does not count. -/
  panic? : Option Panic := none

/-- How the attempts of a step ended. -/
inductive StepEnd where
  | completed (result : StepResult)
  | failed (error : StepError)
  | cancelled
deriving DecidableEq, Repr

/-- The step that comes after a step with an output. A conditional step names it there. -/
def Step.next? (s : Step) (output : Json) : Option String :=
  if s.isConditional then (output.get? "nextStepId").bind Json.string?
  else s.onSuccess <|> s.nextStepId

namespace Run

variable {σ : Type}

def emit (r : Run σ) (e : Event) : Run σ := { r with events := r.events ++ [e] }

def changeRecord (r : Run σ) (f : StepRecord → StepRecord) : Run σ :=
  { r with execution := r.execution.changeCurrent f }

def changeMetrics (r : Run σ) (f : Metrics → Metrics) : Run σ :=
  { r with execution := r.execution.changeMetrics f }

/-- What comes of a run: the run itself, or a panic. -/
def outcome (r : Run σ) : Except Panic (Run σ) :=
  match r.panic? with
  | some p => .error p
  | none => .ok r

end Run

def stepTimeoutCode : String := "STEP_TIMEOUT"

/-- The failure of an attempt that ran out of time. -/
def timeoutError (attempt timeoutMs : Nat) : StepError :=
  .retryable stepTimeoutCode s!"Attempt {attempt} timed out after {timeoutMs}ms"

namespace Engine

variable {σ : Type} (engine : Engine σ)

def timeoutMs (step : Step) : UInt64 := step.timeoutMs.getD engine.defaultTimeoutMs

/-! ## Attempts -/

/-- Makes one attempt. There is no result if the run was cancelled. -/
def attempt (step : Step) (handler : Handler σ) (params : Json) (count : Nat) (r : Run σ) :
    Option StepResult × Run σ :=
  match r.clock.look with
  | (true, clock) => (none, { r with clock })
  | (false, clock) =>
    let (reply, world) := handler.execute params r.context r.world
    let settle (result : StepResult) (r : Run σ) : Option StepResult × Run σ :=
      (some result, r.changeRecord (·.setRetryCount (UInt32.ofNat (count - 1))))
    match clock.await (engine.timeoutMs step).toNat reply with
    | (.cancelled, clock) => (none, { r with world, clock })
    | (.answered result, clock) =>
      settle result { r with world, clock, panic? := r.panic? <|> reply.panic? }
    | (.timedOut, clock) =>
      settle (.failed (timeoutError count (engine.timeoutMs step).toNat) {}) { r with world, clock }

/-- Rests after a failed attempt, and says whether the run was cancelled. -/
def backOff (step : Step) (count : Nat) (error : StepError) (r : Run σ) : Bool × Run σ :=
  let policy := step.retry.getD {}
  let delay := policy.delayMs count
  let r := r.changeMetrics fun m => { m with retries := m.retries + 1 }
  let r := r.emit (.retrying step.id count policy.attempts delay error)
  let (cancelled, clock) := r.clock.rest delay
  (cancelled, { r with clock })

/-- Makes attempts until one settles the step. `left` more may follow this one. -/
def attempts (step : Step) (handler : Handler σ) (params : Json) :
    (left : Nat) → (count : Nat) → Run σ → StepEnd × Run σ
  | left, count, r =>
    match engine.attempt step handler params count r with
    | (none, r) => (.cancelled, r)
    | (some result, r) =>
      if result.success then (.completed result, r)
      else
        let error := result.errorOrDefault
        match left with
        | 0 => (.failed error, r)
        | left + 1 =>
          if !error.recoverable then (.failed error, r)
          else
            match backOff step count error r with
            | (true, r) => (.cancelled, r)
            | (false, r) => attempts step handler params left (count + 1) r

/-! ## Steps -/

def failStep (step : Step) (error : StepError) (r : Run σ) : Run σ :=
  let r := r.changeRecord (·.fail error (engine.now r.world))
  let r := r.changeMetrics fun m => { m with stepsFailed := m.stepsFailed + 1 }
  r.emit (.stepFailed step.id error)

/-- Notes that the current step completed, and says what comes next. -/
def completeStep (step : Step) (started : Timestamp) (result : StepResult) (r : Run σ) :
    Option String × Run σ :=
  let durationMs := started.elapsedMs (engine.now r.world)
  let metadata := { result.metadata with durationMs }
  let next := step.next? result.output
  let r := r.changeMetrics (·.record metadata)
  let r := { r with context := r.context.recordStep step.id result.output metadata.toJson }
  let r := r.changeRecord (·.complete result.output metadata (engine.now r.world))
  (next, r.emit (.stepCompleted step.id durationMs next))

/-- The error of a run that a failed step ends. -/
def stepFailure (step : Step) (error : StepError) : WorkflowError :=
  if error.code = stepTimeoutCode then .stepTimeout step.id (engine.timeoutMs step)
  else .stepExecution step.id error.code error.message

/-- Runs a step that has a record, and says which step comes next. -/
def runStep (step : Step) (r : Run σ) : Except WorkflowError (Option String) × Run σ :=
  let started := engine.now r.world
  let r := r.emit (.stepStarted step.id step.stepType)
  match engine.registry.get? step.stepType with
  | none =>
    let error := WorkflowError.handlerNotFound step.id step.stepType
    (.error error, engine.failStep step (.fatal error.code error.message) r)
  | some handler =>
    let params := Template.resolveValue step.params r.context
    let r := r.changeRecord (·.setInput params)
    match handler.validate params with
    | .error e => (.error (.invalidParams step.id e.message), engine.failStep step e r)
    | .ok () =>
      match engine.attempts step handler params ((step.retry.getD {}).attempts - 1) 1 r with
      | (.completed result, r) =>
        let (next, r) := engine.completeStep step started result r
        (.ok next, r)
      | (.failed error, r) =>
        let r := engine.failStep step error r
        match step.onFailure with
        | some target =>
          (.ok (some target), { r with context := r.context.recordFailure step.id error.toJson })
        | none => (.error (engine.stepFailure step error), r)
      | (.cancelled, r) =>
        (.error .cancelled, r.changeRecord (·.skip "Execution cancelled" (engine.now r.world)))

/-! ## Runs -/

/-- Why a run must not go on to another step, its count of steps apart. -/
def barrier (w : Workflow) (r : Run σ) : Option WorkflowError × Run σ :=
  let overdue := w.maxExecutionDurationMs.filter fun limit =>
    engine.elapsedNanos r.world > limit.toNat * 1000000
  match overdue with
  | some limit => (some (.timeout limit), r)
  | none =>
    let (cancelled, clock) := r.clock.look
    (if cancelled then some .cancelled else none, { r with clock })

/-- Adds the record of a step, and counts the step. -/
def openRecord (step : Step) (r : Run σ) : Run σ :=
  let r := { r with execution := r.execution.push (.start step (engine.now r.world)) }
  r.changeMetrics fun m => { m with stepsExecuted := m.stepsExecuted + 1 }

/-- Runs the step with an id and the steps after it, at most `left` of them. -/
def walk (w : Workflow) (index : Std.HashMap String Step) :
    (left : Nat) → String → Run σ → Except WorkflowError Unit × Run σ
  | 0, _, r => (.error (.stepLimitExceeded w.maxSteps), r)
  | left + 1, id, r =>
    match engine.barrier w r with
    | (some e, r) => (.error e, r)
    | (none, r) =>
      match index[id]? with
      | none => (.error (.stepNotFound id), r)
      | some step =>
        match engine.runStep step (engine.openRecord step r) with
        | (.error e, r) => (.error e, r)
        | (.ok none, r) => (.ok (), r)
        | (.ok (some next), r) => walk w index left next r

def finish (outcome : Except WorkflowError Unit) (r : Run σ) : Run σ :=
  match outcome with
  | .ok () =>
    let r := { r with execution := (r.execution.complete (engine.now r.world)).2 }
    let m := r.execution.metrics
    r.emit (.completed m.stepsExecuted m.totalDurationMs)
  | .error e =>
    let r := { r with execution := (r.execution.fail e (engine.now r.world)).2 }
    r.emit (.failed r.execution.status e)

/-- What a run is given besides its workflow. -/
structure Request where
  executionId : String
  tenantId : String
  input : Json
deriving DecidableEq, Repr

/-- The run as it starts, with the warnings about its workflow. -/
def begin (w : Workflow) (request : Request) (clock : Clock) (world : σ) (report : Report) :
    Run σ :=
  let now := engine.now world
  let execution := Execution.new request.executionId w request.tenantId request.input now
  let scope : Scope := ⟨w.id.text, request.executionId, request.tenantId⟩
  { world, clock
    execution := (execution.start now).2
    context := .new request.input scope
    events := .started w.id.text request.tenantId :: report.warnings.map .warning }

/-- Runs a workflow to its end. An invalid workflow ends before its first step. -/
def execute (w : Workflow) (request : Request) (clock : Clock) (world : σ) : Run σ :=
  let report := w.validate
  let r := engine.begin w request clock world report
  match report.toExcept with
  | .error e => engine.finish (.error e) r
  | .ok () =>
    let (outcome, r) := engine.walk w w.index w.maxSteps.toNat w.entryStepId r
    engine.finish outcome r

end Engine

end Stepwise
