import Stepwise.Proofs.Run.Attempts

/-! # One step of a run -/

namespace Stepwise

namespace Engine

variable {σ : Type} {engine : Engine σ} {step : Step} {r r' : Run σ}

/-! ## The end of a step -/

/-- The params of a step with their values. -/
def valuesOf (step : Step) (r : Run σ) : Json := Template.resolveValue step.params r.context

def started (step : Step) (r : Run σ) : Run σ := r.emit (.stepStarted step.id step.stepType)

def prepared (step : Step) (r : Run σ) : Run σ :=
  (started step r).changeRecord (·.setInput (valuesOf step r))

/-- The failure of a step without a handler. -/
def missingHandler (step : Step) : StepError :=
  let error := WorkflowError.handlerNotFound step.id step.stepType
  .fatal error.code error.message

/-- All attempts of a step that its handler has accepted. -/
def Attempted (engine : Engine σ) (step : Step) (r : Run σ) (ending : StepEnd) (r' : Run σ) :
    Prop :=
  ∃ handler, engine.registry.get? step.stepType = some handler ∧
    handler.validate (valuesOf step r) = .ok () ∧
    Tries engine step handler (valuesOf step r) ((step.retry.getD {}).attempts - 1) 1
      (prepared step r) ending r'

/-- The ways in which a step can end. -/
inductive Ends (engine : Engine σ) (step : Step) (r : Run σ) :
    Except WorkflowError (Option String) → Run σ → Prop where
  | unhandled (missing : engine.registry.get? step.stepType = none) :
      Ends engine step r (.error (.handlerNotFound step.id step.stepType))
        (engine.failStep step (missingHandler step) (started step r))
  | refused {handler : Handler σ} {error : StepError}
      (found : engine.registry.get? step.stepType = some handler)
      (refusal : handler.validate (valuesOf step r) = .error error) :
      Ends engine step r (.error (.invalidParams step.id error.message))
        (engine.failStep step error (prepared step r))
  | completed {result : StepResult} {r' : Run σ}
      (attempted : Attempted engine step r (.completed result) r') :
      Ends engine step r (.ok (step.next? result.output))
        (engine.completeStep step (engine.now r.world) result r').2
  | rerouted {error : StepError} {target : String} {r' : Run σ}
      (attempted : Attempted engine step r (.failed error) r')
      (edge : step.onFailure = some target) :
      Ends engine step r (.ok (some target))
        { engine.failStep step error r' with
          context := r'.context.recordFailure step.id error.toJson }
  | failed {error : StepError} {r' : Run σ} (attempted : Attempted engine step r (.failed error) r')
      (edge : step.onFailure = none) :
      Ends engine step r (.error (engine.stepFailure step error)) (engine.failStep step error r')
  | cancelled {r' : Run σ} (attempted : Attempted engine step r .cancelled r') :
      Ends engine step r (.error .cancelled)
        (r'.changeRecord (·.skip "Execution cancelled" (engine.now r'.world)))

theorem attempted_of_eq {handler : Handler σ} {r r' : Run σ} {ending : StepEnd}
    (found : engine.registry.get? step.stepType = some handler)
    (accepted : handler.validate (valuesOf step r) = .ok ())
    (made : engine.attempts step handler (valuesOf step r) ((step.retry.getD {}).attempts - 1) 1
      (prepared step r) = (ending, r')) :
    Attempted engine step r ending r' := by
  have tries := tries_attempts engine step handler (valuesOf step r)
    ((step.retry.getD {}).attempts - 1) 1 (prepared step r)
  rw [made] at tries
  exact ⟨handler, found, accepted, tries⟩

theorem ends_runStep (engine : Engine σ) (step : Step) (r : Run σ) :
    Ends engine step r (engine.runStep step r).1 (engine.runStep step r).2 := by
  unfold runStep
  dsimp only
  split
  · rename_i missing
    exact .unhandled missing
  · rename_i handler found
    split
    · rename_i refusal
      exact .refused found refusal
    · rename_i accepted
      split
      · rename_i made
        exact .completed (attempted_of_eq found accepted made)
      · rename_i made
        have attempted : Attempted engine step r _ _ := attempted_of_eq found accepted made
        split
        · rename_i edge
          exact .rerouted attempted edge
        · rename_i edge
          exact .failed attempted edge
      · rename_i made
        exact .cancelled (attempted_of_eq found accepted made)

theorem Attempted.context {ending : StepEnd} (h : Attempted engine step r ending r') :
    r'.context = r.context := by
  obtain ⟨_, -, -, tries⟩ := h
  exact tries.context

theorem Ends.scope {outcome : Except WorkflowError (Option String)}
    (h : Ends engine step r outcome r') : r'.context.scope = r.context.scope := by
  cases h with
  | unhandled | refused => rfl
  | completed attempted | rerouted attempted | failed attempted | cancelled attempted =>
    rw [← attempted.context]
    rfl

end Engine

/-! ## The record of an ended step -/

namespace StepRecord

variable {record : StepRecord}

theorem complete_of_running (h : record.status = .running) (output : Json)
    (metadata : StepMetadata) (now : Timestamp) :
    record.complete output metadata now =
      { record.ended .completed now with output := some output, metadata := some metadata } := by
  rw [complete, h]
  rfl

theorem fail_of_running (h : record.status = .running) (error : StepError) (now : Timestamp) :
    record.fail error now =
      { record.ended .failed now with
        error := some error.message, errorCode := some error.code } := by
  rw [fail, h]
  rfl

theorem skip_of_running (h : record.status = .running) (reason : String) (now : Timestamp) :
    record.skip reason now = { record.ended .skipped now with error := some reason } := by
  rw [skip, h]
  rfl

end StepRecord

namespace WorkflowError

/-- The codes of the errors with which a step can end its run. -/
def stepCodes : List String :=
  ["HANDLER_NOT_FOUND", "INVALID_PARAMS", "STEP_FAILED", "STEP_TIMEOUT"]

/-- The step with the id ends the run with the error. -/
def Blames (e : WorkflowError) (id : String) : Prop := e.code ∈ stepCodes ∧ e.step? = some id

theorem Blames.of_step? {e : WorkflowError} {id : String} (h : e.step? = some id)
    (hfound : e ≠ .stepNotFound id) : e.Blames id := by
  refine ⟨?_, h⟩
  cases e with
  | stepNotFound => exact absurd (congrArg _ (Option.some.inj h)) hfound
  | handlerNotFound | invalidParams | stepExecution | stepTimeout => simp [stepCodes, code]
  | validation | timeout | stepLimitExceeded | cancelled => cases h

theorem blameless {e : WorkflowError} (h : e.step? = none) : e.code ∉ stepCodes := by
  cases e with
  | validation | timeout | stepLimitExceeded | cancelled => simp [stepCodes, code]
  | stepNotFound | handlerNotFound | invalidParams | stepExecution | stepTimeout => cases h

end WorkflowError

/-- What the record of a step says when the step has ended. -/
inductive Closed (step : Step) : Except WorkflowError (Option String) → StepRecord → Prop where
  | completed {record : StepRecord} {output : Json} (status : record.status = .completed)
      (result : record.output = some output) : Closed step (.ok (step.next? output)) record
  | rerouted {record : StepRecord} {target : String} (status : record.status = .failed)
      (edge : step.onFailure = some target) : Closed step (.ok (some target)) record
  | failed {record : StepRecord} {error : WorkflowError} (status : record.status = .failed)
      (blames : error.Blames step.id) : Closed step (.error error) record
  | cancelled {record : StepRecord} (status : record.status = .skipped) :
      Closed step (.error .cancelled) record

/-- What a step that ends adds to the count of failed steps. -/
def StepStatus.failures : StepStatus → UInt32
  | failed => 1
  | _ => 0

namespace Execution

/-- A step has closed its record, and has counted itself if it failed. -/
structure ClosedBy (step : Step) (outcome : Except WorkflowError (Option String)) (e : Execution)
    (before : List StepRecord) (record : StepRecord) (e' : Execution) : Prop where
  closed : Closed step outcome record
  stepId : record.stepId = step.id
  execution : ∃ metrics, e' = e.withLast before record metrics ∧
    metrics.stepsExecuted = e.metrics.stepsExecuted ∧
    metrics.stepsFailed = e.metrics.stepsFailed + record.status.failures

theorem closedBy_withLast {step : Step} {outcome : Except WorkflowError (Option String)}
    {e : Execution} {before : List StepRecord} {record : StepRecord} {metrics : Metrics}
    (closed : Closed step outcome record) (hid : record.stepId = step.id)
    (hexecuted : metrics.stepsExecuted = e.metrics.stepsExecuted)
    (hfailed : metrics.stepsFailed = e.metrics.stepsFailed + record.status.failures) :
    e.ClosedBy step outcome before record (e.withLast before record metrics) :=
  ⟨closed, hid, metrics, rfl, hexecuted, hfailed⟩

theorem ClosedBy.of_withLast {step : Step} {outcome : Except WorkflowError (Option String)}
    {e e' : Execution} {before : List StepRecord} {opened record : StepRecord} {k : UInt32}
    (h : (e.withLast before opened { e.metrics with retries := k }).ClosedBy step outcome before
      record e') :
    e.ClosedBy step outcome before record e' := by
  obtain ⟨closed, hid, metrics, rfl, hexecuted, hfailed⟩ := h
  exact ⟨closed, hid, metrics, rfl, hexecuted, hfailed⟩

end Execution

namespace Engine

variable {σ : Type} {engine : Engine σ} {step : Step} {r r' : Run σ} {before : List StepRecord}
  {record : StepRecord}

theorem failStep_execution (engine : Engine σ) (step : Step)
    (ho : r.execution.Open before record) (error : StepError) :
    (engine.failStep step error r).execution =
      r.execution.withLast before
        { record.ended .failed (engine.now r.world) with
          error := some error.message, errorCode := some error.code }
        { r.execution.metrics with stepsFailed := r.execution.metrics.stepsFailed + 1 } := by
  simp only [failStep, Run.emit_execution, Run.changeMetrics_execution,
    Run.changeRecord_execution, ho.changeCurrent, StepRecord.fail_of_running ho.running]
  rfl

theorem failStep_closes (engine : Engine σ) {outcome : Except WorkflowError (Option String)}
    (ho : r.execution.Open before record) (hid : record.stepId = step.id) (error : StepError)
    (hc : ∀ closed : StepRecord, closed.status = .failed → Closed step outcome closed) :
    ∃ closed, r.execution.ClosedBy step outcome before closed
      (engine.failStep step error r).execution := by
  rw [failStep_execution engine step ho]
  exact ⟨_, Execution.closedBy_withLast (hc _ rfl) hid rfl rfl⟩

/-- What a completed step has used. -/
def usage (engine : Engine σ) (started : Timestamp) (result : StepResult) (r : Run σ) :
    StepMetadata :=
  { result.metadata with durationMs := started.elapsedMs (engine.now r.world) }

theorem completeStep_execution (ho : r.execution.Open before record) (started : Timestamp)
    (result : StepResult) :
    (engine.completeStep step started result r).2.execution =
      r.execution.withLast before
        { record.ended .completed (engine.now r.world) with
          output := some result.output, metadata := some (usage engine started result r) }
        (r.execution.metrics.record (usage engine started result r)) := by
  have ho' : ∀ f, (r.execution.changeMetrics f).Open before record :=
    fun _ => ⟨ho.status, ho.steps, ho.running⟩
  simp only [completeStep, Run.emit_execution, Run.changeRecord_execution,
    Run.changeMetrics_execution, (ho' _).changeCurrent, StepRecord.complete_of_running ho.running]
  rfl

theorem completeStep_closes (ho : r.execution.Open before record) (hid : record.stepId = step.id)
    (started : Timestamp) (result : StepResult) :
    ∃ closed, r.execution.ClosedBy step (.ok (step.next? result.output)) before closed
      (engine.completeStep step started result r).2.execution := by
  rw [completeStep_execution ho]
  exact ⟨_, Execution.closedBy_withLast (.completed rfl rfl) hid rfl (UInt32.add_zero _).symm⟩

theorem skip_closes (ho : r.execution.Open before record) (hid : record.stepId = step.id)
    (reason : String) (now : Timestamp) :
    ∃ closed, r.execution.ClosedBy step (.error .cancelled) before closed
      (r.changeRecord (·.skip reason now)).execution := by
  rw [Run.changeRecord_execution, ho.changeCurrent, StepRecord.skip_of_running ho.running]
  exact ⟨_, Execution.closedBy_withLast (.cancelled rfl) hid rfl (UInt32.add_zero _).symm⟩

theorem stepFailure_blames (error : StepError) :
    (engine.stepFailure step error).Blames step.id := by
  unfold stepFailure
  split
  · exact .of_step? rfl nofun
  · exact .of_step? rfl nofun

theorem prepared_execution (step : Step) (ho : r.execution.Open before record) :
    (prepared step r).execution =
      r.execution.withLast before (record.setInput (valuesOf step r)) r.execution.metrics :=
  ho.changeCurrent _

theorem prepared_open (step : Step) (ho : r.execution.Open before record) :
    (prepared step r).execution.Open before (record.setInput (valuesOf step r)) := by
  rw [prepared_execution step ho]
  exact ho.withLast ho.running

theorem Attempted.execution {ending : StepEnd} (h : Attempted engine step r ending r')
    (ho : r.execution.Open before record) :
    ∃ n k, r'.execution = r.execution.withLast before
      { record.setInput (valuesOf step r) with retryCount := n }
      { r.execution.metrics with retries := k } := by
  obtain ⟨handler, -, -, tries⟩ := h
  obtain ⟨n, k, hn⟩ := tries.execution (prepared_open step ho)
  refine ⟨n, k, ?_⟩
  rw [hn, prepared_execution step ho]
  rfl

theorem Attempted.closes {ending : StepEnd} (h : Attempted engine step r ending r')
    (ho : r.execution.Open before record) (hid : record.stepId = step.id)
    {outcome : Except WorkflowError (Option String)} {e : Execution}
    (hc : ∀ record', r'.execution.Open before record' → record'.stepId = step.id →
      ∃ closed, r'.execution.ClosedBy step outcome before closed e) :
    ∃ closed, r.execution.ClosedBy step outcome before closed e := by
  obtain ⟨n, k, hn⟩ := h.execution ho
  rw [hn] at hc
  obtain ⟨closed, hclosed⟩ := hc _ (ho.withLast ho.running) hid
  exact ⟨closed, hclosed.of_withLast⟩

theorem Ends.closes {outcome : Except WorkflowError (Option String)}
    (h : Ends engine step r outcome r') (ho : r.execution.Open before record)
    (hid : record.stepId = step.id) :
    ∃ closed, r.execution.ClosedBy step outcome before closed r'.execution := by
  cases h with
  | unhandled missing =>
    exact failStep_closes engine (r := started step r) ho hid _ fun _ hs =>
      .failed hs (.of_step? rfl nofun)
  | @refused handler error found refusal =>
    have hc : ∀ closed : StepRecord, closed.status = .failed →
        Closed step (.error (.invalidParams step.id error.message)) closed :=
      fun _ hs => .failed hs (.of_step? rfl nofun)
    obtain ⟨closed, hclosed⟩ := failStep_closes engine (prepared_open step ho) hid error hc
    rw [prepared_execution step ho] at hclosed
    exact ⟨closed, hclosed.of_withLast⟩
  | completed attempted =>
    exact attempted.closes ho hid fun _ ho' hid' => completeStep_closes ho' hid' _ _
  | rerouted attempted edge =>
    exact attempted.closes ho hid fun _ ho' hid' =>
      failStep_closes engine ho' hid' _ fun _ hs => .rerouted hs edge
  | failed attempted edge =>
    exact attempted.closes ho hid fun _ ho' hid' =>
      failStep_closes engine ho' hid' _ fun _ hs => .failed hs (stepFailure_blames _)
  | cancelled attempted =>
    exact attempted.closes ho hid fun _ ho' hid' => skip_closes ho' hid' _ _

end Engine

end Stepwise
