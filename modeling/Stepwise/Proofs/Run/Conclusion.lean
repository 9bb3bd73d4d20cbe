import Stepwise.Proofs.Run.Record

/-! # What a step leaves -/

namespace Stepwise

namespace Engine

variable {σ : Type}

/-! ## Before the first attempt -/

/-- The step has a handler, and the handler accepts the params. -/
def Accepts (engine : Engine σ) (step : Step) (params : Json) : Prop :=
  ∃ handler, engine.registry.get? step.stepType = some handler ∧ handler.validate params = .ok ()

/-- The step has no handler, or the handler refuses the params. The error says which. -/
inductive Rejects (engine : Engine σ) (step : Step) (params : Json) : WorkflowError → Prop where
  | unhandled (missing : engine.registry.get? step.stepType = none) :
      Rejects engine step params (.handlerNotFound step.id step.stepType)
  | refused {handler : Handler σ} {error : StepError}
      (found : engine.registry.get? step.stepType = some handler)
      (refusal : handler.validate params = .error error) :
      Rejects engine step params (.invalidParams step.id error.message)

/-- The params of a step with their values. Without a handler they stay as they are. -/
def inputFor (engine : Engine σ) (step : Step) (context : Context) : Json :=
  match engine.registry.get? step.stepType with
  | none => step.params
  | some _ => Template.resolveValue step.params context

variable {engine : Engine σ} {step : Step} {params : Json}

theorem Rejects.not_accepts {error : WorkflowError} (h : engine.Rejects step params error) :
    ¬ engine.Accepts step params := by
  rintro ⟨handler, found, accepted⟩
  cases h with
  | unhandled missing => exact nomatch missing.symm.trans found
  | refused found' refusal =>
    obtain rfl := Option.some.inj (found'.symm.trans found)
    exact nomatch refusal.symm.trans accepted

/-! ## After the last attempt -/

/-- How a step with a context has ended: how its attempts went if there were any, what comes next,
its record, and the context after it. -/
inductive Concluded (engine : Engine σ) (step : Step) (context : Context) :
    Option StepEnd → Except WorkflowError (Option String) → StepRecord → Context → Prop where
  | rejected {record : StepRecord} {error : WorkflowError} (status : record.status = .failed)
      (rejects : engine.Rejects step record.input error) :
      Concluded engine step context none (.error error) record context
  | completed {record : StepRecord} {result : StepResult} {metadata : StepMetadata}
      (status : record.status = .completed) (accepts : engine.Accepts step record.input)
      (output : record.output = some result.output) (used : record.metadata = some metadata) :
      Concluded engine step context (some (.completed result)) (.ok (step.next? result.output))
        record (context.recordStep step.id result.output metadata.toJson)
  | rerouted {record : StepRecord} {error : StepError} {target : String}
      (status : record.status = .failed) (accepts : engine.Accepts step record.input)
      (message : record.error = some error.message) (code : record.errorCode = some error.code)
      (edge : step.onFailure = some target) :
      Concluded engine step context (some (.failed error)) (.ok (some target)) record
        (context.recordFailure step.id error.toJson)
  | failed {record : StepRecord} {error : StepError} (status : record.status = .failed)
      (accepts : engine.Accepts step record.input) (edge : step.onFailure = none) :
      Concluded engine step context (some (.failed error)) (.error (engine.stepFailure step error))
        record context
  | cancelled {record : StepRecord} (status : record.status = .skipped)
      (accepts : engine.Accepts step record.input) :
      Concluded engine step context (some .cancelled) (.error .cancelled) record context

/-- The attempts that were made, if there were any: the record keeps their count, and the world is
as they left it. -/
inductive Tried (engine : Engine σ) (step : Step) (r : Run σ) (before : List StepRecord)
    (record : StepRecord) : Option StepEnd → σ → Prop where
  | not : Tried engine step r before record none r.world
  | attempted {ending : StepEnd} {r' : Run σ} {opened : StepRecord} {world : σ}
      (attempted : Attempted engine step r ending r') (ho : r'.execution.Open before opened)
      (count : record.retryCount = opened.retryCount) (last : r'.world = world) :
      Tried engine step r before record (some ending) world

/-- The run after a step: one record more, and all that goes with it. -/
structure Concludes (engine : Engine σ) (step : Step) (r : Run σ) (before : List StepRecord)
    (ending : Option StepEnd) (outcome : Except WorkflowError (Option String))
    (record : StepRecord) (r' : Run σ) : Prop where
  opened : ∃ first, r.execution.Open before first
  steps : r'.execution.steps = before ++ [record]
  status : r'.execution.status = .running
  stepId : record.stepId = step.id
  input : record.input = engine.inputFor step r.context
  concluded : Concluded engine step r.context ending outcome record r'.context
  tried : Tried engine step r before record ending r'.world

/-! ## Closing a record -/

/-- The run after its open record was closed. -/
structure Closes (e : Execution) (before : List StepRecord) (opened closed : StepRecord) :
    Prop where
  steps : e.steps = before ++ [closed]
  status : e.status = .running
  stepId : closed.stepId = opened.stepId
  input : closed.input = opened.input
  retryCount : closed.retryCount = opened.retryCount

variable {r r' : Run σ} {before : List StepRecord} {record : StepRecord} {ending : StepEnd}

theorem failStep_documents (engine : Engine σ) (step : Step) (ho : r.execution.Open before record)
    (error : StepError) :
    ∃ closed, Closes (engine.failStep step error r).execution before record closed ∧
      closed.status = .failed ∧ closed.error = some error.message ∧
      closed.errorCode = some error.code := by
  rw [failStep_execution engine step ho]
  exact ⟨_, ⟨rfl, ho.status, rfl, rfl, rfl⟩, rfl, rfl, rfl⟩

theorem completeStep_documents (engine : Engine σ) (step : Step)
    (ho : r.execution.Open before record) (started : Timestamp) (result : StepResult) :
    ∃ closed, Closes (engine.completeStep step started result r).2.execution before record closed ∧
      closed.status = .completed ∧ closed.output = some result.output ∧
      closed.metadata = some (usage engine started result r) := by
  rw [completeStep_execution ho]
  exact ⟨_, ⟨rfl, ho.status, rfl, rfl, rfl⟩, rfl, rfl, rfl⟩

theorem skip_documents (ho : r.execution.Open before record) (reason : String) (now : Timestamp) :
    ∃ closed, Closes (r.changeRecord (·.skip reason now)).execution before record closed ∧
      closed.status = .skipped := by
  rw [Run.changeRecord_execution, ho.changeCurrent, StepRecord.skip_of_running ho.running]
  exact ⟨_, ⟨rfl, ho.status, rfl, rfl, rfl⟩, rfl⟩

/-! ## The end of a step -/

theorem inputFor_of_found {handler : Handler σ}
    (found : engine.registry.get? step.stepType = some handler) (context : Context) :
    engine.inputFor step context = Template.resolveValue step.params context := by
  rw [inputFor, found]

theorem inputFor_of_missing (missing : engine.registry.get? step.stepType = none)
    (context : Context) : engine.inputFor step context = step.params := by
  rw [inputFor, missing]

theorem Attempted.admits (h : Attempted engine step r ending r')
    (ho : r.execution.Open before record) (hid : record.stepId = step.id) :
    ∃ last, r'.execution.Open before last ∧ last.stepId = step.id ∧
      last.input = engine.inputFor step r.context ∧ engine.Accepts step last.input := by
  obtain ⟨n, k, hn⟩ := h.execution ho
  obtain ⟨handler, found, accepted, -⟩ := h
  refine ⟨{ record.setInput (valuesOf step r) with retryCount := n }, ?_, hid, ?_, handler, found,
    accepted⟩
  · rw [hn]
    exact ho.withLast ho.running
  · rw [inputFor_of_found found]
    rfl

theorem Attempted.concludes (h : Attempted engine step r ending r')
    (ho : r.execution.Open before record) (hid : record.stepId = step.id) {after : Run σ}
    {outcome : Except WorkflowError (Option String)} (hworld : r'.world = after.world)
    (hc : ∀ last, r'.execution.Open before last →
      ∃ closed, Closes after.execution before last closed ∧ (engine.Accepts step closed.input →
        Concluded engine step r.context (some ending) outcome closed after.context)) :
    ∃ ending closed, Concludes engine step r before ending outcome closed after := by
  obtain ⟨last, ho', hid', hinput, accepts⟩ := h.admits ho hid
  obtain ⟨closed, hcloses, hconcluded⟩ := hc last ho'
  exact ⟨some ending, closed,
    { opened := ⟨_, ho⟩
      steps := hcloses.steps
      status := hcloses.status
      stepId := hcloses.stepId.trans hid'
      input := hcloses.input.trans hinput
      concluded := hconcluded (hcloses.input ▸ accepts)
      tried := .attempted h ho' hcloses.retryCount hworld }⟩

theorem Ends.concludes {outcome : Except WorkflowError (Option String)}
    (h : Ends engine step r outcome r') (ho : r.execution.Open before record)
    (hid : record.stepId = step.id) (hinput : record.input = step.params) :
    ∃ ending closed, Concludes engine step r before ending outcome closed r' := by
  cases h with
  | unhandled missing =>
    obtain ⟨closed, hc, hs, -, -⟩ :=
      failStep_documents engine step (r := started step r) ho (missingHandler step)
    refine ⟨_, closed, ⟨_, ho⟩, hc.steps, hc.status, hc.stepId.trans hid, ?_,
      .rejected hs (.unhandled missing), .not⟩
    rw [hc.input, hinput, inputFor_of_missing missing]
  | @refused handler error found refusal =>
    obtain ⟨closed, hc, hs, -, -⟩ := failStep_documents engine step (prepared_open step ho) error
    refine ⟨_, closed, ⟨_, ho⟩, hc.steps, hc.status, hc.stepId.trans hid, ?_,
      .rejected hs (.refused found ?_), .not⟩
    · rw [hc.input, inputFor_of_found found]
      rfl
    · rw [hc.input]
      exact refusal
  | @completed result tried attempted =>
    refine attempted.concludes ho hid rfl fun last ho' => ?_
    obtain ⟨closed, hc, hs, houtput, hused⟩ :=
      completeStep_documents engine step ho' (engine.now r.world) result
    refine ⟨closed, hc, fun accepts => ?_⟩
    rw [← attempted.context]
    exact .completed hs accepts houtput hused
  | @rerouted error target tried attempted edge =>
    refine attempted.concludes ho hid rfl fun last ho' => ?_
    obtain ⟨closed, hc, hs, hmessage, hcode⟩ := failStep_documents engine step ho' error
    refine ⟨closed, hc, fun accepts => ?_⟩
    rw [← attempted.context]
    exact .rerouted hs accepts hmessage hcode edge
  | @failed error tried attempted edge =>
    refine attempted.concludes ho hid rfl fun last ho' => ?_
    obtain ⟨closed, hc, hs, -, -⟩ := failStep_documents engine step ho' error
    refine ⟨closed, hc, fun accepts => ?_⟩
    rw [← attempted.context]
    exact .failed hs accepts edge
  | @cancelled tried attempted =>
    refine attempted.concludes ho hid rfl fun last ho' => ?_
    obtain ⟨closed, hc, hs⟩ := skip_documents ho' "Execution cancelled" (engine.now tried.world)
    refine ⟨closed, hc, fun accepts => ?_⟩
    rw [← attempted.context]
    exact .cancelled hs accepts

theorem Ends.concludes_openRecord {outcome : Except WorkflowError (Option String)}
    (h : Ends engine step (engine.openRecord step r) outcome r')
    (hr : r.execution.status = .running) :
    ∃ ending closed, Concludes engine step (engine.openRecord step r) r.execution.steps ending
      outcome closed r' := by
  have ho : (engine.openRecord step r).execution.Open r.execution.steps
      (.start step (engine.now r.world)) := by
    rw [openRecord_execution engine step hr]
    exact ⟨hr, rfl, rfl⟩
  exact h.concludes ho rfl rfl

end Engine

end Stepwise
