import Stepwise.Proofs.Run.Actions

/-! # The events of a run -/

namespace Stepwise

/-! ## The events of a step -/

namespace Event

/-- The event announces another attempt of the step with the id. -/
inductive RetryOf (id : String) : Event → Prop where
  | intro (attempt maxAttempts delayMs : Nat) (error : StepError) :
      RetryOf id (.retrying id attempt maxAttempts delayMs error)

def isRetry : Event → Bool
  | retrying .. => true
  | _ => false

theorem message_of_retryOf {id : String} {e : Event} (h : e.RetryOf id) :
    e.message = "Retrying step" := by
  cases h
  rfl

end Event

/-- What is said last about a step. -/
def StepStatus.verdict : StepStatus → List String
  | completed => ["Step completed"]
  | failed => ["Step failed"]
  | _ => []

namespace StepRecord

/-- The events at the end of a step. A step that was interrupted has none. -/
inductive Closing (record : StepRecord) : List Event → Prop where
  | completed {durationMs : UInt64} (next : Option String) (status : record.status = .completed)
      (duration : record.metadata.map StepMetadata.durationMs = some durationMs) :
      Closing record [.stepCompleted record.stepId durationMs next]
  | failed {error : StepError} (status : record.status = .failed)
      (message : record.error = some error.message) (code : record.errorCode = some error.code) :
      Closing record [.stepFailed record.stepId error]
  | silent (status : record.status = .running ∨ record.status = .skipped) : Closing record []

/-- The events of a step, from its start to the end that its record shows. -/
def Logs (record : StepRecord) (events : List Event) : Prop :=
  ∃ retries closing,
    events = .stepStarted record.stepId record.stepType :: (retries ++ closing) ∧
      (∀ e ∈ retries, e.RetryOf record.stepId) ∧ record.Closing closing

/-- What is said about a step that was tried again so often. -/
def script (record : StepRecord) (retries : Nat) : List String :=
  "Step started" :: (List.replicate retries "Retrying step" ++ record.status.verdict)

variable {record record' : StepRecord} {events more closing : List Event}

theorem Closing.messages (h : record.Closing events) :
    events.map Event.message = record.status.verdict := by
  cases h with
  | completed next status =>
    rw [status]
    rfl
  | failed status =>
    rw [status]
    rfl
  | silent status =>
    rcases status with status | status
    · rw [status]
      rfl
    · rw [status]
      rfl

theorem Logs.messages (h : record.Logs events) :
    ∃ retries, events.map Event.message = record.script retries := by
  obtain ⟨retries, closing, rfl, hretries, hclosing⟩ := h
  have hmessages : retries.map Event.message =
      List.replicate retries.length "Retrying step" :=
    List.map_eq_replicate_iff.mpr fun e he => Event.message_of_retryOf (hretries e he)
  refine ⟨retries.length, ?_⟩
  rw [List.map_cons, List.map_append, hmessages, hclosing.messages]
  rfl

theorem logs_start (step : Step) (now : Timestamp) :
    (start step now).Logs [.stepStarted step.id step.stepType] :=
  ⟨[], [], rfl, nofun, .silent (Or.inl rfl)⟩

theorem Logs.of_running (h : record.Logs events) (running : record.status = .running) :
    ∃ retries, events = .stepStarted record.stepId record.stepType :: retries ∧
      ∀ e ∈ retries, e.RetryOf record.stepId := by
  obtain ⟨retries, closing, rfl, hretries, hclosing⟩ := h
  cases hclosing with
  | completed _ status => exact nomatch status.symm.trans running
  | failed status => exact nomatch status.symm.trans running
  | silent => exact ⟨retries, by rw [List.append_nil], hretries⟩

theorem Logs.retry (h : record.Logs events) (running : record.status = .running)
    {e : Event} (he : e.RetryOf record.stepId) : record.Logs (events ++ [e]) := by
  obtain ⟨retries, rfl, hretries⟩ := h.of_running running
  refine ⟨retries ++ [e], [], ?_, fun e' he' => ?_, .silent (Or.inl running)⟩
  · rw [List.append_nil, List.cons_append]
  · rcases List.mem_append.mp he' with he' | he'
    · exact hretries e' he'
    · rw [List.mem_singleton.mp he']
      exact he

theorem Logs.close (h : record.Logs events) (running : record.status = .running)
    (stepId : record'.stepId = record.stepId) (stepType : record'.stepType = record.stepType)
    (hclosing : record'.Closing closing) : record'.Logs (events ++ closing) := by
  obtain ⟨retries, rfl, hretries⟩ := h.of_running running
  rw [← stepId, ← stepType, List.cons_append]
  rw [← stepId] at hretries
  exact ⟨retries, closing, rfl, hretries, hclosing⟩

end StepRecord

/-! ## The events of all steps -/

/-- The events of the steps, record after record. -/
inductive Log : List StepRecord → List Event → Prop where
  | none : Log [] []
  | more {steps : List StepRecord} {events more : List Event} {record : StepRecord}
      (earlier : Log steps events) (last : record.Logs more) :
      Log (steps ++ [record]) (events ++ more)

namespace Log

variable {steps before : List StepRecord} {events : List Event} {record : StepRecord}

theorem of_concat (h : Log (before ++ [record]) events) :
    ∃ earlier last, Log before earlier ∧ record.Logs last ∧ events = earlier ++ last := by
  generalize hsteps : before ++ [record] = steps at h
  cases h with
  | none => exact absurd hsteps (List.append_ne_nil_of_right_ne_nil before (List.cons_ne_nil _ _))
  | more earlier last =>
    obtain ⟨rfl, hrecord⟩ := List.append_inj' hsteps rfl
    obtain rfl := List.singleton_inj.mp hrecord
    exact ⟨_, _, earlier, last, rfl⟩

theorem messages (h : Log steps events) :
    ∃ retries : List Nat, retries.length = steps.length ∧
      events.map Event.message = (List.zipWith StepRecord.script steps retries).flatten := by
  induction h with
  | none => exact ⟨[], rfl, rfl⟩
  | more earlier last ih =>
    obtain ⟨retries, hlength, hmessages⟩ := ih
    obtain ⟨n, hlast⟩ := last.messages
    refine ⟨retries ++ [n], ?_, ?_⟩
    · rw [List.length_append, List.length_append, hlength]
      rfl
    · rw [List.map_append, hmessages, hlast, List.zipWith_append hlength.symm, List.flatten_append]
      simp

end Log

/-! ## The events of a run under way -/

/-- After the first events there are those of the steps, and the retries are counted. -/
structure Run.Logging {σ : Type} (first : List Event) (r : Run σ) : Prop where
  events : ∃ steps, Log r.execution.steps steps ∧ r.events = first ++ steps
  retries : r.execution.metrics.retries = UInt32.ofNat (r.events.countP Event.isRetry)

namespace Run.Logging

variable {σ : Type} {first more closing : List Event} {r r' : Run σ} {before : List StepRecord}
  {record record' : StepRecord}

theorem append (h : r.Logging first)
    (log : ∀ steps, Log r.execution.steps steps → Log r'.execution.steps (steps ++ more))
    (events : r'.events = r.events ++ more)
    (retries : r'.execution.metrics.retries =
      r.execution.metrics.retries + UInt32.ofNat (more.countP Event.isRetry)) :
    r'.Logging first := by
  obtain ⟨steps, hlog, hevents⟩ := h.events
  refine ⟨⟨steps ++ more, log steps hlog, ?_⟩, ?_⟩
  · rw [events, hevents, List.append_assoc]
  · rw [retries, h.retries, events, List.countP_append, UInt32.ofNat_add]

theorem tell {metrics : Metrics} (h : r.Logging first) (ho : r.execution.Open before record)
    (execution : r'.execution = r.execution.withLast before record' metrics)
    (log : ∀ events, record.Logs events → record'.Logs (events ++ more))
    (events : r'.events = r.events ++ more)
    (retries : metrics.retries =
      r.execution.metrics.retries + UInt32.ofNat (more.countP Event.isRetry)) :
    r'.Logging first := by
  refine h.append (fun steps hlog => ?_) events (execution ▸ retries)
  -- the log is cut before the open record, and its events are the last ones
  rw [ho.steps] at hlog
  obtain ⟨earlier, last, hearlier, hlast, rfl⟩ := hlog.of_concat
  rw [execution, List.append_assoc]
  exact hearlier.more (log last hlast)

end Run.Logging

namespace Engine

open Relation

variable {σ : Type} {engine : Engine σ} {w : Workflow} {r r' : Run σ} {first : List Event}

theorem Does.logging (h : engine.Does r r') (hr : r.Logging first) : r'.Logging first := by
  cases h with
  | nothing execution events =>
    obtain ⟨hevents, hretries⟩ := hr
    rw [← execution, ← events] at hevents hretries
    exact ⟨hevents, hretries⟩
  | opens step now status execution events =>
    refine hr.append (fun steps hlog => ?_) events ?_
    · rw [execution]
      exact hlog.more (StepRecord.logs_start step now)
    · rw [execution]
      exact (UInt32.add_zero _).symm
  | edits input retryCount opened execution events =>
    have running := opened.running
    refine hr.tell opened execution (fun _ hlog => ?_) (events.trans (List.append_nil _).symm)
      (UInt32.add_zero _).symm
    exact hlog.close running rfl rfl (.silent (Or.inl running))
  | retries attempt maxAttempts delayMs error opened execution events =>
    refine hr.tell opened execution (fun _ hlog => ?_) events rfl
    exact hlog.retry opened.running (.intro ..)
  | completes now durationMs next opened _ _ _ execution events =>
    refine hr.tell opened execution (fun _ hlog => ?_) events (UInt32.add_zero _).symm
    exact hlog.close opened.running rfl rfl (.completed next rfl rfl)
  | fails error now opened execution events =>
    refine hr.tell opened execution (fun _ hlog => ?_) events (UInt32.add_zero _).symm
    exact hlog.close opened.running rfl rfl (.failed rfl rfl rfl)
  | skips reason now opened execution events =>
    refine hr.tell opened execution (fun _ hlog => ?_) (events.trans (List.append_nil _).symm)
      (UInt32.add_zero _).symm
    exact hlog.close opened.running rfl rfl (.silent (Or.inr rfl))

/-! ## The events of a run that is over -/

end Engine

/-- The event at the end of a run. -/
inductive Execution.Closes (e : Execution) : Event → Prop where
  | completed (status : e.status = .completed) :
      Closes e (.completed e.metrics.stepsExecuted e.metrics.totalDurationMs)
  | failed {error : WorkflowError} (status : e.status ≠ .completed)
      (recorded : e.error = some (.ofError error)) : Closes e (.failed e.status error)

def ExecutionStatus.verdict : ExecutionStatus → String
  | completed => "Workflow execution completed"
  | _ => "Workflow execution failed"

/-- What is said about a run, with the number of retries of each step. -/
def Execution.script (e : Execution) (warnings : Nat) (retries : List Nat) : List String :=
  "Workflow execution started" :: (List.replicate warnings "Workflow validation warning" ++
    ((List.zipWith StepRecord.script e.steps retries).flatten ++ [e.status.verdict]))

/-- The events of a run agree with its record. -/
structure Run.Logged {σ : Type} (w : Workflow) (request : Engine.Request) (r : Run σ) : Prop where
  events : ∃ steps last, Log r.execution.steps steps ∧ r.execution.Closes last ∧
    r.events = .started w.id.text request.tenantId ::
      (w.validate.warnings.map .warning ++ (steps ++ [last]))
  messages : ∃ retries : List Nat, retries.length = r.execution.steps.length ∧
    r.events.map Event.message = r.execution.script w.validate.warnings.length retries
  closed : ∀ record ∈ r.execution.steps, record.status.isTerminal = true
  retries : r.events.countP Event.isRetry < UInt32.size →
    r.execution.metrics.retries.toNat = r.events.countP Event.isRetry

theorem Execution.Closes.message {e : Execution} {event : Event} (h : e.Closes event) :
    event.message = e.status.verdict := by
  cases h with
  | completed status =>
    rw [status]
    rfl
  | failed status =>
    unfold ExecutionStatus.verdict
    split
    · rename_i hcompleted
      exact absurd hcompleted status
    · rfl

namespace Engine

variable {request : Request} {clock : Clock} {world : σ}

/-- The events of the beginning: the start and the warnings. -/
def opening (w : Workflow) (request : Request) : List Event :=
  .started w.id.text request.tenantId :: w.validate.warnings.map .warning

theorem opening_messages (w : Workflow) (request : Request) :
    (opening w request).map Event.message = "Workflow execution started" ::
      List.replicate w.validate.warnings.length "Workflow validation warning" := by
  have hwarnings : (w.validate.warnings.map Event.warning).map Event.message =
      List.replicate w.validate.warnings.length "Workflow validation warning" := by
    rw [List.map_map]
    exact List.map_eq_replicate_iff.mpr fun _ _ => rfl
  rw [opening, List.map_cons, hwarnings]
  rfl

theorem opening_retries (w : Workflow) (request : Request) :
    (opening w request).countP Event.isRetry = 0 := by
  rw [List.countP_eq_zero]
  intro e he
  rcases List.mem_cons.mp he with rfl | he
  · exact Bool.false_ne_true
  · obtain ⟨warning, -, rfl⟩ := List.mem_map.mp he
    exact Bool.false_ne_true

theorem begin_logging (engine : Engine σ) (w : Workflow) (request : Request) (clock : Clock)
    (world : σ) :
    (engine.begin w request clock world w.validate).Logging (opening w request) where
  events := ⟨[], .none, (List.append_nil _).symm⟩
  retries := by
    have hcount := opening_retries w request
    unfold opening at hcount
    rw [begin, hcount]
    rfl

theorem finish_events (engine : Engine σ) (outcome : Except WorkflowError Unit)
    (hs : r.execution.status = .running) :
    ∃ last, (engine.finish outcome r).execution.Closes last ∧
      (engine.finish outcome r).events = r.events ++ [last] ∧ last.isRetry = false := by
  cases outcome with
  | ok =>
    have hcompleted : (engine.finish (.ok ()) r).execution.status = .completed := by
      simp only [finish, Run.emit_execution, Execution.complete_of_running hs]
      rfl
    exact ⟨_, .completed hcompleted, rfl, rfl⟩
  | error e =>
    have hexecution : (engine.finish (.error e) r).execution = (r.execution.fail e _).2 := rfl
    have hfailed := Execution.fail_of_running hs e (engine.now r.world)
    refine ⟨_, .failed ?_ (Execution.fail_error hs e _), rfl, rfl⟩
    rw [hexecution, hfailed]
    exact ExecutionStatus.ofError_ne_completed e

end Engine

end Stepwise
