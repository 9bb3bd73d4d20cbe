import Stepwise.Proofs.Run.Walk

/-! # The record of a run that is over -/

namespace Stepwise

/-! ## Codes and statuses -/

namespace ExecutionStatus

variable {e : WorkflowError}

theorem isTerminal_ofError (e : WorkflowError) : (ofError e).isTerminal = true := by
  cases e <;> rfl

theorem ofError_ne_completed (e : WorkflowError) : ofError e ≠ .completed := by
  cases e <;> nofun

theorem ofError_eq_cancelled_iff : ofError e = .cancelled ↔ e.code = "CANCELLED" := by
  cases e <;> simp [ofError, WorkflowError.isTimeout, WorkflowError.code]

theorem ofError_eq_timeout_iff :
    ofError e = .timeout ↔ e.code = "TIMEOUT" ∨ e.code = "STEP_LIMIT_EXCEEDED" := by
  cases e <;> simp [ofError, WorkflowError.isTimeout, WorkflowError.code]

theorem ofError_eq_failed_iff :
    ofError e = .failed ↔ e.code ∉ ["CANCELLED", "TIMEOUT", "STEP_LIMIT_EXCEEDED"] := by
  cases e <;> simp [ofError, WorkflowError.isTimeout, WorkflowError.code]

end ExecutionStatus

namespace Execution

/-! ## The end of a run -/

def errorCode? (e : Execution) : Option String := e.error.map ExecutionError.code

/-- What the record of a run says when the run is over. -/
structure WellEnded (w : Workflow) (e : Execution) : Prop where
  terminal : e.status.isTerminal = true
  error : e.error = none ↔ e.status = .completed
  cancelled : e.status = .cancelled ↔ e.errorCode? = some "CANCELLED"
  timeout : e.status = .timeout ↔
    e.errorCode? = some "TIMEOUT" ∨ e.errorCode? = some "STEP_LIMIT_EXCEEDED"
  failed : e.status = .failed ↔
    ∃ code, e.errorCode? = some code ∧ code ∉ ["CANCELLED", "TIMEOUT", "STEP_LIMIT_EXCEEDED"]
  closed : ∀ record ∈ e.steps,
    record.status = .completed ∨ record.status = .failed ∨ record.status = .skipped
  skipped : ∀ record ∈ e.steps, record.status = .skipped →
    record ∉ e.steps.dropLast ∧ e.status = .cancelled
  completed : e.status = .completed → ∃ record output, e.steps.getLast? = some record ∧
    record.status = .completed ∧ record.output = some output ∧ e.output = some output
  output : e.status ≠ .completed → e.output = none
  executed : e.steps.length < UInt32.size → e.metrics.stepsExecuted.toNat = e.steps.length
  failures : e.steps.length < UInt32.size →
    e.metrics.stepsFailed.toNat = e.steps.countP (·.status == .failed)
  bounded : e.steps.length ≤ w.maxSteps.toNat
  blamed : ∀ error, e.error = some error → error.code ∈ WorkflowError.stepCodes →
    ∃ record, e.steps.getLast? = some record ∧ record.status = .failed ∧
      error.stepId = some record.stepId

/-! ## The run under way -/

/-- The run goes on, it has counted its steps, and `left` more may follow. -/
structure Tallied (w : Workflow) (left : Nat) (e : Execution) : Prop where
  status : e.status = .running
  error : e.error = none
  output : e.output = none
  executed : e.metrics.stepsExecuted = UInt32.ofNat e.steps.length
  failed : e.metrics.stepsFailed = UInt32.ofNat (e.steps.countP (·.status == .failed))
  bounded : left + e.steps.length ≤ w.maxSteps.toNat

/-- No record is open, and no step was skipped. -/
def Settled (steps : List StepRecord) : Prop :=
  ∀ record ∈ steps, record.status = .completed ∨ record.status = .failed

/-- The shapes in which the records can be when a run comes to its end. -/
inductive Halted : Except WorkflowError Unit → List StepRecord → Prop where
  | between {steps : List StepRecord} {error : WorkflowError} (settled : Settled steps)
      (blameless : error.code ∉ WorkflowError.stepCodes) : Halted (.error error) steps
  | completed {before : List StepRecord} {record : StepRecord} {output : Json}
      (settled : Settled before) (status : record.status = .completed)
      (result : record.output = some output) : Halted (.ok ()) (before ++ [record])
  | failed {before : List StepRecord} {record : StepRecord} {error : WorkflowError}
      (settled : Settled before) (status : record.status = .failed)
      (blames : error.Blames record.stepId) : Halted (.error error) (before ++ [record])
  | cancelled {before : List StepRecord} {record : StepRecord} (settled : Settled before)
      (status : record.status = .skipped) : Halted (.error .cancelled) (before ++ [record])

variable {w : Workflow} {left : Nat} {e e' : Execution}

theorem failures_eq (record : StepRecord) :
    record.status.failures = UInt32.ofNat (if record.status == .failed then 1 else 0) := by
  cases record.status <;> rfl

theorem Tallied.closedBy (h : e.Tallied w (left + 1)) {step : Step} {opened record : StepRecord}
    {outcome : Except WorkflowError (Option String)}
    (hc : (e.withLast e.steps opened
      { e.metrics with stepsExecuted := e.metrics.stepsExecuted + 1 }).ClosedBy step outcome e.steps
      record e') :
    e'.Tallied w left ∧ e'.steps = e.steps ++ [record] := by
  obtain ⟨-, -, metrics, rfl, hexecuted, hfailed⟩ := hc
  refine ⟨⟨h.status, h.error, h.output, ?_, ?_, ?_⟩, rfl⟩
  · change metrics.stepsExecuted = UInt32.ofNat (e.steps ++ [record]).length
    change metrics.stepsExecuted = e.metrics.stepsExecuted + 1 at hexecuted
    rw [hexecuted, h.executed, List.length_append, List.length_singleton, UInt32.ofNat_add]
    rfl
  · change metrics.stepsFailed = UInt32.ofNat ((e.steps ++ [record]).countP (·.status == .failed))
    change metrics.stepsFailed = e.metrics.stepsFailed + record.status.failures at hfailed
    rw [hfailed, h.failed, List.countP_append, List.countP_singleton, UInt32.ofNat_add,
      failures_eq]
  · have := h.bounded
    change left + (e.steps ++ [record]).length ≤ _
    rw [List.length_append, List.length_singleton]
    omega

theorem Settled.append {steps : List StepRecord} {record : StepRecord} (h : Settled steps)
    (hr : record.status = .completed ∨ record.status = .failed) : Settled (steps ++ [record]) := by
  intro x hx
  rcases List.mem_append.mp hx with hx | hx
  · exact h x hx
  · rw [List.mem_singleton.mp hx]
    exact hr

end Execution

theorem Closed.goes_on {step : Step} {outcome : Except WorkflowError (Option String)}
    {record : StepRecord} (h : Closed step outcome record) {next : Option String}
    (ho : outcome = .ok next) : record.status = .completed ∨ record.status = .failed := by
  cases h with
  | completed status => exact Or.inl status
  | rerouted status => exact Or.inr status
  | failed | cancelled => cases ho

theorem Closed.finishes {step : Step} {outcome : Except WorkflowError (Option String)}
    {record : StepRecord} (h : Closed step outcome record) (ho : outcome = .ok none) :
    record.status = .completed ∧ ∃ output, record.output = some output := by
  cases h with
  | completed status result => exact ⟨status, _, result⟩
  | rerouted | failed | cancelled => cases ho

theorem Closed.stops {step : Step} {outcome : Except WorkflowError (Option String)}
    {record : StepRecord} (h : Closed step outcome record) {error : WorkflowError}
    (ho : outcome = .error error) :
    record.status = .failed ∧ error.Blames step.id ∨
      record.status = .skipped ∧ error = .cancelled := by
  cases h with
  | completed | rerouted => cases ho
  | failed status blames =>
    obtain rfl := Except.error.inj ho
    exact Or.inl ⟨status, blames⟩
  | cancelled status => exact Or.inr ⟨status, (Except.error.inj ho).symm⟩

namespace Engine

open Execution

variable {σ : Type} {engine : Engine σ} {w : Workflow} {step : Step} {r r' : Run σ} {left : Nat}

theorem openRecord_execution (engine : Engine σ) (step : Step) (h : r.execution.status = .running) :
    (engine.openRecord step r).execution =
      r.execution.withLast r.execution.steps (.start step (engine.now r.world))
        { r.execution.metrics with stepsExecuted := r.execution.metrics.stepsExecuted + 1 } := by
  simp only [openRecord, Run.changeMetrics_execution, push_of_running h]
  rfl

theorem Ends.adds {outcome : Except WorkflowError (Option String)}
    (h : Ends engine step (engine.openRecord step (engine.barrier w r).2) outcome r')
    (ht : r.execution.Tallied w (left + 1)) :
    ∃ record, Closed step outcome record ∧ record.stepId = step.id ∧
      r'.execution.Tallied w left ∧ r'.execution.steps = r.execution.steps ++ [record] := by
  have hb := barrier_execution engine w r
  have hopen := openRecord_execution engine step (r := (engine.barrier w r).2) (hb ▸ ht.status)
  rw [hb] at hopen
  have ho : (engine.openRecord step (engine.barrier w r).2).execution.Open r.execution.steps
      (.start step (engine.now (engine.barrier w r).2.world)) := by
    rw [hopen]
    exact ⟨ht.status, rfl, rfl⟩
  obtain ⟨record, hc⟩ := h.closes ho rfl
  rw [hopen] at hc
  exact ⟨record, hc.closed, hc.stepId, ht.closedBy hc⟩

/-- A run that comes to its end has counted its steps, and its records are in shape. -/
theorem Walks.halts {id : String} {outcome : Except WorkflowError Unit}
    (h : Walks engine w left id r outcome r') (ht : r.execution.Tallied w left)
    (hs : Settled r.execution.steps) :
    (∃ rest, r'.execution.Tallied w rest) ∧ Halted outcome r'.execution.steps := by
  induction h with
  | limit => exact ⟨⟨_, ht⟩, .between hs (WorkflowError.blameless rfl)⟩
  | @barred _ _ r _ bar =>
    rw [barrier_execution]
    refine ⟨⟨_, ht⟩, .between hs ?_⟩
    rcases barrier_error bar with rfl | ⟨limit, rfl⟩
    · exact WorkflowError.blameless rfl
    · exact WorkflowError.blameless rfl
  | missing =>
    rw [barrier_execution]
    exact ⟨⟨_, ht⟩, .between hs (by simp [WorkflowError.stepCodes, WorkflowError.code])⟩
  | stopped _ _ ends =>
    obtain ⟨record, hc, hid, ht', hsteps⟩ := ends.adds ht
    rw [hsteps]
    refine ⟨⟨_, ht'⟩, ?_⟩
    rcases hc.stops rfl with ⟨status, blames⟩ | ⟨status, rfl⟩
    · exact .failed hs status (hid ▸ blames)
    · exact .cancelled hs status
  | finished _ _ ends =>
    obtain ⟨record, hc, -, ht', hsteps⟩ := ends.adds ht
    obtain ⟨status, output, result⟩ := hc.finishes rfl
    rw [hsteps]
    exact ⟨⟨_, ht'⟩, .completed hs status result⟩
  | hop _ _ ends _ ih =>
    obtain ⟨record, hc, -, ht', hsteps⟩ := ends.adds ht
    exact ih ht' (hsteps ▸ hs.append (hc.goes_on rfl))

end Engine

/-! ## What the shapes say -/

namespace Execution

variable {w : Workflow} {left : Nat} {e e' : Execution} {outcome : Except WorkflowError Unit}
  {steps : List StepRecord}

theorem Halted.mem (h : Halted outcome steps) {record : StepRecord} (hr : record ∈ steps) :
    (record.status = .completed ∨ record.status = .failed) ∨
      record.status = .skipped ∧ record ∉ steps.dropLast ∧ outcome = .error .cancelled := by
  cases h with
  | between settled => exact Or.inl (settled record hr)
  | completed settled status => exact Or.inl (settled.append (Or.inl status) record hr)
  | failed settled status => exact Or.inl (settled.append (Or.inr status) record hr)
  | cancelled settled status =>
    rcases List.mem_append.mp hr with hr | hr
    · exact Or.inl (settled record hr)
    · obtain rfl := List.mem_singleton.mp hr
      refine Or.inr ⟨status, fun hmem => ?_, rfl⟩
      rw [List.dropLast_concat] at hmem
      rcases settled record hmem with hs | hs
      · rw [hs] at status; cases status
      · rw [hs] at status; cases status

theorem Halted.mem_closed (h : Halted outcome steps) {record : StepRecord} (hr : record ∈ steps) :
    record.status = .completed ∨ record.status = .failed ∨ record.status = .skipped := by
  rcases h.mem hr with (hs | hs) | ⟨hs, -⟩
  · exact Or.inl hs
  · exact Or.inr (Or.inl hs)
  · exact Or.inr (Or.inr hs)

theorem Halted.mem_skipped (h : Halted outcome steps) {record : StepRecord} (hr : record ∈ steps)
    (hs : record.status = .skipped) : record ∉ steps.dropLast ∧ outcome = .error .cancelled := by
  rcases h.mem hr with (h | h) | ⟨-, hlast⟩
  · rw [h] at hs; cases hs
  · rw [h] at hs; cases hs
  · exact hlast

theorem Halted.last_completed (h : Halted (.ok ()) steps) :
    ∃ record output, steps.getLast? = some record ∧ record.status = .completed ∧
      record.output = some output ∧
      (steps.reverse.find? (·.status == .completed)).bind StepRecord.output = some output := by
  generalize ho : (Except.ok () : Except WorkflowError Unit) = outcome at h
  cases h with
  | @completed before record output settled status result =>
    refine ⟨record, output, List.getLast?_concat, status, result, ?_⟩
    rw [List.reverse_append, List.reverse_singleton, List.singleton_append, List.find?_cons, status]
    exact result
  | between | failed | cancelled => cases ho

theorem Halted.last_failed {error : WorkflowError} (h : Halted (.error error) steps)
    (hcode : error.code ∈ WorkflowError.stepCodes) :
    ∃ record, steps.getLast? = some record ∧ record.status = .failed ∧
      error.step? = some record.stepId := by
  cases h with
  | between _ blameless => exact absurd hcode blameless
  | failed _ status blames => exact ⟨_, List.getLast?_concat, status, blames.2⟩
  | cancelled => exact absurd hcode (WorkflowError.blameless rfl)

/-! ## The end of the record -/

structure SameSteps (e e' : Execution) : Prop where
  steps : e'.steps = e.steps
  executed : e'.metrics.stepsExecuted = e.metrics.stepsExecuted
  failed : e'.metrics.stepsFailed = e.metrics.stepsFailed

theorem ended_metrics (e : Execution) (status : ExecutionStatus) (now : Timestamp) :
    (e.ended status now).metrics =
      { e.metrics with totalDurationMs := (e.startedAt.getD e.createdAt).elapsedMs now } := rfl

-- The metrics are rewritten first, so that no one computes with the duration.
theorem sameSteps_ended (e : Execution) (status : ExecutionStatus) (now : Timestamp) :
    e.SameSteps (e.ended status now) where
  steps := rfl
  executed := by rw [ended_metrics]
  failed := by rw [ended_metrics]

theorem sameSteps_complete (e : Execution) (now : Timestamp) : e.SameSteps (e.complete now).2 := by
  have same := sameSteps_ended e .completed now
  unfold complete
  split
  · exact ⟨rfl, rfl, rfl⟩
  · exact ⟨same.steps, same.executed, same.failed⟩

theorem sameSteps_fail (e : Execution) (error : WorkflowError) (now : Timestamp) :
    e.SameSteps (e.fail error now).2 := by
  have same := sameSteps_ended e (.ofError error) now
  unfold fail
  split
  · exact ⟨rfl, rfl, rfl⟩
  · exact ⟨same.steps, same.executed, same.failed⟩

theorem complete_of_running (h : e.status = .running) (now : Timestamp) :
    (e.complete now).2 = { e.ended .completed now with output := e.lastOutput? } := by
  rw [complete, h]
  rfl

theorem fail_of_running (h : e.status = .running) (error : WorkflowError) (now : Timestamp) :
    (e.fail error now).2 =
      { e.ended (.ofError error) now with error := some (.ofError error) } := by
  rw [fail, h]
  rfl

theorem complete_error (h : e.status = .running) (now : Timestamp) :
    (e.complete now).2.error = e.error := by
  rw [complete_of_running h]
  rfl

theorem fail_error (h : e.status = .running) (error : WorkflowError) (now : Timestamp) :
    (e.fail error now).2.error = some (.ofError error) := by
  rw [fail_of_running h]

theorem Tallied.executed_toNat (h : e.Tallied w left) (same : e.SameSteps e')
    (hlt : e'.steps.length < UInt32.size) :
    e'.metrics.stepsExecuted.toNat = e'.steps.length := by
  rw [same.executed, h.executed, ← same.steps, UInt32.toNat_ofNat_of_lt' hlt]

theorem Tallied.failed_toNat (h : e.Tallied w left) (same : e.SameSteps e')
    (hlt : e'.steps.length < UInt32.size) :
    e'.metrics.stepsFailed.toNat = e'.steps.countP (·.status == .failed) := by
  rw [same.failed, h.failed, ← same.steps,
    UInt32.toNat_ofNat_of_lt' (Nat.lt_of_le_of_lt List.countP_le_length hlt)]

theorem Tallied.length_le (h : e.Tallied w left) (same : e.SameSteps e') :
    e'.steps.length ≤ w.maxSteps.toNat := by
  rw [same.steps]
  exact Nat.le_trans (Nat.le_add_left _ _) h.bounded

theorem Tallied.wellEnded_complete (ht : e.Tallied w left) (hh : Halted (.ok ()) e.steps)
    (now : Timestamp) : (e.complete now).2.WellEnded w := by
  have same := sameSteps_complete e now
  have he := complete_of_running ht.status now
  have hstatus : (e.complete now).2.status = .completed := by rw [he]; rfl
  have herror : (e.complete now).2.error = none := (complete_error ht.status now).trans ht.error
  have houtput : (e.complete now).2.output = e.lastOutput? := by rw [he]
  rw [← same.steps] at hh
  exact {
    terminal := by rw [hstatus]; rfl
    error := iff_of_true herror hstatus
    cancelled := by simp [errorCode?, hstatus, herror]
    timeout := by simp [errorCode?, hstatus, herror]
    failed := by simp [errorCode?, hstatus, herror]
    closed := fun _ hr => hh.mem_closed hr
    skipped := fun _ hr hs => nomatch (hh.mem_skipped hr hs).2
    completed := fun _ => by
      rw [houtput, lastOutput?, ← same.steps]
      exact hh.last_completed
    output := fun hne => absurd hstatus hne
    executed := ht.executed_toNat same
    failures := ht.failed_toNat same
    bounded := ht.length_le same
    blamed := fun error he => absurd (he.symm.trans herror) nofun }

theorem Tallied.wellEnded_fail {error : WorkflowError} (ht : e.Tallied w left)
    (hh : Halted (.error error) e.steps) (now : Timestamp) : (e.fail error now).2.WellEnded w := by
  have same := sameSteps_fail e error now
  have he := fail_of_running ht.status error now
  have hstatus : (e.fail error now).2.status = .ofError error := by rw [he]; rfl
  have herror := fail_error ht.status error now
  have hcode : (e.fail error now).2.errorCode? = some error.code := by rw [errorCode?, herror]; rfl
  have houtput : (e.fail error now).2.output = none := by rw [he]; exact ht.output
  have hne : (e.fail error now).2.status ≠ .completed :=
    hstatus ▸ ExecutionStatus.ofError_ne_completed error
  rw [← same.steps] at hh
  exact {
    terminal := by rw [hstatus, ExecutionStatus.isTerminal_ofError]
    error := iff_of_false (by rw [herror]; nofun) hne
    cancelled := by
      rw [hstatus, hcode, Option.some_inj, ExecutionStatus.ofError_eq_cancelled_iff]
    timeout := by
      rw [hstatus, hcode, Option.some_inj, Option.some_inj,
        ExecutionStatus.ofError_eq_timeout_iff]
    failed := by
      simp only [hstatus, hcode, Option.some_inj, exists_eq_left',
        ExecutionStatus.ofError_eq_failed_iff]
    closed := fun _ hr => hh.mem_closed hr
    skipped := fun _ hr hs => by
      obtain ⟨hlast, ho⟩ := hh.mem_skipped hr hs
      refine ⟨hlast, ?_⟩
      rw [hstatus, Except.error.inj ho]
      rfl
    completed := fun h => absurd h hne
    output := fun _ => houtput
    executed := ht.executed_toNat same
    failures := ht.failed_toNat same
    bounded := ht.length_le same
    blamed := fun error' he hcodes => by
      obtain rfl := Option.some.inj (herror.symm.trans he)
      exact hh.last_failed hcodes }

end Execution

namespace Engine

open Execution

variable {σ : Type} {engine : Engine σ} {w : Workflow} {r : Run σ} {left : Nat}

theorem finish_wellEnded {outcome : Except WorkflowError Unit} (ht : r.execution.Tallied w left)
    (hh : Halted outcome r.execution.steps) :
    (engine.finish outcome r).execution.WellEnded w := by
  cases outcome with
  | ok => exact ht.wellEnded_complete hh _
  | error error => exact ht.wellEnded_fail hh _

theorem finish_steps (engine : Engine σ) (outcome : Except WorkflowError Unit) (r : Run σ) :
    (engine.finish outcome r).execution.steps = r.execution.steps := by
  cases outcome with
  | ok => exact (sameSteps_complete r.execution (engine.now r.world)).steps
  | error error => exact (sameSteps_fail r.execution error (engine.now r.world)).steps

theorem finish_world (engine : Engine σ) (outcome : Except WorkflowError Unit) (r : Run σ) :
    (engine.finish outcome r).world = r.world := by
  cases outcome <;> rfl

theorem begin_tallied (engine : Engine σ) (w : Workflow) (request : Request) (clock : Clock)
    (world : σ) (report : Report) :
    (engine.begin w request clock world report).execution.Tallied w w.maxSteps.toNat :=
  ⟨rfl, rfl, rfl, rfl, rfl, Nat.le_refl _⟩

theorem Executes.wellEnded {request : Request} {clock : Clock} {world : σ}
    (h : Executes engine w request clock world r) : r.execution.WellEnded w := by
  have ht := begin_tallied engine w request clock world w.validate
  have hs : Settled (engine.begin w request clock world w.validate).execution.steps :=
    fun _ h => absurd h List.not_mem_nil
  cases h with
  | refused =>
    exact finish_wellEnded ht (.between hs (WorkflowError.blameless rfl))
  | walked _ walks =>
    obtain ⟨⟨_, ht'⟩, hh⟩ := walks.halts ht hs
    exact finish_wellEnded ht' hh

/-- The record of every run is well ended. -/
theorem execute_wellEnded (engine : Engine σ) (w : Workflow) (request : Request) (clock : Clock)
    (world : σ) : (engine.execute w request clock world).execution.WellEnded w :=
  (executes_execute engine w request clock world).wellEnded

end Engine

end Stepwise
