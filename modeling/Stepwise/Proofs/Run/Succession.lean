import Stepwise.Proofs.Run.Conclusion
import Stepwise.Proofs.Run.Routing

/-! # Which step comes next -/

namespace Stepwise

open Engine

variable {σ : Type}

/-! ## Decisions -/

/-- What the record of a step says about the step after it. There may be none. A failure decides
nothing if no attempt was made. -/
inductive Decides (engine : Engine σ) (step : Step) (record : StepRecord) :
    Option String → Prop where
  | completed {output : Json} (status : record.status = .completed)
      (result : record.output = some output) : Decides engine step record (step.next? output)
  | failed {target : String} (status : record.status = .failed)
      (accepts : engine.Accepts step record.input) (edge : step.onFailure = some target) :
      Decides engine step record (some target)

namespace Decides

variable {engine : Engine σ} {step : Step} {record : StepRecord} {next next' : Option String}

theorem unique (h : Decides engine step record next) (h' : Decides engine step record next') :
    next = next' := by
  cases h with
  | completed status result =>
    cases h' with
    | completed _ result' => rw [Option.some.inj (result.symm.trans result')]
    | failed status' => exact nomatch status.symm.trans status'
  | failed status _ edge =>
    cases h' with
    | completed status' => exact nomatch status.symm.trans status'
    | failed _ _ edge' => exact edge.symm.trans edge'

theorem status (h : Decides engine step record next) :
    record.status = .completed ∨ record.status = .failed := by
  cases h with
  | completed status => exact Or.inl status
  | failed status => exact Or.inr status

theorem completed_of_none (h : Decides engine step record none) : record.status = .completed := by
  generalize hnext : (none : Option String) = next at h
  cases h with
  | completed status => exact status
  | failed => cases hnext

theorem accepts (h : Decides engine step record next) (status : record.status = .failed) :
    engine.Accepts step record.input := by
  cases h with
  | completed status' => exact nomatch status.symm.trans status'
  | failed _ accepts => exact accepts

end Decides

namespace Workflow

variable {engine : Engine σ} {w : Workflow}

/-- The record of a step decides what comes next. -/
def Decided (w : Workflow) (engine : Engine σ) (record : StepRecord) (next : Option String) :
    Prop :=
  ∃ step, w.step? record.stepId = some step ∧ Decides engine step record next

theorem Decided.unique {record : StepRecord} {next next' : Option String}
    (h : w.Decided engine record next) (h' : w.Decided engine record next') : next = next' := by
  obtain ⟨step, found, h⟩ := h
  obtain ⟨step', found', h'⟩ := h'
  obtain rfl := Option.some.inj (found.symm.trans found')
  exact h.unique h'

/-- The step that comes after the records of a run. The first one is the entry. -/
def Awaits (w : Workflow) (engine : Engine σ) (steps : List StepRecord) (next : String) : Prop :=
  match steps.getLast? with
  | none => next = w.entryStepId
  | some last => w.Decided engine last (some next)

theorem awaits_concat {before : List StepRecord} {last : StepRecord} {next : String} :
    w.Awaits engine (before ++ [last]) next ↔ w.Decided engine last (some next) := by
  rw [Awaits, List.getLast?_concat]

theorem Awaits.unique {steps : List StepRecord} {next next' : String}
    (h : w.Awaits engine steps next) (h' : w.Awaits engine steps next') : next = next' := by
  unfold Awaits at h h'
  cases hlast : steps.getLast? with
  | none =>
    rw [hlast] at h h'
    exact h.trans h'.symm
  | some last =>
    rw [hlast] at h h'
    exact Option.some.inj (h.unique h')

/-- Why a run did not go on to a step: a limit, a cancellation, or no such step. -/
inductive Bars (w : Workflow) (next : String) : WorkflowError → Prop where
  | stepLimit : Bars w next (.stepLimitExceeded w.maxSteps)
  | timeLimit {limit : UInt64} (declared : w.maxExecutionDurationMs = some limit) :
      Bars w next (.timeout limit)
  | cancelled : Bars w next .cancelled
  | missing (undeclared : w.step? next = none) : Bars w next (.stepNotFound next)

/-- The records follow the decisions of their steps, from the entry on. -/
structure Follows (w : Workflow) (engine : Engine σ) (steps : List StepRecord) : Prop where
  entry : ∀ first, steps.head? = some first → first.stepId = w.entryStepId
  declared : ∀ record ∈ steps, ∃ step, w.step? record.stepId = some step
  chain : steps.IsChain fun a b => w.Decided engine a (some b.stepId)

/-- How the records of a run end. The last step ended the run, or the step after it was barred. -/
inductive Stops (w : Workflow) (engine : Engine σ) :
    Except WorkflowError Unit → List StepRecord → Prop where
  | finished {before : List StepRecord} {last : StepRecord}
      (decided : w.Decided engine last none) : Stops w engine (.ok ()) (before ++ [last])
  | undecided {before : List StepRecord} {last : StepRecord} {step : Step} {error : WorkflowError}
      (found : w.step? last.stepId = some step)
      (undecided : ∀ next, ¬ Decides engine step last next)
      (rejects : last.status = .failed → step.onFailure = none ∨
        engine.Rejects step last.input error) :
      Stops w engine (.error error) (before ++ [last])
  | barred {steps : List StepRecord} {next : String} {error : WorkflowError}
      (awaits : w.Awaits engine steps next) (bars : w.Bars next error) :
      Stops w engine (.error error) steps

theorem Follows.nil : w.Follows engine [] where
  entry _ hfirst := (Option.some_ne_none _ hfirst.symm).elim
  declared _ h := absurd h List.not_mem_nil
  chain := .nil

theorem Follows.append {steps : List StepRecord} {record : StepRecord} {step : Step}
    (h : w.Follows engine steps) (found : w.step? record.stepId = some step)
    (awaits : w.Awaits engine steps record.stepId) : w.Follows engine (steps ++ [record]) where
  entry first hfirst := by
    cases steps with
    | nil =>
      obtain rfl := Option.some.inj hfirst
      exact awaits
    | cons => exact h.entry first hfirst
  declared x hx := by
    rcases List.mem_append.mp hx with hx | hx
    · exact h.declared x hx
    · rw [List.mem_singleton.mp hx]
      exact ⟨step, found⟩
  chain := by
    refine List.isChain_append.mpr ⟨h.chain, List.isChain_singleton _, fun a ha b hb => ?_⟩
    obtain rfl := Option.some.inj hb
    rwa [Awaits, Option.mem_def.mp ha] at awaits

end Workflow

/-! ## From step to step -/

namespace Engine

open Workflow

variable {engine : Engine σ} {w : Workflow} {step : Step} {r r' : Run σ} {left : Nat}
  {id : String}

theorem Concluded.decides {context context' : Context} {ending : Option StepEnd}
    {outcome : Except WorkflowError (Option String)} {record : StepRecord}
    (h : Concluded engine step context ending outcome record context') {next : Option String}
    (ho : outcome = .ok next) : Decides engine step record next := by
  cases h with
  | completed status accepts output =>
    rw [← Except.ok.inj ho]
    exact .completed status output
  | rerouted status accepts message code edge =>
    rw [← Except.ok.inj ho]
    exact .failed status accepts edge
  | rejected | failed | cancelled => cases ho

theorem Concluded.undecided {context context' : Context} {ending : Option StepEnd}
    {outcome : Except WorkflowError (Option String)} {record : StepRecord}
    (h : Concluded engine step context ending outcome record context') {error : WorkflowError}
    (ho : outcome = .error error) :
    (∀ next, ¬ Decides engine step record next) ∧
      (record.status = .failed → step.onFailure = none ∨
        engine.Rejects step record.input error) := by
  cases h with
  | rejected status rejects =>
    rw [← Except.error.inj ho]
    refine ⟨fun next hd => ?_, fun _ => Or.inr rejects⟩
    cases hd with
    | completed status' => exact nomatch status.symm.trans status'
    | failed _ accepts => exact rejects.not_accepts accepts
  | failed status accepts edge =>
    refine ⟨fun next hd => ?_, fun _ => Or.inl edge⟩
    cases hd with
    | completed status' => exact nomatch status.symm.trans status'
    | failed _ _ edge' => exact nomatch edge.symm.trans edge'
  | cancelled status accepts =>
    refine ⟨fun next hd => ?_, fun status' => nomatch status.symm.trans status'⟩
    rcases hd.status with status' | status'
    · exact nomatch status.symm.trans status'
    · exact nomatch status.symm.trans status'
  | completed | rerouted => cases ho

theorem barrier_bars {e : WorkflowError} (h : (engine.barrier w r).1 = some e) (next : String) :
    w.Bars next e := by
  unfold barrier at h
  dsimp only at h
  split at h
  · rename_i limit overdue
    obtain rfl := Option.some.inj h
    exact .timeLimit (Option.filter_eq_some_iff.mp overdue).1
  · dsimp only at h
    split at h
    · obtain rfl := Option.some.inj h
      exact .cancelled
    · cases h

theorem Ends.follows {outcome : Except WorkflowError (Option String)}
    (h : Ends engine step (engine.openRecord step (engine.barrier w r).2) outcome r')
    (found : w.step? id = some step) (hr : r.execution.status = .running)
    (hf : w.Follows engine r.execution.steps) (ha : w.Awaits engine r.execution.steps id) :
    ∃ record, r'.execution.steps = r.execution.steps ++ [record] ∧
      r'.execution.status = .running ∧ w.Follows engine r'.execution.steps ∧
      w.step? record.stepId = some step ∧
      ∃ context context' ending, Concluded engine step context ending outcome record context' := by
  have hb := barrier_execution engine w r
  obtain ⟨ending, record, hc⟩ := h.concludes_openRecord (hb ▸ hr)
  have hsteps := hc.steps
  rw [hb] at hsteps
  have hid : record.stepId = id := hc.stepId.trans (step?_eq_some found).2
  subst hid
  refine ⟨record, hsteps, hc.status, ?_, found, _, _, _, hc.concluded⟩
  rw [hsteps]
  exact hf.append found ha

theorem Walks.stops {outcome : Except WorkflowError Unit} (h : Walks engine w left id r outcome r')
    (hr : r.execution.status = .running) (hf : w.Follows engine r.execution.steps)
    (ha : w.Awaits engine r.execution.steps id) :
    w.Follows engine r'.execution.steps ∧ w.Stops engine outcome r'.execution.steps := by
  -- The invariant is that the records so far await the step that comes next.
  induction h with
  | limit => exact ⟨hf, .barred ha .stepLimit⟩
  | barred bar =>
    rw [barrier_execution]
    exact ⟨hf, .barred ha (barrier_bars bar _)⟩
  | missing _ undeclared =>
    rw [barrier_execution]
    exact ⟨hf, .barred ha (.missing undeclared)⟩
  | stopped _ found ends =>
    obtain ⟨record, hsteps, -, hf', found', _, _, _, hc⟩ := ends.follows found hr hf ha
    obtain ⟨undecided, rejects⟩ := hc.undecided rfl
    rw [hsteps] at hf' ⊢
    exact ⟨hf', .undecided found' undecided rejects⟩
  | @finished _ _ step _ _ _ found ends =>
    obtain ⟨record, hsteps, -, hf', found', _, _, _, hc⟩ := ends.follows found hr hf ha
    rw [hsteps] at hf' ⊢
    exact ⟨hf', .finished ⟨step, found', hc.decides rfl⟩⟩
  | @hop _ _ _ step _ _ _ _ _ found ends _ ih =>
    obtain ⟨record, hsteps, hr', hf', found', _, _, _, hc⟩ := ends.follows found hr hf ha
    refine ih hr' hf' ?_
    rw [hsteps, awaits_concat]
    exact ⟨step, found', hc.decides rfl⟩

end Engine

/-! ## The end of a run -/

namespace Execution

/-- The records of a run follow the decisions of its steps. The run is completed if the last step
decides that there is no next one. If a next step is decided, the error says what bars the way to
it. A failure with an edge ends the run only if no attempt was made. -/
structure Guided (engine : Engine σ) (w : Workflow) (e : Execution) : Prop where
  follows : w.Follows engine e.steps
  completed : e.status = .completed ↔
    ∃ last, e.steps.getLast? = some last ∧ w.Decided engine last none
  barred : ∀ next, w.Awaits engine e.steps next →
    ∃ error, e.error = some (.ofError error) ∧ w.Bars next error
  failed : ∀ last step target, e.steps.getLast? = some last → w.step? last.stepId = some step →
    last.status = .failed → step.onFailure = some target →
    ∃ error, e.error = some (.ofError error) ∧
      (engine.Accepts step last.input ∧ w.Bars target error ∨
        engine.Rejects step last.input error)

end Execution

namespace Workflow

variable {engine : Engine σ} {w : Workflow} {steps : List StepRecord}
  {outcome : Except WorkflowError Unit}

theorem Stops.eq_ok_iff (h : w.Stops engine outcome steps) :
    outcome = .ok () ↔ ∃ last, steps.getLast? = some last ∧ w.Decided engine last none := by
  cases h with
  | finished decided => exact iff_of_true rfl ⟨_, List.getLast?_concat, decided⟩
  | undecided found undecided =>
    refine iff_of_false nofun ?_
    rintro ⟨last, hlast, step, found', decides⟩
    rw [List.getLast?_concat] at hlast
    obtain rfl := Option.some.inj hlast
    obtain rfl := Option.some.inj (found.symm.trans found')
    exact undecided _ decides
  | barred awaits =>
    refine iff_of_false nofun ?_
    rintro ⟨last, hlast, decided⟩
    rw [Awaits, hlast] at awaits
    exact nomatch awaits.unique decided

theorem Stops.bars (h : w.Stops engine outcome steps) {next : String}
    (ha : w.Awaits engine steps next) : ∃ error, outcome = .error error ∧ w.Bars next error := by
  cases h with
  | finished decided =>
    rw [awaits_concat] at ha
    exact nomatch ha.unique decided
  | undecided found undecided =>
    obtain ⟨step, found', decides⟩ := awaits_concat.mp ha
    obtain rfl := Option.some.inj (found.symm.trans found')
    exact absurd decides (undecided _)
  | barred awaits bars =>
    rw [ha.unique awaits]
    exact ⟨_, rfl, bars⟩

theorem Stops.failed (h : w.Stops engine outcome steps) {last : StepRecord} {step : Step}
    {target : String} (hlast : steps.getLast? = some last) (found : w.step? last.stepId = some step)
    (status : last.status = .failed) (edge : step.onFailure = some target) :
    ∃ error, outcome = .error error ∧ (engine.Accepts step last.input ∧ w.Bars target error ∨
      engine.Rejects step last.input error) := by
  -- A failure with accepted params has decided on the edge, so only a bar can have ended the run.
  by_cases accepts : engine.Accepts step last.input
  · have ha : w.Awaits engine steps target := by
      rw [Awaits, hlast]
      exact ⟨step, found, .failed status accepts edge⟩
    obtain ⟨error, houtcome, bars⟩ := h.bars ha
    exact ⟨error, houtcome, Or.inl ⟨accepts, bars⟩⟩
  · cases h with
    | finished decided =>
      obtain ⟨_, _, decides⟩ := decided
      rw [List.getLast?_concat] at hlast
      obtain rfl := Option.some.inj hlast
      exact nomatch status.symm.trans decides.completed_of_none
    | @undecided _ last' _ _ found' _ rejects =>
      rw [List.getLast?_concat] at hlast
      obtain rfl := Option.some.inj hlast
      obtain rfl := Option.some.inj (found.symm.trans found')
      rcases rejects status with none | rejects
      · exact nomatch edge.symm.trans none
      · exact ⟨_, rfl, Or.inr rejects⟩
    | barred awaits =>
      rw [Awaits, hlast] at awaits
      obtain ⟨step', found', decides⟩ := awaits
      obtain rfl := Option.some.inj (found.symm.trans found')
      exact absurd (decides.accepts status) accepts

end Workflow

namespace Engine

open Execution

variable {engine : Engine σ} {w : Workflow} {r : Run σ} {left : Nat}

theorem finish_outcome (engine : Engine σ) (ht : r.execution.Tallied w left)
    (outcome : Except WorkflowError Unit) :
    (engine.finish outcome r).execution.steps = r.execution.steps ∧
      ((engine.finish outcome r).execution.status = .completed ↔ outcome = .ok ()) ∧
      ∀ error, outcome = .error error →
        (engine.finish outcome r).execution.error = some (.ofError error) := by
  refine ⟨finish_steps engine outcome r, ?_⟩
  cases outcome with
  | ok =>
    refine ⟨iff_of_true ?_ rfl, nofun⟩
    exact (congrArg Execution.status (complete_of_running ht.status (engine.now r.world)))
  | error error =>
    refine ⟨iff_of_false ?_ nofun, fun error' he => ?_⟩
    · have hs := congrArg Execution.status (fail_of_running ht.status error (engine.now r.world))
      exact fun h => ExecutionStatus.ofError_ne_completed error (hs.symm.trans h)
    · rw [← Except.error.inj he]
      exact fail_error ht.status error (engine.now r.world)

theorem finish_guided {outcome : Except WorkflowError Unit} (ht : r.execution.Tallied w left)
    (hf : w.Follows engine r.execution.steps) (hs : w.Stops engine outcome r.execution.steps) :
    (engine.finish outcome r).execution.Guided engine w := by
  obtain ⟨hsteps, hstatus, herror⟩ := finish_outcome engine ht outcome
  rw [← hsteps] at hf hs
  refine ⟨hf, hstatus.trans hs.eq_ok_iff, fun next ha => ?_, ?_⟩
  · obtain ⟨error, houtcome, bars⟩ := hs.bars ha
    exact ⟨error, herror error houtcome, bars⟩
  · intro last step target hlast found status edge
    obtain ⟨error, houtcome, h⟩ := hs.failed hlast found status edge
    exact ⟨error, herror error houtcome, h⟩

theorem Executes.guided {request : Request} {clock : Clock} {world : σ}
    (h : Executes engine w request clock world r) (valid : w.validate.valid = true) :
    r.execution.Guided engine w := by
  have ht := begin_tallied engine w request clock world w.validate
  cases h with
  | refused invalid => exact nomatch invalid.symm.trans valid
  | walked _ walks =>
    have hempty := begin_steps engine w request clock world w.validate
    have hf : w.Follows engine (engine.begin w request clock world w.validate).execution.steps := by
      rw [hempty]
      exact .nil
    have ha : w.Awaits engine (engine.begin w request clock world w.validate).execution.steps
        w.entryStepId := by
      rw [hempty]
      rfl
    have hs : Settled (engine.begin w request clock world w.validate).execution.steps := by
      rw [hempty]
      exact fun _ h => absurd h List.not_mem_nil
    obtain ⟨hf', hstops⟩ := walks.stops ht.status hf ha
    obtain ⟨⟨_, ht'⟩, -⟩ := walks.halts ht hs
    exact finish_guided ht' hf' hstops

/-- The outcomes of its steps guide every run of a valid workflow. -/
theorem execute_guided (engine : Engine σ) (w : Workflow) (request : Request) (clock : Clock)
    (world : σ) (valid : w.validate.valid = true) :
    (engine.execute w request clock world).execution.Guided engine w :=
  (executes_execute engine w request clock world).guided valid

/-! ## A check that misleads -/

/-- Names a step of its own choice, whatever the workflow says. -/
def misleading : Handler Unit where
  validate _ := .ok ()
  schema := { fields := [] }
  execute _ _ world := (.now (.succeeded (Conditional.output true (some "elsewhere")) {}), world)

def misled : Engine Unit where
  registry := Registry.empty.register conditionalType misleading
  now _ := Timestamp.ofUnixNanos 0
  elapsedNanos _ := 0

theorem execute_guided_misled :
    branching.validate.valid = true ∧
      (misled.execute branching ⟨"run", "tenant", .null⟩ {} ()).execution.Guided misled
        branching := by
  have valid : branching.validate.valid = true :=
    Workflow.valid_iff_findings_eq_nil.mpr (Workflow.findings_eq_nil_iff.mpr branching_sound)
  exact ⟨valid, execute_guided misled branching ⟨"run", "tenant", .null⟩ {} () valid⟩

end Engine

end Stepwise
