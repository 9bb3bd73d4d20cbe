import Stepwise.Proofs.Run.Retries
import Stepwise.Proofs.Run.Trials

/-! # Runs that a step ends -/

namespace Stepwise

/-- What the handler reports of an attempt that it fails. -/
def Task.reported {σ : Type} (task : Task σ) (r : Run σ) : StepError :=
  (task.reply r).value.errorOrDefault

namespace Engine

variable {σ : Type} {engine : Engine σ} {w : Workflow} {request : Request} {clock : Clock}
  {world : σ} {task : Task σ} {left count : Nat} {r r' last : Run σ} {result : StepResult}
  {p : Point σ}

/-- The run comes to an attempt that fails. No other attempt follows, and no edge leads on. -/
structure FailsFor (engine : Engine σ) (w : Workflow) (request : Request) (clock : Clock)
    (world : σ) (task : Task σ) (left count : Nat) (r r' : Run σ) (result : StepResult) :
    Prop where
  reaches : engine.Reaches w request clock world (.attempt task left count r)
  made : engine.attempt task.step task.handler task.params count r = (some result, r')
  failure : result.success = false
  final : left = 0 ∨ result.errorOrDefault.recoverable = false
  edge : task.step.onFailure = none

/-! ## The last point -/

theorem FailsFor.next (h : engine.FailsFor w request clock world task left count r r' result) :
    engine.next w (.attempt task left count r) =
      .ended (.error (engine.stepFailure task.step result.errorOrDefault))
        (engine.failStep task.step result.errorOrDefault r') := by
  rw [Engine.next, h.made]
  dsimp only
  rw [if_neg (Bool.eq_false_iff.mp h.failure), if_pos h.final, settle, h.edge]
  rfl

theorem FailsFor.stopped (h : engine.FailsFor w request clock world task left count r r' result) :
    let final := (engine.execute w request clock world).execution
    final.status = .failed ∧
      final.error = some (.ofError (engine.stepFailure task.step result.errorOrDefault)) := by
  obtain ⟨heq, hrunning⟩ := h.reaches.execute_eq h.next
  have hstopped := finish_stopped engine hrunning
    (engine.stepFailure task.step result.errorOrDefault)
  rw [← heq] at hstopped
  refine ⟨hstopped.status.trans ?_, hstopped.error⟩
  unfold stepFailure
  split <;> rfl

theorem proceed_error {onward : Nat} {ended : Except WorkflowError (Option String)}
    {e : WorkflowError} (h : proceed onward ended r = .ended (.error e) last) :
    ended = .error e := by
  unfold proceed at h
  split at h
  · rw [Except.error.inj (Progress.ended.inj h).1]
  · cases h
  · cases h

theorem settle_error {ending : StepEnd} {e : WorkflowError}
    (h : engine.settle task ending r = .ended (.error e) last) :
    e = .cancelled ∨ (∃ error, ending = .failed error) ∧ task.step.onFailure = none := by
  cases ending with
  | completed result => cases proceed_error h
  | cancelled => exact Or.inl (Except.error.inj (Progress.ended.inj h).1).symm
  | failed error =>
    rw [settle] at h
    split at h
    · cases proceed_error h
    · rename_i edge
      exact Or.inr ⟨⟨error, rfl⟩, edge⟩

/-- The codes of runs that a failed step ends. -/
def blameCodes : List String := ["STEP_FAILED", "STEP_TIMEOUT"]

theorem enter_error {step : Step} {onward : Nat} {e : WorkflowError}
    (h : engine.enter onward step r = .ended (.error e) last) : e.code ∉ blameCodes := by
  unfold enter at h
  split at h
  · rw [← Except.error.inj (proceed_error h)]
    simp [WorkflowError.code, blameCodes]
  · split at h
    · rw [← Except.error.inj (proceed_error h)]
      simp [WorkflowError.code, blameCodes]
    · cases h

theorem next_boundary_error {id : String} {e : WorkflowError}
    (h : engine.next w (.boundary left id r) = .ended (.error e) last) : e.code ∉ blameCodes := by
  cases left with
  | zero =>
    rw [← Except.error.inj (Progress.ended.inj h).1]
    simp [WorkflowError.code, blameCodes]
  | succ left =>
    cases hbar : (engine.barrier w r).1 with
    | some bar =>
      rw [next_of_barred hbar] at h
      rw [← Except.error.inj (Progress.ended.inj h).1]
      rcases barrier_error hbar with rfl | ⟨limit, rfl⟩ <;>
        simp [WorkflowError.code, blameCodes]
    | none =>
      rw [next_of_clear hbar] at h
      split at h
      · rw [← Except.error.inj (Progress.ended.inj h).1]
        simp [WorkflowError.code, blameCodes]
      · exact enter_error h

/-- Only after an attempt that fails for good does a run end with these codes. -/
theorem next_blames {e : WorkflowError} (h : engine.next w p = .ended (.error e) last)
    (hcode : e.code ∈ blameCodes) :
    ∃ task left count r r' result, p = .attempt task left count r ∧
      engine.attempt task.step task.handler task.params count r = (some result, r') ∧
      result.success = false ∧ (left = 0 ∨ result.errorOrDefault.recoverable = false) ∧
      task.step.onFailure = none := by
  have hcancelled : e ≠ .cancelled := by
    rintro rfl
    simp [WorkflowError.code, blameCodes] at hcode
  have hfailed {task : Task σ} {ending : StepEnd} {r : Run σ}
      (h : engine.settle task ending r = .ended (.error e) last) :
      (∃ error, ending = .failed error) ∧ task.step.onFailure = none :=
    (settle_error h).resolve_left hcancelled
  cases p with
  | boundary left id r => exact absurd hcode (next_boundary_error h)
  | attempt task left count r =>
    rw [Engine.next] at h
    split at h
    · obtain ⟨_, hending⟩ := (hfailed h).1
      cases hending
    · rename_i result r' made
      split at h
      · obtain ⟨_, hending⟩ := (hfailed h).1
        cases hending
      · rename_i failure
        split at h
        · rename_i final
          exact ⟨task, left, count, r, r', result, rfl, made, Bool.eq_false_iff.mpr failure, final,
            (hfailed h).2⟩
        · cases h
  | rest task left count error r =>
    rw [Engine.next] at h
    split at h
    · obtain ⟨_, hending⟩ := (hfailed h).1
      cases hending
    · cases h

theorem exists_failsFor {e : ExecutionError}
    (h : (engine.execute w request clock world).execution.error = some e)
    (hcode : e.code ∈ blameCodes) :
    ∃ task left count r r' result,
      engine.FailsFor w request clock world task left count r r' result := by
  have hexecutes := executes_execute engine w request clock world
  have hended := hexecutes.wellEnded
  generalize hfinal : engine.execute w request clock world = final at h hexecutes hended
  cases hexecutes with
  | refused invalid =>
    rw [(finish_stopped engine rfl _).error] at h
    rw [← Option.some.inj h] at hcode
    simp [ExecutionError.ofError, refusal, WorkflowError.code, blameCodes] at hcode
  | @walked outcome last valid walks =>
    have hyields := walks.yields
    have hrunning := hyields.running rfl
    obtain ⟨q, hleads, hlast⟩ := hyields.exists_last rfl
    cases outcome with
    | ok =>
      have hcompleted : (engine.finish (.ok ()) last).execution.status = .completed :=
        congrArg Execution.status (Execution.complete_of_running hrunning (engine.now last.world))
      rw [hended.error.mpr hcompleted] at h
      cases h
    | error error =>
      rw [(finish_stopped engine hrunning error).error] at h
      obtain rfl := Option.some.inj h
      obtain ⟨task, left, count, r, r', result, rfl, made, failure, final, edge⟩ :=
        next_blames hlast hcode
      exact ⟨task, left, count, r, r', result, ⟨valid, hleads⟩, made, failure, final, edge⟩

/-! ## What the error says -/

/-- The attempt goes on beyond its timeout. -/
def CutsOff (engine : Engine σ) (task : Task σ) (r : Run σ) : Prop :=
  (engine.timeoutMs task.step).toNat < (task.reply r).waitMs

/-- What the error of a run says of the last attempt of the step that ended it. -/
structure Attributed (engine : Engine σ) (task : Task σ) (r : Run σ) (e : ExecutionError) :
    Prop where
  stepId : e.stepId = some task.step.id
  /-- A timeout is blamed if there was one, and if the handler says that there was one. -/
  timeout : e.code = "STEP_TIMEOUT" ↔
    engine.CutsOff task r ∨ (task.reported r).code = "STEP_TIMEOUT"
  /-- Then the error does not have the message of the handler. -/
  unheard : e.code = "STEP_TIMEOUT" →
    e.message = s!"Timeout in step '{task.step.id}' after {engine.timeoutMs task.step}ms"
  /-- Else the handler is blamed, with its own message. -/
  reported : e.code ≠ "STEP_TIMEOUT" → e.code = "STEP_FAILED" ∧
    e.message = s!"Step execution failed in '{task.step.id}': " ++ (task.reported r).message

theorem attributed_stepTimeout
    (h : engine.CutsOff task r ∨ (task.reported r).code = "STEP_TIMEOUT") :
    engine.Attributed task r
      (.ofError (.stepTimeout task.step.id (engine.timeoutMs task.step))) where
  stepId := rfl
  timeout := iff_of_true rfl h
  unheard _ := rfl
  reported hne := absurd rfl hne

theorem attributed_stepExecution
    (h : ¬ (engine.CutsOff task r ∨ (task.reported r).code = "STEP_TIMEOUT")) :
    engine.Attributed task r
      (.ofError (.stepExecution task.step.id (task.reported r).code (task.reported r).message)) where
  stepId := rfl
  timeout := iff_of_false (by simp [ExecutionError.ofError, WorkflowError.code]) h
  unheard hcode := by simp [ExecutionError.ofError, WorkflowError.code] at hcode
  reported _ := ⟨rfl, rfl⟩

theorem FailsFor.attributed
    (h : engine.FailsFor w request clock world task left count r r' result) :
    engine.Attributed task r
      (.ofError (engine.stepFailure task.step result.errorOrDefault)) := by
  obtain ⟨hresult, -⟩ := ends_of_attempt h.made
  by_cases hcut : engine.CutsOff task r
  · have herror : result.errorOrDefault =
        timeoutError count (engine.timeoutMs task.step).toNat :=
      congrArg StepResult.errorOrDefault (hresult.trans (if_pos hcut))
    have hcode : result.errorOrDefault.code = stepTimeoutCode := congrArg StepError.code herror
    rw [stepFailure, if_pos hcode]
    exact attributed_stepTimeout (Or.inl hcut)
  · have herror : result.errorOrDefault = task.reported r :=
      congrArg StepResult.errorOrDefault (hresult.trans (if_neg hcut))
    rw [herror, stepFailure]
    split
    · rename_i hcode
      exact attributed_stepTimeout (Or.inr hcode)
    · rename_i hcode
      exact attributed_stepExecution (not_or.mpr ⟨hcut, hcode⟩)

/-- A step that fails for good ends the run with the code of a timeout, or with the message of its
handler. No run has these codes that ends otherwise. -/
theorem execute_blames (engine : Engine σ) (w : Workflow) (request : Request) (clock : Clock)
    (world : σ) :
    let final := (engine.execute w request clock world).execution
    (∀ {task left count r r' result},
      engine.FailsFor w request clock world task left count r r' result →
        final.status = .failed ∧ ∃ e, final.error = some e ∧ engine.Attributed task r e) ∧
      ∀ e, final.error = some e → e.code = "STEP_FAILED" ∨ e.code = "STEP_TIMEOUT" →
        ∃ task left count r r' result,
          engine.FailsFor w request clock world task left count r r' result ∧
            engine.Attributed task r e := by
  intro final
  refine ⟨fun h => ⟨h.stopped.1, _, h.stopped.2, h.attributed⟩, fun e he hcode => ?_⟩
  obtain ⟨task, left, count, r, r', result, h⟩ :=
    exists_failsFor he (by simpa [blameCodes] using hcode)
  refine ⟨task, left, count, r, r', result, h, ?_⟩
  rw [Option.some.inj (he.symm.trans h.stopped.2)]
  exact h.attributed

/-! ## A handler that reports a timeout -/

/-- Answers at once that it has given up. -/
def givingUp : Handler Unit where
  validate _ := .ok ()
  schema := { fields := [] }
  execute _ _ world := (.now (.failed (.fatal stepTimeoutCode "upstream gave up") {}), world)

def hasty : Engine Unit where
  registry := Registry.empty.register "ask" givingUp
  now _ := Timestamp.ofUnixNanos 0
  elapsedNanos _ := 0

theorem failsFor_givingUp : ∃ task r r',
    hasty.FailsFor insisting ⟨"run", "tenant", .null⟩ {} () task 2 1 r r'
        (.failed (.fatal stepTimeoutCode "upstream gave up") {}) ∧
      (task.reply r).waitMs = 0 ∧
      task.reported r = .fatal stepTimeoutCode "upstream gave up" ∧
      task.step.id = "ask" ∧ hasty.timeoutMs task.step = 60000 :=
  ⟨_, _, _, ⟨⟨insisting_valid, .single rfl⟩, rfl, rfl, Or.inr rfl, rfl⟩, rfl, rfl, rfl, rfl⟩

theorem execute_blames_givingUp : ∃ task r r',
    hasty.FailsFor insisting ⟨"run", "tenant", .null⟩ {} () task 2 1 r r'
        (.failed (.fatal stepTimeoutCode "upstream gave up") {}) ∧
      ¬ hasty.CutsOff task r ∧ (task.reported r).message = "upstream gave up" ∧
      (hasty.execute insisting ⟨"run", "tenant", .null⟩ {} ()).execution.error =
        some ⟨"STEP_TIMEOUT", "Timeout in step 'ask' after 60000ms", some "ask"⟩ := by
  obtain ⟨task, r, r', h, hatonce, hreported, hid, hms⟩ := failsFor_givingUp
  obtain ⟨-, ⟨code, message, stepId⟩, he, hblame⟩ :=
    (execute_blames hasty insisting ⟨"run", "tenant", .null⟩ {} ()).1 h
  have hcut : ¬ hasty.CutsOff task r := by
    rw [CutsOff, hatonce]
    exact Nat.not_lt_zero _
  have hmessage : (task.reported r).message = "upstream gave up" :=
    congrArg StepError.message hreported
  obtain rfl : code = "STEP_TIMEOUT" :=
    hblame.timeout.mpr (Or.inr (congrArg StepError.code hreported))
  obtain rfl : stepId = some task.step.id := hblame.stepId
  obtain rfl := hblame.unheard rfl
  refine ⟨task, r, r', h, hcut, hmessage, ?_⟩
  rw [he, hid, hms]
  rfl

end Engine

end Stepwise
