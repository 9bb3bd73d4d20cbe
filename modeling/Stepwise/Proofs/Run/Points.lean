import Mathlib.Logic.Relation
import Stepwise.Proofs.Run.Conclusion

/-!
# The points of a run

A run stands before a step, before an attempt of a step, or before the rest after one that failed.
-/

namespace Stepwise

open Relation

/-- A step that is being attempted. -/
structure Task (σ : Type) where
  step : Step
  handler : Handler σ
  params : Json
  started : Timestamp
  /-- How many steps may follow it. -/
  onward : Nat

/-- Where a run stands. -/
inductive Point (σ : Type) where
  /-- Before the step with this id, while at most `left` more may run. -/
  | boundary (left : Nat) (id : String) (r : Run σ)
  /-- Before an attempt, counted from one. `left` more may follow it. -/
  | attempt (task : Task σ) (left count : Nat) (r : Run σ)
  /-- Before the rest after an attempt that failed. `left` more may follow it. -/
  | rest (task : Task σ) (left count : Nat) (error : StepError) (r : Run σ)

def Point.run {σ : Type} : Point σ → Run σ
  | .boundary _ _ r => r
  | .attempt _ _ _ r => r
  | .rest _ _ _ _ r => r

/-- What comes after a point: another one, or the end of the run. -/
inductive Progress (σ : Type) where
  | reached (p : Point σ)
  | ended (outcome : Except WorkflowError Unit) (r : Run σ)

/-- The run goes on, and a step that is being attempted has the last record. -/
def Point.Sound {σ : Type} : Point σ → Prop
  | .boundary _ _ r => r.execution.status = .running
  | .attempt _ _ _ r => ∃ before record, r.execution.Open before record
  | .rest _ _ _ _ r => ∃ before record, r.execution.Open before record

def Progress.Sound {σ : Type} : Progress σ → Prop
  | .reached p => p.Sound
  | .ended _ r => r.execution.status = .running

namespace Engine

variable {σ : Type} (engine : Engine σ) (w : Workflow)

/-- Goes on as the end of a step says. -/
def proceed (left : Nat) : Except WorkflowError (Option String) → Run σ → Progress σ
  | .error e, r => .ended (.error e) r
  | .ok none, r => .ended (.ok ()) r
  | .ok (some id), r => .reached (.boundary left id r)

/-- Begins a step, up to its first attempt. `left` more steps may follow it. -/
def enter (left : Nat) (step : Step) (r : Run σ) : Progress σ :=
  match engine.registry.get? step.stepType with
  | none =>
    proceed left (.error (.handlerNotFound step.id step.stepType))
      (engine.failStep step (missingHandler step) (started step r))
  | some handler =>
    match handler.validate (valuesOf step r) with
    | .error e =>
      proceed left (.error (.invalidParams step.id e.message))
        (engine.failStep step e (prepared step r))
    | .ok () =>
      .reached (.attempt ⟨step, handler, valuesOf step r, engine.now r.world, left⟩
        ((step.retry.getD {}).attempts - 1) 1 (prepared step r))

/-- Closes the record of a step whose attempts have ended. -/
def settle (task : Task σ) (ending : StepEnd) (r : Run σ) : Progress σ :=
  match ending with
  | .completed result =>
    proceed task.onward (.ok (task.step.next? result.output))
      (engine.completeStep task.step task.started result r).2
  | .failed error =>
    match task.step.onFailure with
    | some target =>
      proceed task.onward (.ok (some target))
        { engine.failStep task.step error r with
          context := r.context.recordFailure task.step.id error.toJson }
    | none =>
      proceed task.onward (.error (engine.stepFailure task.step error))
        (engine.failStep task.step error r)
  | .cancelled =>
    proceed task.onward (.error .cancelled)
      (r.changeRecord (·.skip "Execution cancelled" (engine.now r.world)))

/-- Goes on from a point. -/
def next : Point σ → Progress σ
  | .boundary 0 _ r => .ended (.error (.stepLimitExceeded w.maxSteps)) r
  | .boundary (left + 1) id r =>
    match engine.barrier w r with
    | (some e, r) => .ended (.error e) r
    | (none, r) =>
      match w.step? id with
      | none => .ended (.error (.stepNotFound id)) r
      | some step => engine.enter left step (engine.openRecord step r)
  | .attempt task left count r =>
    match engine.attempt task.step task.handler task.params count r with
    | (none, r) => engine.settle task .cancelled r
    | (some result, r) =>
      if result.success then engine.settle task (.completed result) r
      else if left = 0 ∨ result.errorOrDefault.recoverable = false then
        engine.settle task (.failed result.errorOrDefault) r
      else .reached (.rest task (left - 1) count result.errorOrDefault r)
  | .rest task left count error r =>
    match backOff task.step count error r with
    | (true, r) => engine.settle task .cancelled r
    | (false, r) => .reached (.attempt task left (count + 1) r)

/-- Going on as long as there is a next point leads to this end. -/
inductive Yields : Progress σ → Except WorkflowError Unit → Run σ → Prop where
  | ended {outcome : Except WorkflowError Unit} {r : Run σ} : Yields (.ended outcome r) outcome r
  | reached {p : Point σ} {outcome : Except WorkflowError Unit} {r : Run σ}
      (more : Yields (engine.next w p) outcome r) : Yields (.reached p) outcome r

variable {engine} {w} {left count : Nat} {r r' last : Run σ} {task : Task σ} {ending : StepEnd}
  {outcome : Except WorkflowError Unit}

/-! ## Points and the run as a whole -/

theorem next_attempt_of_failure {result : StepResult}
    (made : engine.attempt task.step task.handler task.params count r = (some result, r'))
    (failure : result.success = false) (recoverable : result.errorOrDefault.recoverable = true) :
    engine.next w (.attempt task (left + 1) count r) =
      .reached (.rest task left count result.errorOrDefault r') := by
  rw [next, made]
  simp only [failure, recoverable, Bool.false_eq_true, if_false, Nat.succ_ne_zero,
    Bool.true_eq_false, or_false, Nat.add_sub_cancel]

theorem next_rest_of_over {error : StepError}
    (rest : backOff task.step count error r = (false, r')) :
    engine.next w (.rest task left count error r) =
      .reached (.attempt task left (count + 1) r') := by
  rw [next, rest]

theorem Tries.yields
    (h : Tries engine task.step task.handler task.params left count r ending r')
    (hsettle : Yields engine w (engine.settle task ending r') outcome last) :
    Yields engine w (.reached (.attempt task left count r)) outcome last := by
  apply Yields.reached
  induction h with
  | cancelled made =>
    rw [next, made]
    exact hsettle
  | completed made success =>
    rw [next, made]
    simpa only [success, if_true] using hsettle
  | failed made failure final =>
    rw [next, made]
    simpa only [failure, Bool.false_eq_true, if_false, if_pos final] using hsettle
  | interrupted made failure recoverable rest =>
    rw [next_attempt_of_failure made failure recoverable]
    apply Yields.reached
    rw [next, rest]
    exact hsettle
  | again made failure recoverable rest more ih =>
    rw [next_attempt_of_failure made failure recoverable]
    apply Yields.reached
    rw [next_rest_of_over rest]
    exact .reached (ih hsettle)

theorem Ends.yields {step : Step} {ended : Except WorkflowError (Option String)}
    (h : Ends engine step r ended r')
    (hproceed : Yields engine w (proceed left ended r') outcome last) :
    Yields engine w (engine.enter left step r) outcome last := by
  unfold enter
  cases h with
  | unhandled missing =>
    rw [missing]
    exact hproceed
  | refused found refusal =>
    rw [found]
    dsimp only
    rw [refusal]
    exact hproceed
  | completed attempted | cancelled attempted =>
    obtain ⟨handler, found, accepted, tries⟩ := attempted
    rw [found]
    dsimp only
    rw [accepted]
    refine tries.yields ?_
    exact hproceed
  | rerouted attempted edge | failed attempted edge =>
    obtain ⟨handler, found, accepted, tries⟩ := attempted
    rw [found]
    dsimp only
    rw [accepted]
    refine tries.yields ?_
    rw [settle, edge]
    exact hproceed

theorem next_of_barred {id : String} {e : WorkflowError}
    (bar : (engine.barrier w r).1 = some e) :
    engine.next w (.boundary (left + 1) id r) = .ended (.error e) (engine.barrier w r).2 := by
  have hbarrier : engine.barrier w r = (some e, (engine.barrier w r).2) := Prod.ext bar rfl
  rw [next, hbarrier]

theorem next_of_clear {id : String} (clear : (engine.barrier w r).1 = none) :
    engine.next w (.boundary (left + 1) id r) =
      match w.step? id with
      | none => .ended (.error (.stepNotFound id)) (engine.barrier w r).2
      | some step => engine.enter left step (engine.openRecord step (engine.barrier w r).2) := by
  have hbarrier : engine.barrier w r = (none, (engine.barrier w r).2) := Prod.ext clear rfl
  rw [next, hbarrier]

theorem Walks.yields {id : String} (h : Walks engine w left id r outcome last) :
    Yields engine w (.reached (.boundary left id r)) outcome last := by
  apply Yields.reached
  induction h with
  | limit => exact .ended
  | barred bar =>
    rw [next_of_barred bar]
    exact .ended
  | missing clear missing =>
    rw [next_of_clear clear, missing]
    exact .ended
  | stopped clear found ends | finished clear found ends =>
    rw [next_of_clear clear, found]
    exact ends.yields .ended
  | hop clear found ends more ih =>
    rw [next_of_clear clear, found]
    exact ends.yields (.reached ih)

/-! ## Points that a run comes to -/

variable {p q : Point σ} {before : List StepRecord} {record : StepRecord}

/-- The first point of a run. -/
def start (engine : Engine σ) (w : Workflow) (request : Request) (clock : Clock) (world : σ) :
    Point σ :=
  .boundary w.maxSteps.toNat w.entryStepId (engine.begin w request clock world w.validate)

/-- Going on from one point leads to the other. -/
def Leads (engine : Engine σ) (w : Workflow) : Point σ → Point σ → Prop :=
  ReflTransGen fun p q => engine.next w p = .reached q

/-- The run comes to the point. With an invalid workflow it comes to none. -/
def Reaches (engine : Engine σ) (w : Workflow) (request : Request) (clock : Clock) (world : σ)
    (p : Point σ) : Prop :=
  w.validate.valid = true ∧ engine.Leads w (engine.start w request clock world) p

theorem Leads.yields (h : engine.Leads w p q) (hp : Yields engine w (.reached p) outcome last) :
    Yields engine w (.reached q) outcome last := by
  induction h with
  | refl => exact hp
  | tail _ hnext ih =>
    cases ih with
    | reached more => rwa [hnext] at more

theorem Yields.exists_last {g : Progress σ} (h : Yields engine w g outcome last)
    (hg : g = .reached p) :
    ∃ q, engine.Leads w p q ∧ engine.next w q = .ended outcome last := by
  induction h generalizing p with
  | ended => cases hg
  | @reached p' _ _ more ih =>
    obtain rfl := Progress.reached.inj hg
    cases hnext : engine.next w p' with
    | ended outcome' last' =>
      rw [hnext] at more
      cases more
      exact ⟨p', .refl, hnext⟩
    | reached p'' =>
      obtain ⟨q, hleads, hlast⟩ := ih hnext
      exact ⟨q, .head hnext hleads, hlast⟩

/-! ## The record at a point -/

theorem proceed_sound {ended : Except WorkflowError (Option String)}
    (h : r.execution.status = .running) : (proceed left ended r).Sound := by
  cases ended with
  | error e => exact h
  | ok next =>
    cases next with
    | none => exact h
    | some id => exact h

theorem settle_sound (engine : Engine σ) (task : Task σ) (ending : StepEnd)
    (ho : r.execution.Open before record) : (engine.settle task ending r).Sound := by
  cases ending with
  | completed result =>
    obtain ⟨_, hcloses, -⟩ := completeStep_documents engine task.step ho task.started result
    exact proceed_sound hcloses.status
  | failed error =>
    obtain ⟨_, hcloses, -⟩ := failStep_documents engine task.step ho error
    rw [settle]
    split <;> exact proceed_sound hcloses.status
  | cancelled =>
    obtain ⟨_, hcloses, -⟩ := skip_documents ho "Execution cancelled" (engine.now r.world)
    rw [settle]
    exact proceed_sound hcloses.status

theorem enter_sound (engine : Engine σ) (left : Nat) (step : Step)
    (ho : r.execution.Open before record) : (engine.enter left step r).Sound := by
  have hprepared := prepared_open step ho
  unfold enter
  split
  · obtain ⟨_, hcloses, -⟩ :=
      failStep_documents engine step (r := started step r) ho (missingHandler step)
    exact proceed_sound hcloses.status
  · split
    · obtain ⟨_, hcloses, -⟩ := failStep_documents engine step hprepared _
      exact proceed_sound hcloses.status
    · exact ⟨_, _, hprepared⟩

theorem attempt_opens {step : Step} {handler : Handler σ} {params : Json}
    {result : Option StepResult}
    (h : engine.attempt step handler params count r = (result, r'))
    (ho : r.execution.Open before record) :
    ∃ n, r'.execution.Open before { record with retryCount := n } := by
  obtain ⟨n, hn, -⟩ := attempt_execution h ho
  rw [hn]
  exact ⟨n, ho.withLast ho.running⟩

theorem next_sound (engine : Engine σ) (w : Workflow) (h : p.Sound) : (engine.next w p).Sound := by
  cases p with
  | boundary left id r =>
    cases left with
    | zero => exact h
    | succ left =>
      have hstatus : (engine.barrier w r).2.execution.status = .running := by
        rw [barrier_execution]
        exact h
      cases hbar : (engine.barrier w r).1 with
      | some e =>
        rw [next_of_barred hbar]
        exact hstatus
      | none =>
        rw [next_of_clear hbar]
        split
        · exact hstatus
        · apply enter_sound
          rw [openRecord_execution engine _ hstatus]
          exact ⟨hstatus, rfl, rfl⟩
  | attempt task left count r =>
    obtain ⟨before, record, ho⟩ := h
    rw [next]
    split
    · rename_i made
      obtain ⟨_, ho'⟩ := attempt_opens made ho
      exact settle_sound engine task .cancelled ho'
    · rename_i result _ made
      obtain ⟨_, ho'⟩ := attempt_opens made ho
      split
      · exact settle_sound engine task (.completed result) ho'
      · split
        · exact settle_sound engine task (.failed result.errorOrDefault) ho'
        · exact ⟨_, _, ho'⟩
  | rest task left count error r =>
    obtain ⟨before, record, ho⟩ := h
    rw [next]
    split
    · rename_i rest
      exact settle_sound engine task .cancelled (backOff_opens rest ho)
    · rename_i rest
      exact ⟨_, _, backOff_opens rest ho⟩

theorem Yields.running {g : Progress σ} (h : Yields engine w g outcome last) (hg : g.Sound) :
    last.execution.status = .running := by
  induction h with
  | ended => exact hg
  | reached more ih => exact ih (next_sound engine w hg)

theorem Leads.sound (h : engine.Leads w p q) (hp : p.Sound) : q.Sound := by
  induction h with
  | refl => exact hp
  | @tail p' q' _ hnext ih =>
    have hsound := next_sound engine w ih
    rw [hnext] at hsound
    exact hsound

/-! ## The end of a run -/

variable {request : Request} {clock : Clock} {world : σ}

theorem Reaches.sound (h : engine.Reaches w request clock world p) : p.Sound :=
  h.2.sound (p := engine.start w request clock world) rfl

/-- The run of a valid workflow ends where its points lead. -/
theorem yields_execute (engine : Engine σ) (w : Workflow) (request : Request) (clock : Clock)
    (world : σ) (hvalid : w.validate.valid = true) :
    ∃ outcome last, Yields engine w (.reached (engine.start w request clock world)) outcome last ∧
      engine.execute w request clock world = engine.finish outcome last := by
  have hexecutes := executes_execute engine w request clock world
  generalize engine.execute w request clock world = final at hexecutes
  cases hexecutes with
  | refused invalid => exact nomatch invalid.symm.trans hvalid
  | walked _ walks => exact ⟨_, _, walks.yields, rfl⟩

theorem Reaches.execute_eq (h : engine.Reaches w request clock world p)
    (hlast : engine.next w p = .ended outcome last) :
    engine.execute w request clock world = engine.finish outcome last ∧
      last.execution.status = .running := by
  obtain ⟨outcome', last', hyields, heq⟩ :=
    yields_execute engine w request clock world h.1
  have hp := h.2.yields hyields
  cases hp with
  | reached more =>
    rw [hlast] at more
    cases more
    have hsound := next_sound engine w h.sound
    rw [hlast] at hsound
    exact ⟨heq, hsound⟩

end Engine

end Stepwise
