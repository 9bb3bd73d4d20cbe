import Stepwise.Proofs.Run.Points

/-!
# What a run does

What everything that a run can do keeps, the run keeps.
-/

namespace Stepwise

open Relation

/-- The last record is open, and it is that of the step. -/
structure Execution.OpenFor (step : Step) (e : Execution) (before : List StepRecord)
    (record : StepRecord) : Prop extends e.Open before record where
  stepId : record.stepId = step.id
  stepType : record.stepType = step.stepType

theorem Execution.Open.changeMetrics {e : Execution} {before : List StepRecord}
    {record : StepRecord} (h : e.Open before record) (f : Metrics → Metrics) :
    e.changeMetrics f = e.withLast before record (f e.metrics) := by
  rw [Execution.changeMetrics, Execution.withLast, ← h.steps]

def Progress.run {σ : Type} : Progress σ → Run σ
  | .reached p => p.run
  | .ended _ r => r

namespace Engine

variable {σ : Type}

/-- One thing that a run does. -/
inductive Does (engine : Engine σ) (r r' : Run σ) : Prop where
  | nothing (execution : r'.execution = r.execution) (events : r'.events = r.events)
  | opens (step : Step) (now : Timestamp) (status : r.execution.status = .running)
      (execution : r'.execution = r.execution.withLast r.execution.steps (.start step now)
        { r.execution.metrics with stepsExecuted := r.execution.metrics.stepsExecuted + 1 })
      (events : r'.events = r.events ++ [.stepStarted step.id step.stepType])
  | edits {before : List StepRecord} {record : StepRecord} (input : Json) (retryCount : UInt32)
      (opened : r.execution.Open before record)
      (execution : r'.execution =
        r.execution.withLast before { record with input, retryCount } r.execution.metrics)
      (events : r'.events = r.events)
  | retries {before : List StepRecord} {record : StepRecord} (attempt maxAttempts delayMs : Nat)
      (error : StepError) (opened : r.execution.Open before record)
      (execution : r'.execution = r.execution.withLast before record
        { r.execution.metrics with retries := r.execution.metrics.retries + 1 })
      (events : r'.events =
        r.events ++ [.retrying record.stepId attempt maxAttempts delayMs error])
  | completes {before : List StepRecord} {record : StepRecord} {handler : Handler σ} {params : Json}
      {context : Context} {world : σ} {result : StepResult} (now : Timestamp) (durationMs : UInt64)
      (next : Option String) (opened : r.execution.Open before record)
      (found : engine.registry.get? record.stepType = some handler)
      (answer : (handler.execute params context world).1.value = result)
      (success : result.success = true)
      (execution : r'.execution = r.execution.withLast before
        { record.ended .completed now with
          output := some result.output, metadata := some { result.metadata with durationMs } }
        (r.execution.metrics.record { result.metadata with durationMs }))
      (events : r'.events = r.events ++ [.stepCompleted record.stepId durationMs next])
  | fails {before : List StepRecord} {record : StepRecord} (error : StepError) (now : Timestamp)
      (opened : r.execution.Open before record)
      (execution : r'.execution = r.execution.withLast before
        { record.ended .failed now with
          error := some error.message, errorCode := some error.code }
        { r.execution.metrics with stepsFailed := r.execution.metrics.stepsFailed + 1 })
      (events : r'.events = r.events ++ [.stepFailed record.stepId error])
  | skips {before : List StepRecord} {record : StepRecord} (reason : String) (now : Timestamp)
      (opened : r.execution.Open before record)
      (execution : r'.execution = r.execution.withLast before
        { record.ended .skipped now with error := some reason } r.execution.metrics)
      (events : r'.events = r.events)

/-- A step that is being attempted has the open record, and its handler is the registered one. -/
def Attending (engine : Engine σ) (task : Task σ) (r : Run σ) : Prop :=
  engine.registry.get? task.step.stepType = some task.handler ∧
    ∃ before record, r.execution.OpenFor task.step before record

def Placed (engine : Engine σ) : Point σ → Prop
  | .boundary _ _ _ => True
  | .attempt task _ _ r => engine.Attending task r
  | .rest task _ _ _ r => engine.Attending task r

def GoesOn (engine : Engine σ) : Progress σ → Prop
  | .reached p => engine.Placed p
  | .ended _ _ => True

/-- What a run has done from here on leads to the progress, and the run can go on from it. -/
def Arrives (engine : Engine σ) (r : Run σ) (g : Progress σ) : Prop :=
  ReflTransGen engine.Does r g.run ∧ engine.GoesOn g

variable {engine : Engine σ} {w : Workflow} {step : Step} {handler : Handler σ} {params : Json}
  {task : Task σ} {left count : Nat} {r r' : Run σ} {g : Progress σ} {p q : Point σ}
  {before : List StepRecord} {record : StepRecord}

/-! ## Events -/

theorem barrier_events (engine : Engine σ) (w : Workflow) (r : Run σ) :
    (engine.barrier w r).2.events = r.events := by
  unfold barrier
  dsimp only
  split <;> rfl

theorem attempt_events {result : Option StepResult}
    (h : engine.attempt step handler params count r = (result, r')) : r'.events = r.events := by
  have hr : r' = (engine.attempt step handler params count r).2 := by rw [h]
  rw [hr]
  unfold attempt
  split
  · rfl
  · dsimp only
    split <;> rfl

theorem backOff_events {error : StepError} {stop : Bool}
    (h : backOff step count error r = (stop, r')) :
    ∃ maxAttempts delayMs,
      r'.events = r.events ++ [.retrying step.id count maxAttempts delayMs error] := by
  rw [← (Prod.mk.inj h).2]
  exact ⟨_, _, rfl⟩

/-! ## From one point to the next -/

theorem Arrives.after {middle : Run σ} (hd : engine.Does r middle) (h : engine.Arrives middle g) :
    engine.Arrives r g :=
  ⟨.head hd h.1, h.2⟩

theorem arrives_proceed {outcome : Except WorkflowError (Option String)}
    (hdone : ReflTransGen engine.Does r r') : engine.Arrives r (proceed left outcome r') := by
  match outcome with
  | .error e => exact ⟨hdone, trivial⟩
  | .ok none => exact ⟨hdone, trivial⟩
  | .ok (some id) => exact ⟨hdone, trivial⟩

theorem failStep_does (engine : Engine σ) (ho : r.execution.OpenFor step before record)
    (error : StepError) : engine.Does r (engine.failStep step error r) := by
  refine .fails error _ ho.toOpen (failStep_execution engine step ho.toOpen error) ?_
  rw [ho.stepId]
  rfl

/-! The attempts of a step end, and so does its record. -/

theorem arrives_completed {context : Context} {world : σ} {result : StepResult}
    (h : engine.Attending task r)
    (answer : (task.handler.execute params context world).1.value = result)
    (success : result.success = true) :
    engine.Arrives r (engine.settle task (.completed result) r) := by
  obtain ⟨found, before, record, ho⟩ := h
  have hexecution : (engine.completeStep task.step task.started result r).2.execution = _ :=
    completeStep_execution ho.toOpen task.started result
  refine arrives_proceed (.single ?_)
  refine .completes _ _ (task.step.next? result.output) ho.toOpen (ho.stepType ▸ found) answer
    success hexecution ?_
  rw [ho.stepId]
  rfl

theorem arrives_failed (h : engine.Attending task r) (error : StepError) :
    engine.Arrives r (engine.settle task (.failed error) r) := by
  obtain ⟨-, before, record, ho⟩ := h
  have hfails := failStep_does engine ho error
  rw [settle]
  split
  · -- the note of the failure in the context shows neither in the record nor in the events
    exact arrives_proceed (.tail (.single hfails) (.nothing rfl rfl))
  · exact arrives_proceed (.single hfails)

theorem arrives_cancelled (h : engine.Attending task r) :
    engine.Arrives r (engine.settle task .cancelled r) := by
  obtain ⟨-, before, record, ho⟩ := h
  have hexecution :
      (r.changeRecord (·.skip "Execution cancelled" (engine.now r.world))).execution =
        r.execution.withLast before
          { record.ended .skipped (engine.now r.world) with error := some "Execution cancelled" }
          r.execution.metrics := by
    rw [Run.changeRecord_execution, ho.changeCurrent, StepRecord.skip_of_running ho.running]
  rw [settle]
  exact arrives_proceed (.single (.skips _ _ ho.toOpen hexecution rfl))

theorem arrives_enter (hs : r.execution.status = .running) :
    engine.Arrives r (engine.enter left step (engine.openRecord step r)) := by
  -- the record is opened before the start is told, and between the two the run does not stop
  have hexecution := openRecord_execution engine step hs
  generalize hr' : engine.openRecord step r = r' at hexecution
  have hevents : r'.events = r.events := by
    rw [← hr']
    rfl
  have ho : r'.execution.OpenFor step r.execution.steps (.start step (engine.now r.world)) := by
    rw [hexecution]
    exact ⟨⟨hs, rfl, rfl⟩, rfl, rfl⟩
  have hopens : engine.Does r (started step r') := by
    refine .opens step _ hs hexecution ?_
    rw [← hevents]
    rfl
  have hedits : engine.Does (started step r') (prepared step r') :=
    .edits _ _ (r := started step r') ho.toOpen (prepared_execution step ho.toOpen) rfl
  have hprepared : (prepared step r').execution.OpenFor step r.execution.steps
      ((StepRecord.start step (engine.now r.world)).setInput (valuesOf step r')) :=
    ⟨prepared_open step ho.toOpen, rfl, rfl⟩
  have hdone : ReflTransGen engine.Does r (prepared step r') := .tail (.single hopens) hedits
  unfold enter
  split
  · have hfails := failStep_does engine (r := started step r') ho (missingHandler step)
    exact arrives_proceed (.tail (.single hopens) hfails)
  · rename_i found
    split
    · rename_i error _
      exact arrives_proceed (hdone.tail (failStep_does engine hprepared error))
    · exact ⟨hdone, found, _, _, hprepared⟩

theorem attempt_attends {result : Option StepResult}
    (h : engine.attempt task.step task.handler task.params count r = (result, r'))
    (ha : engine.Attending task r) : engine.Does r r' ∧ engine.Attending task r' := by
  obtain ⟨found, before, record, ho⟩ := ha
  obtain ⟨n, hexecution, -⟩ := attempt_execution h ho.toOpen
  refine ⟨.edits record.input n ho.toOpen hexecution (attempt_events h), found, before,
    { record with retryCount := n }, ?_⟩
  rw [hexecution]
  exact ⟨ho.toOpen.withLast ho.running, ho.stepId, ho.stepType⟩

theorem backOff_attends {error : StepError} {stop : Bool}
    (h : backOff task.step count error r = (stop, r')) (ha : engine.Attending task r) :
    engine.Does r r' ∧ engine.Attending task r' := by
  obtain ⟨found, before, record, ho⟩ := ha
  obtain ⟨maxAttempts, delayMs, hevents⟩ := backOff_events h
  rw [← ho.stepId] at hevents
  have hexecution := (backOff_execution h).trans (ho.toOpen.changeMetrics _)
  exact ⟨.retries count maxAttempts delayMs error ho.toOpen hexecution hevents, found,
    before, record, backOff_opens h ho.toOpen, ho.stepId, ho.stepType⟩

theorem next_arrives (h : engine.Placed p) (hs : p.Sound) :
    engine.Arrives p.run (engine.next w p) := by
  cases p with
  | boundary left id r =>
    cases left with
    | zero => exact ⟨.refl, trivial⟩
    | succ left =>
      have hexecution := barrier_execution engine w r
      have hbarrier : engine.Does r (engine.barrier w r).2 :=
        .nothing hexecution (barrier_events engine w r)
      cases hbar : (engine.barrier w r).1 with
      | some e =>
        rw [next_of_barred hbar]
        exact ⟨.single hbarrier, trivial⟩
      | none =>
        rw [next_of_clear hbar]
        split
        · exact ⟨.single hbarrier, trivial⟩
        · refine .after hbarrier (arrives_enter ?_)
          rw [hexecution]
          exact hs
  | attempt task left count r =>
    rw [next]
    split
    · rename_i made
      obtain ⟨hd, ha⟩ := attempt_attends made h
      exact .after hd (arrives_cancelled ha)
    · rename_i result _ made
      obtain ⟨hd, ha⟩ := attempt_attends made h
      split
      · rename_i success
        obtain ⟨world, answer⟩ := attempt_success made success
        exact .after hd (arrives_completed ha answer success)
      · split
        · exact .after hd (arrives_failed ha _)
        · exact ⟨.single hd, ha⟩
  | rest task left count error r =>
    rw [next]
    split
    · rename_i rest
      obtain ⟨hd, ha⟩ := backOff_attends rest h
      exact .after hd (arrives_cancelled ha)
    · rename_i rest
      obtain ⟨hd, ha⟩ := backOff_attends rest h
      exact ⟨.single hd, ha⟩

/-! ## From the beginning of a run -/

theorem Leads.does (h : engine.Leads w p q) (hp : engine.Placed p) (hs : p.Sound) :
    ReflTransGen engine.Does p.run q.run ∧ engine.Placed q := by
  -- by induction on the points: each of them is placed, so the next one can be reached from it
  induction h with
  | refl => exact ⟨.refl, hp⟩
  | tail hleads hnext ih =>
    obtain ⟨hdone, hplaced⟩ := ih
    have hmore := next_arrives (w := w) hplaced (Leads.sound hleads hs)
    rw [hnext] at hmore
    exact ⟨hdone.trans hmore.1, hmore.2⟩

theorem Yields.does {outcome : Except WorkflowError Unit} {last : Run σ}
    (h : Yields engine w g outcome last) (hg : engine.GoesOn g) (hs : g.Sound) :
    ReflTransGen engine.Does g.run last := by
  induction h with
  | ended => exact .refl
  | reached _ ih =>
    obtain ⟨hdone, hmore⟩ := next_arrives (w := w) hg hs
    exact hdone.trans (ih hmore (next_sound engine w hs))

variable {request : Request} {clock : Clock} {world : σ}

theorem Reaches.does (h : engine.Reaches w request clock world p) :
    ReflTransGen engine.Does (engine.begin w request clock world w.validate) p.run :=
  (h.2.does (p := engine.start w request clock world) trivial rfl).1

theorem execute_does (engine : Engine σ) (w : Workflow) (request : Request) (clock : Clock)
    (world : σ) :
    ∃ outcome last,
      ReflTransGen engine.Does (engine.begin w request clock world w.validate) last ∧
        last.execution.status = .running ∧
        engine.execute w request clock world = engine.finish outcome last := by
  cases hvalid : w.validate.valid with
  | true =>
    obtain ⟨outcome, last, hyields, heq⟩ := yields_execute engine w request clock world hvalid
    exact ⟨outcome, last, hyields.does trivial rfl, hyields.running rfl, heq⟩
  | false =>
    have hexecutes := executes_execute engine w request clock world
    generalize engine.execute w request clock world = final at hexecutes
    cases hexecutes with
    | refused => exact ⟨_, _, .refl, rfl, rfl⟩
    | walked valid => exact nomatch valid.symm.trans hvalid

theorem finish_metrics (engine : Engine σ) (outcome : Except WorkflowError Unit)
    (hs : r.execution.status = .running) :
    ∃ durationMs, (engine.finish outcome r).execution.metrics =
      { r.execution.metrics with totalDurationMs := durationMs } := by
  cases outcome with
  | ok =>
    have hcomplete := Execution.complete_of_running hs (engine.now r.world)
    exact ⟨_, (congrArg Execution.metrics hcomplete).trans
      (Execution.ended_metrics _ .completed _)⟩
  | error e =>
    have hfail := Execution.fail_of_running hs e (engine.now r.world)
    exact ⟨_, (congrArg Execution.metrics hfail).trans
      (Execution.ended_metrics _ (.ofError e) _)⟩

/-- What everything that a run does keeps, the run keeps. -/
theorem keeps_of_does {P : Run σ → Prop} (keeps : ∀ r r', engine.Does r r' → P r → P r')
    (h : ReflTransGen engine.Does r r') (hr : P r) : P r' := by
  induction h with
  | refl => exact hr
  | tail _ hd ih => exact keeps _ _ hd ih

end Engine

end Stepwise
