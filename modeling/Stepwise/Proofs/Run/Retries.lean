import Stepwise.Proofs.Numeric.Saturation
import Stepwise.Proofs.Run.Events
import Stepwise.Proofs.Workflow.Validity

/-!
# Retries

A run counts a retry before the rest, and the record of the step only after the next attempt.
-/

namespace Stepwise

/-- The retries that a run has announced. -/
def Run.retries {σ : Type} (r : Run σ) : Nat := r.events.countP Event.isRetry

/-- The retries that the records of steps tell of. -/
def retriesOf (steps : List StepRecord) : Nat := total StepRecord.retryCount steps

theorem retriesOf_concat (before : List StepRecord) (record : StepRecord) :
    retriesOf (before ++ [record]) = retriesOf before + record.retryCount.toNat :=
  total_append _ _ _

theorem Run.retries_of_quiet {σ : Type} {r r' : Run σ} {e : Event}
    (events : r'.events = r.events ++ [e]) (quiet : e.isRetry = false) :
    r'.retries = r.retries := by
  rw [retries, events, List.countP_append, List.countP_singleton, quiet]
  rfl

namespace Engine

open Relation

variable {σ : Type}

/-- An attempt of the step that comes after these records has failed, and another one was promised
to it. -/
def Promises (engine : Engine σ) (w : Workflow) (request : Request) (clock : Clock) (world : σ)
    (before : List StepRecord) (id : String) : Prop :=
  ∃ task left count error r opened,
    engine.Reaches w request clock world (.rest task left count error r) ∧
      r.execution.Open before opened ∧ opened.stepId = id

/-- The last step was interrupted, and no record tells of the last retry that it was promised. -/
structure Ahead (engine : Engine σ) (w : Workflow) (request : Request) (clock : Clock) (world : σ)
    (r : Run σ) : Prop where
  count : r.retries = retriesOf r.execution.steps + 1
  interrupted : ∃ before last, r.execution.steps = before ++ [last] ∧ last.status = .skipped ∧
    engine.Promises w request clock world before last.stepId

/-- The open record comes after others that tell of all their retries. It tells of some of its
own. -/
structure Counting (r : Run σ) (before : List StepRecord) (opened : StepRecord) (told : Nat)
    (announced : Nat) : Prop where
  still : r.execution.Open before opened
  told : opened.retryCount.toNat = told
  announced : r.retries = retriesOf before + announced

/-- The retries are counted as far as the run has come. Before an attempt, the record still tells of
the retries before the last attempt. -/
def Counted (engine : Engine σ) (w : Workflow) (request : Request) (clock : Clock) (world : σ) :
    Point σ → Prop
  | .boundary _ _ r => r.retries = retriesOf r.execution.steps
  | .attempt _ left count r => 1 ≤ count ∧ count + left < UInt32.size ∧ ∃ before opened,
      Counting r before opened (count - 2) (count - 1) ∧
        (1 < count → engine.Promises w request clock world before opened.stepId)
  | .rest _ left count _ r => 1 ≤ count ∧ count + 1 + left < UInt32.size ∧ ∃ before opened,
      Counting r before opened (count - 1) (count - 1)

def CountsOn (engine : Engine σ) (w : Workflow) (request : Request) (clock : Clock) (world : σ) :
    Progress σ → Prop
  | .reached p => engine.Counted w request clock world p
  | .ended outcome r => r.retries = retriesOf r.execution.steps ∨
      outcome = .error .cancelled ∧ engine.Ahead w request clock world r

variable {engine : Engine σ} {w : Workflow} {request : Request} {clock : Clock} {world : σ}
  {task : Task σ} {left count told announced : Nat} {r r' : Run σ} {p : Point σ}
  {before : List StepRecord} {opened : StepRecord}

/-! ## The end of a step -/

theorem countsOn_proceed {outcome : Except WorkflowError (Option String)}
    (h : r.retries = retriesOf r.execution.steps) :
    engine.CountsOn w request clock world (proceed left outcome r) := by
  match outcome with
  | .error e => exact Or.inl h
  | .ok none => exact Or.inl h
  | .ok (some id) => exact h

theorem Counting.close {closed : StepRecord} (h : Counting r before opened told announced)
    (hc : Closes r'.execution before opened closed) (hr : r'.retries = r.retries) :
    r'.retries + told = retriesOf r'.execution.steps + announced := by
  rw [hr, h.announced, hc.steps, retriesOf_concat, hc.retryCount, h.told]
  omega

theorem failStep_counts {step : Step} (h : Counting r before opened told told) (error : StepError) :
    (engine.failStep step error r).retries =
      retriesOf (engine.failStep step error r).execution.steps := by
  obtain ⟨closed, hc, -⟩ := failStep_documents engine step h.still error
  exact Nat.add_right_cancel (h.close hc (Run.retries_of_quiet rfl rfl))

theorem countsOn_settle (h : Counting r before opened told told) (ending : StepEnd) :
    engine.CountsOn w request clock world (engine.settle task ending r) := by
  cases ending with
  | completed result =>
    obtain ⟨closed, hc, -⟩ :=
      completeStep_documents engine task.step h.still task.started result
    exact countsOn_proceed (Nat.add_right_cancel (h.close hc (Run.retries_of_quiet rfl rfl)))
  | failed error =>
    rw [settle]
    split
    · exact countsOn_proceed (failStep_counts h error)
    · exact countsOn_proceed (failStep_counts h error)
  | cancelled =>
    obtain ⟨closed, hc, -⟩ := skip_documents h.still "Execution cancelled" (engine.now r.world)
    rw [settle]
    exact countsOn_proceed (Nat.add_right_cancel (h.close hc rfl))

/-- A step that is interrupted after another retry was announced is one ahead of its record. -/
theorem countsOn_interrupted (h : Counting r before opened told (told + 1))
    (promised : engine.Promises w request clock world before opened.stepId) :
    engine.CountsOn w request clock world (engine.settle task .cancelled r) := by
  obtain ⟨closed, hc, hskipped⟩ :=
    skip_documents h.still "Execution cancelled" (engine.now r.world)
  have hcount := h.close hc rfl
  rw [settle]
  exact Or.inr ⟨rfl, by omega, before, closed, hc.steps, hskipped, hc.stepId ▸ promised⟩

/-! ## From one point to the next -/

theorem attempt_interrupted {step : Step} {handler : Handler σ} {params : Json}
    (h : engine.attempt step handler params count r = (none, r')) :
    r'.execution = r.execution := by
  unfold attempt at h
  split at h
  · rw [← (Prod.mk.inj h).2]
  · dsimp only at h
    split at h
    · rw [← (Prod.mk.inj h).2]
    · cases h
    · cases h

theorem Counting.attempted {result : StepResult} (h : Counting r before opened told (count - 1))
    (made : engine.attempt task.step task.handler task.params count r = (some result, r'))
    (hlt : count < UInt32.size) :
    ∃ opened', Counting r' before opened' (count - 1) (count - 1) ∧
      opened'.stepId = opened.stepId := by
  obtain ⟨n, hn, hcount⟩ := attempt_execution made h.still
  refine ⟨{ opened with retryCount := n }, ⟨?_, ?_, ?_⟩, rfl⟩
  · rw [hn]
    exact h.still.withLast h.still.running
  · rw [hcount rfl]
    exact UInt32.toNat_ofNat_of_lt' (by omega)
  · rw [Run.retries, attempt_events made]
    exact h.announced

theorem Counting.interrupted (h : Counting r before opened told announced)
    (made : engine.attempt task.step task.handler task.params count r = (none, r')) :
    Counting r' before opened told announced where
  still := by
    rw [attempt_interrupted made]
    exact h.still
  told := h.told
  announced := by
    rw [Run.retries, attempt_events made]
    exact h.announced

theorem Counting.rested {error : StepError} {stop : Bool}
    (h : Counting r before opened told announced)
    (rest : backOff task.step count error r = (stop, r')) :
    Counting r' before opened told (announced + 1) where
  still := backOff_opens rest h.still
  told := h.told
  announced := by
    obtain ⟨_, _, hevents⟩ := backOff_events rest
    rw [Run.retries, hevents, List.countP_append, ← Nat.add_assoc, ← h.announced]
    rfl

theorem countsOn_enter {step : Step} (hs : r.execution.status = .running)
    (h : r.retries = retriesOf r.execution.steps) :
    engine.CountsOn w request clock world
      (engine.enter left step (engine.openRecord step r)) := by
  have hexecution := openRecord_execution engine step hs
  have hevents : (engine.openRecord step r).events = r.events := rfl
  generalize engine.openRecord step r = r' at hexecution hevents ⊢
  have hstarted : Counting (started step r') r.execution.steps (.start step (engine.now r.world))
      0 0 := by
    refine ⟨?_, rfl, ?_⟩
    · rw [started, Run.emit_execution, hexecution]
      exact ⟨hs, rfl, rfl⟩
    · rw [started, Run.retries_of_quiet (r := r') rfl rfl, Run.retries, hevents]
      exact h
  have hprepared : Counting (prepared step r') r.execution.steps
      ((StepRecord.start step (engine.now r.world)).setInput (valuesOf step r')) 0 0 :=
    ⟨prepared_open step hstarted.still, rfl, hstarted.announced⟩
  unfold enter
  split
  · exact countsOn_proceed (failStep_counts hstarted _)
  · split
    · exact countsOn_proceed (failStep_counts hprepared _)
    · have hlt := (step.retry.getD {}).maxAttempts.toNat_lt
      refine ⟨Nat.le_refl 1, ?_, _, _, hprepared, fun h => absurd h (Nat.lt_irrefl 1)⟩
      unfold RetryPolicy.attempts
      change _ < 4294967296
      omega

theorem countsOn_boundary {id : String} (hs : r.execution.status = .running)
    (h : r.retries = retriesOf r.execution.steps) :
    engine.CountsOn w request clock world (engine.next w (.boundary left id r)) := by
  cases left with
  | zero => exact Or.inl h
  | succ left =>
    have hexecution := barrier_execution engine w r
    have hbarrier : (engine.barrier w r).2.retries =
        retriesOf (engine.barrier w r).2.execution.steps := by
      rw [Run.retries, barrier_events, hexecution]
      exact h
    cases hbar : (engine.barrier w r).1 with
    | some e =>
      rw [next_of_barred hbar]
      exact Or.inl hbarrier
    | none =>
      rw [next_of_clear hbar]
      split
      · exact Or.inl hbarrier
      · refine countsOn_enter ?_ hbarrier
        rw [hexecution]
        exact hs

theorem countsOn_attempt
    (h : engine.Counted w request clock world (.attempt task left count r)) :
    engine.CountsOn w request clock world (engine.next w (.attempt task left count r)) := by
  obtain ⟨hfirst, hlt, before, opened, hcounting, promised⟩ := h
  rw [next]
  split
  · rename_i made
    have hcut := hcounting.interrupted made
    -- the first attempt has no retry before it, and every later one was promised
    rcases Nat.eq_or_lt_of_le hfirst with rfl | hlater
    · exact countsOn_settle hcut .cancelled
    · obtain ⟨n, rfl⟩ : ∃ n, count = n + 2 := ⟨count - 2, by omega⟩
      exact countsOn_interrupted hcut (promised hlater)
  · rename_i result _ made
    obtain ⟨opened', hcounting', -⟩ := hcounting.attempted made (by omega)
    split
    · exact countsOn_settle hcounting' _
    · split
      · exact countsOn_settle hcounting' _
      · exact ⟨hfirst, by omega, before, opened', hcounting'⟩

theorem Reaches.countsOn_rest {error : StepError}
    (hp : engine.Reaches w request clock world (.rest task left count error r))
    (h : engine.Counted w request clock world (.rest task left count error r)) :
    engine.CountsOn w request clock world (engine.next w (.rest task left count error r)) := by
  obtain ⟨hfirst, hlt, before, opened, hcounting⟩ := h
  have promised : engine.Promises w request clock world before opened.stepId :=
    ⟨task, left, count, error, r, opened, hp, hcounting.still, rfl⟩
  obtain ⟨n, rfl⟩ : ∃ n, count = n + 1 := ⟨count - 1, by omega⟩
  rw [next]
  split
  · rename_i rest
    exact countsOn_interrupted (hcounting.rested rest) promised
  · rename_i rest
    exact ⟨by omega, by omega, before, opened, hcounting.rested rest, fun _ => promised⟩

theorem Reaches.countsOn (hp : engine.Reaches w request clock world p)
    (h : engine.Counted w request clock world p) :
    engine.CountsOn w request clock world (engine.next w p) := by
  have hsound := hp.sound
  cases p with
  | boundary left id r => exact countsOn_boundary hsound h
  | attempt task left count r => exact countsOn_attempt h
  | rest task left count error r => exact hp.countsOn_rest h

/-! ## A whole run -/

theorem begin_retries (engine : Engine σ) (w : Workflow) (request : Request) (clock : Clock)
    (world : σ) : (engine.begin w request clock world w.validate).retries = 0 :=
  opening_retries w request

theorem Reaches.counted (hp : engine.Reaches w request clock world p) :
    engine.Counted w request clock world p := by
  obtain ⟨hvalid, hleads⟩ := hp
  -- by induction on the points that lead here: each of them is one that the run comes to
  induction hleads with
  | refl => exact begin_retries engine w request clock world
  | tail hbefore hnext ih =>
    have hcounts := Reaches.countsOn ⟨hvalid, hbefore⟩ ih
    rwa [hnext] at hcounts

theorem finish_retries (engine : Engine σ) (outcome : Except WorkflowError Unit)
    (hs : r.execution.status = .running) : (engine.finish outcome r).retries = r.retries := by
  obtain ⟨last, -, hevents, hquiet⟩ := finish_events engine outcome hs
  exact Run.retries_of_quiet hevents hquiet

theorem execute_countsOn (engine : Engine σ) (w : Workflow) (request : Request) (clock : Clock)
    (world : σ) :
    ∃ outcome last, engine.execute w request clock world = engine.finish outcome last ∧
      last.execution.status = .running ∧
        engine.CountsOn w request clock world (.ended outcome last) := by
  cases hvalid : w.validate.valid with
  | true =>
    obtain ⟨outcome, last, hyields, -⟩ := yields_execute engine w request clock world hvalid
    obtain ⟨q, hleads, hlast⟩ := hyields.exists_last rfl
    have hq : engine.Reaches w request clock world q := ⟨hvalid, hleads⟩
    obtain ⟨heq, hs⟩ := hq.execute_eq hlast
    have hcounts := hq.countsOn hq.counted
    rw [hlast] at hcounts
    exact ⟨outcome, last, heq, hs, hcounts⟩
  | false =>
    have hexecutes := executes_execute engine w request clock world
    generalize engine.execute w request clock world = final at hexecutes
    cases hexecutes with
    | refused => exact ⟨_, _, rfl, rfl, Or.inl (begin_retries engine w request clock world)⟩
    | walked valid => exact nomatch valid.symm.trans hvalid

theorem execute_retries (engine : Engine σ) (w : Workflow) (request : Request) (clock : Clock)
    (world : σ) :
    (engine.execute w request clock world).execution.metrics.retries =
      UInt32.ofNat (engine.execute w request clock world).retries := by
  obtain ⟨outcome, last, hdone, hs, heq⟩ := execute_does engine w request clock world
  have hlogging : last.Logging (opening w request) :=
    keeps_of_does (fun _ _ => Does.logging) hdone (begin_logging engine w request clock world)
  obtain ⟨durationMs, hmetrics⟩ := finish_metrics engine outcome hs
  rw [heq, hmetrics, finish_retries engine outcome hs]
  exact hlogging.retries

/-- The retries that a run has counted are those that its records tell of. If it was cancelled it
may have counted one more, which its last step was promised. -/
structure Recounts (engine : Engine σ) (w : Workflow) (request : Request) (clock : Clock)
    (world : σ) (e : Execution) : Prop where
  settled : e.status ≠ .cancelled → e.metrics.retries.toNat = retriesOf e.steps
  cancelled : e.status = .cancelled →
    e.metrics.retries.toNat = retriesOf e.steps ∨ e.metrics.retries.toNat = retriesOf e.steps + 1
  ahead : e.metrics.retries.toNat ≠ retriesOf e.steps →
    ∃ before last, e.steps = before ++ [last] ∧ last.status = .skipped ∧
      engine.Promises w request clock world before last.stepId

/-- A run with fewer retries than its counter can count agrees with its records on them. -/
theorem execute_recounts (engine : Engine σ) (w : Workflow) (request : Request) (clock : Clock)
    (world : σ) (few : (engine.execute w request clock world).retries < UInt32.size) :
    engine.Recounts w request clock world (engine.execute w request clock world).execution := by
  have hcounter := congrArg UInt32.toNat (execute_retries engine w request clock world)
  rw [UInt32.toNat_ofNat_of_lt' few] at hcounter
  obtain ⟨outcome, last, heq, hs, hcounts⟩ := execute_countsOn engine w request clock world
  have hsteps := finish_steps engine outcome last
  have hretries := finish_retries engine outcome hs
  rw [heq] at hcounter ⊢
  rcases hcounts with hagree | ⟨rfl, hcount, before, skipped, hskipped⟩
  · have hagree : (engine.finish outcome last).execution.metrics.retries.toNat =
        retriesOf (engine.finish outcome last).execution.steps := by
      rw [hcounter, hretries, hsteps, hagree]
    exact ⟨fun _ => hagree, fun _ => Or.inl hagree, fun hne => absurd hagree hne⟩
  · have hstatus : (engine.finish (.error .cancelled) last).execution.status = .cancelled :=
      congrArg Execution.status (Execution.fail_of_running hs .cancelled (engine.now last.world))
    refine ⟨fun hne => absurd hstatus hne, fun _ => Or.inr ?_, fun _ => ?_⟩
    · rw [hcounter, hretries, hsteps, hcount]
    · rw [hsteps]
      exact ⟨before, skipped, hskipped⟩

/-! ## A rest that is interrupted -/

/-- Fails every time, as if another attempt could succeed. -/
def failing : Handler Unit where
  validate _ := .ok ()
  schema := { fields := [] }
  execute _ _ world := (.now (.failed (.retryable "DOWN" "Not now") {}), world)

def patient : Engine Unit where
  registry := Registry.empty.register "ask" failing
  now _ := Timestamp.ofUnixNanos 0
  elapsedNanos _ := 0

def insisting : Workflow where
  id := ⟨"insisting", by decide⟩
  entryStepId := "ask"
  steps := [
    { id := "ask", stepType := "ask", nextStepId := some "answer",
      retry := some { maxAttempts := 3, baseDelayMs := 10 } },
    { id := "answer", stepType := "say" }]

theorem insisting_valid : insisting.validate.valid = true := by
  rw [Workflow.valid_iff_findings_eq_nil, Workflow.findings_eq_nil_iff]
  refine Workflow.sound_of_pair rfl rfl (by decide) (by decide) (fun target => ?_) fun target => ?_
  · simp [Step.Names, Step.isConditional, conditionalType, eq_comm]
  · simp [Step.Names, Step.isConditional, conditionalType]

theorem execute_recounts_insisting :
    (patient.execute insisting ⟨"run", "tenant", .null⟩ { alarm := some 5 } ()).retries <
        UInt32.size ∧
      patient.Recounts insisting ⟨"run", "tenant", .null⟩ { alarm := some 5 } ()
        (patient.execute insisting ⟨"run", "tenant", .null⟩ { alarm := some 5 } ()).execution := by
  have few : (patient.execute insisting ⟨"run", "tenant", .null⟩ { alarm := some 5 } ()).retries <
      UInt32.size := by
    have valid : insisting.validate.toExcept = .ok () := if_pos insisting_valid
    have limit : insisting.maxSteps.toNat = 49 + 1 := rfl
    rw [execute, limit]
    dsimp only
    -- the index of the steps does not evaluate, but it finds what the workflow declares
    rw [valid, walk, Workflow.getElem?_index]
    dsimp only
    rw [finish_retries]
    · decide +kernel
    · decide +kernel
  exact ⟨few,
    execute_recounts patient insisting ⟨"run", "tenant", .null⟩ { alarm := some 5 } () few⟩

end Engine

end Stepwise
