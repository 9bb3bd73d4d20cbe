import Stepwise.Proofs.Numeric.Saturation
import Stepwise.Proofs.Run.Actions

/-! # What a run has used -/

namespace Stepwise

/-! ## Counters -/

inductive Counter where
  | retrievalCalls
  | llmCalls
  | externalCalls
  | promptTokens
  | completionTokens
  | totalTokens
deriving DecidableEq, Repr

def Metrics.counter (m : Metrics) : Counter → UInt32
  | .retrievalCalls => m.retrievalCalls
  | .llmCalls => m.llmCalls
  | .externalCalls => m.externalCalls
  | .promptTokens => m.promptTokens
  | .completionTokens => m.completionTokens
  | .totalTokens => m.totalTokens

namespace StepMetadata

def counter (d : StepMetadata) : Counter → UInt32
  | .retrievalCalls => d.retrievalCalls
  | .llmCalls => d.llmCalls
  | .externalCalls => d.externalCalls
  | .promptTokens => d.promptTokens
  | .completionTokens => d.completionTokens
  | .totalTokens => d.totalTokens

/-- The tokens were set together with their total, or there are none. -/
inductive CountsTokens : StepMetadata → Prop where
  | set (d : StepMetadata) (prompt completion : UInt32) :
      CountsTokens (d.withTokens prompt completion)
  | none {d : StepMetadata} (prompt : d.promptTokens = 0) (completion : d.completionTokens = 0)
      (total : d.totalTokens = 0) : CountsTokens d

theorem CountsTokens.total {d : StepMetadata} (h : d.CountsTokens) :
    d.totalTokens = saturatingAdd d.promptTokens d.completionTokens := by
  cases h with
  | set => rfl
  | none prompt completion total =>
    rw [prompt, completion, total]
    rfl

end StepMetadata

theorem Metrics.counter_record (m : Metrics) (d : StepMetadata) (c : Counter) :
    (m.record d).counter c = saturatingAdd (m.counter c) (d.counter c) := by
  cases c <;> rfl

/-! ## Reports -/

/-- What the completed steps have used. -/
def usages (steps : List StepRecord) : List StepMetadata :=
  (steps.filter (·.status == .completed)).filterMap StepRecord.metadata

section usages

variable {before : List StepRecord} {record : StepRecord}

theorem usages_append (xs ys : List StepRecord) : usages (xs ++ ys) = usages xs ++ usages ys := by
  rw [usages, List.filter_append, List.filterMap_append]
  rfl

theorem usages_concat (h : record.status ≠ .completed) :
    usages (before ++ [record]) = usages before := by
  have hlast : usages [record] = [] := by
    simp [usages, h]
  rw [usages_append, hlast, List.append_nil]

theorem usages_concat_completed (h : record.status = .completed) {d : StepMetadata}
    (hd : record.metadata = some d) : usages (before ++ [record]) = usages before ++ [d] := by
  have hlast : usages [record] = [d] := by
    simp [usages, h, hd]
  rw [usages_append, hlast]

theorem Execution.Open.usages {e : Execution} (h : e.Open before record) :
    Stepwise.usages e.steps = Stepwise.usages before := by
  rw [h.steps]
  exact usages_concat (by rw [h.running]; nofun)

end usages

/-- A registered handler reported the usage with a success. The duration is not its own. -/
def Engine.ReportsUsage {σ : Type} (engine : Engine σ) (d : StepMetadata) : Prop :=
  ∃ stepType handler params context world,
    engine.registry.get? stepType = some handler ∧
      (handler.execute params context world).1.value.success = true ∧
      d = { (handler.execute params context world).1.value.metadata with
        durationMs := d.durationMs }

/-- The counters of a run are those of its completed steps. -/
structure Execution.Accounted {σ : Type} (engine : Engine σ) (e : Execution) : Prop where
  /-- The order of the records makes no difference. -/
  counters : ∀ c steps, steps.Perm e.steps →
    (e.metrics.counter c).toNat = min maxCount (total (·.counter c) (usages steps))
  reported : ∀ d ∈ usages e.steps, engine.ReportsUsage d
  tokens : (∀ d ∈ usages e.steps, d.CountsTokens) →
    e.metrics.totalTokens = saturatingAdd e.metrics.promptTokens e.metrics.completionTokens

theorem usages_perm {steps steps' : List StepRecord} (h : steps.Perm steps') :
    (usages steps).Perm (usages steps') :=
  (h.filter _).filterMap _

theorem tokens_of_counters {m : Metrics} {ds : List StepMetadata}
    (counters : ∀ c, (m.counter c).toNat = min maxCount (total (·.counter c) ds))
    (h : ∀ d ∈ ds, d.CountsTokens) :
    m.totalTokens = saturatingAdd m.promptTokens m.completionTokens := by
  have hprompt := counters .promptTokens
  have hcompletion := counters .completionTokens
  have htotal := counters .totalTokens
  have hsum : min maxCount (total (·.counter .totalTokens) ds) =
      min maxCount (total (·.counter .promptTokens) ds + total (·.counter .completionTokens) ds) :=
    min_total_saturatingAdd fun d hd => (h d hd).total
  change m.promptTokens.toNat = _ at hprompt
  change m.completionTokens.toNat = _ at hcompletion
  change m.totalTokens.toNat = _ at htotal
  apply UInt32.toNat_inj.mp
  rw [toNat_saturatingAdd, htotal, hsum, hprompt, hcompletion]
  omega

namespace Engine

open Relation

variable {σ : Type} {engine : Engine σ} {w : Workflow} {r r' : Run σ} {before : List StepRecord}
  {record record' : StepRecord}

/-- The run has counted what its completed steps have used. -/
structure Accounting (engine : Engine σ) (r : Run σ) : Prop where
  counters : ∀ c, (r.execution.metrics.counter c).toNat =
    min maxCount (total (·.counter c) (usages r.execution.steps))
  reported : ∀ d ∈ usages r.execution.steps, engine.ReportsUsage d

theorem Accounting.accounted (h : engine.Accounting r) : r.execution.Accounted engine where
  counters c steps hperm := by
    rw [total_eq_of_perm _ (usages_perm hperm)]
    exact h.counters c
  reported := h.reported
  tokens := tokens_of_counters h.counters

theorem Accounting.of_same (h : engine.Accounting r)
    (hu : usages r'.execution.steps = usages r.execution.steps)
    (hc : ∀ c, r'.execution.metrics.counter c = r.execution.metrics.counter c) :
    engine.Accounting r' where
  counters c := by
    rw [hc, hu]
    exact h.counters c
  reported := hu ▸ h.reported

theorem Accounting.of_last {metrics : Metrics} (h : engine.Accounting r)
    (ho : r.execution.Open before record)
    (execution : r'.execution = r.execution.withLast before record' metrics)
    (hs : record'.status ≠ .completed)
    (hc : ∀ c, metrics.counter c = r.execution.metrics.counter c) : engine.Accounting r' := by
  refine h.of_same ?_ ?_
  · rw [execution, ho.usages]
    exact usages_concat hs
  · rw [execution]
    exact hc

theorem Accounting.of_completed {d : StepMetadata} (h : engine.Accounting r)
    (ho : r.execution.Open before record)
    (execution : r'.execution =
      r.execution.withLast before record' (r.execution.metrics.record d))
    (hs : record'.status = .completed) (hd : record'.metadata = some d)
    (hreport : engine.ReportsUsage d) : engine.Accounting r' := by
  have hu : usages r'.execution.steps = usages r.execution.steps ++ [d] := by
    rw [execution, ho.usages]
    exact usages_concat_completed hs hd
  refine ⟨fun c => ?_, fun d' hd' => ?_⟩
  · have hcounter : r'.execution.metrics.counter c =
        saturatingAdd (r.execution.metrics.counter c) (d.counter c) := by
      rw [execution]
      exact Metrics.counter_record _ d c
    rw [hcounter, toNat_saturatingAdd_of_min (h.counters c), hu, total_append]
    rfl
  · rw [hu] at hd'
    rcases List.mem_append.mp hd' with hd' | hd'
    · exact h.reported d' hd'
    · rw [List.mem_singleton.mp hd']
      exact hreport

theorem Does.accounting (hd : engine.Does r r') (h : engine.Accounting r) :
    engine.Accounting r' := by
  cases hd with
  | nothing execution => exact h.of_same (by rw [execution]) (by rw [execution]; exact fun _ => rfl)
  | opens step now status execution =>
    refine h.of_same ?_ fun c => ?_
    · rw [execution]
      exact usages_concat nofun
    · rw [execution]
      cases c <;> rfl
  | edits input retryCount opened execution =>
    exact h.of_last opened execution (by rw [opened.running]; nofun) fun _ => rfl
  | retries attempt maxAttempts delayMs error opened execution =>
    refine h.of_last opened execution (by rw [opened.running]; nofun) fun c => ?_
    cases c <;> rfl
  | completes now durationMs next opened found answer success execution =>
    subst answer
    exact h.of_completed opened execution rfl rfl ⟨_, _, _, _, _, found, success, rfl⟩
  | fails error now opened execution =>
    refine h.of_last opened execution nofun fun c => ?_
    cases c <;> rfl
  | skips reason now opened execution => exact h.of_last opened execution nofun fun _ => rfl

/-! ## Every point and the end -/

theorem begin_accounting (engine : Engine σ) (w : Workflow) (request : Request) (clock : Clock)
    (world : σ) : engine.Accounting (engine.begin w request clock world w.validate) where
  counters c := by cases c <;> rfl
  reported _ hd := absurd hd List.not_mem_nil

/-- At every point of a run, and at its end, the counters are those of the completed steps. -/
theorem execute_accounted (engine : Engine σ) (w : Workflow) (request : Request) (clock : Clock)
    (world : σ) :
    (∀ p, engine.Reaches w request clock world p → p.run.execution.Accounted engine) ∧
      (engine.execute w request clock world).execution.Accounted engine := by
  have hbegin := begin_accounting engine w request clock world
  constructor
  · intro p hp
    have hp : engine.Accounting p.run := keeps_of_does (fun _ _ => Does.accounting) hp.does hbegin
    exact hp.accounted
  · obtain ⟨outcome, last, hdone, hs, heq⟩ := execute_does engine w request clock world
    have hlast : engine.Accounting last := keeps_of_does (fun _ _ => Does.accounting) hdone hbegin
    obtain ⟨durationMs, hmetrics⟩ := finish_metrics engine outcome hs
    have hfinish : engine.Accounting (engine.finish outcome last) := by
      refine hlast.of_same (by rw [finish_steps]) fun c => ?_
      rw [hmetrics]
      cases c <;> rfl
    rw [heq]
    exact hfinish.accounted

end Engine

end Stepwise
