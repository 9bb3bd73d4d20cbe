import Mathlib.Data.List.Chain
import Mathlib.Data.List.Perm.Subperm
import Stepwise.Proofs.Handler.Branching
import Stepwise.Proofs.Run.Record
import Stepwise.Proofs.Workflow.Validity

/-! # The route of a run -/

namespace Stepwise

open Relation

/-! ## Paths -/

namespace Workflow

/-- The step with the first id may hand over to the second id. -/
def Leads (w : Workflow) (a b : String) : Prop := ∃ s, w.step? a = some s ∧ b ∈ s.outgoing

/-- The ids of steps that come one after another, from the entry on. -/
structure IsPath (w : Workflow) (ids : List String) : Prop where
  entry : ∀ id, ids.head? = some id → id = w.entryStepId
  chain : ids.IsChain w.Leads

variable {w : Workflow} {ids : List String} {id next : String}

theorem Leads.edge (h : w.Leads id next) : w.Edge id next := by
  obtain ⟨s, hs, hnext⟩ := h
  obtain ⟨hmem, hid⟩ := step?_eq_some hs
  exact ⟨s, hmem, hid, Step.mem_outgoing.mp hnext⟩

theorem Leads.declares (h : w.Leads id next) (hw : w.Sound) : w.Declares next := by
  obtain ⟨s, hmem, -, hnext⟩ := h.edge
  exact hw.targets s hmem next hnext

theorem isPath_entry (w : Workflow) : w.IsPath [w.entryStepId] :=
  ⟨fun _ h => (Option.some.inj h).symm, List.isChain_singleton _⟩

theorem IsPath.init (h : w.IsPath (ids ++ [id])) : w.IsPath ids := by
  refine ⟨fun first hfirst => h.entry first ?_, h.chain.left_of_append⟩
  rw [List.head?_append, hfirst, Option.some_or]

theorem IsPath.extend (h : w.IsPath (ids ++ [id])) (hnext : w.Leads id next) :
    w.IsPath (ids ++ [id] ++ [next]) := by
  refine ⟨fun first hfirst => h.entry first ?_, ?_⟩
  · rwa [List.head?_append_of_ne_nil _ (by simp)] at hfirst
  · rw [List.isChain_append]
    refine ⟨h.chain, List.isChain_singleton _, fun a ha b hb => ?_⟩
    rw [List.getLast?_concat] at ha
    obtain rfl := Option.some.inj ha
    obtain rfl := Option.some.inj hb
    exact hnext

theorem declares_of_isChain (hw : w.Sound) (h : (id :: ids).IsChain w.Leads)
    (hid : w.Declares id) : ∀ x ∈ id :: ids, w.Declares x := by
  induction ids generalizing id with
  | nil =>
    intro x hx
    rwa [List.mem_singleton.mp hx]
  | cons next rest ih =>
    obtain ⟨hlead, hrest⟩ := List.isChain_cons_cons.mp h
    intro x hx
    rcases List.mem_cons.mp hx with rfl | hx
    · exact hid
    · exact ih hrest (hlead.declares hw) x hx

theorem IsPath.declares (h : w.IsPath ids) (hw : w.Sound) : ∀ x ∈ ids, w.Declares x := by
  cases ids with
  | nil => exact fun _ hx => absurd hx List.not_mem_nil
  | cons first rest =>
    obtain rfl := h.entry first rfl
    exact declares_of_isChain hw h.chain hw.entry

theorem IsPath.nodup (h : w.IsPath ids) (hw : w.Sound) : ids.Nodup := by
  have hchain : ids.IsChain (TransGen w.Edge) := h.chain.imp fun _ _ hlead =>
    .single hlead.edge
  refine hchain.pairwise.imp fun hab heq => ?_
  subst heq
  exact hw.acyclic _ hab

theorem IsPath.length_le (h : w.IsPath ids) (hw : w.Sound) : ids.length ≤ w.steps.length := by
  have hsub : ids ⊆ w.steps.map Step.id := fun x hx =>
    declares_iff_mem_map.mp (h.declares hw x hx)
  have hle := (List.subperm_of_subset (h.nodup hw) hsub).length_le
  rwa [List.length_map] at hle

end Workflow

/-! ## The route -/

/-- The codes of runs that got lost or went round in circles. -/
def WorkflowError.lostCodes : List String :=
  ["STEP_NOT_FOUND", "STEP_LIMIT_EXCEEDED", "VALIDATION_ERROR"]

theorem WorkflowError.Blames.not_lost {e : WorkflowError} {id : String} (h : e.Blames id) :
    e.code ∉ lostCodes := by
  intro hlost
  have hcode := h.1
  cases e <;> simp [stepCodes, lostCodes, code] at hcode hlost

def Execution.ids (e : Execution) : List String := e.steps.map StepRecord.stepId

namespace Engine

open Execution

variable {σ : Type} {engine : Engine σ} {w : Workflow} {step : Step} {r r' : Run σ} {left : Nat}
  {id : String}

/-- Only the conditional handler does conditional steps. -/
def BranchesAsBuilt (engine : Engine σ) : Prop :=
  ∀ handler, engine.registry.get? conditionalType = some handler → handler = Conditional.handler

theorem Ends.names {outcome : Except WorkflowError (Option String)}
    (h : Ends engine step r outcome r') (hl : step.LiteralBranches)
    (hb : engine.BranchesAsBuilt) {next : String} (ho : outcome = .ok (some next)) :
    step.Names next := by
  cases h with
  | unhandled | refused | failed | cancelled => cases ho
  | rerouted attempted edge =>
    rw [← Option.some.inj (Except.ok.inj ho)]
    exact Or.inr (Or.inr (Or.inl edge))
  | @completed result _ attempted =>
    have hnext : step.next? result.output = some next := Except.ok.inj ho
    cases hc : step.isConditional with
    | false => exact Step.names_of_next?_eq_some hc hnext
    | true =>
      obtain ⟨handler, found, -, tries⟩ := attempted
      obtain ⟨success, world, hresult⟩ := tries.answer rfl
      rw [beq_iff_eq.mp hc] at found
      obtain rfl := hb handler found
      subst hresult
      rw [Step.next?, hc, if_pos rfl] at hnext
      obtain ⟨holds, hparam⟩ := Conditional.branch_of_result success hnext
      exact Step.names_of_resolved hc hl hparam

/-- The route so far, with the id that comes next. The steps that may follow are not fewer than
those that are left. -/
structure Routed (w : Workflow) (left : Nat) (e : Execution) (id : String) : Prop where
  path : w.IsPath (e.ids ++ [id])
  budget : w.maxSteps.toNat ≤ left + e.steps.length

/-- A path is never longer than the workflow, so a step is always left. -/
theorem Routed.left_ne_zero (h : Routed w left r.execution id) (hw : w.Sound) : left ≠ 0 := by
  have hlen := h.path.length_le hw
  have hbound := hw.bounded
  have hbudget := h.budget
  rw [List.length_append, List.length_singleton, Execution.ids, List.length_map] at hlen
  omega

theorem ids_of_steps {e e' : Execution} {record : StepRecord} (found : w.step? id = some step)
    (hid : record.stepId = step.id) (hsteps : e'.steps = e.steps ++ [record]) :
    e'.ids = e.ids ++ [id] := by
  rw [Execution.ids, hsteps, List.map_append, List.map_singleton, hid,
    (Workflow.step?_eq_some found).2, Execution.ids]

theorem Walks.route {outcome : Except WorkflowError Unit} (h : Walks engine w left id r outcome r')
    (hw : w.Sound) (hl : ∀ s ∈ w.steps, s.LiteralBranches) (hb : engine.BranchesAsBuilt)
    (ht : r.execution.Tallied w left) (hr : Routed w left r.execution id) :
    w.IsPath r'.execution.ids ∧
      ∀ e, outcome = .error e → e.code ∉ WorkflowError.lostCodes := by
  induction h with
  | limit => exact absurd rfl (hr.left_ne_zero hw)
  | barred bar =>
    rw [barrier_execution]
    refine ⟨hr.path.init, fun e he => ?_⟩
    obtain rfl := Except.error.inj he
    rcases barrier_error bar with rfl | ⟨limit, rfl⟩
    · simp [WorkflowError.lostCodes, WorkflowError.code]
    · simp [WorkflowError.lostCodes, WorkflowError.code]
  | @missing _ id _ _ missing =>
    exact absurd (hr.path.declares hw id (by simp)) (Workflow.step?_eq_none_iff.mp missing)
  | stopped _ found ends =>
    obtain ⟨record, hc, hid, -, hsteps⟩ := ends.adds ht
    rw [ids_of_steps found hid hsteps]
    refine ⟨hr.path, fun e he => ?_⟩
    obtain rfl := Except.error.inj he
    rcases hc.stops rfl with ⟨-, blames⟩ | ⟨-, rfl⟩
    · exact blames.not_lost
    · simp [WorkflowError.lostCodes, WorkflowError.code]
  | finished _ found ends =>
    obtain ⟨record, -, hid, -, hsteps⟩ := ends.adds ht
    rw [ids_of_steps found hid hsteps]
    refine ⟨hr.path, fun e he => ?_⟩
    cases he
  | @hop left id next step _ _ _ _ _ found ends _ ih =>
    obtain ⟨record, -, hid, ht', hsteps⟩ := ends.adds ht
    have hstep := (Workflow.step?_eq_some found).1
    have hnext : w.Leads id next :=
      ⟨step, found, Step.mem_outgoing.mpr (ends.names (hl step hstep) hb rfl)⟩
    refine ih ht' ⟨?_, ?_⟩
    · rw [ids_of_steps found hid hsteps]
      exact hr.path.extend hnext
    · have hbudget := hr.budget
      rw [hsteps, List.length_append, List.length_singleton]
      omega

theorem begin_routed (engine : Engine σ) (w : Workflow) (request : Request) (clock : Clock)
    (world : σ) (report : Report) :
    Routed w w.maxSteps.toNat (engine.begin w request clock world report).execution
      w.entryStepId :=
  ⟨w.isPath_entry, Nat.le_add_right _ _⟩

theorem finish_route {outcome : Except WorkflowError Unit} (ht : r.execution.Tallied w left) :
    (engine.finish outcome r).execution.ids = r.execution.ids ∧
      ∀ code, (engine.finish outcome r).execution.errorCode? = some code →
        ∃ e, outcome = .error e ∧ e.code = code := by
  cases outcome with
  | ok =>
    have same := sameSteps_complete r.execution (engine.now r.world)
    refine ⟨congrArg (List.map _) same.steps, fun code hcode => ?_⟩
    have herror := (complete_error ht.status (engine.now r.world)).trans ht.error
    rw [errorCode?, show (engine.finish (.ok ()) r).execution.error = none from herror] at hcode
    cases hcode
  | error e =>
    have same := sameSteps_fail r.execution e (engine.now r.world)
    refine ⟨congrArg (List.map _) same.steps, fun code hcode => ⟨e, rfl, ?_⟩⟩
    have herror := fail_error ht.status e (engine.now r.world)
    rw [errorCode?, show (engine.finish (.error e) r).execution.error = _ from herror] at hcode
    exact Option.some.inj hcode

theorem Executes.route {request : Request} {clock : Clock} {world : σ}
    (h : Executes engine w request clock world r) (hw : w.Sound)
    (hl : ∀ s ∈ w.steps, s.LiteralBranches) (hb : engine.BranchesAsBuilt) :
    w.IsPath r.execution.ids ∧
      ∀ code, r.execution.errorCode? = some code → code ∉ WorkflowError.lostCodes := by
  have ht := begin_tallied engine w request clock world w.validate
  cases h with
  | refused invalid =>
    have hvalid := Workflow.valid_iff_findings_eq_nil.mpr (Workflow.findings_eq_nil_iff.mpr hw)
    rw [hvalid] at invalid
    cases invalid
  | walked _ walks =>
    obtain ⟨hpath, hcodes⟩ := walks.route hw hl hb ht
      (begin_routed engine w request clock world w.validate)
    obtain ⟨⟨_, ht'⟩, -⟩ := walks.halts ht fun _ h => absurd h List.not_mem_nil
    obtain ⟨hids, hend⟩ := finish_route ht'
    rw [hids]
    refine ⟨hpath, fun code hcode => ?_⟩
    obtain ⟨e, houtcome, rfl⟩ := hend code hcode
    exact hcodes e houtcome

/-- A run of a valid workflow follows the declared edges from the entry on, it meets no step twice,
and it does not get lost. -/
theorem execute_route (engine : Engine σ) (w : Workflow) (request : Request) (clock : Clock)
    (world : σ) (valid : w.validate.valid = true) (literal : ∀ s ∈ w.steps, s.LiteralBranches)
    (built : engine.BranchesAsBuilt) :
    let e := (engine.execute w request clock world).execution
    w.IsPath e.ids ∧ e.ids.Nodup ∧
      ∀ code, e.errorCode? = some code → code ∉ WorkflowError.lostCodes := by
  have hw := Workflow.sound_of_valid valid
  obtain ⟨hpath, hcodes⟩ := (executes_execute engine w request clock world).route hw literal built
  exact ⟨hpath, hpath.nodup hw, hcodes⟩

/-! ## A workflow that branches -/

/-- A check that leads to an answer if it holds. -/
def branching : Workflow where
  id := ⟨"branching", by decide⟩
  entryStepId := "check"
  steps := [
    { id := "check", stepType := conditionalType,
      params := .object [(conditionParam, .string "true"), (onTrueParam, .string "answer")] },
    { id := "answer", stepType := "completion" }]

/-- An engine that can check but cannot answer. -/
def checking : Engine Unit where
  registry := Registry.empty.register conditionalType Conditional.handler
  now _ := Timestamp.ofUnixNanos 0
  elapsedNanos _ := 0

theorem branching_names {s : Step} (hs : s ∈ branching.steps) (target : String) :
    s.Names target ↔ s.id = "check" ∧ target = "answer" := by
  simp only [branching, List.mem_cons, List.not_mem_nil, or_false] at hs
  rcases hs with rfl | rfl
  · simp [Step.Names, Step.isConditional, Step.stringParam?, Json.get?, Named.lookup,
      conditionParam, onTrueParam, onFalseParam, Json.string?, eq_comm]
  · simp [Step.Names, Step.isConditional, conditionalType]

theorem branching_sound : branching.Sound := by
  refine Workflow.sound_of_pair rfl rfl (by decide) (by decide) (fun target => ?_) fun target => ?_
  · rw [branching_names List.mem_cons_self]
    exact and_iff_right rfl
  · rw [branching_names (List.mem_cons_of_mem _ List.mem_cons_self)]
    exact fun h => absurd h.1 (by decide)

theorem branching_literal : ∀ s ∈ branching.steps, s.LiteralBranches := by
  intro s hs hc holds target ht
  have hnames : s.Names target := Step.names_of_branch hc ht
  rw [((branching_names hs target).mp hnames).2]
  simp [Template.hasPlaceholders, Template.pieces]

theorem execute_route_branching :
    branching.validate.valid = true ∧ (∀ s ∈ branching.steps, s.LiteralBranches) ∧
      checking.BranchesAsBuilt ∧
      let e := (checking.execute branching ⟨"run", "tenant", .null⟩ {} ()).execution
      branching.IsPath e.ids ∧ e.ids.Nodup ∧
        ∀ code, e.errorCode? = some code → code ∉ WorkflowError.lostCodes := by
  have valid : branching.validate.valid = true :=
    Workflow.valid_iff_findings_eq_nil.mpr (Workflow.findings_eq_nil_iff.mpr branching_sound)
  have built : checking.BranchesAsBuilt := fun _ h => (Option.some.inj h).symm
  exact ⟨valid, branching_literal, built,
    execute_route checking branching _ {} () valid branching_literal built⟩

end Engine

end Stepwise
