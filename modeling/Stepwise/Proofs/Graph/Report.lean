import Stepwise.Proofs.Graph.Cycles
import Stepwise.Proofs.Graph.Reachability
import Stepwise.Workflow.Validation

/-! # What the searches report -/

namespace Stepwise

open Relation

/-! ## Loops -/

/-- A loop goes on as long as it is busy, and it ends in the last state. -/
inductive While {α : Type} (busy : α → Prop) (step : α → α) : α → α → Prop where
  | done {s : α} (idle : ¬ busy s) : While busy step s s
  | again {s last : α} (more : busy s) (rest : While busy step (step s) last) :
      While busy step s last

namespace Workflow

/-- The first step with an id names a step that exists. -/
def LeadsTo (w : Workflow) (a b : String) : Prop :=
  ∃ s, w.step? a = some s ∧ s.Names b ∧ w.Declares b

/-- The texts about cycles. -/
def cycleMessages (w : Workflow) : List String :=
  ((Graph.ofWorkflow w).cycles w.entryStepId).map fun path => (Finding.cycle path).message

end Workflow

namespace Graph

theorem edge_eq_leadsTo (w : Workflow) : (ofWorkflow w).Edge = w.LeadsTo := by
  funext a b
  exact propext edge_ofWorkflow

/-! ## The search for cycles -/

theorem Search.while_run {g : Graph} {n : Nat} {s : Search} (h : (run g n s).frames = []) :
    While (fun s => s.frames ≠ []) (step g) s (run g n s) := by
  induction n generalizing s with
  | zero => exact .done (not_not.mpr h)
  | succ n ih =>
    unfold run at h ⊢
    split at h
    · exact .done (not_not.mpr h)
    · rename_i hframes
      exact .again (by rw [hframes]; exact List.cons_ne_nil _ _) (ih h)

/-- The search for cycles comes to its end, and its answer is what it has found by then. -/
theorem while_cycles {g : Graph} (hg : g.WellFormed) {entry : String} (hentry : entry ∈ g.order) :
    ∃ last, While (fun s => s.frames ≠ []) (Search.step g) (Search.start g entry) last ∧
      last.cycles.reverse = g.cycles entry := by
  have hframes := Search.frames_run hg (Search.Inv.init g entry) (Search.work_start hg hentry).le
  exact ⟨_, Search.while_run hframes, rfl⟩

theorem IsCycle.exists_eq {w : Workflow} {path : List String} (h : (ofWorkflow w).IsCycle path) :
    ∃ v middle, path = v :: middle ++ [v] ∧ (v :: middle).Nodup ∧
      (v :: middle ++ [v]).IsChain w.LeadsTo := by
  obtain ⟨v, middle, rfl, hnodup⟩ := h.closed
  have hchain := h.chain
  rw [edge_eq_leadsTo] at hchain
  exact ⟨v, middle, rfl, hnodup, hchain⟩

end Graph

/-- What the search for cycles says about a workflow. -/
structure Workflow.CyclesFound (w : Workflow) : Prop where
  /-- The search ends, whatever the graph is like. -/
  ends : ∃ last : Graph.Search,
    While (fun s => s.frames ≠ []) (Graph.Search.step (Graph.ofWorkflow w))
      (Graph.Search.start (Graph.ofWorkflow w) w.entryStepId) last ∧
    last.cycles.reverse = (Graph.ofWorkflow w).cycles w.entryStepId
  /-- There is a report exactly if the entry leads to an id that leads back to itself. -/
  some_iff : w.cycleMessages ≠ [] ↔
    ∃ v, ReflTransGen w.LeadsTo w.entryStepId v ∧ TransGen w.LeadsTo v v
  /-- A report names the ids of one cycle in their order. -/
  messages : ∀ message ∈ w.cycleMessages, ∃ v middle,
    message = "Cycle detected: " ++ " -> ".intercalate (v :: middle ++ [v]) ∧
    (v :: middle).Nodup ∧ (v :: middle ++ [v]).IsChain w.LeadsTo ∧
    ReflTransGen w.LeadsTo w.entryStepId v

/-- A check that goes back to its beginning until it succeeds, and a step that nothing leads to. -/
def Workflow.repeating : Workflow where
  id := ⟨"repeating", by decide⟩
  entryStepId := "ask"
  steps := [
    { id := "ask", stepType := "completion", nextStepId := some "check" },
    { id := "spare", stepType := "echo", nextStepId := some "done" },
    { id := "check", stepType := conditionalType,
      params := .object [(onTrueParam, .string "done"), (onFalseParam, .string "ask")] },
    { id := "spare", stepType := "echo" },
    { id := "done", stepType := "echo", onFailure := some "nowhere" }]

theorem Workflow.repeating_entry : repeating.Declares repeating.entryStepId :=
  ⟨_, List.mem_cons_self, rfl⟩

/-- The search for cycles is sound and complete, and it ends. -/
theorem Workflow.cycles_found {w : Workflow} (entry : w.Declares w.entryStepId) :
    w.CyclesFound := by
  have hg := Graph.wellFormed_ofWorkflow w
  have hentry := Graph.mem_order_ofWorkflow.mpr entry
  refine ⟨Graph.while_cycles hg hentry, ?_, fun message hmessage => ?_⟩
  · have hnone := Graph.cycles_eq_nil_iff hg hentry
    rw [Graph.edge_eq_leadsTo] at hnone
    rw [cycleMessages, ne_eq, List.map_eq_nil_iff, hnone]
    simp only [not_forall, not_not, exists_prop]
  · obtain ⟨path, hpath, rfl⟩ := List.mem_map.mp hmessage
    obtain ⟨hcycle, hreach⟩ := Graph.isCycle_of_mem_cycles hpath
    obtain ⟨v, middle, rfl, hnodup, hchain⟩ := hcycle.exists_eq
    rw [Graph.edge_eq_leadsTo] at hreach
    exact ⟨v, middle, rfl, hnodup, hchain, hreach v rfl⟩

theorem Workflow.cycles_found_repeating :
    repeating.Declares repeating.entryStepId ∧ repeating.CyclesFound :=
  ⟨repeating_entry, cycles_found repeating_entry⟩

example : (Graph.ofWorkflow Workflow.repeating).cycles "ask" = [["ask", "check", "ask"]] := by cbv

namespace Graph

/-! ## The search for reachable ids -/

/-- Looks at the successors of one id. -/
def Spread.step (g : Graph) (s : Spread) : Spread :=
  match s.todo with
  | [] => s
  | id :: rest => (g.successors id).foldl visit { s with todo := rest }

theorem Spread.while_run {g : Graph} {n : Nat} {s : Spread} (h : (run g n s).todo = []) :
    While (fun s => s.todo ≠ []) (step g) s (run g n s) := by
  induction n generalizing s with
  | zero => exact .done (not_not.mpr h)
  | succ n ih =>
    unfold run at h ⊢
    split at h
    · rename_i htodo
      exact .done (not_not.mpr htodo)
    · rename_i htodo
      refine .again (by rw [htodo]; exact List.cons_ne_nil _ _) ?_
      rw [step, htodo]
      exact ih h

theorem while_reachable {g : Graph} (hg : g.WellFormed) {entry : String}
    (hentry : entry ∈ g.order) :
    ∃ last, While (fun s => s.todo ≠ []) (Spread.step g)
        ⟨(∅ : Std.HashSet String).insert entry, [entry]⟩ last ∧
      last.reached = g.reachable entry :=
  ⟨_, Spread.while_run (todo_reachable hg hentry), rfl⟩

/-! ## The order of the declarations -/

theorem contains_foldl_addStep (ids : Std.HashSet String) (steps : List Step) (id : String) :
    (steps.foldl (addStep ids) ⟨∅, []⟩).edges.contains id = true ↔ id ∈ steps.map Step.id := by
  rw [Std.HashMap.contains_eq_isSome_getElem?, getElem?_foldl_addStep, Std.HashMap.getElem?_empty,
    Option.none_or, Option.isSome_map, List.find?_isSome, List.mem_map]
  simp only [beq_iff_eq]

/-- The ids are collected from the last to the first of their first declarations. -/
theorem pairwise_foldl_addStep (ids : Std.HashSet String) (steps : List Step) :
    (steps.foldl (addStep ids) ⟨∅, []⟩).order.Pairwise fun b a =>
      (steps.map Step.id).idxOf a < (steps.map Step.id).idxOf b := by
  -- by induction on the steps from the end: a step that comes last does not move the others
  induction steps using List.reverseRecOn with
  | nil => exact List.Pairwise.nil
  | append_singleton steps s ih =>
    have haligned : (steps.foldl (addStep ids) ⟨∅, []⟩).Aligned :=
      Aligned.foldl_addStep ⟨List.nodup_nil, by simp⟩ ids steps
    have hcontains := contains_foldl_addStep ids steps
    rw [List.foldl_concat, List.map_append, List.map_singleton]
    generalize steps.foldl (addStep ids) ⟨∅, []⟩ = g at ih haligned hcontains ⊢
    have hmem : ∀ id ∈ g.order, id ∈ steps.map Step.id := fun id hid =>
      (hcontains id).mp ((haligned.2 id).mp hid)
    have hold : g.order.Pairwise fun b a =>
        (steps.map Step.id ++ [s.id]).idxOf a < (steps.map Step.id ++ [s.id]).idxOf b :=
      ih.imp_of_mem fun hb ha hlt => by
        rwa [List.idxOf_append_of_mem (hmem _ ha), List.idxOf_append_of_mem (hmem _ hb)]
    unfold addStep
    split
    · exact hold
    · rename_i hfresh
      rw [hcontains] at hfresh
      refine List.pairwise_cons.mpr ⟨fun a ha => ?_, hold⟩
      rw [List.idxOf_append_of_mem (hmem a ha), List.idxOf_append_of_notMem hfresh]
      exact Nat.lt_add_right _ (List.idxOf_lt_length_of_mem (hmem a ha))

end Graph

/-- The first declaration of the one id comes before that of the other. -/
def Workflow.DeclaredBefore (w : Workflow) (a b : String) : Prop :=
  (w.steps.map Step.id).idxOf a < (w.steps.map Step.id).idxOf b

theorem Graph.pairwise_order_ofWorkflow (w : Workflow) :
    (ofWorkflow w).order.Pairwise w.DeclaredBefore :=
  List.pairwise_reverse.mpr (pairwise_foldl_addStep (declared w) w.steps)

/-- What the search for reachable ids leaves. -/
structure Workflow.UnreachableFound (w : Workflow) : Prop where
  /-- The search ends, whatever the graph is like. -/
  ends : ∃ last : Graph.Spread,
    While (fun s => s.todo ≠ []) (Graph.Spread.step (Graph.ofWorkflow w))
      ⟨(∅ : Std.HashSet String).insert w.entryStepId, [w.entryStepId]⟩ last ∧
    last.reached = (Graph.ofWorkflow w).reachable w.entryStepId
  mem_iff : ∀ id, id ∈ (Graph.ofWorkflow w).unreachable w.entryStepId ↔
    w.Declares id ∧ ¬ ReflTransGen w.LeadsTo w.entryStepId id
  once : ((Graph.ofWorkflow w).unreachable w.entryStepId).Nodup
  ordered : ((Graph.ofWorkflow w).unreachable w.entryStepId).Pairwise w.DeclaredBefore

/-- The ids that are reported as unreachable are exactly those, each once and in order. -/
theorem Workflow.unreachable_found {w : Workflow} (entry : w.Declares w.entryStepId) :
    w.UnreachableFound := by
  have hg := Graph.wellFormed_ofWorkflow w
  have hentry := Graph.mem_order_ofWorkflow.mpr entry
  refine ⟨Graph.while_reachable hg hentry, fun id => ?_, hg.nodup.filter _,
    (Graph.pairwise_order_ofWorkflow w).filter _⟩
  rw [Graph.mem_unreachable hg hentry, Graph.mem_order_ofWorkflow, Graph.edge_eq_leadsTo]

theorem Workflow.unreachable_found_repeating :
    repeating.Declares repeating.entryStepId ∧ repeating.UnreachableFound :=
  ⟨repeating_entry, unreachable_found repeating_entry⟩

example : (Graph.ofWorkflow Workflow.repeating).unreachable "ask" = ["spare"] := by cbv

end Stepwise
