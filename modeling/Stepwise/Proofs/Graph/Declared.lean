import Mathlib.Data.List.Nodup
import Mathlib.Logic.Relation
import Stepwise.Workflow.Graph

/-! # The graph that a workflow declares -/

namespace Stepwise

/-! ## Steps -/

namespace Step

/-- The step gives another one as a step that may come next. -/
def Names (s : Step) (target : String) : Prop :=
  s.nextStepId = some target ∨ s.onSuccess = some target ∨ s.onFailure = some target ∨
    (s.isConditional = true ∧
      (s.stringParam? onTrueParam = some target ∨ s.stringParam? onFalseParam = some target))

theorem mem_branchTargets {s : Step} {target : String} :
    target ∈ s.branchTargets ↔ s.isConditional = true ∧
      (s.stringParam? onTrueParam = some target ∨ s.stringParam? onFalseParam = some target) := by
  unfold branchTargets
  split
  · rename_i h
    simp only [List.mem_append, Option.mem_toList, h, true_and]
  · rename_i h
    simp only [List.not_mem_nil, h, Bool.false_eq_true, false_and]

theorem mem_outgoing {s : Step} {target : String} : target ∈ s.outgoing ↔ s.Names target := by
  simp only [outgoing, edges, List.map_append, List.map_map, List.mem_append, List.mem_map,
    Function.comp_apply, exists_eq_right, Option.mem_toList, mem_branchTargets, Names, or_assoc]

end Step

/-! ## Ids -/

namespace Workflow

def Declares (w : Workflow) (id : String) : Prop := ∃ s ∈ w.steps, s.id = id

theorem declares_of_mem {w : Workflow} {s : Step} (h : s ∈ w.steps) : w.Declares s.id := ⟨s, h, rfl⟩

theorem declares_iff_mem_map {w : Workflow} {id : String} :
    w.Declares id ↔ id ∈ w.steps.map Step.id := by
  simp only [Declares, List.mem_map]

theorem step?_eq_some {w : Workflow} {id : String} {s : Step} (h : w.step? id = some s) :
    s ∈ w.steps ∧ s.id = id :=
  ⟨List.mem_of_find?_eq_some h, by simpa using List.find?_some h⟩

theorem step?_eq_none_iff {w : Workflow} {id : String} : w.step? id = none ↔ ¬ w.Declares id := by
  simp only [step?, List.find?_eq_none, beq_iff_eq, Declares, not_exists, not_and]

theorem step?_of_mem {w : Workflow} (hd : (w.steps.map Step.id).Nodup) {s : Step}
    (h : s ∈ w.steps) : w.step? s.id = some s := by
  cases hs : w.step? s.id with
  | none => exact absurd (declares_of_mem h) (step?_eq_none_iff.mp hs)
  | some t =>
    obtain ⟨ht, hid⟩ := step?_eq_some hs
    rw [List.inj_on_of_nodup_map hd ht h hid]

/-- A step with the first id names the second one. -/
def Edge (w : Workflow) (a b : String) : Prop := ∃ s ∈ w.steps, s.id = a ∧ s.Names b

end Workflow

/-! ## The graph -/

namespace Graph

def Edge (g : Graph) (a b : String) : Prop := b ∈ g.successors a

/-- Every id has its place in the order once, and all edges lead to ids. -/
structure WellFormed (g : Graph) : Prop where
  nodup : g.order.Nodup
  edge : ∀ {a b : String}, g.Edge a b → a ∈ g.order ∧ b ∈ g.order

theorem contains_foldl_insert (steps : List Step) (ids : Std.HashSet String) (id : String) :
    (steps.foldl (fun ids s => ids.insert s.id) ids).contains id = true ↔
      ids.contains id = true ∨ ∃ s ∈ steps, s.id = id := by
  induction steps generalizing ids with
  | nil => simp
  | cons s rest ih =>
    rw [List.foldl_cons, ih, Std.HashSet.contains_insert]
    simp only [Bool.or_eq_true, beq_iff_eq, List.mem_cons, exists_eq_or_imp]
    tauto

theorem contains_declared {w : Workflow} {id : String} :
    (declared w).contains id = true ↔ w.Declares id := by
  rw [declared, contains_foldl_insert, Std.HashSet.contains_empty]
  simp only [Bool.false_eq_true, false_or, Workflow.Declares]

/-- The successors of a step that is not there yet. -/
def targets (ids : Std.HashSet String) (s : Step) : List String := s.outgoing.filter ids.contains

theorem getElem?_addStep (ids : Std.HashSet String) (g : Graph) (s : Step) (id : String) :
    (addStep ids g s).edges[id]? =
      g.edges[id]?.or (if s.id == id then some (targets ids s) else none) := by
  unfold addStep
  split
  · rename_i h
    rw [Std.HashMap.contains_eq_isSome_getElem?] at h
    obtain ⟨v, hv⟩ := Option.isSome_iff_exists.mp h
    by_cases hid : s.id = id
    · rw [← hid, hv, Option.some_or]
    · simp only [beq_iff_eq, hid, if_false, Option.or_none]
  · rename_i h
    rw [Std.HashMap.contains_eq_isSome_getElem?, Bool.not_eq_true, Option.isSome_eq_false_iff,
      Option.isNone_iff_eq_none] at h
    rw [Std.HashMap.getElem?_insert]
    by_cases hid : s.id = id
    · rw [← hid, h, Option.none_or, if_pos BEq.rfl, if_pos BEq.rfl]
      rfl
    · simp only [beq_iff_eq, hid, if_false, Option.or_none]

theorem getElem?_foldl_addStep (ids : Std.HashSet String) (steps : List Step) (g : Graph)
    (id : String) :
    (steps.foldl (addStep ids) g).edges[id]? =
      g.edges[id]?.or ((steps.find? (·.id == id)).map (targets ids)) := by
  induction steps generalizing g with
  | nil => simp
  | cons s rest ih =>
    rw [List.foldl_cons, ih, getElem?_addStep, List.find?_cons]
    cases hs : s.id == id with
    | true => cases g.edges[id]? <;> rfl
    | false => rw [if_neg (by simp), Option.or_none]

theorem successors_ofWorkflow (w : Workflow) (id : String) :
    (ofWorkflow w).successors id = ((w.step? id).map (targets (declared w))).getD [] := by
  simp only [successors, ofWorkflow, Std.HashMap.getD_eq_getD_getElem?, getElem?_foldl_addStep,
    Std.HashMap.getElem?_empty, Option.none_or, Workflow.step?]

theorem edge_ofWorkflow {w : Workflow} {a b : String} :
    (ofWorkflow w).Edge a b ↔ ∃ s, w.step? a = some s ∧ s.Names b ∧ w.Declares b := by
  unfold Edge
  rw [successors_ofWorkflow]
  cases w.step? a with
  | none => simp
  | some s =>
    simp [targets, List.mem_filter, Step.mem_outgoing, ← contains_declared]

/-! ## The order of the ids -/

/-- The ids that have successors are those in the order, each once. -/
def Aligned (g : Graph) : Prop :=
  g.order.Nodup ∧ ∀ id, id ∈ g.order ↔ g.edges.contains id = true

theorem Aligned.addStep {g : Graph} (h : g.Aligned) (ids : Std.HashSet String) (s : Step) :
    (addStep ids g s).Aligned := by
  obtain ⟨hn, hm⟩ := h
  unfold Graph.addStep
  split
  · exact ⟨hn, hm⟩
  · rename_i hs
    refine ⟨List.nodup_cons.mpr ⟨fun h => hs ((hm s.id).mp h), hn⟩, fun id => ?_⟩
    rw [List.mem_cons, hm, Std.HashMap.contains_insert, Bool.or_eq_true, beq_iff_eq, eq_comm]

theorem Aligned.foldl_addStep {g : Graph} (h : g.Aligned) (ids : Std.HashSet String)
    (steps : List Step) : (steps.foldl (Graph.addStep ids) g).Aligned := by
  induction steps generalizing g with
  | nil => exact h
  | cons s rest ih => exact ih (h.addStep ids s)

theorem aligned_ofWorkflow (w : Workflow) : (ofWorkflow w).Aligned := by
  have h : Aligned ⟨∅, []⟩ := ⟨List.nodup_nil, by simp⟩
  obtain ⟨hn, hm⟩ := h.foldl_addStep (declared w) w.steps
  exact ⟨List.nodup_reverse.mpr hn, fun id => by simpa [ofWorkflow] using hm id⟩

theorem mem_order_ofWorkflow {w : Workflow} {id : String} :
    id ∈ (ofWorkflow w).order ↔ w.Declares id := by
  have h : (ofWorkflow w).edges[id]? = (w.step? id).map (targets (declared w)) := by
    simp only [ofWorkflow, getElem?_foldl_addStep, Std.HashMap.getElem?_empty, Option.none_or,
      Workflow.step?]
  rw [(aligned_ofWorkflow w).2, Std.HashMap.contains_eq_isSome_getElem?, h, Option.isSome_map,
    Option.isSome_iff_ne_none, ne_eq, Workflow.step?_eq_none_iff, not_not]

theorem wellFormed_ofWorkflow (w : Workflow) : (ofWorkflow w).WellFormed where
  nodup := (aligned_ofWorkflow w).1
  edge h := by
    obtain ⟨s, hs, -, hb⟩ := edge_ofWorkflow.mp h
    obtain ⟨hmem, rfl⟩ := Workflow.step?_eq_some hs
    exact ⟨mem_order_ofWorkflow.mpr (Workflow.declares_of_mem hmem), mem_order_ofWorkflow.mpr hb⟩

/-! ## Ids that are left -/

/-- The ids of the order that are left when some are gone. -/
def remaining (g : Graph) (gone : String → Bool) : List String := g.order.filter fun id => !gone id

theorem mem_remaining {g : Graph} {gone : String → Bool} {id : String} :
    id ∈ g.remaining gone ↔ id ∈ g.order ∧ gone id = false := by
  simp only [remaining, List.mem_filter, Bool.not_eq_true']

theorem WellFormed.remaining_perm {g : Graph} (h : g.WellFormed) (gone gone' : String → Bool)
    {a : String} (ha : a ∈ g.order) (hg : gone a = false)
    (hg' : ∀ id, gone' id = (a == id || gone id)) :
    (g.remaining gone).Perm (a :: g.remaining gone') := by
  have herase : g.remaining gone' = (g.remaining gone).erase a := by
    rw [remaining, remaining, (h.nodup.filter _).erase_eq_filter, List.filter_filter]
    apply List.filter_congr
    intro id _
    rw [hg', Bool.not_or, BEq.comm]
    rfl
  rw [herase]
  exact List.perm_cons_erase (mem_remaining.mpr ⟨ha, hg⟩)

end Graph

end Stepwise
