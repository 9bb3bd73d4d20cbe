import Stepwise.Proofs.Graph.Declared
import Stepwise.Proofs.Run.Walk

/-! # Steps with the same id -/

namespace Stepwise

namespace Workflow

variable {w : Workflow} {id : String} {s : Step}

/-- The first of the declared steps with this id. -/
def FirstWith (w : Workflow) (id : String) (s : Step) : Prop :=
  ∃ before after, w.steps = before ++ s :: after ∧ s.id = id ∧ ∀ t ∈ before, t.id ≠ id

theorem step?_eq_some_iff : w.step? id = some s ↔ w.FirstWith id s := by
  rw [step?, List.find?_eq_some_iff_append]
  simp only [beq_iff_eq, Bool.not_eq_eq_eq_not, Bool.not_true, beq_eq_false_iff_ne]
  constructor
  · rintro ⟨hid, before, after, hsteps, hbefore⟩
    exact ⟨before, after, hsteps, hid, hbefore⟩
  · rintro ⟨before, after, hsteps, hid, hbefore⟩
    exact ⟨hid, before, after, hsteps, hbefore⟩

theorem hasStep_iff : w.hasStep id = true ↔ w.Declares id := by
  rw [hasStep, Option.isSome_iff_ne_none, ne_eq, step?_eq_none_iff, not_not]

theorem mem_index_iff : id ∈ w.index ↔ w.Declares id := by
  rw [Std.HashMap.mem_iff_isSome_getElem?, getElem?_index]
  exact hasStep_iff

end Workflow

namespace Graph

variable {w : Workflow} {id : String} {s : Step}

theorem contains_declared_eq_hasStep (w : Workflow) (id : String) :
    (declared w).contains id = w.hasStep id :=
  Bool.eq_iff_iff.mpr (contains_declared.trans Workflow.hasStep_iff.symm)

theorem mem_edges_iff : id ∈ (ofWorkflow w).edges ↔ w.Declares id := by
  rw [Std.HashMap.mem_iff_contains, ← (aligned_ofWorkflow w).2, mem_order_ofWorkflow]

theorem successors_of_firstWith (h : w.FirstWith id s) :
    (ofWorkflow w).successors id = s.outgoing.filter w.hasStep := by
  rw [successors_ofWorkflow, Workflow.step?_eq_some_iff.mpr h]
  exact List.filter_congr fun target _ => contains_declared_eq_hasStep w target

theorem successors_of_not_declares (h : ¬ w.Declares id) : (ofWorkflow w).successors id = [] := by
  rw [successors_ofWorkflow, Workflow.step?_eq_none_iff.mpr h]
  rfl

end Graph

namespace Workflow

/-- What is found under an id, wherever it is looked up. -/
structure SeenAlike (w : Workflow) (id : String) : Prop where
  first : ∀ s, w.step? id = some s ↔ w.FirstWith id s
  absent : w.step? id = none ↔ ¬ w.Declares id
  index : w.index[id]? = w.step? id
  keys : id ∈ w.index ↔ w.Declares id
  nodes : id ∈ (Graph.ofWorkflow w).edges ↔ w.Declares id
  successors : ∀ s, w.FirstWith id s →
    (Graph.ofWorkflow w).successors id = s.outgoing.filter w.hasStep
  no_successors : ¬ w.Declares id → (Graph.ofWorkflow w).successors id = []
  run : ∀ {σ : Type} (engine : Engine σ) (left : Nat) (r : Run σ),
    Engine.Walks engine w left id r (engine.walk w w.index left id r).1
      (engine.walk w w.index left id r).2

theorem seenAlike (w : Workflow) (id : String) : w.SeenAlike id where
  first _ := step?_eq_some_iff
  absent := step?_eq_none_iff
  index := w.getElem?_index id
  keys := mem_index_iff
  nodes := Graph.mem_edges_iff
  successors _ := Graph.successors_of_firstWith
  no_successors := Graph.successors_of_not_declares
  run engine left r := engine.walks_walk w left id r

end Workflow

end Stepwise
