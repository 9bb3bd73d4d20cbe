import Stepwise.Proofs.Graph.Cycles
import Stepwise.Proofs.Graph.Reachability
import Stepwise.Workflow.Validation

/-! # Valid workflows -/

namespace Stepwise

open Relation

namespace Workflow

/-- What the findings are about: the size, the ids, the targets and the graph. -/
structure Sound (w : Workflow) : Prop where
  nonempty : w.steps ≠ []
  bounded : w.steps.length ≤ w.maxSteps.toNat
  distinct : (w.steps.map Step.id).Nodup
  entry : w.Declares w.entryStepId
  targets : ∀ s ∈ w.steps, ∀ target, s.Names target → w.Declares target
  reachable : ∀ s ∈ w.steps, ReflTransGen w.Edge w.entryStepId s.id
  acyclic : ∀ id, ¬ TransGen w.Edge id id

/-! ## The findings one by one -/

theorem sizeFindings_eq_nil_iff {w : Workflow} :
    w.sizeFindings = [] ↔ w.steps ≠ [] ∧ w.steps.length ≤ w.maxSteps.toNat := by
  unfold sizeFindings
  split
  · rename_i h
    exact iff_of_false (List.cons_ne_nil _ _) fun hne => hne.1 (List.isEmpty_iff.mp h)
  · rename_i h
    have hne : w.steps ≠ [] := fun hnil => h (List.isEmpty_iff.mpr hnil)
    split
    · rename_i hmany
      exact iff_of_false (List.cons_ne_nil _ _) fun hfew => absurd hfew.2 (by omega)
    · rename_i hfew
      exact iff_of_true rfl ⟨hne, by omega⟩

theorem repeatedIds_eq_nil_iff {seen : Std.HashSet String} {ids : List String} :
    repeatedIds seen ∅ ids = [] ↔ ids.Nodup ∧ ∀ id ∈ ids, seen.contains id = false := by
  induction ids generalizing seen with
  | nil => exact iff_of_true rfl ⟨List.nodup_nil, fun _ h => absurd h List.not_mem_nil⟩
  | cons id rest ih =>
    rw [repeatedIds, Std.HashSet.contains_empty, Bool.not_false, Bool.and_true]
    cases hseen : seen.contains id with
    | true =>
      rw [if_pos rfl]
      refine iff_of_false (List.cons_ne_nil _ _) fun h => ?_
      rw [h.2 id List.mem_cons_self] at hseen
      exact Bool.false_ne_true hseen
    | false =>
      rw [if_neg Bool.false_ne_true, ih, List.nodup_cons]
      constructor
      · rintro ⟨hnodup, hfresh⟩
        have hnot : ∀ x ∈ rest, id ≠ x ∧ seen.contains x = false := fun x hx => by
          simpa [Std.HashSet.contains_insert] using hfresh x hx
        refine ⟨⟨fun hmem => (hnot id hmem).1 rfl, hnodup⟩, fun x hx => ?_⟩
        rcases List.mem_cons.mp hx with rfl | hx
        · exact hseen
        · exact (hnot x hx).2
      · rintro ⟨⟨hnot, hnodup⟩, hfresh⟩
        refine ⟨hnodup, fun x hx => ?_⟩
        rw [Std.HashSet.contains_insert, hfresh x (List.mem_cons_of_mem _ hx), Bool.or_false]
        exact beq_eq_false_iff_ne.mpr fun hid => hnot (hid ▸ hx)

theorem duplicateFindings_eq_nil_iff {w : Workflow} :
    w.duplicateFindings = [] ↔ (w.steps.map Step.id).Nodup := by
  rw [duplicateFindings, List.map_eq_nil_iff, repeatedIds_eq_nil_iff]
  exact and_iff_left fun _ _ => Std.HashSet.contains_empty

theorem entryFindings_eq_nil_iff {w : Workflow} (hne : w.steps ≠ []) :
    w.entryFindings (Graph.declared w) = [] ↔ w.Declares w.entryStepId := by
  have hsteps : w.steps.isEmpty = false := by
    rw [← Bool.not_eq_true, List.isEmpty_iff]
    exact hne
  rw [entryFindings, hsteps, ← Graph.contains_declared]
  cases (Graph.declared w).contains w.entryStepId <;> simp

theorem danglingEdges_eq_nil_iff {w : Workflow} {s : Step} :
    danglingEdges (Graph.declared w) s = [] ↔ ∀ target, s.Names target → w.Declares target := by
  simp only [danglingEdges, List.map_eq_nil_iff, List.filter_eq_nil_iff, Bool.not_eq_true',
    Bool.not_eq_false, Graph.contains_declared, ← Step.mem_outgoing, Step.outgoing, List.mem_map]
  constructor
  · rintro h target ⟨edge, hedge, rfl⟩
    exact h edge hedge
  · exact fun h edge hedge => h edge.2 ⟨edge, hedge, rfl⟩

theorem graphFindings_eq_nil_iff {w : Workflow} (hentry : w.Declares w.entryStepId) :
    w.graphFindings (Graph.declared w) = [] ↔
      (Graph.ofWorkflow w).cycles w.entryStepId = [] ∧
        (Graph.ofWorkflow w).unreachable w.entryStepId = [] := by
  rw [graphFindings, if_pos (Graph.contains_declared.mpr hentry)]
  simp only [List.append_eq_nil_iff, List.map_eq_nil_iff]

/-! ## All findings -/

theorem edge_ofWorkflow_eq {w : Workflow} (hd : (w.steps.map Step.id).Nodup)
    (ht : ∀ s ∈ w.steps, ∀ target, s.Names target → w.Declares target) :
    (Graph.ofWorkflow w).Edge = w.Edge := by
  funext a b
  apply propext
  rw [Graph.edge_ofWorkflow]
  constructor
  · rintro ⟨s, hs, hb, -⟩
    obtain ⟨hmem, hid⟩ := step?_eq_some hs
    exact ⟨s, hmem, hid, hb⟩
  · rintro ⟨s, hmem, rfl, hb⟩
    exact ⟨s, step?_of_mem hd hmem, hb, ht s hmem b hb⟩

theorem unreachable_eq_nil_iff {w : Workflow} (hentry : w.Declares w.entryStepId) :
    (Graph.ofWorkflow w).unreachable w.entryStepId = [] ↔
      ∀ s ∈ w.steps, ReflTransGen (Graph.ofWorkflow w).Edge w.entryStepId s.id := by
  have hmem : ∀ id, id ∈ (Graph.ofWorkflow w).unreachable w.entryStepId ↔
      w.Declares id ∧ ¬ ReflTransGen (Graph.ofWorkflow w).Edge w.entryStepId id := fun id => by
    rw [Graph.mem_unreachable (Graph.wellFormed_ofWorkflow w)
      (Graph.mem_order_ofWorkflow.mpr hentry), Graph.mem_order_ofWorkflow]
  simp only [List.eq_nil_iff_forall_not_mem, hmem, not_and, not_not]
  constructor
  · exact fun h s hs => h s.id (declares_of_mem hs)
  · rintro h id ⟨s, hs, rfl⟩
    exact h s hs

/-- An edge starts at a step, and the entry leads to every step. So there are no cycles at all if
there are none that the entry leads to. -/
theorem cycles_eq_nil_iff {w : Workflow} (hentry : w.Declares w.entryStepId)
    (hreach : ∀ s ∈ w.steps, ReflTransGen (Graph.ofWorkflow w).Edge w.entryStepId s.id) :
    (Graph.ofWorkflow w).cycles w.entryStepId = [] ↔
      ∀ id, ¬ TransGen (Graph.ofWorkflow w).Edge id id := by
  rw [Graph.cycles_eq_nil_iff (Graph.wellFormed_ofWorkflow w)
    (Graph.mem_order_ofWorkflow.mpr hentry)]
  constructor
  · intro h id hloop
    obtain ⟨b, hedge, -⟩ := TransGen.head'_iff.mp hloop
    obtain ⟨s, hs, -⟩ := Graph.edge_ofWorkflow.mp hedge
    obtain ⟨hmem, rfl⟩ := step?_eq_some hs
    exact h s.id (hreach s hmem) hloop
  · exact fun h id _ => h id

theorem findings_eq_nil_iff {w : Workflow} : w.findings = [] ↔ w.Sound := by
  simp only [findings, List.append_eq_nil_iff, sizeFindings_eq_nil_iff,
    duplicateFindings_eq_nil_iff, List.flatMap_eq_nil_iff, danglingEdges_eq_nil_iff]
  constructor
  · rintro ⟨⟨⟨⟨⟨hne, hbound⟩, hdistinct⟩, hentry⟩, htargets⟩, hgraph⟩
    rw [entryFindings_eq_nil_iff hne] at hentry
    rw [graphFindings_eq_nil_iff hentry, unreachable_eq_nil_iff hentry] at hgraph
    obtain ⟨hcycles, hreach⟩ := hgraph
    rw [cycles_eq_nil_iff hentry hreach] at hcycles
    rw [edge_ofWorkflow_eq hdistinct htargets] at hcycles hreach
    exact ⟨hne, hbound, hdistinct, hentry, htargets, hreach, hcycles⟩
  · rintro ⟨hne, hbound, hdistinct, hentry, htargets, hreach, hcycles⟩
    rw [← edge_ofWorkflow_eq hdistinct htargets] at hcycles hreach
    refine ⟨⟨⟨⟨⟨hne, hbound⟩, hdistinct⟩, (entryFindings_eq_nil_iff hne).mpr hentry⟩, htargets⟩, ?_⟩
    rw [graphFindings_eq_nil_iff hentry, unreachable_eq_nil_iff hentry,
      cycles_eq_nil_iff hentry hreach]
    exact ⟨hcycles, hreach⟩

theorem valid_iff_findings_eq_nil {w : Workflow} : w.validate.valid = true ↔ w.findings = [] :=
  List.isEmpty_iff

theorem sound_of_valid {w : Workflow} (h : w.validate.valid = true) : w.Sound :=
  findings_eq_nil_iff.mp (valid_iff_findings_eq_nil.mp h)

/-- A workflow is valid exactly if it is sound, whatever it is warned about. -/
theorem validate_valid_iff_sound (w : Workflow) :
    (w.validate.valid = true ↔ w.Sound) ∧
      ∀ warnings, Report.valid { w.validate with warnings } = w.validate.valid :=
  ⟨valid_iff_findings_eq_nil.trans findings_eq_nil_iff, fun _ => rfl⟩

/-! ## A step and the one it leads to -/

theorem sound_of_pair {w : Workflow} {first last : Step} (hsteps : w.steps = [first, last])
    (hentry : w.entryStepId = first.id) (hbound : 2 ≤ w.maxSteps.toNat)
    (hne : first.id ≠ last.id) (hfirst : ∀ target, first.Names target ↔ target = last.id)
    (hlast : ∀ target, ¬last.Names target) : w.Sound := by
  have hmem : ∀ s, s ∈ w.steps ↔ s = first ∨ s = last := by
    simp only [hsteps, List.mem_cons, List.not_mem_nil, or_false, implies_true]
  have hnames : ∀ s ∈ w.steps, ∀ target, s.Names target → s = first ∧ target = last.id := by
    intro s hs target ht
    rcases (hmem s).mp hs with rfl | rfl
    · exact ⟨rfl, (hfirst target).mp ht⟩
    · exact absurd ht (hlast target)
  have hedge : ∀ {a b}, w.Edge a b → a = first.id ∧ b = last.id := by
    rintro a b ⟨s, hs, rfl, hb⟩
    obtain ⟨rfl, rfl⟩ := hnames s hs b hb
    exact ⟨rfl, rfl⟩
  have hlead : w.Edge first.id last.id :=
    ⟨first, (hmem first).mpr (Or.inl rfl), rfl, (hfirst last.id).mpr rfl⟩
  exact {
    nonempty := by
      rw [hsteps]
      exact List.cons_ne_nil _ _
    bounded := by
      rw [hsteps]
      exact hbound
    distinct := by
      rw [hsteps]
      simp [hne]
    entry := ⟨first, (hmem first).mpr (Or.inl rfl), hentry.symm⟩
    targets := fun s hs target ht =>
      ⟨last, (hmem last).mpr (Or.inr rfl), (hnames s hs target ht).2.symm⟩
    reachable := fun s hs => by
      rw [hentry]
      rcases (hmem s).mp hs with rfl | rfl
      · exact .refl
      · exact .single hlead
    acyclic := fun id h => by
      obtain ⟨_, hout, -⟩ := TransGen.head'_iff.mp h
      obtain ⟨_, -, hin⟩ := TransGen.tail'_iff.mp h
      exact hne ((hedge hout).1.symm.trans (hedge hin).2) }

end Workflow

end Stepwise
