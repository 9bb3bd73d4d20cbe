import Stepwise.Handler.Conditional
import Stepwise.Proofs.Except
import Stepwise.Proofs.Graph.Declared
import Stepwise.Proofs.Template.Pieces
import Stepwise.Run.Engine

/-! # Branches of conditional steps -/

namespace Stepwise

theorem Params.get?_of_present? {params value : Json} {name : String}
    (h : present? params name = some value) : params.get? name = some value := by
  unfold present? at h
  split at h
  · cases h
  · exact h

theorem Params.get?_of_optionalString {params : Json} {name s : String}
    (h : optionalString params name = .ok (some s)) : params.get? name = some (.string s) := by
  unfold optionalString at h
  split at h
  · cases h
  · rename_i t hp
    obtain rfl := Option.some.inj (Except.ok.inj h)
    exact get?_of_present? hp
  · cases h

theorem Conditional.branch_of_result {params : Json} {context : Context} {next : String}
    (hs : (result params context).success = true)
    (hn : ((result params context).output.get? "nextStepId").bind Json.string? = some next) :
    ∃ holds, params.get? (branchParam holds) = some (.string next) := by
  unfold result at hs hn
  cases ho : outcome params context with
  | error e =>
    rw [ho] at hs
    cases hs
  | ok j =>
    rw [ho] at hn
    obtain ⟨condition, -, ho⟩ := ok_of_bind ho
    obtain ⟨branch, hb, ho⟩ := ok_of_bind ho
    obtain rfl := Except.ok.inj ho
    refine ⟨Expr.holds condition context, ?_⟩
    cases branch with
    | none => cases hn
    | some target =>
      obtain rfl := Option.some.inj hn
      exact Params.get?_of_optionalString hb

namespace Step

/-- No template stands in the branches of a conditional step. -/
def LiteralBranches (s : Step) : Prop :=
  s.isConditional = true → ∀ holds target,
    s.stringParam? (Conditional.branchParam holds) = some target →
      Template.hasPlaceholders target = false

theorem names_of_branch {s : Step} (hc : s.isConditional = true) {holds : Bool} {target : String}
    (h : s.stringParam? (Conditional.branchParam holds) = some target) : s.Names target := by
  refine Or.inr (Or.inr (Or.inr ⟨hc, ?_⟩))
  cases holds with
  | true => exact Or.inl h
  | false => exact Or.inr h

theorem names_of_resolved {s : Step} (hc : s.isConditional = true) (hl : s.LiteralBranches)
    {context : Context} {holds : Bool} {target : String}
    (h : (Template.resolveValue s.params context).get? (Conditional.branchParam holds) =
      some (.string target)) :
    s.Names target := by
  rw [Template.resolveValue, Json.get?_mapStrings, Option.map_eq_some_iff] at h
  obtain ⟨j, hj, hmap⟩ := h
  obtain ⟨text, rfl, htext⟩ := Json.string_of_mapStrings hmap
  have hparam : s.stringParam? (Conditional.branchParam holds) = some text := by
    rw [stringParam?, hj]
    rfl
  rw [Template.resolve_of_not_hasPlaceholders (hl hc holds text hparam)] at htext
  exact names_of_branch hc (htext ▸ hparam)

theorem names_of_next?_eq_some {s : Step} (hc : s.isConditional = false) {output : Json}
    {target : String} (h : s.next? output = some target) : s.Names target := by
  rw [next?, hc, if_neg Bool.false_ne_true] at h
  cases hs : s.onSuccess with
  | some t =>
    rw [hs] at h
    exact Or.inr (Or.inl (hs.trans h))
  | none =>
    rw [hs] at h
    exact Or.inl h

end Step

end Stepwise
