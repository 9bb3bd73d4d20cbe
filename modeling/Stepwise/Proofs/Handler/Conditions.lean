import Stepwise.Proofs.Handler.Fields
import Stepwise.Proofs.Handler.Resolution
import Stepwise.Workflow.Validation

/-! # Conditions without templates -/

namespace Stepwise

/-! ## Params without templates -/

namespace Template

variable {params : Json} {name text : String}

theorem get?_resolveValue_of_literal (h : params.get? name = some (.string text))
    (hliteral : hasPlaceholders text = false) (context : Context) :
    (resolveValue params context).get? name = some (.string text) := by
  rw [resolveValue, Json.get?_mapStrings, h, Option.map_some, Json.mapStrings,
    resolve_of_not_hasPlaceholders hliteral]

theorem get?_resolveValue_of_none (h : params.get? name = none) (context : Context) :
    (resolveValue params context).get? name = none := by
  rw [resolveValue, Json.get?_mapStrings, h, Option.map_none]

end Template

theorem Json.exists_object_of_get? {j v : Json} {name : String} (h : j.get? name = some v) :
    ∃ members, j = .object members := by
  cases j with
  | object members => exact ⟨members, rfl⟩
  | null | bool | number | string | array => cases h

/-! ## Conditions that do not parse -/

theorem Expr.holds_of_parse_error {text : String} {e : ExprError} (h : parse text = .error e)
    (context : Context) : holds text context = false := by
  rw [holds, evaluateText, h]
  rfl

namespace Step

theorem mem_warnings_iff {s : Step} (h : s.isConditional = true) {warning : Warning}
    (hattempts : warning ≠ .noAttempts s.id) (hedges : warning ≠ .ignoredEdges s.id) :
    warning ∈ s.warnings ↔ warning ∈ s.conditionWarnings := by
  have hattempts :
      warning ∉ if s.retry.any (·.maxAttempts == 0) then [.noAttempts s.id] else [] := by
    split <;> simp [hattempts]
  have hedges :
      warning ∉ if s.nextStepId.isSome || s.onSuccess.isSome then [.ignoredEdges s.id] else [] := by
    split <;> simp [hedges]
  rw [warnings, if_pos h, List.mem_append, List.mem_append, or_iff_right hattempts,
    or_iff_right hedges]

/-- No template stands in the condition and in the branches of a conditional step. A branch may be
absent. -/
structure Static (s : Step) (condition : String) : Prop where
  conditional : s.isConditional = true
  asks : s.params.get? conditionParam = some (.string condition)
  literal : Template.hasPlaceholders condition = false
  branches : ∀ holds, s.params.get? (Conditional.branchParam holds) = none ∨
    ∃ target, s.params.get? (Conditional.branchParam holds) = some (.string target) ∧
      Template.hasPlaceholders target = false

namespace Static

variable {s : Step} {condition : String} (h : s.Static condition)
include h

theorem mem_conditionWarnings (e : ExprError) :
    .malformedCondition s.id e ∈ s.conditionWarnings ↔ Expr.parse condition = .error e := by
  have hcondition : s.stringParam? conditionParam = some condition := by
    rw [stringParam?, h.asks]
    rfl
  rw [conditionWarnings, hcondition]
  dsimp only
  rw [h.literal, if_neg Bool.false_ne_true]
  split
  · rename_i hparse
    rw [hparse]
    simp
  · rename_i hparse
    rw [hparse]
    simp [eq_comm]

theorem warned_iff (e : ExprError) :
    .malformedCondition s.id e ∈ s.warnings ↔ Expr.parse condition = .error e :=
  (mem_warnings_iff h.conditional (by simp) (by simp)).trans (h.mem_conditionWarnings e)

variable (context : Context)

theorem get?_condition : (Template.resolveValue s.params context).get? conditionParam =
    some (.string condition) :=
  Template.get?_resolveValue_of_literal h.asks h.literal context

theorem get?_branch (holds : Bool) :
    (Template.resolveValue s.params context).get? (Conditional.branchParam holds) =
      s.params.get? (Conditional.branchParam holds) := by
  rcases h.branches holds with habsent | ⟨target, htarget, hliteral⟩
  · rw [habsent]
    exact Template.get?_resolveValue_of_none habsent context
  · rw [htarget]
    exact Template.get?_resolveValue_of_literal htarget hliteral context

theorem optionalString_branch (holds : Bool) :
    Params.optionalString (Template.resolveValue s.params context)
      (Conditional.branchParam holds) = .ok (s.stringParam? (Conditional.branchParam holds)) := by
  have hbranch := h.get?_branch context holds
  rw [stringParam?]
  rcases h.branches holds with habsent | ⟨target, htarget, -⟩
  · rw [habsent] at hbranch ⊢
    exact Params.optionalString_of_get?_eq_none hbranch
  · rw [htarget] at hbranch ⊢
    exact Params.optionalString_of_present (Params.present?_of_get?_string hbranch)

theorem check : Conditional.schema.check (Template.resolveValue s.params context) = .ok () := by
  have hcondition := Params.present?_of_get?_string (h.get?_condition context)
  have hTrue := h.optionalString_branch context true
  have hFalse := h.optionalString_branch context false
  obtain ⟨members, hmembers⟩ := Json.exists_object_of_get? (Params.get?_of_present? hcondition)
  rw [hmembers] at hcondition hTrue hFalse ⊢
  refine ParamSchema.check_of_forall ?_
  simp only [Conditional.schema, List.forall_mem_cons]
  refine ⟨?_, ?_, ?_, nofun⟩
  · exact (ParamSchema.faultOf?_of_present hcondition).trans (if_pos rfl)
  · refine ParamSchema.faultOf?_of_optional rfl fun v hv => ?_
    exact Params.accepts_of_optionalString hTrue hv
  · refine ParamSchema.faultOf?_of_optional rfl fun v hv => ?_
    exact Params.accepts_of_optionalString hFalse hv

theorem validate : Conditional.validate (Template.resolveValue s.params context) =
    if trim condition.toList = [] then
      .error (.invalidParams "param 'condition' must not be empty")
    else .ok () := by
  rw [Conditional.validate, bind_of_ok (h.check context),
    Params.requiredString_of_present (Params.present?_of_get?_string (h.get?_condition context))]
  split
  · rfl
  · have hTrue : Params.optionalString (Template.resolveValue s.params context) onTrueParam = _ :=
      h.optionalString_branch context true
    have hFalse : Params.optionalString (Template.resolveValue s.params context) onFalseParam = _ :=
      h.optionalString_branch context false
    rw [bind_of_ok rfl, bind_of_ok hTrue, bind_of_ok hFalse]
    rfl

theorem result_eq
    (accepted : Conditional.validate (Template.resolveValue s.params context) = .ok ()) :
    Conditional.result (Template.resolveValue s.params context) context =
      .succeeded (Conditional.output (Expr.holds condition context)
        (s.stringParam? (Conditional.branchParam (Expr.holds condition context)))) {} := by
  obtain ⟨text, htext, hresult⟩ := Conditional.result_of_validate accepted context
  rw [h.get?_condition context] at htext
  obtain rfl : condition = text := Option.some.inj htext
  rw [hresult, h.get?_branch context]
  rfl

/-- The report says that a condition does not parse exactly if it does not. In every run the step
then goes on where a false condition leads, or is refused if the condition is blank. -/
theorem foreseen {σ : Type} {w : Workflow} {before after : List Step}
    (hw : w.steps = before ++ s :: after) :
    w.validate.warnings =
        before.flatMap Step.warnings ++ s.warnings ++ after.flatMap Step.warnings ∧
      ∀ e, (.malformedCondition s.id e ∈ s.warnings ↔ Expr.parse condition = .error e) ∧
        (.malformedCondition s.id e ∈ s.warnings → ∀ (context : Context) (world : σ),
          let params := Template.resolveValue s.params context
          let next := s.stringParam? onFalseParam
          let output := Conditional.output false next
          if trim condition.toList = [] then
            Conditional.validate params =
              .error (.invalidParams "param 'condition' must not be empty")
          else
            Conditional.validate params = .ok () ∧
              Conditional.handler.execute params context world =
                (.now (.succeeded output {}), world) ∧
              s.next? output = next) := by
  refine ⟨?_, fun e => ⟨h.warned_iff e, fun hwarned context world => ?_⟩⟩
  · rw [Workflow.validate, hw]
    simp only [List.flatMap_append, List.flatMap_cons, List.append_assoc]
  · intro params next output
    have hfalse := Expr.holds_of_parse_error ((h.warned_iff e).mp hwarned) context
    split
    · rename_i hblank
      exact (h.validate context).trans (if_pos hblank)
    · rename_i hsome
      have accepted := (h.validate context).trans (if_neg hsome)
      refine ⟨accepted, ?_, ?_⟩
      · have hresult := h.result_eq context accepted
        rw [hfalse] at hresult
        rw [Conditional.handler]
        dsimp only
        rw [hresult]
        rfl
      · exact next?_output h.conditional false next

end Static

/-! ## Two conditions that do not parse -/

/-- A check that leads elsewhere if its condition is false. -/
def checkOf (condition : String) : Step where
  id := "check"
  stepType := conditionalType
  params := .object [(conditionParam, .string condition), (onFalseParam, .string "other")]

theorem static_checkOf {condition : String} (h : Template.hasPlaceholders condition = false) :
    (checkOf condition).Static condition where
  conditional := rfl
  asks := rfl
  literal := h
  branches holds := by
    cases holds with
    | true => exact Or.inl rfl
    | false => exact Or.inr ⟨"other", rfl, by simp [Template.hasPlaceholders, Template.pieces]⟩

def other : Step where
  id := "other"
  stepType := "echo"

/-- A check and the step that it leads to. -/
def checking (condition : String) : Workflow where
  id := ⟨"checking", by decide⟩
  entryStepId := "check"
  steps := [checkOf condition, other]

theorem steps_checking (condition : String) :
    (checking condition).steps = [] ++ checkOf condition :: [other] := rfl

/-- What is wrong with a parenthesis that closes nothing. -/
def strayParen : ExprError := .unexpectedToken .aValue .closeParen 0

theorem parse_strayParen : Expr.parse ")" = .error strayParen := by
  with_unfolding_all rfl

theorem parse_blank : Expr.parse " " = .error .empty := by
  with_unfolding_all rfl

theorem foreseen_checkOf :
    let context : Context := .new .null ⟨"checking", "run", "acme"⟩
    let blank := Template.resolveValue (checkOf " ").params context
    let stray := Template.resolveValue (checkOf ")").params context
    (checkOf " ").Static " " ∧ (checkOf ")").Static ")" ∧
      .malformedCondition "check" .empty ∈ (checkOf " ").warnings ∧
      .malformedCondition "check" strayParen ∈ (checkOf ")").warnings ∧
      Conditional.validate blank =
        .error (.invalidParams "param 'condition' must not be empty") ∧
      Conditional.validate stray = .ok () ∧
      Conditional.handler.execute stray context () =
        (.now (.succeeded (Conditional.output false (some "other")) {}), ()) := by
  intro context blank stray
  have hblank : (checkOf " ").Static " " :=
    static_checkOf (by simp [Template.hasPlaceholders, Template.pieces])
  have hstray : (checkOf ")").Static ")" :=
    static_checkOf (by simp [Template.hasPlaceholders, Template.pieces])
  obtain ⟨-, hblank'⟩ := hblank.foreseen (steps_checking " ")
  obtain ⟨-, hstray'⟩ := hstray.foreseen (steps_checking ")")
  obtain ⟨hblankIff, hblankRun⟩ := hblank' .empty
  obtain ⟨hstrayIff, hstrayRun⟩ := hstray' strayParen
  have hblankWarned := hblankIff.mpr parse_blank
  have hstrayWarned := hstrayIff.mpr parse_strayParen
  have hrefused := hblankRun hblankWarned context ()
  have haccepted := hstrayRun hstrayWarned context ()
  dsimp only at hrefused haccepted
  rw [if_pos (by decide)] at hrefused
  rw [if_neg (by decide)] at haccepted
  exact ⟨hblank, hstray, hblankWarned, hstrayWarned, hrefused, haccepted.1, haccepted.2.1⟩

end Step

end Stepwise
