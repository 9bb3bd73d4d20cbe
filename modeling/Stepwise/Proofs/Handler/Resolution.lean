import Stepwise.Proofs.Handler.Branching
import Stepwise.Proofs.Template.Parts
import Stepwise.Proofs.Workflow.Validity

/-! # Where conditional steps lead -/

namespace Stepwise

/-! ## Params with their values -/

namespace Params

theorem get?_of_requiredString {params : Json} {name s : String}
    (h : requiredString params name = .ok s) : params.get? name = some (.string s) := by
  unfold requiredString at h
  split at h
  · cases h
  · rename_i t hp
    split at h
    · cases h
    · obtain rfl := Except.ok.inj h
      exact get?_of_present? hp
  · cases h

theorem string?_of_optionalString {params : Json} {name : String} {value : Option String}
    (h : optionalString params name = .ok value) :
    (params.get? name).bind Json.string? = value := by
  unfold optionalString at h
  split at h
  · rename_i hp
    obtain rfl := Except.ok.inj h
    -- a null is no string either
    unfold present? at hp
    split at hp
    · rename_i hnull
      rw [hnull]
      rfl
    · rw [hp]
      rfl
  · rename_i t hp
    obtain rfl := Except.ok.inj h
    rw [get?_of_present? hp]
    rfl
  · cases h

end Params

theorem Json.string?_mapStrings (f : String → String) (j : Json) :
    (j.mapStrings f).string? = j.string?.map f := by
  cases j <;> rfl

theorem Step.string?_resolved (s : Step) (name : String) (context : Context) :
    ((Template.resolveValue s.params context).get? name).bind Json.string? =
      (s.stringParam? name).map (Template.resolve · context) := by
  rw [Template.resolveValue, Json.get?_mapStrings, stringParam?]
  cases s.params.get? name with
  | none => rfl
  | some j => exact Json.string?_mapStrings _ j

namespace Conditional

theorem reads_of_validate {params : Json} (h : validate params = .ok ()) :
    (∃ condition, Params.requiredString params conditionParam = .ok condition) ∧
      ∀ holds, ∃ next, Params.optionalString params (branchParam holds) = .ok next := by
  obtain ⟨_, -, h⟩ := ok_of_bind h
  obtain ⟨condition, hcondition, h⟩ := ok_of_bind h
  obtain ⟨onTrue, hTrue, h⟩ := ok_of_bind h
  obtain ⟨onFalse, hFalse, -⟩ := ok_of_bind h
  refine ⟨⟨condition, hcondition⟩, fun holds => ?_⟩
  cases holds with
  | true => exact ⟨onTrue, hTrue⟩
  | false => exact ⟨onFalse, hFalse⟩

theorem result_of_validate {params : Json} (h : validate params = .ok ()) (context : Context) :
    ∃ condition, (params.get? conditionParam).bind Json.string? = some condition ∧
      result params context = .succeeded (output (Expr.holds condition context)
        ((params.get? (branchParam (Expr.holds condition context))).bind Json.string?)) {} := by
  obtain ⟨⟨condition, hcondition⟩, hbranches⟩ := reads_of_validate h
  obtain ⟨next, hnext⟩ := hbranches (Expr.holds condition context)
  have houtcome : outcome params context = .ok (output (Expr.holds condition context) next) := by
    rw [outcome, bind_of_ok hcondition, bind_of_ok hnext]
    rfl
  refine ⟨condition, ?_, ?_⟩
  · rw [Params.get?_of_requiredString hcondition]
    rfl
  · rw [result, houtcome, Params.string?_of_optionalString hnext]

end Conditional

/-! ## The branch that is taken -/

namespace Step

/-- The condition of a conditional step is true, with the values of its templates. -/
def holdsIn (s : Step) (context : Context) : Bool :=
  Expr.holds (((s.stringParam? conditionParam).map (Template.resolve · context)).getD "") context

/-- The branch that the condition chooses, as it is declared. -/
def chosen? (s : Step) (context : Context) : Option String :=
  s.stringParam? (Conditional.branchParam (s.holdsIn context))

variable {s : Step} {context : Context}

theorem mem_branchTargets_of_chosen? (hc : s.isConditional = true) {target : String}
    (h : s.chosen? context = some target) : target ∈ s.branchTargets := by
  refine mem_branchTargets.mpr ⟨hc, ?_⟩
  unfold chosen? at h
  cases hholds : s.holdsIn context with
  | true =>
    rw [hholds] at h
    exact Or.inl h
  | false =>
    rw [hholds] at h
    exact Or.inr h

theorem result_of_accepted
    (accepted : Conditional.validate (Template.resolveValue s.params context) = .ok ()) :
    Conditional.result (Template.resolveValue s.params context) context =
      .succeeded (Conditional.output (s.holdsIn context)
        ((s.chosen? context).map (Template.resolve · context))) {} := by
  obtain ⟨condition, hcondition, hresult⟩ := Conditional.result_of_validate accepted context
  rw [string?_resolved] at hcondition
  have hholds : s.holdsIn context = Expr.holds condition context := by
    rw [holdsIn, hcondition]
    rfl
  rw [hresult, ← hholds, string?_resolved]
  rfl

theorem next?_output (hc : s.isConditional = true) (holds : Bool) (next : Option String) :
    s.next? (Conditional.output holds next) = next := by
  rw [next?, if_pos hc]
  cases next <;> rfl

end Step

/-- A conditional step of a valid workflow leads to the branch that its condition chooses, with the
values of the templates in it. The branch as it is declared has passed the validation. -/
theorem Workflow.next?_of_accepted {w : Workflow} (valid : w.validate.valid = true) {s : Step}
    (hs : s ∈ w.steps) (hc : s.isConditional = true) {context : Context}
    (accepted : Conditional.validate (Template.resolveValue s.params context) = .ok ()) :
    let answer := Conditional.result (Template.resolveValue s.params context) context
    let next := (s.chosen? context).map (Template.resolve · context)
    answer = .succeeded (Conditional.output (s.holdsIn context) next) {} ∧
      s.next? answer.output = next ∧
      ∀ target, s.chosen? context = some target →
        target ∈ s.branchTargets ∧ w.Edge s.id target ∧ w.Declares target ∧
          (Template.hasPlaceholders target = false → s.next? answer.output = some target) := by
  intro answer next
  have hanswer : answer = .succeeded (Conditional.output (s.holdsIn context) next) {} :=
    Step.result_of_accepted accepted
  have hnext : s.next? answer.output = next := by
    rw [hanswer]
    exact Step.next?_output hc _ next
  refine ⟨hanswer, hnext, fun target htarget => ?_⟩
  have hbranch := Step.mem_branchTargets_of_chosen? hc htarget
  have hnames : s.Names target := Or.inr (Or.inr (Or.inr (Step.mem_branchTargets.mp hbranch)))
  refine ⟨hbranch, ⟨s, hs, rfl, hnames⟩, (sound_of_valid valid).targets s hs target hnames, ?_⟩
  intro hplain
  have hvalue : next = some (Template.resolve target context) := by
    simp only [next, htarget, Option.map_some]
  rw [hnext, hvalue, Template.resolve_of_not_hasPlaceholders hplain]

/-! ## A branch that leads astray -/

/-- The text of a placeholder, which is a branch here, and the id of a step. -/
def forward : String := "\x7b\x7binput.next\x7d\x7d"

def forwardCheck : Step where
  id := "check"
  stepType := conditionalType
  params := .object [(conditionParam, .string "true"), (onTrueParam, .string forward)]

/-- A check, and the step that its branch names as it is declared. -/
def forwarding : Workflow where
  id := ⟨"forwarding", by decide⟩
  entryStepId := "check"
  steps := [forwardCheck, { id := forward, stepType := "echo" }]

/-- The input names another step, which there is not. -/
def astray : Context :=
  .new (.object [("next", .string "elsewhere")]) ⟨"forwarding", "run", "tenant"⟩

theorem resolve_forward : Template.resolve forward astray = "elsewhere" := by
  have plain : ∀ p ∈ [Template.Part.placeholder "input.next"], p.IsPlain := by decide
  have htext : forward = Template.ofParts [.placeholder "input.next"] := by decide
  have hvalue : (Template.Part.placeholder "input.next").value astray = "elsewhere" := by
    with_unfolding_all rfl
  rw [htext, Template.resolve_of_pieces (Template.pieces_ofParts plain), List.map_singleton, hvalue]
  rfl

theorem resolve_true : Template.resolve "true" astray = "true" := by
  apply Template.resolve_of_not_hasPlaceholders
  simp [Template.hasPlaceholders, Template.pieces]

theorem resolveValue_forwardCheck : Template.resolveValue forwardCheck.params astray =
    .object [(conditionParam, .string "true"), (onTrueParam, .string "elsewhere")] := by
  simp only [Template.resolveValue, forwardCheck, Json.mapStrings, Json.mapStringsMembers,
    resolve_forward, resolve_true]

theorem accepts_forwardCheck :
    Conditional.validate (Template.resolveValue forwardCheck.params astray) = .ok () := by
  rw [resolveValue_forwardCheck]
  rfl

theorem holdsIn_forwardCheck : forwardCheck.holdsIn astray = true := by
  have hcondition : forwardCheck.stringParam? conditionParam = some "true" := rfl
  rw [Step.holdsIn, hcondition, Option.map_some, resolve_true]
  with_unfolding_all rfl

theorem forwarding_valid : forwarding.validate.valid = true := by
  rw [Workflow.valid_iff_findings_eq_nil, Workflow.findings_eq_nil_iff]
  refine Workflow.sound_of_pair rfl rfl (by decide) (by decide) (fun target => ?_) fun target => ?_
  · simp [Step.Names, Step.isConditional, Step.stringParam?, Json.get?, Named.lookup, forwardCheck,
      conditionParam, onTrueParam, onFalseParam, Json.string?, eq_comm]
  · simp [Step.Names, Step.isConditional, conditionalType]

theorem Workflow.next?_of_accepted_astray :
    forwarding.validate.valid = true ∧ forwardCheck ∈ forwarding.steps ∧
      forwardCheck.isConditional = true ∧
      Conditional.validate (Template.resolveValue forwardCheck.params astray) = .ok () ∧
      forwardCheck.next? (Conditional.result (Template.resolveValue forwardCheck.params astray)
        astray).output = some "elsewhere" ∧
      "elsewhere" ∉ forwardCheck.branchTargets ∧ ¬forwarding.Declares "elsewhere" := by
  have hs : forwardCheck ∈ forwarding.steps := List.mem_cons_self
  obtain ⟨-, hnext, -⟩ := next?_of_accepted forwarding_valid hs rfl accepts_forwardCheck
  have hchosen : forwardCheck.chosen? astray = some forward := by
    rw [Step.chosen?, holdsIn_forwardCheck]
    rfl
  rw [hchosen, Option.map_some, resolve_forward] at hnext
  refine ⟨forwarding_valid, hs, rfl, accepts_forwardCheck, hnext, by decide, ?_⟩
  rw [declares_iff_mem_map]
  decide

end Stepwise
