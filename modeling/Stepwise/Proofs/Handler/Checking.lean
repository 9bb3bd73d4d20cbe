import Stepwise.Proofs.Handler.Fields

/-! # What a schema accepts -/

namespace Stepwise

variable {members members' : List (String × Json)}

namespace ParamField

/-- A null counts as absent. -/
def Absent (f : ParamField) (members : List (String × Json)) : Prop :=
  Named.lookup f.name members = none ∨ Named.lookup f.name members = some .null

instance (f : ParamField) (members : List (String × Json)) : Decidable (f.Absent members) :=
  inferInstanceAs (Decidable (_ ∨ _))

/-- An optional param may be absent. Any other param is there and has its type. -/
inductive Met (f : ParamField) (members : List (String × Json)) : Prop where
  | absent (optional : f.required = false) (absent : f.Absent members)
  | present {v : Json} (there : Named.lookup f.name members = some v) (given : v ≠ .null)
      (accepted : f.paramType.accepts v = true)

/-- What to say of a field that is not met. -/
def complaint (f : ParamField) (members : List (String × Json)) : ParamFault :=
  if f.required = true ∧ f.Absent members then .missing f.name else .wrongType f.name f.paramType

variable {f : ParamField}

theorem absent_or_present (f : ParamField) (members : List (String × Json)) :
    f.Absent members ∨ ∃ v, Named.lookup f.name members = some v ∧ v ≠ .null := by
  cases hlookup : Named.lookup f.name members with
  | none => exact Or.inl (Or.inl hlookup)
  | some v =>
    by_cases hv : v = .null
    · exact Or.inl (Or.inr (hv ▸ hlookup))
    · exact Or.inr ⟨v, rfl, hv⟩

theorem not_absent_of_present {v : Json} (there : Named.lookup f.name members = some v)
    (given : v ≠ .null) : ¬ f.Absent members := by
  rintro (hnone | hnull)
  · rw [there] at hnone
    cases hnone
  · rw [there] at hnull
    exact given (Option.some.inj hnull)

theorem not_met_of_absent (required : f.required = true) (habsent : f.Absent members) :
    ¬ f.Met members := by
  rintro (⟨optional, -⟩ | ⟨there, given, -⟩)
  · rw [required] at optional
    cases optional
  · exact not_absent_of_present there given habsent

theorem not_met_of_present {v : Json} (there : Named.lookup f.name members = some v)
    (given : v ≠ .null) (refused : f.paramType.accepts v = false) : ¬ f.Met members := by
  rintro (⟨-, habsent⟩ | ⟨there', -, accepted⟩)
  · exact not_absent_of_present there given habsent
  · obtain rfl := Option.some.inj (there.symm.trans there')
    rw [refused] at accepted
    cases accepted

theorem complaint_of_absent (required : f.required = true) (habsent : f.Absent members) :
    f.complaint members = .missing f.name := if_pos ⟨required, habsent⟩

theorem complaint_of_present {v : Json} (there : Named.lookup f.name members = some v)
    (given : v ≠ .null) : f.complaint members = .wrongType f.name f.paramType :=
  if_neg fun h => not_absent_of_present there given h.2

end ParamField

namespace ParamSchema

variable {f : ParamField}

theorem faultOf?_of_absent (h : f.Absent members) :
    faultOf? f members = if f.required then some (.missing f.name) else none := by
  rcases h with hnone | hnull
  · rw [faultOf?, hnone]
  · rw [faultOf?, hnull]

theorem faultOf?_of_lookup {v : Json} (there : Named.lookup f.name members = some v)
    (given : v ≠ .null) : faultOf? f members =
      if f.paramType.accepts v then none else some (.wrongType f.name f.paramType) :=
  faultOf?_of_present (Params.present?_of_get? there given)

theorem met_or_complaint (f : ParamField) (members : List (String × Json)) :
    f.Met members ∧ faultOf? f members = none ∨
      ¬ f.Met members ∧ faultOf? f members = some (f.complaint members) := by
  rcases f.absent_or_present members with habsent | ⟨v, there, given⟩
  · rw [faultOf?_of_absent habsent]
    cases hrequired : f.required with
    | false => exact Or.inl ⟨.absent hrequired habsent, rfl⟩
    | true =>
      rw [ParamField.complaint_of_absent hrequired habsent]
      exact Or.inr ⟨ParamField.not_met_of_absent hrequired habsent, rfl⟩
  · rw [faultOf?_of_lookup there given]
    cases haccepts : f.paramType.accepts v with
    | true => exact Or.inl ⟨.present there given haccepts, rfl⟩
    | false =>
      rw [ParamField.complaint_of_present there given]
      exact Or.inr ⟨ParamField.not_met_of_present there given haccepts, rfl⟩

theorem faultOf?_eq_none_iff : faultOf? f members = none ↔ f.Met members := by
  rcases met_or_complaint f members with ⟨hmet, hnone⟩ | ⟨hunmet, hsome⟩
  · exact iff_of_true hnone hmet
  · exact iff_of_false (by simp [hsome]) hunmet

theorem faultOf?_eq_some_iff {fault : ParamFault} :
    faultOf? f members = some fault ↔ ¬ f.Met members ∧ fault = f.complaint members := by
  rcases met_or_complaint f members with ⟨hmet, hnone⟩ | ⟨hunmet, hsome⟩
  · exact iff_of_false (by simp [hnone]) fun h => h.1 hmet
  · rw [hsome, Option.some.injEq, eq_comm]
    exact (and_iff_right hunmet).symm

/-! ## Whole schemas -/

/-- This field is the first that is not met. -/
def FirstUnmet (s : ParamSchema) (members : List (String × Json)) (f : ParamField) : Prop :=
  ∃ before after, s.fields = before ++ f :: after ∧ (∀ g ∈ before, g.Met members) ∧ ¬ f.Met members

variable {s : ParamSchema} {params : Json} {e : StepError}

theorem fault?_eq_none_iff : s.fault? params = none ↔
    ∃ members, params = .object members ∧ ∀ f ∈ s.fields, f.Met members := by
  cases params with
  | object members =>
    rw [fault?, List.findSome?_eq_none_iff]
    simp only [faultOf?_eq_none_iff, Json.object.injEq, exists_eq_left']
  | null | bool | number | string | array => simp [fault?]

theorem fault?_object_eq_some_iff {fault : ParamFault} : s.fault? (.object members) = some fault ↔
    ∃ f, s.FirstUnmet members f ∧ fault = f.complaint members := by
  rw [fault?, List.findSome?_eq_some_iff]
  simp only [faultOf?_eq_none_iff, faultOf?_eq_some_iff]
  constructor
  · rintro ⟨before, f, after, hs, ⟨hunmet, hfault⟩, hbefore⟩
    exact ⟨f, ⟨before, after, hs, hbefore, hunmet⟩, hfault⟩
  · rintro ⟨f, ⟨before, after, hs, hbefore, hunmet⟩, hfault⟩
    exact ⟨before, f, after, hs, ⟨hunmet, hfault⟩, hbefore⟩

theorem check_eq_ok_iff : s.check params = .ok () ↔ s.fault? params = none := by
  unfold check
  cases s.fault? params <;> simp

theorem check_eq_error_iff :
    s.check params = .error e ↔ ∃ fault, s.fault? params = some fault ∧ e = fault.toError := by
  unfold check
  cases s.fault? params <;> simp [eq_comm]

theorem faultOf?_congr (h : Named.lookup f.name members = Named.lookup f.name members') :
    faultOf? f members = faultOf? f members' := by
  rw [faultOf?, faultOf?, h]

theorem fault?_congr
    (h : ∀ f ∈ s.fields, Named.lookup f.name members = Named.lookup f.name members') :
    s.fault? (.object members) = s.fault? (.object members') := by
  rw [fault?, fault?]
  generalize s.fields = fields at h
  induction fields with
  | nil => rfl
  | cons f fields ih =>
    obtain ⟨hf, hfields⟩ := List.forall_mem_cons.mp h
    rw [List.findSome?_cons, List.findSome?_cons, faultOf?_congr hf, ih hfields]

/-- What the check of a schema says of any params. -/
structure Classifies (s : ParamSchema) : Prop where
  accepts : ∀ params, s.check params = .ok () ↔
    ∃ members, params = .object members ∧ ∀ f ∈ s.fields, f.Met members
  refuses : ∀ members e, s.check (.object members) = .error e ↔
    ∃ f, s.FirstUnmet members f ∧ e = (f.complaint members).toError
  objects : ∀ params, (∀ members, params ≠ .object members) →
    s.check params = .error ParamFault.notAnObject.toError
  final : ∀ params e, s.check params = .error e →
    e.code = StepError.invalidParamsCode ∧ e.recoverable = false
  named : ∀ members members',
    (∀ f ∈ s.fields, Named.lookup f.name members = Named.lookup f.name members') →
      s.check (.object members) = s.check (.object members')

theorem classifies (s : ParamSchema) : s.Classifies where
  accepts params := check_eq_ok_iff.trans fault?_eq_none_iff
  refuses members e := by
    rw [check_eq_error_iff]
    simp only [fault?_object_eq_some_iff]
    constructor
    · rintro ⟨fault, ⟨f, hf, rfl⟩, he⟩
      exact ⟨f, hf, he⟩
    · rintro ⟨f, hf, he⟩
      exact ⟨_, ⟨f, hf, rfl⟩, he⟩
  objects params h := by
    cases params with
    | object members => exact absurd rfl (h members)
    | null | bool | number | string | array => rfl
  final params e h := by
    obtain ⟨fault, -, rfl⟩ := check_eq_error_iff.mp h
    exact ⟨rfl, rfl⟩
  named members members' h := by
    rw [check, check, fault?_congr h]

/-- Both fields of a name count. -/
example : (⟨[⟨"k", .string, false, none, none⟩, ⟨"k", .boolean, true, none, none⟩]⟩ :
    ParamSchema).check (.object [("k", .string "x")]) =
      .error ⟨"INVALID_PARAMS", "param 'k' must be of type Boolean", false⟩ := by decide

end ParamSchema

end Stepwise
