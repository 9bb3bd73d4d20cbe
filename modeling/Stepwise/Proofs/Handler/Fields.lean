import Stepwise.Handler.Params
import Stepwise.Proofs.Handler.Branching
import Stepwise.Proofs.Named

/-! # Params and their fields -/

namespace Stepwise

variable {members : List (String × Json)} {params v : Json} {name : String}

/-! ## Readers of one param -/

namespace Params

theorem present?_of_get? (h : params.get? name = some v) (hv : v ≠ .null) :
    present? params name = some v := by
  rw [present?, h]
  split
  · rename_i hnull
    exact absurd (Option.some.inj hnull) hv
  · rfl

theorem present?_of_get?_string {s : String} (h : params.get? name = some (.string s)) :
    present? params name = some (.string s) := by
  refine present?_of_get? h ?_
  rintro ⟨⟩

theorem present?_insert_of_ne {key : String} (hne : key ≠ name) (v : Json) :
    present? (.object (Named.insert key v members)) name = present? (.object members) name := by
  simp only [present?, Json.get?, Named.lookup_insert, if_neg hne]

theorem requiredString_of_present {s : String} (h : present? params name = some (.string s)) :
    requiredString params name =
      if trim s.toList = [] then refuse s!"param '{name}' must not be empty" else .ok s := by
  unfold requiredString
  rw [h]

theorem optionalString_of_present {s : String} (h : present? params name = some (.string s)) :
    optionalString params name = .ok (some s) := by
  unfold optionalString
  rw [h]

theorem optionalString_of_get?_eq_none (h : params.get? name = none) :
    optionalString params name = .ok none := by
  rw [optionalString, present?, h]

theorem optionalNat_of_present {n : Nat} (h : present? params name = some v)
    (hn : nat? v = some n) : optionalNat params name = .ok (some n) := by
  unfold optionalNat
  rw [h]
  dsimp only
  rw [hn]

theorem accepts_of_optionalString {given : Option String}
    (h : optionalString params name = .ok given) (hv : present? params name = some v) :
    ParamType.string.accepts v = true := by
  unfold optionalString at h
  rw [hv] at h
  cases v with
  | string => rfl
  | null | bool | number | array | object => cases h

theorem accepts_of_optionalObject {given : Option (List (String × Json))}
    (h : optionalObject params name = .ok given) (hv : present? params name = some v) :
    ParamType.object.accepts v = true := by
  unfold optionalObject at h
  rw [hv] at h
  cases v with
  | object => rfl
  | null | bool | number | string | array => cases h

theorem accepts_of_optionalDouble {given : Option Binary}
    (h : optionalDouble params name = .ok given) (hv : present? params name = some v) :
    ParamType.number.accepts v = true := by
  unfold optionalDouble at h
  rw [hv] at h
  cases v with
  | number => rfl
  | string s =>
    rw [ParamType.accepts]
    dsimp only [double?] at h
    split at h
    · rename_i hx
      rw [hx]
      rfl
    · cases h
  | null | bool | array | object => cases h

end Params

/-! ## Checks of one field -/

namespace ParamSchema

variable {f : ParamField}

theorem faultOf?_of_present (h : Params.present? (.object members) f.name = some v) :
    faultOf? f members =
      if f.paramType.accepts v then none else some (.wrongType f.name f.paramType) := by
  have hlookup := Params.get?_of_present? h
  rw [Json.get?] at hlookup
  have hv : v ≠ .null := by
    rintro rfl
    rw [Params.present?, Json.get?, hlookup] at h
    cases h
  rw [faultOf?, hlookup]
  split
  · rename_i hnone
    cases hnone
  · rename_i hnull
    exact absurd (Option.some.inj hnull) hv
  · rename_i w _ hw
    rw [Option.some.inj hw]

theorem faultOf?_of_optional (hf : f.required = false)
    (h : ∀ v, Params.present? (.object members) f.name = some v → f.paramType.accepts v = true) :
    faultOf? f members = none := by
  cases hpresent : Params.present? (.object members) f.name with
  | some v => rw [faultOf?_of_present hpresent, if_pos (h v hpresent)]
  | none =>
    unfold Params.present? Json.get? at hpresent
    dsimp only at hpresent
    split at hpresent
    · rename_i hnull
      rw [faultOf?, hnull, hf]
      rfl
    · rw [faultOf?, hpresent, hf]
      rfl

theorem check_of_forall {s : ParamSchema} (h : ∀ f ∈ s.fields, faultOf? f members = none) :
    s.check (.object members) = .ok () := by
  have hfault : s.fault? (.object members) = none := List.findSome?_eq_none_iff.mpr h
  rw [check, hfault]

theorem fault?_of_others {s : ParamSchema} {before after : List ParamField}
    (hs : s.fields = before ++ f :: after)
    (hothers : ∀ g ∈ before ++ after, faultOf? g members = none) :
    s.fault? (.object members) = faultOf? f members := by
  have hbefore : before.findSome? (faultOf? · members) = none :=
    List.findSome?_eq_none_iff.mpr fun g hg => hothers g (List.mem_append_left _ hg)
  have hafter : after.findSome? (faultOf? · members) = none :=
    List.findSome?_eq_none_iff.mpr fun g hg => hothers g (List.mem_append_right _ hg)
  rw [fault?, hs, List.findSome?_append, hbefore, Option.none_or, List.findSome?_cons]
  split
  · rename_i hfault
    rw [hfault]
  · rename_i hnone
    rw [hnone, hafter]

end ParamSchema

end Stepwise
