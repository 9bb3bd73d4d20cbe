import Stepwise.Completion.Handler
import Stepwise.Handler.Conditional
import Stepwise.Http.Handler
import Stepwise.Retrieval.Handler

/-! # Refused params -/

namespace Stepwise

/-- The params are wrong, and another attempt would find the same ones. -/
structure StepError.RefusesParams (e : StepError) : Prop where
  code : e.code = invalidParamsCode
  final : e.recoverable = false

theorem StepError.refusesParams_invalidParams (message : String) :
    (invalidParams message).RefusesParams := ⟨rfl, rfl⟩

/-- A reader of params. Every failure of it refuses them. -/
def Refusing {α : Type} (x : Except StepError α) : Prop := ∀ e, x = .error e → e.RefusesParams

namespace Refusing

variable {α β : Type} {x : Except StepError α}

theorem ok (a : α) : Refusing (.ok a) := nofun

theorem refuse (message : String) : Refusing (Params.refuse message : Except StepError α) := by
  rintro _ ⟨⟩
  exact StepError.refusesParams_invalidParams message

theorem bind (hx : Refusing x) {f : α → Except StepError β} (hf : ∀ a, Refusing (f a)) :
    Refusing (x >>= f) := by
  cases x with
  | error e =>
    rintro _ ⟨⟩
    exact hx e rfl
  | ok a => exact hf a

theorem refuse_bind (message : String) (f : α → Except StepError β) :
    Refusing (Params.refuse message >>= f) := refuse message

end Refusing

/-! ## Readers of one param -/

namespace Params

variable (params : Json) (name : String)

theorem refusing_requiredString : Refusing (requiredString params name) := by
  unfold requiredString
  split
  · exact .refuse _
  · split
    · exact .refuse _
    · exact .ok _
  · exact .refuse _

theorem refusing_optionalString : Refusing (optionalString params name) := by
  unfold optionalString
  split
  · exact .ok _
  · exact .ok _
  · exact .refuse _

theorem refusing_optionalNat : Refusing (optionalNat params name) := by
  unfold optionalNat
  split
  · exact .ok _
  · split
    · exact .ok _
    · exact .refuse _

theorem refusing_optionalDouble : Refusing (optionalDouble params name) := by
  unfold optionalDouble
  split
  · exact .ok _
  · split
    · exact .ok _
    · exact .refuse _

theorem refusing_optionalBool : Refusing (optionalBool params name) := by
  unfold optionalBool
  split
  · exact .ok _
  · exact .ok _
  · exact .ok _
  · exact .ok _
  · exact .refuse _

theorem refusing_optionalObject : Refusing (optionalObject params name) := by
  unfold optionalObject
  split
  · exact .ok _
  · exact .ok _
  · exact .refuse _

end Params

theorem ParamSchema.refusing_check (s : ParamSchema) (params : Json) :
    Refusing (s.check params) := by
  unfold check
  split
  · exact .ok _
  · rintro _ ⟨⟩
    exact StepError.refusesParams_invalidParams _

/-! ## Readers of all params of a step -/

open Params

theorem Retrieval.refusing_ofParams (params : Json) : Refusing (Query.ofParams params) := by
  unfold Query.ofParams
  refine .bind (refusing_optionalNat params _) fun topK => ?_
  dsimp only
  split
  · exact .refuse_bind _ _
  · refine .bind (refusing_optionalObject params _) fun _ => ?_
    refine .bind (refusing_requiredString params _) fun _ => ?_
    refine .bind (refusing_requiredString params _) fun _ => ?_
    exact .bind (refusing_optionalDouble params _) fun _ => .ok _

theorem Completion.refusing_modelOf (params : Json) (defaultModel : String) :
    Refusing (modelOf params defaultModel) := by
  refine .bind (refusing_optionalString params _) fun model => ?_
  cases model with
  | none => exact .ok _
  | some m => exact .ok _

theorem Completion.refusing_temperatureOf (params : Json) : Refusing (temperatureOf params) := by
  refine .bind (refusing_optionalDouble params _) fun temperature => ?_
  cases temperature with
  | none => exact .ok _
  | some x =>
    dsimp only
    split
    · exact .ok _
    · exact .refuse _

theorem Completion.refusing_maxTokensOf (params : Json) : Refusing (maxTokensOf params) := by
  refine .bind (refusing_optionalNat params _) fun maxTokens => ?_
  cases maxTokens with
  | none => exact .ok _
  | some n =>
    dsimp only
    split
    · exact .ok _
    · exact .refuse _

theorem Completion.refusing_requestOf (defaultModel : String) (params : Json) :
    Refusing (requestOf defaultModel params) := by
  refine .bind (refusing_modelOf params defaultModel) fun _ => ?_
  refine .bind (refusing_requiredString params _) fun _ => ?_
  refine .bind (refusing_optionalString params _) fun _ => ?_
  refine .bind (refusing_temperatureOf params) fun _ => ?_
  exact .bind (refusing_maxTokensOf params) fun _ => .ok _

theorem Http.refusing_urlOf (params : Json) : Refusing (urlOf params) := by
  refine .bind (refusing_requiredString params _) fun url => ?_
  split
  · exact .ok _
  · exact .refuse _

theorem Http.refusing_methodOf (params : Json) : Refusing (methodOf params) := by
  refine .bind (refusing_optionalString params _) fun method => ?_
  cases method with
  | none => exact .ok _
  | some m =>
    dsimp only
    cases HttpMethod.ofText m with
    | ok found => exact .ok _
    | error message => exact .refuse message

theorem Http.refusing_headerValues (members : List (String × Json)) :
    Refusing (headerValues members) := by
  fun_induction headerValues members with
  | case1 => exact .ok _
  | case2 name s rest ih => exact .bind ih fun _ => .ok _
  | case3 => exact .refuse _

theorem Http.refusing_ofParams (params : Json) : Refusing (Call.ofParams params) := by
  refine .bind (refusing_urlOf params) fun _ => ?_
  refine .bind (refusing_methodOf params) fun _ => ?_
  refine .bind (refusing_optionalObject params _) fun members => ?_
  refine .bind (refusing_headerValues (members.getD [])) fun _ => ?_
  exact .bind (refusing_optionalBool params _) fun _ => .ok _

end Stepwise
