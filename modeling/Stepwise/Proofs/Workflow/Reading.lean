import Stepwise.Proofs.Json.Fields
import Stepwise.Workflow.Codec

/-! # Workflow definitions that are read again -/

namespace Stepwise

open Json (Holds HoldsOr Enumerates holds_string holds_u32 holds_u64 holdsOr_string holdsOr_option
  decodeRecord_written memberIfSome)
open Named (lookup)

/-! ## Retries -/

namespace RetryPolicy

theorem decode_written (origin : Origin) (p : RetryPolicy) :
    decode origin (p.toJson.written origin) = .ok p := by
  have maxAttempts : Holds origin p.toJson "maxAttempts" Json.decodeU32 p.maxAttempts :=
    holds_u32 rfl
  have baseDelayMs : Holds origin p.toJson "baseDelayMs" Json.decodeU64 p.baseDelayMs :=
    holds_u64 rfl
  have hpasses : ∀ field ∈ fields, Json.Passes origin p.toJson field := by
    simp only [fields, List.forall_mem_cons]
    exact ⟨maxAttempts.passes _ _, baseDelayMs.passes _ _, List.forall_mem_nil _⟩
  have henumerates : Enumerates fields p.toJson := ⟨_, rfl, List.Sublist.refl _⟩
  obtain ⟨record, hrecord, hcollects⟩ :=
    decodeRecord_written origin "RetryPolicy" (by decide) henumerates hpasses
  rw [decode, bind_of_ok hrecord, bind_of_ok (maxAttempts.or.needOr hcollects),
    bind_of_ok (baseDelayMs.or.needOr hcollects)]
  rfl

end RetryPolicy

/-! ## Steps -/

namespace Step

theorem fields_distinct (origin : Origin) : ((fields origin).map Json.FieldSpec.name).Nodup := by
  cases origin <;> decide

theorem enumerates_toJson (origin : Origin) (s : Step) : Enumerates (fields origin) s.toJson := by
  refine ⟨_, rfl, ?_⟩
  simp only [Json.names_append]
  exact (((((List.Sublist.refl ["id", "type", "label", "params"]).append
    (Json.names_memberIfSome "nextStepId" _)).append
    (Json.names_memberIfSome "onSuccess" _)).append
    (Json.names_memberIfSome "onFailure" _)).append (Json.names_memberIfSome "retry" _)).append
    (Json.names_memberIfSome "timeoutMs" _)

theorem decode_written (origin : Origin) {s : Step} (hordered : s.params.IsOrdered) :
    decode origin (s.toJson.written origin) = .ok s := by
  have id : Holds origin s.toJson "id" Json.decodeString s.id := holds_string rfl
  have stepType : Holds origin s.toJson "type" Json.decodeString s.stepType := holds_string rfl
  have label : Holds origin s.toJson "label" Json.decodeString s.label := holds_string rfl
  have params : Holds origin s.toJson "params" Json.decodeAny s.params :=
    ⟨_, rfl, Json.decodeAny_written hordered⟩
  have nextStepId : HoldsOr origin s.toJson "nextStepId" (Json.decodeOption Json.decodeString)
      none s.nextStepId :=
    holdsOr_string (by simp [toJson, Json.get?, lookup])
  have onSuccess : HoldsOr origin s.toJson "onSuccess" (Json.decodeOption Json.decodeString)
      none s.onSuccess :=
    holdsOr_string (by simp [toJson, Json.get?, lookup])
  have onFailure : HoldsOr origin s.toJson "onFailure" (Json.decodeOption Json.decodeString)
      none s.onFailure :=
    holdsOr_string (by simp [toJson, Json.get?, lookup])
  have retry : HoldsOr origin s.toJson "retry" (Json.decodeOption (RetryPolicy.decode origin))
      none s.retry :=
    holdsOr_option RetryPolicy.toJson (by simp [toJson, Json.get?, lookup]) rfl
      fun p _ => RetryPolicy.decode_written origin p
  have timeoutMs : HoldsOr origin s.toJson "timeoutMs" (Json.decodeOption Json.decodeU64)
      none s.timeoutMs :=
    holdsOr_option (fun ms => .nat ms.toNat) (by simp [toJson, Json.get?, lookup]) rfl
      fun ms _ => Json.decodeU64_written ms
  have hpasses : ∀ field ∈ fields origin, Json.Passes origin s.toJson field := by
    simp only [fields, List.forall_mem_cons]
    exact ⟨id.passes _ _, stepType.passes _ _, label.passes _ _, params.passes _ _,
      nextStepId.passes _ _, onSuccess.passes _ _, onFailure.passes _ _, retry.passes _ _,
      timeoutMs.passes _ _, List.forall_mem_nil _⟩
  obtain ⟨record, hrecord, hcollects⟩ := decodeRecord_written origin "WorkflowStep"
    (fields_distinct origin) (enumerates_toJson origin s) hpasses
  rw [decode, bind_of_ok hrecord, bind_of_ok (id.need hcollects),
    bind_of_ok (stepType.need hcollects), bind_of_ok (label.or.needOr hcollects),
    bind_of_ok (params.or.needOr hcollects), bind_of_ok (nextStepId.needOr hcollects),
    bind_of_ok (onSuccess.needOr hcollects), bind_of_ok (onFailure.needOr hcollects),
    bind_of_ok (retry.needOr hcollects), bind_of_ok (timeoutMs.needOr hcollects)]
  rfl

theorem isOrdered_of_decode {origin : Origin} {j : Json} {s : Step}
    (h : decode origin j = .ok s) : s.params.IsOrdered := by
  obtain ⟨record, -, h⟩ := ok_of_bind h
  obtain ⟨id, -, h⟩ := ok_of_bind h
  obtain ⟨stepType, -, h⟩ := ok_of_bind h
  obtain ⟨label, -, h⟩ := ok_of_bind h
  obtain ⟨params, hparams, h⟩ := ok_of_bind h
  obtain ⟨nextStepId, -, h⟩ := ok_of_bind h
  obtain ⟨onSuccess, -, h⟩ := ok_of_bind h
  obtain ⟨onFailure, -, h⟩ := ok_of_bind h
  obtain ⟨retry, -, h⟩ := ok_of_bind h
  obtain ⟨timeoutMs, -, h⟩ := ok_of_bind h
  obtain rfl := Except.ok.inj h
  rcases Json.needOr_eq_ok hparams with ⟨j', hj'⟩ | rfl
  · obtain rfl := Except.ok.inj hj'
    exact Json.isOrdered_canonical j'
  · exact ⟨List.Pairwise.nil, trivial⟩

end Step

/-! ## Workflows -/

theorem WorkflowId.ofText_text (id : WorkflowId) : ofText id.text = .ok id := by
  unfold ofText
  split
  · rfl
  · rename_i fault hfault
    exact nomatch id.valid.symm.trans hfault

theorem WorkflowId.decode_written (origin : Origin) (id : WorkflowId) :
    decode ((Json.string id.text).written origin) = .ok id := by
  rw [decode, bind_of_ok (Json.decodeString_written id.text), ofText_text]
  rfl

namespace Workflow

theorem fields_distinct (origin : Origin) : ((fields origin).map Json.FieldSpec.name).Nodup := by
  cases origin <;> decide

theorem enumerates_toJson (origin : Origin) (w : Workflow) :
    Enumerates (fields origin) w.toJson := by
  refine ⟨_, rfl, ?_⟩
  simp only [Json.names_append]
  exact (((List.Sublist.refl ["id", "version"]).append (Json.names_memberIfSome "name" _)).append
    (List.Sublist.refl ["entryStepId", "steps", "maxSteps"])).append
    (Json.names_memberIfSome "maxExecutionDurationMs" _)

/-- The params of the steps are in order, as all values that a program holds. -/
def IsOrdered (w : Workflow) : Prop := ∀ s ∈ w.steps, s.params.IsOrdered

variable {w : Workflow}

theorem decode_written (origin : Origin) (hordered : w.IsOrdered) :
    decode origin (w.toJson.written origin) = .ok w := by
  have id : Holds origin w.toJson "id" WorkflowId.decode w.id :=
    ⟨_, rfl, WorkflowId.decode_written origin w.id⟩
  have version : Holds origin w.toJson "version" Json.decodeU32 w.version := holds_u32 rfl
  have name :
      HoldsOr origin w.toJson "name" (Json.decodeOption Json.decodeString) none w.name :=
    holdsOr_string (by simp [toJson, Json.get?, lookup])
  have entryStepId : Holds origin w.toJson "entryStepId" Json.decodeString w.entryStepId :=
    holds_string (by simp [toJson, Json.get?, lookup])
  have steps : Holds origin w.toJson "steps" (Json.decodeList (Step.decode origin)) w.steps := by
    refine ⟨.array (w.steps.map Step.toJson), by simp [toJson, Json.get?, lookup], ?_⟩
    rw [Json.decodeList_written fun s hs => Step.decode_written origin (hordered s hs)]
    exact congrArg Except.ok (List.map_id' w.steps)
  have maxSteps : Holds origin w.toJson "maxSteps" Json.decodeSize w.maxSteps :=
    ⟨_, by simp [toJson, Json.get?, lookup], Json.decodeSize_written w.maxSteps⟩
  have maxExecutionDurationMs : HoldsOr origin w.toJson "maxExecutionDurationMs"
      (Json.decodeOption Json.decodeU64) none w.maxExecutionDurationMs :=
    holdsOr_option (fun ms => .nat ms.toNat) (by simp [toJson, Json.get?, lookup]) rfl
      fun ms _ => Json.decodeU64_written ms
  have hpasses : ∀ field ∈ fields origin, Json.Passes origin w.toJson field := by
    simp only [fields, List.forall_mem_cons]
    exact ⟨id.passes _ _, version.passes _ _, name.passes _ _, entryStepId.passes _ _,
      steps.passes _ _, maxSteps.passes _ _, maxExecutionDurationMs.passes _ _,
      List.forall_mem_nil _⟩
  obtain ⟨record, hrecord, hcollects⟩ := decodeRecord_written origin "Workflow"
    (fields_distinct origin) (enumerates_toJson origin w) hpasses
  rw [decode, bind_of_ok hrecord, bind_of_ok (id.need hcollects),
    bind_of_ok (version.or.needOr hcollects), bind_of_ok (name.needOr hcollects),
    bind_of_ok (entryStepId.need hcollects), bind_of_ok (steps.or.needOr hcollects),
    bind_of_ok (maxSteps.or.needOr hcollects),
    bind_of_ok (maxExecutionDurationMs.needOr hcollects)]
  rfl

theorem isOrdered_of_decode {origin : Origin} {j : Json} (h : decode origin j = .ok w) :
    w.IsOrdered := by
  obtain ⟨record, -, h⟩ := ok_of_bind h
  obtain ⟨id, -, h⟩ := ok_of_bind h
  obtain ⟨version, -, h⟩ := ok_of_bind h
  obtain ⟨name, -, h⟩ := ok_of_bind h
  obtain ⟨entryStepId, -, h⟩ := ok_of_bind h
  obtain ⟨steps, hsteps, h⟩ := ok_of_bind h
  obtain ⟨maxSteps, -, h⟩ := ok_of_bind h
  obtain ⟨maxExecutionDurationMs, -, h⟩ := ok_of_bind h
  obtain rfl := Except.ok.inj h
  intro s hs
  rcases Json.needOr_eq_ok hsteps with ⟨j', hj'⟩ | rfl
  · obtain ⟨_, hdecode⟩ := Json.decodeList_eq_ok hj' s hs
    exact Step.isOrdered_of_decode hdecode
  · exact nomatch hs

/-- The text holds this value, as far as a definition looks at it. -/
def Reads (text : String) (j : Json) : Prop :=
  Json.outlined? (Json.recordOutline (fields .text)) text = some j

theorem ofText_eq_ok_iff {text : String} :
    ofText text = .ok w ↔ ∃ j, Reads text j ∧ decode .text j = .ok w := by
  unfold ofText Json.decodeText Reads
  split
  · rename_i hnone
    simp [hnone]
  · rename_i j hsome
    constructor
    · intro h
      cases hdecode : decode .text j with
      | error e =>
        rw [hdecode] at h
        cases h
      | ok w' =>
        rw [hdecode] at h
        exact ⟨j, hsome, hdecode.trans (congrArg Except.ok (Except.ok.inj h))⟩
    · rintro ⟨j', hj', hdecode⟩
      obtain rfl := Option.some.inj (hsome.symm.trans hj')
      rw [hdecode]
      rfl

/-- A definition reads back from what was written. So does one that a text was accepted for, also
from any text that holds what was written. -/
theorem reads_back :
    (∀ w : Workflow, w.IsOrdered → ∀ origin, decode origin (w.toJson.written origin) = .ok w) ∧
      ∀ text w, ofText text = .ok w →
        (∀ origin, decode origin (w.toJson.written origin) = .ok w) ∧
          ∀ text', Reads text' w.toJson → ofText text' = .ok w := by
  refine ⟨fun w hordered origin => decode_written origin hordered, fun text w haccepted => ?_⟩
  obtain ⟨j, -, hdecode⟩ := ofText_eq_ok_iff.mp haccepted
  have hordered := isOrdered_of_decode hdecode
  refine ⟨fun origin => decode_written origin hordered, fun text' hreads => ?_⟩
  exact ofText_eq_ok_iff.mpr ⟨_, hreads, decode_written .text hordered⟩

/-- A single step with params that are null. -/
def asking : Workflow where
  id := ⟨"ask", by decide⟩
  entryStepId := "a"
  steps := [{ id := "a", stepType := "completion", params := .null }]

/-- Another form of it, with a name that nobody reads and a step as an array of its fields. -/
def askingForm : Json :=
  .object [("steps", .array [.array [.string "a", .string "completion", .string "", .null]]),
    ("name", .null), ("note", .null), ("entryStepId", .string "a"), ("id", .string "ask")]

set_option maxRecDepth 20000 in
theorem reads_back_asking :
    ofText askingForm.compact = .ok asking ∧ asking.IsOrdered ∧
      Reads asking.toJson.compact asking.toJson ∧
      (∀ origin, decode origin (asking.toJson.written origin) = .ok asking) ∧
      ofText asking.toJson.compact = .ok asking := by
  have hform : Reads askingForm.compact askingForm := by
    rw [Reads]
    decide +kernel
  have hreads : Reads asking.toJson.compact asking.toJson := by
    rw [Reads]
    decide +kernel
  have haccepted : ofText askingForm.compact = .ok asking :=
    ofText_eq_ok_iff.mpr ⟨askingForm, hform, rfl⟩
  have hordered : asking.IsOrdered := by
    simp [IsOrdered, asking, Json.IsOrdered]
  exact ⟨haccepted, hordered, hreads, reads_back.1 asking hordered,
    (reads_back.2 _ asking haccepted).2 _ hreads⟩

end Workflow

end Stepwise
