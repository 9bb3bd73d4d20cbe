import Stepwise.Record.Codec
import Stepwise.Proofs.Json.Fields
import Stepwise.Proofs.Numeric.Digits

/-! # Records that are read again -/

namespace Stepwise

/-! ## Points in time -/

namespace Timestamp

theorem length_padded (width n : Nat) : (padded width n).length = width := by
  induction width generalizing n with
  | zero => rfl
  | succ width ih => simp [padded, ih]

theorem all_isDigit_padded (width n : Nat) : (padded width n).all Char.isDigit = true := by
  induction width generalizing n with
  | zero => rfl
  | succ width ih =>
    have hlast : (Nat.digitChar (n % 10)).isDigit = true :=
      Nat.isDigit_digitChar.trans (decide_eq_true (Nat.mod_lt n (by decide)))
    simp [padded, ih, hlast]

theorem natOfDigits_padded {width n : Nat} (h : n < Nat.pow 10 width) :
    natOfDigits (padded width n) = n := by
  induction width generalizing n with
  | zero =>
    have hzero : n = 0 := Nat.lt_one_iff.mp h
    rw [hzero]
    rfl
  | succ width ih =>
    have hlast : n % 10 < 10 := Nat.mod_lt n (by decide)
    have hinit : n / 10 < Nat.pow 10 width := Nat.div_lt_of_lt_mul (Nat.mul_comm _ _ ▸ h)
    have hdigits := ih hinit
    rw [natOfDigits] at hdigits ⊢
    rw [padded, List.foldl_append, hdigits]
    simp [digitValue, Nat.toNat_digitChar_sub_48_of_lt_ten hlast]
    omega

theorem readField_padded {width bound : Nat} (n : Fin bound) (h : bound ≤ Nat.pow 10 width)
    (rest : List Char) : readField width bound (padded width n ++ rest) = some (n, rest) := by
  have hvalue := natOfDigits_padded (Nat.lt_of_lt_of_le n.isLt h)
  have htake : (padded width n ++ rest).take width = padded width n :=
    List.take_left' (length_padded width n)
  have hdrop : (padded width n ++ rest).drop width = rest :=
    List.drop_left' (length_padded width n)
  unfold readField
  simp only [htake, hdrop, hvalue, length_padded, all_isDigit_padded, n.isLt, and_self, dite_true]

theorem ofText?_text (t : Timestamp) : ofText? t.text = some t := by
  have hchars : t.text.toList = padded 4 t.year ++ '-' :: (padded 2 t.month ++ '-' ::
      (padded 2 t.day ++ 'T' :: (padded 2 t.hour ++ ':' :: (padded 2 t.minute ++ ':' ::
      (padded 2 t.second ++ '.' :: (padded 9 t.nanos ++ ['Z'])))))) := by
    simp [text, chars]
  have hmark : ∀ (c : Char) (rest : List Char), readMark c (c :: rest) = some rest :=
    fun c rest => if_pos rfl
  unfold ofText?
  rw [hchars]
  simp only [readField_padded _ (by decide : 10000 ≤ Nat.pow 10 4),
    readField_padded _ (by decide : 100 ≤ Nat.pow 10 2),
    readField_padded _ (by decide : 1000000000 ≤ Nat.pow 10 9), hmark, Option.bind_eq_bind,
    Option.bind_some, if_true]

theorem decode_written (origin : Origin) (t : Timestamp) :
    decode (t.toJson.written origin) = .ok t := by
  rw [toJson, decode, bind_of_ok (Json.decodeString_written t.text), ofText?_text]

end Timestamp

theorem StepStatus.decode_written (origin : Origin) (s : StepStatus) :
    decode ((Json.string s.name).written origin) = .ok s := by
  rw [decode, bind_of_ok (Json.decodeString_written s.name)]
  cases s <;> rfl

theorem ExecutionStatus.decode_written (origin : Origin) (s : ExecutionStatus) :
    decode ((Json.string s.name).written origin) = .ok s := by
  rw [decode, bind_of_ok (Json.decodeString_written s.name)]
  cases s <;> rfl

/-! ## Counters -/

open Json (Holds HoldsOr Enumerates holds_string holds_u32 holds_u64 holdsOr_string holdsOr_option
  holdsOr_any unlessNull decodeRecord_written memberIfSome)
open Named (lookup)

namespace StepMetadata

theorem decode_written (origin : Origin) (m : StepMetadata) :
    decode origin ((Json.object m.members).written origin) = .ok m := by
  have durationMs :
      Holds origin (.object m.members) "durationMs" Json.decodeU64 m.durationMs :=
    holds_u64 rfl
  have retrievalCalls :
      Holds origin (.object m.members) "retrievalCalls" Json.decodeU32 m.retrievalCalls :=
    holds_u32 rfl
  have llmCalls :
      Holds origin (.object m.members) "llmCalls" Json.decodeU32 m.llmCalls :=
    holds_u32 rfl
  have externalCalls :
      Holds origin (.object m.members) "externalCalls" Json.decodeU32 m.externalCalls :=
    holds_u32 rfl
  have promptTokens :
      Holds origin (.object m.members) "promptTokens" Json.decodeU32 m.promptTokens :=
    holds_u32 rfl
  have completionTokens :
      Holds origin (.object m.members) "completionTokens" Json.decodeU32 m.completionTokens :=
    holds_u32 rfl
  have totalTokens :
      Holds origin (.object m.members) "totalTokens" Json.decodeU32 m.totalTokens :=
    holds_u32 rfl
  have hpasses : ∀ field ∈ fields, Json.Passes origin (.object m.members) field := by
    simp only [fields, List.forall_mem_cons]
    exact ⟨durationMs.passes _ _, retrievalCalls.passes _ _, llmCalls.passes _ _,
      externalCalls.passes _ _, promptTokens.passes _ _, completionTokens.passes _ _,
      totalTokens.passes _ _, List.forall_mem_nil _⟩
  have henumerates : Enumerates fields (.object m.members) := ⟨_, rfl, List.Sublist.refl _⟩
  obtain ⟨record, hrecord, hcollects⟩ :=
    decodeRecord_written origin "StepMetadata" (by decide) henumerates hpasses
  rw [decode, bind_of_ok hrecord, bind_of_ok (durationMs.need hcollects),
    bind_of_ok (retrievalCalls.or.needOr hcollects), bind_of_ok (llmCalls.or.needOr hcollects),
    bind_of_ok (externalCalls.or.needOr hcollects), bind_of_ok (promptTokens.or.needOr hcollects),
    bind_of_ok (completionTokens.or.needOr hcollects), bind_of_ok (totalTokens.or.needOr hcollects)]
  rfl

end StepMetadata

namespace Metrics

theorem decode_written (origin : Origin) (m : Metrics) :
    decode origin (m.toJson.written origin) = .ok m := by
  have stepsExecuted : Holds origin m.toJson "stepsExecuted" Json.decodeU32 m.stepsExecuted :=
    holds_u32 rfl
  have stepsFailed : Holds origin m.toJson "stepsFailed" Json.decodeU32 m.stepsFailed :=
    holds_u32 rfl
  have retries : Holds origin m.toJson "retries" Json.decodeU32 m.retries := holds_u32 rfl
  have retrievalCalls : Holds origin m.toJson "retrievalCalls" Json.decodeU32 m.retrievalCalls :=
    holds_u32 rfl
  have llmCalls : Holds origin m.toJson "llmCalls" Json.decodeU32 m.llmCalls := holds_u32 rfl
  have externalCalls : Holds origin m.toJson "externalCalls" Json.decodeU32 m.externalCalls :=
    holds_u32 rfl
  have promptTokens : Holds origin m.toJson "promptTokens" Json.decodeU32 m.promptTokens :=
    holds_u32 rfl
  have completionTokens :
      Holds origin m.toJson "completionTokens" Json.decodeU32 m.completionTokens :=
    holds_u32 rfl
  have totalTokens : Holds origin m.toJson "totalTokens" Json.decodeU32 m.totalTokens :=
    holds_u32 rfl
  have totalDurationMs :
      Holds origin m.toJson "totalDurationMs" Json.decodeU64 m.totalDurationMs :=
    holds_u64 rfl
  have hpasses : ∀ field ∈ fields, Json.Passes origin m.toJson field := by
    simp only [fields, List.forall_mem_cons]
    exact ⟨stepsExecuted.passes _ _, stepsFailed.passes _ _, retries.passes _ _,
      retrievalCalls.passes _ _, llmCalls.passes _ _, externalCalls.passes _ _,
      promptTokens.passes _ _, completionTokens.passes _ _, totalTokens.passes _ _,
      totalDurationMs.passes _ _, List.forall_mem_nil _⟩
  have henumerates : Enumerates fields m.toJson := ⟨_, rfl, List.Sublist.refl _⟩
  obtain ⟨record, hrecord, hcollects⟩ :=
    decodeRecord_written origin "ExecutionMetrics" (by decide) henumerates hpasses
  rw [decode, bind_of_ok hrecord, bind_of_ok (stepsExecuted.need hcollects),
    bind_of_ok (stepsFailed.need hcollects), bind_of_ok (retries.need hcollects),
    bind_of_ok (retrievalCalls.need hcollects), bind_of_ok (llmCalls.need hcollects),
    bind_of_ok (externalCalls.need hcollects), bind_of_ok (promptTokens.need hcollects),
    bind_of_ok (completionTokens.need hcollects), bind_of_ok (totalTokens.need hcollects),
    bind_of_ok (totalDurationMs.need hcollects)]
  rfl

end Metrics

/-! ## Records of steps -/

namespace ExecutionError

theorem enumerates_toJson (e : ExecutionError) : Enumerates fields e.toJson := by
  refine ⟨_, rfl, ?_⟩
  rw [Json.names_append]
  exact (List.Sublist.refl ["code", "message"]).append (Json.names_memberIfSome _ _)

theorem decode_written (origin : Origin) (e : ExecutionError) :
    decode origin (e.toJson.written origin) = .ok e := by
  have code : Holds origin e.toJson "code" Json.decodeString e.code := holds_string rfl
  have message : Holds origin e.toJson "message" Json.decodeString e.message := holds_string rfl
  have stepId :
      HoldsOr origin e.toJson "stepId" (Json.decodeOption Json.decodeString) none e.stepId :=
    holdsOr_string (by simp [toJson, Json.get?, lookup])
  have hpasses : ∀ field ∈ fields, Json.Passes origin e.toJson field := by
    simp only [fields, List.forall_mem_cons]
    exact ⟨code.passes _ _, message.passes _ _, stepId.passes _ _, List.forall_mem_nil _⟩
  obtain ⟨record, hrecord, hcollects⟩ :=
    decodeRecord_written origin "ExecutionError" (by decide) e.enumerates_toJson hpasses
  rw [decode, bind_of_ok hrecord, bind_of_ok (code.need hcollects),
    bind_of_ok (message.need hcollects), bind_of_ok (stepId.needOr hcollects)]
  rfl

end ExecutionError

namespace StepRecord

theorem fields_distinct (origin : Origin) : ((fields origin).map Json.FieldSpec.name).Nodup := by
  cases origin <;> decide

theorem enumerates_toJson (origin : Origin) (r : StepRecord) :
    Enumerates (fields origin) r.toJson := by
  refine ⟨_, rfl, ?_⟩
  simp only [Json.names_append]
  exact (((((((List.Sublist.refl ["stepId", "stepType", "status", "input"]).append
    (Json.names_memberIfSome "output" _)).append (Json.names_memberIfSome "error" _)).append
    (Json.names_memberIfSome "errorCode" _)).append (Json.names_memberIfSome "metadata" _)).append
    (List.Sublist.refl ["startedAt"])).append (Json.names_memberIfSome "completedAt" _)).append
    (List.Sublist.refl ["durationMs", "retryCount"])

/-- The values of the record are in order. -/
structure IsOrdered (r : StepRecord) : Prop where
  input : r.input.IsOrdered
  output : ∀ j, r.output = some j → j.IsOrdered

/-- The record once it is written and read. A null output is lost. -/
def reread (r : StepRecord) : StepRecord := { r with output := unlessNull r.output }

theorem decode_written (origin : Origin) {r : StepRecord} (hordered : r.IsOrdered) :
    decode origin (r.toJson.written origin) = .ok r.reread := by
  have stepId : Holds origin r.toJson "stepId" Json.decodeString r.stepId := holds_string rfl
  have stepType : Holds origin r.toJson "stepType" Json.decodeString r.stepType :=
    holds_string rfl
  have status : Holds origin r.toJson "status" StepStatus.decode r.status :=
    ⟨_, rfl, StepStatus.decode_written origin r.status⟩
  have input : Holds origin r.toJson "input" Json.decodeAny r.input :=
    ⟨_, rfl, Json.decodeAny_written hordered.input⟩
  have output : HoldsOr origin r.toJson "output" (Json.decodeOption Json.decodeAny) none
      (unlessNull r.output) :=
    holdsOr_any (by simp [toJson, Json.get?, lookup]) hordered.output
  have error :
      HoldsOr origin r.toJson "error" (Json.decodeOption Json.decodeString) none r.error :=
    holdsOr_string (by simp [toJson, Json.get?, lookup])
  have errorCode :
      HoldsOr origin r.toJson "errorCode" (Json.decodeOption Json.decodeString) none
        r.errorCode :=
    holdsOr_string (by simp [toJson, Json.get?, lookup])
  have metadata : HoldsOr origin r.toJson "metadata"
      (Json.decodeOption (StepMetadata.decode origin)) none r.metadata :=
    holdsOr_option (fun m => .object m.members) (by simp [toJson, Json.get?, lookup]) rfl
      fun m _ => StepMetadata.decode_written origin m
  have startedAt : Holds origin r.toJson "startedAt" Timestamp.decode r.startedAt :=
    ⟨_, by simp [toJson, Json.get?, lookup],
      Timestamp.decode_written origin r.startedAt⟩
  have completedAt : HoldsOr origin r.toJson "completedAt"
      (Json.decodeOption Timestamp.decode) none r.completedAt :=
    holdsOr_option Timestamp.toJson (by simp [toJson, Json.get?, lookup]) rfl
      fun t _ => Timestamp.decode_written origin t
  have durationMs : Holds origin r.toJson "durationMs" Json.decodeU64 r.durationMs :=
    holds_u64 (by simp [toJson, Json.get?, lookup])
  have retryCount : Holds origin r.toJson "retryCount" Json.decodeU32 r.retryCount :=
    holds_u32 (by simp [toJson, Json.get?, lookup])
  have hpasses : ∀ field ∈ fields origin, Json.Passes origin r.toJson field := by
    simp only [fields, List.forall_mem_cons]
    exact ⟨stepId.passes _ _, stepType.passes _ _, status.passes _ _, input.passes _ _,
      output.passes _ _, error.passes _ _, errorCode.passes _ _, metadata.passes _ _,
      startedAt.passes _ _, completedAt.passes _ _, durationMs.passes _ _, retryCount.passes _ _,
      List.forall_mem_nil _⟩
  obtain ⟨record, hrecord, hcollects⟩ := decodeRecord_written origin "StepExecution"
    (fields_distinct origin) (enumerates_toJson origin r) hpasses
  rw [decode, bind_of_ok hrecord, bind_of_ok (stepId.need hcollects),
    bind_of_ok (stepType.need hcollects), bind_of_ok (status.need hcollects),
    bind_of_ok (input.need hcollects), bind_of_ok (output.needOr hcollects),
    bind_of_ok (error.needOr hcollects), bind_of_ok (errorCode.needOr hcollects),
    bind_of_ok (metadata.needOr hcollects), bind_of_ok (startedAt.need hcollects),
    bind_of_ok (completedAt.needOr hcollects), bind_of_ok (durationMs.need hcollects),
    bind_of_ok (retryCount.need hcollects)]
  rfl

end StepRecord

/-! ## Records of runs -/

namespace Execution

theorem fields_distinct (origin : Origin) : ((fields origin).map Json.FieldSpec.name).Nodup := by
  cases origin <;> decide

theorem enumerates_toJson (origin : Origin) (e : Execution) :
    Enumerates (fields origin) e.toJson := by
  refine ⟨_, rfl, ?_⟩
  simp only [Json.names_append]
  exact ((((((List.Sublist.refl
    ["id", "workflowId", "workflowVersion", "tenantId", "status", "input"]).append
    (Json.names_memberIfSome "output" _)).append (List.Sublist.refl ["steps", "metrics"])).append
    (Json.names_memberIfSome "error" _)).append (List.Sublist.refl ["createdAt"])).append
    (Json.names_memberIfSome "startedAt" _)).append (Json.names_memberIfSome "completedAt" _)

/-- The values of the record are in order. -/
structure IsOrdered (e : Execution) : Prop where
  input : e.input.IsOrdered
  output : ∀ j, e.output = some j → j.IsOrdered
  steps : ∀ r ∈ e.steps, r.IsOrdered

/-- The record once it is written and read. Null outputs are lost. -/
def reread (e : Execution) : Execution :=
  { e with output := unlessNull e.output, steps := e.steps.map StepRecord.reread }

theorem decode_written (origin : Origin) {e : Execution} (hordered : e.IsOrdered) :
    decode origin (e.toJson.written origin) = .ok e.reread := by
  have id : Holds origin e.toJson "id" Json.decodeString e.id := holds_string rfl
  have workflowId : Holds origin e.toJson "workflowId" Json.decodeString e.workflowId :=
    holds_string rfl
  have workflowVersion :
      Holds origin e.toJson "workflowVersion" Json.decodeU32 e.workflowVersion := holds_u32 rfl
  have tenantId : Holds origin e.toJson "tenantId" Json.decodeString e.tenantId :=
    holds_string rfl
  have status : Holds origin e.toJson "status" ExecutionStatus.decode e.status :=
    ⟨_, rfl, ExecutionStatus.decode_written origin e.status⟩
  have input : Holds origin e.toJson "input" Json.decodeAny e.input :=
    ⟨_, rfl, Json.decodeAny_written hordered.input⟩
  have output : HoldsOr origin e.toJson "output" (Json.decodeOption Json.decodeAny) none
      (unlessNull e.output) :=
    holdsOr_any (by simp [toJson, Json.get?, lookup]) hordered.output
  have steps : Holds origin e.toJson "steps" (Json.decodeList (StepRecord.decode origin))
      (e.steps.map StepRecord.reread) :=
    ⟨_, by simp [toJson, Json.get?, lookup], Json.decodeList_written
      fun r hr => StepRecord.decode_written origin (hordered.steps r hr)⟩
  have metrics : Holds origin e.toJson "metrics" (Metrics.decode origin) e.metrics :=
    ⟨_, by simp [toJson, Json.get?, lookup],
      Metrics.decode_written origin e.metrics⟩
  have error : HoldsOr origin e.toJson "error"
      (Json.decodeOption (ExecutionError.decode origin)) none e.error :=
    holdsOr_option ExecutionError.toJson (by simp [toJson, Json.get?, lookup]) rfl
      fun error _ => ExecutionError.decode_written origin error
  have createdAt : Holds origin e.toJson "createdAt" Timestamp.decode e.createdAt :=
    ⟨_, by simp [toJson, Json.get?, lookup],
      Timestamp.decode_written origin e.createdAt⟩
  have startedAt : HoldsOr origin e.toJson "startedAt"
      (Json.decodeOption Timestamp.decode) none e.startedAt :=
    holdsOr_option Timestamp.toJson (by simp [toJson, Json.get?, lookup]) rfl
      fun t _ => Timestamp.decode_written origin t
  have completedAt : HoldsOr origin e.toJson "completedAt"
      (Json.decodeOption Timestamp.decode) none e.completedAt :=
    holdsOr_option Timestamp.toJson (by simp [toJson, Json.get?, lookup]) rfl
      fun t _ => Timestamp.decode_written origin t
  have hpasses : ∀ field ∈ fields origin, Json.Passes origin e.toJson field := by
    simp only [fields, List.forall_mem_cons]
    exact ⟨id.passes _ _, workflowId.passes _ _, workflowVersion.passes _ _, tenantId.passes _ _,
      status.passes _ _, input.passes _ _, output.passes _ _, steps.passes _ _,
      metrics.passes _ _, error.passes _ _, createdAt.passes _ _, startedAt.passes _ _,
      completedAt.passes _ _, List.forall_mem_nil _⟩
  obtain ⟨record, hrecord, hcollects⟩ := decodeRecord_written origin "WorkflowExecution"
    (fields_distinct origin) (enumerates_toJson origin e) hpasses
  rw [decode, bind_of_ok hrecord, bind_of_ok (id.need hcollects),
    bind_of_ok (workflowId.need hcollects), bind_of_ok (workflowVersion.need hcollects),
    bind_of_ok (tenantId.need hcollects), bind_of_ok (status.need hcollects),
    bind_of_ok (input.need hcollects), bind_of_ok (output.needOr hcollects),
    bind_of_ok (steps.need hcollects), bind_of_ok (metrics.need hcollects),
    bind_of_ok (error.needOr hcollects), bind_of_ok (createdAt.need hcollects),
    bind_of_ok (startedAt.needOr hcollects), bind_of_ok (completedAt.needOr hcollects)]
  rfl

end Execution

end Stepwise
