import Stepwise.Proofs.Record.Operations

/-! # The life of a record -/

namespace Stepwise

/-! ## The record of a step -/

namespace StepRecord

/-- The fields that go with each status. -/
inductive Shape (r : StepRecord) : Prop where
  | running (status : r.status = .running) (output : r.output = none) (error : r.error = none)
      (errorCode : r.errorCode = none) (metadata : r.metadata = none)
      (completedAt : r.completedAt = none)
  | completed (status : r.status = .completed) (output : r.output.isSome = true)
      (metadata : r.metadata.isSome = true) (error : r.error = none)
  | failed (status : r.status = .failed) (error : r.error.isSome = true)
      (errorCode : r.errorCode.isSome = true) (output : r.output = none)
  | skipped (status : r.status = .skipped) (error : r.error.isSome = true)
      (errorCode : r.errorCode = none) (output : r.output = none)

/-- The two records tell the same end. -/
structure SameEnd (r r' : StepRecord) : Prop where
  status : r'.status = r.status
  output : r'.output = r.output
  error : r'.error = r.error
  errorCode : r'.errorCode = r.errorCode
  metadata : r'.metadata = r.metadata
  completedAt : r'.completedAt = r.completedAt

variable {r r' r'' : StepRecord}

theorem SameEnd.refl (r : StepRecord) : r.SameEnd r := ⟨rfl, rfl, rfl, rfl, rfl, rfl⟩

theorem SameEnd.trans (h : r.SameEnd r') (h' : r'.SameEnd r'') : r.SameEnd r'' where
  status := h'.status.trans h.status
  output := h'.output.trans h.output
  error := h'.error.trans h.error
  errorCode := h'.errorCode.trans h.errorCode
  metadata := h'.metadata.trans h.metadata
  completedAt := h'.completedAt.trans h.completedAt

theorem shape_start (step : Step) (now : Timestamp) : (start step now).Shape :=
  .running rfl rfl rfl rfl rfl rfl

theorem Shape.blank (h : r.Shape) (hopen : ¬r.status.isTerminal = true) :
    r.output = none ∧ r.error = none ∧ r.errorCode = none := by
  cases h with
  | running _ output error errorCode => exact ⟨output, error, errorCode⟩
  | completed status | failed status | skipped status =>
    rw [status] at hopen
    exact absurd rfl hopen

theorem Shape.change (h : r.Shape) (c : Change) : (r.change c).Shape := by
  cases c with
  | setInput input | setRetryCount n =>
    -- neither is a field that the status speaks about
    cases h with
    | running status output error errorCode metadata completedAt =>
      exact .running status output error errorCode metadata completedAt
    | completed status output metadata error => exact .completed status output metadata error
    | failed status error errorCode output => exact .failed status error errorCode output
    | skipped status error errorCode output => exact .skipped status error errorCode output
  | complete output metadata now =>
    rw [StepRecord.change, complete]
    split
    · exact h
    · rename_i hopen
      obtain ⟨-, error, -⟩ := h.blank hopen
      exact .completed rfl rfl rfl error
  | fail error now =>
    rw [StepRecord.change, fail]
    split
    · exact h
    · rename_i hopen
      obtain ⟨output, -, -⟩ := h.blank hopen
      exact .failed rfl rfl rfl output
  | skip reason now =>
    rw [StepRecord.change, skip]
    split
    · exact h
    · rename_i hopen
      obtain ⟨output, -, errorCode⟩ := h.blank hopen
      exact .skipped rfl rfl errorCode output

theorem keeps_after {P : StepRecord → Prop} (keeps : ∀ r c, P r → P (r.change c)) (h : P r)
    (changes : List Change) : P (r.after changes) := by
  induction changes generalizing r with
  | nil => exact h
  | cons c rest ih => exact ih (keeps r c h)

theorem Shape.after (h : r.Shape) (changes : List Change) : (r.after changes).Shape :=
  keeps_after (fun _ c hr => hr.change c) h changes

theorem sameEnd_change (h : r.status.isTerminal = true) (c : Change) : r.SameEnd (r.change c) := by
  cases c with
  | setInput input => exact ⟨rfl, rfl, rfl, rfl, rfl, rfl⟩
  | setRetryCount n => exact ⟨rfl, rfl, rfl, rfl, rfl, rfl⟩
  | complete output metadata now =>
    rw [StepRecord.change, complete, if_pos h]
    exact .refl r
  | fail error now =>
    rw [StepRecord.change, fail, if_pos h]
    exact .refl r
  | skip reason now =>
    rw [StepRecord.change, skip, if_pos h]
    exact .refl r

theorem sameEnd_after (h : r.status.isTerminal = true) (changes : List Change) :
    r.SameEnd (r.after changes) := by
  refine keeps_after (fun r' c (hr' : r.SameEnd r') => ?_) (.refl r) changes
  have hterminal : r'.status.isTerminal = true := hr'.status ▸ h
  exact hr'.trans (sameEnd_change hterminal c)

end StepRecord

/-! ## The last record -/

section changeLast

variable {α : Type} (f : α → α) (xs : List α)

theorem length_changeLast : (changeLast f xs).length = xs.length := by
  induction xs with
  | nil => rfl
  | cons x rest ih =>
    cases rest with
    | nil => rfl
    | cons y rest => exact congrArg (· + 1) ih

theorem getElem?_changeLast {i : Nat} (h : i + 1 < xs.length) :
    (changeLast f xs)[i]? = xs[i]? := by
  induction xs generalizing i with
  | nil => rfl
  | cons x rest ih =>
    cases rest with
    | nil => exact absurd h (Nat.lt_irrefl _ ∘ Nat.lt_of_le_of_lt (Nat.le_add_left 1 i))
    | cons y rest =>
      cases i with
      | zero => rfl
      | succ i => exact ih (Nat.lt_of_succ_lt_succ h)

end changeLast

/-! ## The record of a run -/

namespace Execution

/-- The fields that go with each status. -/
inductive Phase (e : Execution) : Prop where
  | live (status : e.status = .pending ∨ e.status = .running) (output : e.output = none)
      (error : e.error = none) (completedAt : e.completedAt = none)
  | completed (status : e.status = .completed) (completedAt : e.completedAt.isSome = true)
      (error : e.error = none)
  | broken (status : e.status = .failed ∨ e.status = .timeout ∨ e.status = .cancelled)
      (completedAt : e.completedAt.isSome = true) (error : e.error.isSome = true)
      (output : e.output = none)

/-- What stays when one record becomes the other. -/
structure Evolves (e e' : Execution) : Prop where
  /-- A run that has ended has ended for good. -/
  ended : e.status.isTerminal = true → e'.status = e.status ∧ e'.output = e.output ∧
    e'.error = e.error ∧ e'.completedAt = e.completedAt ∧ e'.steps.length = e.steps.length
  grows : e.steps.length ≤ e'.steps.length
  /-- The record of a step stays once another one follows, or once it has ended. -/
  stays : ∀ i r, e.steps[i]? = some r → (i + 1 < e.steps.length ∨ r.status.isTerminal = true) →
    e'.steps[i]? = some r

/-- The record is in order, and it can only change where it has not ended. -/
structure Lawful (e : Execution) : Prop where
  phase : e.Phase
  records : ∀ r ∈ e.steps, r.Shape
  refuses : e.status.isTerminal = true → ∀ now error,
    (e.start now).1 = false ∧ (e.complete now).1 = false ∧ (e.fail error now).1 = false
  evolves : ∀ more, e.Evolves (e.after more)
  /-- A step that ends among several changes at once is not ended again by the others. -/
  settles : ∀ r ∈ e.steps, ∀ changes more, (r.after changes).status.isTerminal = true →
    (r.after changes).SameEnd ((r.after changes).after more)

variable {e e' e'' : Execution}

/-! ### The status and its fields -/

theorem not_terminal_of_pending (h : e.status = .pending) : ¬e.status.isTerminal = true := by
  rw [h]
  exact Bool.false_ne_true

theorem Phase.blank (h : e.Phase) (hopen : ¬e.status.isTerminal = true) :
    e.output = none ∧ e.error = none := by
  cases h with
  | live _ output error => exact ⟨output, error⟩
  | completed status =>
    rw [status] at hopen
    exact absurd rfl hopen
  | broken status =>
    rcases status with status | status | status
    all_goals
      rw [status] at hopen
      exact absurd rfl hopen

theorem Phase.congr (h : e.Phase) (status : e'.status = e.status) (output : e'.output = e.output)
    (error : e'.error = e.error) (completedAt : e'.completedAt = e.completedAt) : e'.Phase := by
  cases h with
  | live hs ho he hc => exact .live (status ▸ hs) (output ▸ ho) (error ▸ he) (completedAt ▸ hc)
  | completed hs hc he => exact .completed (status ▸ hs) (completedAt ▸ hc) (error ▸ he)
  | broken hs hc he ho =>
    exact .broken (status ▸ hs) (completedAt ▸ hc) (error ▸ he) (output ▸ ho)

theorem Phase.change (h : e.Phase) (c : Change) : (e.change c).Phase := by
  cases c with
  | start now =>
    rw [Execution.change, start]
    split
    · rename_i hpending
      obtain ⟨output, error⟩ := h.blank (not_terminal_of_pending hpending)
      cases h with
      | live _ _ _ completedAt => exact .live (Or.inr rfl) output error completedAt
      | completed status =>
        rw [hpending] at status
        cases status
      | broken status => simp [hpending] at status
    · exact h
  | push step now changes =>
    rw [Execution.change, push]
    split
    · exact h
    · exact h.congr rfl rfl rfl rfl
  | current changes =>
    rw [Execution.change, changeCurrent]
    split
    · exact h.congr rfl rfl rfl rfl
    · exact h
  | metrics f => exact h.congr rfl rfl rfl rfl
  | complete now =>
    rw [Execution.change, complete]
    split
    · exact h
    · rename_i hopen
      exact .completed rfl rfl (h.blank hopen).2
  | fail error now =>
    rw [Execution.change, fail]
    split
    · exact h
    · rename_i hopen
      have hstatus : ExecutionStatus.ofError error = .failed ∨
          ExecutionStatus.ofError error = .timeout ∨ ExecutionStatus.ofError error = .cancelled := by
        cases error <;> simp [ExecutionStatus.ofError, WorkflowError.isTimeout]
      exact .broken hstatus rfl rfl (h.blank hopen).1

theorem shapes_change (h : ∀ r ∈ e.steps, r.Shape) (c : Change) :
    ∀ r ∈ (e.change c).steps, r.Shape := by
  cases c with
  | start now =>
    rw [Execution.change, start]
    split <;> exact h
  | push step now changes =>
    rw [Execution.change, push]
    split
    · exact h
    · intro r hr
      rcases List.mem_append.mp hr with hr | hr
      · exact h r hr
      · rw [List.mem_singleton.mp hr]
        exact (StepRecord.shape_start step now).after changes
  | current changes => exact forall_mem_steps_changeCurrent h fun r hr => (h r hr).after changes
  | metrics f => exact h
  | complete now =>
    rw [Execution.change, complete]
    split <;> exact h
  | fail error now =>
    rw [Execution.change, fail]
    split <;> exact h

/-! ### What stays -/

theorem Evolves.refl (e : Execution) : e.Evolves e :=
  ⟨fun _ => ⟨rfl, rfl, rfl, rfl, rfl⟩, Nat.le_refl _, fun _ _ hr _ => hr⟩

theorem Evolves.trans (h : e.Evolves e') (h' : e'.Evolves e'') : e.Evolves e'' where
  ended hterminal := by
    obtain ⟨status, output, error, completedAt, length⟩ := h.ended hterminal
    obtain ⟨status', output', error', completedAt', length'⟩ := h'.ended (status ▸ hterminal)
    exact ⟨status'.trans status, output'.trans output, error'.trans error,
      completedAt'.trans completedAt, length'.trans length⟩
  grows := Nat.le_trans h.grows h'.grows
  stays i r hr hkept := by
    refine h'.stays i r (h.stays i r hr hkept) ?_
    rcases hkept with hlt | hterminal
    · exact Or.inl (Nat.lt_of_lt_of_le hlt h.grows)
    · exact Or.inr hterminal

theorem Evolves.of_open (hopen : ¬e.status.isTerminal = true) (steps : e'.steps = e.steps) :
    e.Evolves e' where
  ended hterminal := absurd hterminal hopen
  grows := steps ▸ Nat.le_refl _
  stays _ _ hr _ := steps ▸ hr

theorem evolves_push (e : Execution) (r : StepRecord) : e.Evolves (e.push r) := by
  unfold push
  split
  · exact .refl e
  · rename_i hopen
    refine ⟨fun hterminal => absurd hterminal hopen, ?_, fun i r' hr' _ => ?_⟩
    · rw [List.length_append]
      exact Nat.le_add_right _ _
    · rw [List.getElem?_append_left (List.getElem?_eq_some_iff.mp hr').1]
      exact hr'

/-- Only the last record changes, and only while its step is running. -/
theorem evolves_changeCurrent (e : Execution) (f : StepRecord → StepRecord) :
    e.Evolves (e.changeCurrent f) := by
  unfold changeCurrent
  split
  · rename_i hcurrent
    refine ⟨fun _ => ⟨rfl, rfl, rfl, rfl, length_changeLast f e.steps⟩,
      Nat.le_of_eq (length_changeLast f e.steps).symm, fun i r hr hkept => ?_⟩
    obtain ⟨hi, -⟩ := List.getElem?_eq_some_iff.mp hr
    have hlt : i + 1 < e.steps.length := by
      rcases hkept with hlt | hterminal
      · exact hlt
      · -- a record that has ended is not the current one, so it is not the last one either
        refine Nat.lt_of_le_of_ne hi fun hlast => ?_
        have hr' : e.steps.getLast? = some r := by
          rw [List.getLast?_eq_getElem?, ← hlast]
          exact hr
        obtain ⟨r', hr''⟩ := Option.isSome_iff_exists.mp hcurrent
        obtain ⟨hlast', hrunning⟩ := Option.filter_eq_some_iff.mp hr''
        obtain rfl := Option.some.inj (hr'.symm.trans hlast')
        rw [eq_of_beq hrunning] at hterminal
        cases hterminal
    exact (getElem?_changeLast f e.steps hlt).trans hr
  · exact .refl e

theorem evolves_change (e : Execution) (c : Change) : e.Evolves (e.change c) := by
  cases c with
  | start now =>
    rw [Execution.change, start]
    split
    · rename_i hpending
      exact .of_open (not_terminal_of_pending hpending) rfl
    · exact .refl e
  | push step now changes => exact evolves_push e _
  | current changes => exact evolves_changeCurrent e _
  | metrics f => exact ⟨fun _ => ⟨rfl, rfl, rfl, rfl, rfl⟩, Nat.le_refl _, fun _ _ hr _ => hr⟩
  | complete now =>
    rw [Execution.change, complete]
    split
    · exact .refl e
    · rename_i hopen
      exact .of_open hopen rfl
  | fail error now =>
    rw [Execution.change, fail]
    split
    · exact .refl e
    · rename_i hopen
      exact .of_open hopen rfl

/-! ### Any record -/

theorem keeps_after {P : Execution → Prop} (keeps : ∀ e c, P e → P (e.change c)) (h : P e)
    (changes : List Change) : P (e.after changes) := by
  induction changes generalizing e with
  | nil => exact h
  | cons c rest ih => exact ih (keeps e c h)

theorem evolves_after (e : Execution) (changes : List Change) : e.Evolves (e.after changes) :=
  keeps_after (fun e' c (he' : e.Evolves e') => he'.trans (evolves_change e' c)) (.refl e) changes

theorem refuses_of_terminal (h : e.status.isTerminal = true) (now : Timestamp)
    (error : WorkflowError) :
    (e.start now).1 = false ∧ (e.complete now).1 = false ∧ (e.fail error now).1 = false := by
  refine ⟨?_, ?_, ?_⟩
  · have hne : e.status ≠ .pending := fun hpending => not_terminal_of_pending hpending h
    rw [start, if_neg hne]
  · rw [complete, if_pos h]
  · rw [fail, if_pos h]

/-- Whatever is done to the record of a run, in whatever order, leaves it lawful. -/
theorem after_lawful (id : String) (w : Workflow) (tenantId : String) (input : Json)
    (now : Timestamp) (changes : List Change) :
    ((new id w tenantId input now).after changes).Lawful where
  phase := keeps_after (fun _ c he => he.change c) (.live (Or.inl rfl) rfl rfl rfl) changes
  records := by
    have hnone : ∀ r ∈ (new id w tenantId input now).steps, r.Shape :=
      fun _ hr => absurd hr List.not_mem_nil
    exact keeps_after (P := fun e => ∀ r ∈ e.steps, r.Shape) (fun _ c he => shapes_change he c)
      hnone changes
  refuses := refuses_of_terminal
  evolves := evolves_after _
  settles _ _ _ more hterminal := StepRecord.sameEnd_after hterminal more

end Execution

end Stepwise
