import Stepwise.Proofs.Record.Reading

/-! # Records and what is done to them -/

namespace Stepwise

open Json (unlessNull unlessNull_eq_self_iff)
open Named (lookup)

/-! ## The record of a step -/

/-- What is done to the record of a step. -/
inductive StepRecord.Change where
  | setInput (input : Json)
  | setRetryCount (retryCount : UInt32)
  | complete (output : Json) (metadata : StepMetadata) (now : Timestamp)
  | fail (error : StepError) (now : Timestamp)
  | skip (reason : String) (now : Timestamp)

namespace StepRecord

/-- The values that a change brings are in order. -/
def Change.IsOrdered : Change → Prop
  | .setInput input => input.IsOrdered
  | .complete output _ _ => output.IsOrdered
  | _ => True

def change (r : StepRecord) : Change → StepRecord
  | .setInput input => r.setInput input
  | .setRetryCount retryCount => r.setRetryCount retryCount
  | .complete output metadata now => r.complete output metadata now
  | .fail error now => r.fail error now
  | .skip reason now => r.skip reason now

def after (r : StepRecord) (changes : List Change) : StepRecord := changes.foldl change r

variable {r : StepRecord}

theorem isOrdered_start {step : Step} (h : step.params.IsOrdered) (now : Timestamp) :
    (start step now).IsOrdered :=
  ⟨h, nofun⟩

theorem IsOrdered.change (h : r.IsOrdered) {c : Change} (hc : c.IsOrdered) :
    (r.change c).IsOrdered := by
  cases c with
  | setInput input => exact ⟨hc, h.output⟩
  | setRetryCount n => exact ⟨h.input, h.output⟩
  | complete output metadata now =>
    rw [StepRecord.change, complete]
    split
    · exact h
    · refine ⟨h.input, fun j hj => ?_⟩
      obtain rfl := Option.some.inj hj
      exact hc
  | fail error now =>
    rw [StepRecord.change, fail]
    split
    · exact h
    · exact ⟨h.input, h.output⟩
  | skip reason now =>
    rw [StepRecord.change, skip]
    split
    · exact h
    · exact ⟨h.input, h.output⟩

theorem IsOrdered.after (h : r.IsOrdered) {changes : List Change}
    (hchanges : ∀ c ∈ changes, c.IsOrdered) : (r.after changes).IsOrdered := by
  induction changes generalizing r with
  | nil => exact h
  | cons c rest ih =>
    have hc := h.change (hchanges c List.mem_cons_self)
    exact ih hc fun c' hmem => hchanges c' (List.mem_cons_of_mem c hmem)

theorem reread_written_iff (origin : Origin) :
    r.reread.toJson.written origin = r.toJson.written origin ↔ r.output ≠ some .null := by
  constructor
  · intro heq hnull
    have houtput := (enumerates_toJson origin r.reread).get?_of_written_eq
      (enumerates_toJson origin r) (fields_distinct origin) heq "output"
    have hlost : unlessNull (some .null) = none := rfl
    simp [toJson, Json.get?, lookup, reread, hnull, hlost] at houtput
  · intro hne
    rw [reread, unlessNull_eq_self_iff.mpr hne]

end StepRecord

/-! ## The record of a run -/

/-- What is done to the record of a run. -/
inductive Execution.Change where
  | start (now : Timestamp)
  /-- The record of a step that was started, and perhaps changed before it was added. -/
  | push (step : Step) (now : Timestamp) (changes : List StepRecord.Change)
  /-- Changes of the last record while its step is running. -/
  | current (changes : List StepRecord.Change)
  | metrics (f : Metrics → Metrics)
  | complete (now : Timestamp)
  | fail (error : WorkflowError) (now : Timestamp)

section changeLast

variable {α : Type} {f : α → α} {xs : List α}

theorem forall_mem_changeLast {P : α → Prop} (h : ∀ x ∈ xs, P x) (hf : ∀ x ∈ xs, P (f x)) :
    ∀ x ∈ changeLast f xs, P x := by
  induction xs with
  | nil => exact nofun
  | cons x rest ih =>
    rw [List.forall_mem_cons] at h hf
    cases rest with
    | nil => simpa [changeLast] using hf.1
    | cons y rest =>
      rw [changeLast, List.forall_mem_cons]
      · exact ⟨h.1, ih h.2 hf.2⟩
      · exact nofun

theorem mem_changeLast {x : α} (h : x ∈ xs) (hlast : xs.getLast? ≠ some x) :
    x ∈ changeLast f xs := by
  induction xs with
  | nil => exact h
  | cons y rest ih =>
    cases rest with
    | nil => simp_all
    | cons z rest =>
      rw [changeLast]
      · rcases List.mem_cons.mp h with rfl | hrest
        · exact List.mem_cons_self
        · exact List.mem_cons_of_mem y (ih hrest (by simpa using hlast))
      · exact nofun

end changeLast

namespace Execution

/-- The values that a change brings are in order. -/
def Change.IsOrdered : Change → Prop
  | .push step _ changes => step.params.IsOrdered ∧ ∀ c ∈ changes, c.IsOrdered
  | .current changes => ∀ c ∈ changes, c.IsOrdered
  | _ => True

def change (e : Execution) : Change → Execution
  | .start now => (e.start now).2
  | .push step now changes => e.push ((StepRecord.start step now).after changes)
  | .current changes => e.changeCurrent (·.after changes)
  | .metrics f => e.changeMetrics f
  | .complete now => (e.complete now).2
  | .fail error now => (e.fail error now).2

def after (e : Execution) (changes : List Change) : Execution := changes.foldl change e

/-- What every change keeps. -/
structure Kept (e : Execution) : Prop where
  input : e.input.IsOrdered
  steps : ∀ r ∈ e.steps, r.IsOrdered
  /-- The output of the run is that of one of its completed steps. -/
  output : ∀ j, e.output = some j → ∃ r ∈ e.steps, r.status = .completed ∧ r.output = some j

variable {e : Execution}

theorem Kept.isOrdered (h : e.Kept) : e.IsOrdered := by
  refine ⟨h.input, fun j hj => ?_, h.steps⟩
  obtain ⟨r, hr, -, houtput⟩ := h.output j hj
  exact (h.steps r hr).output j houtput

theorem mem_steps_changeCurrent {r : StepRecord} {f : StepRecord → StepRecord} (hr : r ∈ e.steps)
    (hended : r.status ≠ .running) : r ∈ (e.changeCurrent f).steps := by
  unfold changeCurrent
  split
  · rename_i hcurrent
    apply mem_changeLast hr
    intro hlast
    simp [current?, hlast, hended] at hcurrent
  · exact hr

theorem forall_mem_steps_changeCurrent {P : StepRecord → Prop} {f : StepRecord → StepRecord}
    (h : ∀ r ∈ e.steps, P r) (hf : ∀ r ∈ e.steps, P (f r)) :
    ∀ r ∈ (e.changeCurrent f).steps, P r := by
  unfold changeCurrent
  split
  · exact forall_mem_changeLast h hf
  · exact h

theorem lastOutput?_eq_some {j : Json} (h : e.lastOutput? = some j) :
    ∃ r ∈ e.steps, r.status = .completed ∧ r.output = some j := by
  obtain ⟨r, hfind, houtput⟩ := Option.bind_eq_some_iff.mp h
  exact ⟨r, List.mem_reverse.mp (List.mem_of_find?_eq_some hfind),
    by simpa using List.find?_some hfind, houtput⟩

theorem kept_new (id : String) (w : Workflow) (tenantId : String) {input : Json}
    (h : input.IsOrdered) (now : Timestamp) : (new id w tenantId input now).Kept := by
  refine ⟨h, ?_, ?_⟩ <;> simp [new]

theorem Kept.push (h : e.Kept) {r : StepRecord} (hr : r.IsOrdered) : (e.push r).Kept := by
  unfold Execution.push
  split
  · exact h
  · refine ⟨h.input, ?_, fun j hj => ?_⟩
    · simpa [or_imp, forall_and] using And.intro h.steps hr
    · obtain ⟨r', hr', hcompleted⟩ := h.output j hj
      exact ⟨r', List.mem_append_left _ hr', hcompleted⟩

theorem Kept.changeCurrent (h : e.Kept) {f : StepRecord → StepRecord}
    (hf : ∀ r ∈ e.steps, (f r).IsOrdered) : (e.changeCurrent f).Kept := by
  have hframe : (e.changeCurrent f).input = e.input ∧ (e.changeCurrent f).output = e.output := by
    unfold Execution.changeCurrent
    split <;> exact ⟨rfl, rfl⟩
  refine ⟨hframe.1 ▸ h.input, forall_mem_steps_changeCurrent h.steps hf, fun j hj => ?_⟩
  obtain ⟨r, hr, hcompleted, houtput⟩ := h.output j (hframe.2 ▸ hj)
  -- a completed step is no longer the current one, so its record stays
  exact ⟨r, mem_steps_changeCurrent hr (by simp [hcompleted]), hcompleted, houtput⟩

theorem Kept.complete (h : e.Kept) (now : Timestamp) : (e.complete now).2.Kept := by
  unfold Execution.complete
  split
  · exact h
  · exact ⟨h.input, h.steps, fun j hj => lastOutput?_eq_some hj⟩

theorem Kept.change (h : e.Kept) {c : Change} (hc : c.IsOrdered) : (e.change c).Kept := by
  cases c with
  | start now =>
    rw [Execution.change, start]
    split <;> exact ⟨h.input, h.steps, h.output⟩
  | push step now changes => exact h.push ((StepRecord.isOrdered_start hc.1 now).after hc.2)
  | current changes => exact h.changeCurrent fun r hr => (h.steps r hr).after hc
  | metrics f => exact ⟨h.input, h.steps, h.output⟩
  | complete now => exact h.complete now
  | fail error now =>
    rw [Execution.change, fail]
    split <;> exact ⟨h.input, h.steps, h.output⟩

theorem Kept.after (h : e.Kept) {changes : List Change} (hchanges : ∀ c ∈ changes, c.IsOrdered) :
    (e.after changes).Kept := by
  induction changes generalizing e with
  | nil => exact h
  | cons c rest ih =>
    have hc := h.change (hchanges c List.mem_cons_self)
    exact ih hc fun c' hmem => hchanges c' (List.mem_cons_of_mem c hmem)

/-! ## Writing again -/

/-- The output of a run is null only if that of a step is, so only the steps count. -/
theorem Kept.reread_written_iff (h : e.Kept) (origin : Origin) :
    e.reread.toJson.written origin = e.toJson.written origin ↔
      ∀ r ∈ e.steps, r.output ≠ some .null := by
  constructor
  · intro heq
    have hget := (enumerates_toJson origin e.reread).get?_of_written_eq
      (enumerates_toJson origin e) (fields_distinct origin) heq "steps"
    have hsteps : ∀ r ∈ e.steps, r.reread.toJson.written origin = r.toJson.written origin := by
      simpa [toJson, Json.get?, lookup, reread, Json.written_array] using hget
    exact fun r hr => (StepRecord.reread_written_iff origin).mp (hsteps r hr)
  · intro hne
    have houtput : unlessNull e.output = e.output := by
      rw [unlessNull_eq_self_iff]
      intro hnull
      obtain ⟨r, hr, -, hrnull⟩ := h.output _ hnull
      exact hne r hr hrnull
    have hsteps : e.steps.map StepRecord.reread = e.steps := by
      refine (List.map_congr_left fun r hr => ?_).trans (List.map_id e.steps)
      rw [StepRecord.reread, unlessNull_eq_self_iff.mpr (hne r hr)]
      rfl
    rw [reread, houtput, hsteps]

/-- Whatever was done to a record, it reads back but for its null outputs. It is written the same
again exactly if there are none. -/
theorem reread_after (origin : Origin) (id : String) (w : Workflow) (tenantId : String)
    (input : Json) (now : Timestamp) (changes : List Change) (hinput : input.IsOrdered)
    (hchanges : ∀ c ∈ changes, c.IsOrdered) :
    let e := (new id w tenantId input now).after changes
    decode origin (e.toJson.written origin) = .ok e.reread ∧
      (e.reread.toJson.written origin = e.toJson.written origin ↔
        ∀ r ∈ e.steps, r.output ≠ some .null) := by
  have hkept := (kept_new id w tenantId hinput now).after hchanges
  exact ⟨decode_written origin hkept.isOrdered, hkept.reread_written_iff origin⟩

/-- A workflow with a single step. -/
def fetching : Workflow where
  id := ⟨"fetching", by decide⟩
  entryStepId := "fetch"
  steps := [{ id := "fetch", stepType := "external_call" }]

/-- A run of it in which the call answers with nothing. -/
def silentRun (now : Timestamp) : List Change :=
  [.start now] ++ fetching.steps.map (.push · now []) ++ [.current [.complete .null {} now],
    .complete now]

theorem silentRun_nulls (now : Timestamp) :
    let e := (new "exec-1" fetching "acme" .null now).after (silentRun now)
    e.output = some .null ∧ ∃ r ∈ e.steps, r.output = some .null :=
  ⟨rfl, _, List.mem_cons_self, rfl⟩

theorem silentRun_isOrdered (now : Timestamp) : ∀ c ∈ silentRun now, c.IsOrdered := by
  simp [silentRun, fetching, Change.IsOrdered, StepRecord.Change.IsOrdered, Json.IsOrdered,
    Json.MembersOrdered, Named.Sorted, Named.names]

theorem reread_after_silentRun :
    let now := Timestamp.ofUnixNanos 0
    let e := (new "exec-1" fetching "acme" .null now).after (silentRun now)
    (∀ c ∈ silentRun now, c.IsOrdered) ∧ e.output = some .null ∧
      decode .text e.toJson = .ok e.reread ∧ e.reread.toJson ≠ e.toJson := by
  intro now e
  have hordered := silentRun_isOrdered now
  obtain ⟨houtput, r, hr, hnull⟩ := silentRun_nulls now
  have h := reread_after .text "exec-1" fetching "acme" .null now (silentRun now) trivial hordered
  exact ⟨hordered, houtput, h.1, fun heq => h.2.mp heq r hr hnull⟩

end Execution

end Stepwise
