import Stepwise.Run.Engine

/-! # Attempts -/

namespace Stepwise

/-! ## Parts of a run -/

namespace Run

variable {σ : Type} (r : Run σ)

@[simp] theorem emit_execution (e : Event) : (r.emit e).execution = r.execution := rfl

@[simp] theorem changeRecord_execution (f : StepRecord → StepRecord) :
    (r.changeRecord f).execution = r.execution.changeCurrent f := rfl

@[simp] theorem changeMetrics_execution (f : Metrics → Metrics) :
    (r.changeMetrics f).execution = r.execution.changeMetrics f := rfl

end Run

theorem Clock.await_answered {α : Type} {c c' : Clock} {timeoutMs : Nat} {reply : Reply α}
    {value : α} (h : c.await timeoutMs reply = (.answered value, c')) : reply.value = value := by
  simp only [await] at h
  split at h
  · exact Attempt.answered.inj (Prod.mk.inj h).1
  · split at h
    · cases h
    · split at h
      · cases h
      · split at h
        · exact Attempt.answered.inj (Prod.mk.inj h).1
        · cases h

/-! ## The record of an open step -/

theorem changeLast_append {α : Type} (f : α → α) (before : List α) (x : α) :
    changeLast f (before ++ [x]) = before ++ [f x] := by
  induction before with
  | nil => rfl
  | cons y rest ih =>
    cases rest with
    | nil => rfl
    | cons z rest => exact congrArg (y :: ·) ih

namespace Execution

/-- The run goes on, and its last record is that of a running step. -/
structure Open (e : Execution) (before : List StepRecord) (record : StepRecord) : Prop where
  status : e.status = .running
  steps : e.steps = before ++ [record]
  running : record.status = .running

/-- The run with another last record and other metrics. -/
def withLast (e : Execution) (before : List StepRecord) (record : StepRecord) (metrics : Metrics) :
    Execution :=
  { e with steps := before ++ [record], metrics }

variable {e : Execution} {before : List StepRecord} {record : StepRecord}

theorem Open.eq_withLast (h : e.Open before record) : e = e.withLast before record e.metrics := by
  rw [withLast, ← h.steps]

theorem Open.withLast (h : e.Open before record) {record' : StepRecord} {metrics : Metrics}
    (hr : record'.status = .running) : (e.withLast before record' metrics).Open before record' :=
  ⟨h.status, rfl, hr⟩

theorem Open.changeCurrent (h : e.Open before record) (f : StepRecord → StepRecord) :
    e.changeCurrent f = e.withLast before (f record) e.metrics := by
  have hcurrent : e.current?.isSome = true := by
    simp [current?, h.steps, h.running]
  rw [Execution.changeCurrent, if_pos hcurrent, h.steps, changeLast_append, Execution.withLast]

theorem push_of_running (h : e.status = .running) (record : StepRecord) :
    e.push record = { e with steps := e.steps ++ [record] } := by
  rw [push, h]
  rfl

end Execution

namespace Engine

variable {σ : Type} {engine : Engine σ} {step : Step} {handler : Handler σ} {params : Json}

/-! ## Attempts -/

theorem attempt_context {count : Nat} {r r' : Run σ} {result : Option StepResult}
    (h : engine.attempt step handler params count r = (result, r')) : r'.context = r.context := by
  have hr : r' = (engine.attempt step handler params count r).2 := by rw [h]
  rw [hr]
  unfold attempt
  split
  · rfl
  · dsimp only
    split <;> rfl

theorem attempt_execution {count : Nat} {r r' : Run σ} {result : Option StepResult}
    (h : engine.attempt step handler params count r = (result, r')) {before : List StepRecord}
    {record : StepRecord} (ho : r.execution.Open before record) :
    ∃ n, r'.execution =
        r.execution.withLast before { record with retryCount := n } r.execution.metrics ∧
      (result.isSome → n = UInt32.ofNat (count - 1)) := by
  unfold attempt at h
  split at h
  · obtain ⟨rfl, rfl⟩ := Prod.mk.inj h
    exact ⟨record.retryCount, ho.eq_withLast, nofun⟩
  · dsimp only at h
    split at h
    · obtain ⟨rfl, rfl⟩ := Prod.mk.inj h
      exact ⟨record.retryCount, ho.eq_withLast, nofun⟩
    all_goals
      obtain ⟨rfl, rfl⟩ := Prod.mk.inj h
      exact ⟨_, ho.changeCurrent _, fun _ => rfl⟩

theorem attempt_world {count : Nat} {r r' : Run σ} {result : Option StepResult}
    (h : engine.attempt step handler params count r = (result, r')) :
    (result = none ∧ r'.world = r.world) ∨
      (r'.world = (handler.execute params r.context r.world).2 ∧ ∀ answer, result = some answer →
        answer = (handler.execute params r.context r.world).1.value ∨
          ∃ ms, answer = .failed (timeoutError count ms) {}) := by
  unfold attempt at h
  split at h
  · obtain ⟨rfl, rfl⟩ := Prod.mk.inj h
    exact Or.inl ⟨rfl, rfl⟩
  · right
    dsimp only at h
    split at h
    · obtain ⟨rfl, rfl⟩ := Prod.mk.inj h
      exact ⟨rfl, nofun⟩
    · rename_i value clock hawait
      obtain ⟨rfl, rfl⟩ := Prod.mk.inj h
      refine ⟨rfl, fun answer ha => Or.inl ?_⟩
      rw [← Option.some.inj ha]
      exact (Clock.await_answered hawait).symm
    · obtain ⟨rfl, rfl⟩ := Prod.mk.inj h
      exact ⟨rfl, fun answer ha => Or.inr ⟨_, (Option.some.inj ha).symm⟩⟩

theorem attempt_success {count : Nat} {r r' : Run σ} {result : StepResult}
    (h : engine.attempt step handler params count r = (some result, r'))
    (hs : result.success = true) :
    ∃ world, (handler.execute params r.context world).1.value = result := by
  rcases attempt_world h with ⟨hnone, -⟩ | ⟨-, hanswer⟩
  · cases hnone
  · rcases hanswer result rfl with rfl | ⟨ms, rfl⟩
    · exact ⟨r.world, rfl⟩
    · cases hs

/-- The ways in which attempts can go. `left` more may follow the one with this count. -/
inductive Tries (engine : Engine σ) (step : Step) (handler : Handler σ) (params : Json) :
    (left count : Nat) → Run σ → StepEnd → Run σ → Prop where
  | cancelled {left count : Nat} {r r' : Run σ}
      (made : engine.attempt step handler params count r = (none, r')) :
      Tries engine step handler params left count r .cancelled r'
  | completed {left count : Nat} {r r' : Run σ} {result : StepResult}
      (made : engine.attempt step handler params count r = (some result, r'))
      (success : result.success = true) :
      Tries engine step handler params left count r (.completed result) r'
  | failed {left count : Nat} {r r' : Run σ} {result : StepResult}
      (made : engine.attempt step handler params count r = (some result, r'))
      (failure : result.success = false)
      (final : left = 0 ∨ result.errorOrDefault.recoverable = false) :
      Tries engine step handler params left count r (.failed result.errorOrDefault) r'
  | interrupted {left count : Nat} {r r' r'' : Run σ} {result : StepResult}
      (made : engine.attempt step handler params count r = (some result, r'))
      (failure : result.success = false)
      (recoverable : result.errorOrDefault.recoverable = true)
      (rest : backOff step count result.errorOrDefault r' = (true, r'')) :
      Tries engine step handler params (left + 1) count r .cancelled r''
  | again {left count : Nat} {r r' r'' last : Run σ} {result : StepResult} {ending : StepEnd}
      (made : engine.attempt step handler params count r = (some result, r'))
      (failure : result.success = false)
      (recoverable : result.errorOrDefault.recoverable = true)
      (rest : backOff step count result.errorOrDefault r' = (false, r''))
      (more : Tries engine step handler params left (count + 1) r'' ending last) :
      Tries engine step handler params (left + 1) count r ending last

theorem tries_attempts (engine : Engine σ) (step : Step) (handler : Handler σ) (params : Json)
    (left count : Nat) (r : Run σ) :
    Tries engine step handler params left count r
      (engine.attempts step handler params left count r).1
      (engine.attempts step handler params left count r).2 := by
  induction left generalizing count r with
  | zero =>
    unfold attempts
    split
    · rename_i made
      exact .cancelled made
    · rename_i made
      split
      · rename_i success
        exact .completed made success
      · rename_i failure
        exact .failed made (Bool.eq_false_iff.mpr failure) (Or.inl rfl)
  | succ left ih =>
    unfold attempts
    split
    · rename_i made
      exact .cancelled made
    · rename_i made
      split
      · rename_i success
        exact .completed made success
      · rename_i failure
        rw [Bool.not_eq_true] at failure
        dsimp only
        split
        · rename_i final
          exact .failed made failure (Or.inr (by simpa using final))
        · rename_i recoverable
          rw [Bool.not_eq_true, Bool.not_eq_false'] at recoverable
          split
          · rename_i rest
            exact .interrupted made failure recoverable rest
          · rename_i rest
            exact .again made failure recoverable rest (ih _ _)

theorem backOff_context {count : Nat} {error : StepError} {r r' : Run σ} {stop : Bool}
    (h : backOff step count error r = (stop, r')) : r'.context = r.context := by
  rw [← (Prod.mk.inj h).2]
  rfl

theorem backOff_world {count : Nat} {error : StepError} {r r' : Run σ} {stop : Bool}
    (h : backOff step count error r = (stop, r')) : r'.world = r.world := by
  rw [← (Prod.mk.inj h).2]
  rfl

theorem backOff_execution {count : Nat} {error : StepError} {r r' : Run σ} {stop : Bool}
    (h : backOff step count error r = (stop, r')) :
    r'.execution = r.execution.changeMetrics fun m => { m with retries := m.retries + 1 } := by
  rw [← (Prod.mk.inj h).2]
  rfl

theorem backOff_opens {count : Nat} {error : StepError} {r r' : Run σ} {stop : Bool}
    (h : backOff step count error r = (stop, r')) {before : List StepRecord} {record : StepRecord}
    (ho : r.execution.Open before record) : r'.execution.Open before record := by
  rw [backOff_execution h]
  exact ⟨ho.status, ho.steps, ho.running⟩

theorem Tries.context {left count : Nat} {r r' : Run σ} {ending : StepEnd}
    (h : Tries engine step handler params left count r ending r') : r'.context = r.context := by
  induction h with
  | cancelled made => exact attempt_context made
  | completed made => exact attempt_context made
  | failed made => exact attempt_context made
  | interrupted made _ _ rest => exact (backOff_context rest).trans (attempt_context made)
  | again made _ _ rest _ ih => exact ih.trans ((backOff_context rest).trans (attempt_context made))

theorem Tries.execution {left count : Nat} {r r' : Run σ} {ending : StepEnd}
    (h : Tries engine step handler params left count r ending r') {before : List StepRecord}
    {record : StepRecord} (ho : r.execution.Open before record) :
    ∃ n k, r'.execution = r.execution.withLast before { record with retryCount := n }
      { r.execution.metrics with retries := k } := by
  induction h generalizing record with
  | cancelled made | completed made | failed made =>
    obtain ⟨n, hn, -⟩ := attempt_execution made ho
    exact ⟨n, _, hn⟩
  | @interrupted _ _ r _ _ _ made _ _ rest =>
    obtain ⟨n, hn, -⟩ := attempt_execution made ho
    refine ⟨n, r.execution.metrics.retries + 1, ?_⟩
    rw [backOff_execution rest, hn]
    rfl
  | @again _ _ r r' _ _ _ _ made _ _ rest _ ih =>
    obtain ⟨n, hn, -⟩ := attempt_execution made ho
    have ho' : r'.execution.Open before { record with retryCount := n } := by
      rw [hn]
      exact ho.withLast ho.running
    obtain ⟨m, k, hm⟩ := ih (backOff_opens rest ho')
    refine ⟨m, k, ?_⟩
    rw [hm, backOff_execution rest, hn]
    rfl

theorem Tries.answer {left count : Nat} {r r' : Run σ} {ending : StepEnd}
    (h : Tries engine step handler params left count r ending r') {result : StepResult}
    (he : ending = .completed result) :
    result.success = true ∧ ∃ world, (handler.execute params r.context world).1.value = result := by
  induction h with
  | cancelled => cases he
  | completed made success =>
    obtain rfl := StepEnd.completed.inj he
    exact ⟨success, attempt_success made success⟩
  | failed => cases he
  | interrupted => cases he
  | again made _ _ rest _ ih =>
    rw [← attempt_context made, ← backOff_context rest]
    exact ih he

end Engine

end Stepwise
