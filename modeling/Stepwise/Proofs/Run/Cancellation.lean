import Stepwise.Proofs.Run.Points

/-! # Cancellation -/

namespace Stepwise

namespace Clock

variable {c c' : Clock} {ms timeoutMs : Nat} {α : Type} {reply : Reply α} {value : α}

/-! ## The token -/

/-- The token has fired, and the next look finds it. -/
def Fired (c : Clock) : Prop := c.cancelled = true ∨ c.looksLeft = some 0

/-- The token has fired, or it fires while the run waits for some time. -/
def FiresWithin (c : Clock) (ms : Nat) : Prop := c.Fired ∨ ∃ t, c.alarm = some t ∧ t ≤ c.now + ms

/-- The token has fired, or it fires during a rest. Without time for it there is no wait. -/
def FiresInRest (c : Clock) (ms : Nat) : Prop := c.Fired ∨ ms ≠ 0 ∧ c.FiresWithin ms

/-- The clock while a callee is at work. It may fire the token before it waits. -/
def during (c : Clock) (reply : Reply α) : Clock := if reply.cancels then c.cancel else c

theorem look_fst : c.look.1 = true ↔ c.Fired := by
  unfold look Fired
  split
  · simp [*]
  · split <;> simp [*]

theorem look_false (h : c.look = (false, c')) :
    c'.cancelled = false ∧ c'.now = c.now ∧ c'.alarm = c.alarm := by
  unfold look at h
  split at h
  · cases h
  · rename_i hclear
    rw [Bool.not_eq_true] at hclear
    split at h
    · obtain ⟨-, rfl⟩ := Prod.mk.inj h
      exact ⟨hclear, rfl, rfl⟩
    · cases h
    · obtain ⟨-, rfl⟩ := Prod.mk.inj h
      exact ⟨hclear, rfl, rfl⟩

theorem not_fired_of_look (h : c.look = (false, c')) : ¬ c.Fired := by
  rw [← look_fst, h]
  nofun

theorem look_of_fired (h : c.Fired) : c.look = (true, c.look.2) :=
  Prod.ext (look_fst.mpr h) rfl

theorem look_of_not_fired (h : ¬ c.Fired) : c.look = (false, c.look.2) :=
  Prod.ext (Bool.eq_false_iff.mpr fun hlook => h (look_fst.mp hlook)) rfl

/-! ## Waiting -/

theorem wait_fst : (c.wait ms).1 = true ↔ c.FiresWithin ms := by
  unfold wait FiresWithin
  split
  · rename_i hlook
    simp [← look_fst, hlook]
  · rename_i c' hlook
    obtain ⟨-, hnow, halarm⟩ := look_false hlook
    have hclear := not_fired_of_look hlook
    rw [← halarm, ← hnow]
    -- the look has cost the clock nothing that the alarm depends on
    dsimp only
    split
    · rename_i hnone
      simp [hclear, hnone]
    · rename_i t hsome
      split
      · rename_i hle
        simp [hsome, hle]
      · rename_i hlater
        simp [hclear, hsome, hlater]

theorem wait_cancelled (h : c.wait ms = (false, c')) : c'.cancelled = false := by
  unfold wait at h
  split at h
  · cases h
  · rename_i hlook
    obtain ⟨hclear, -⟩ := look_false hlook
    dsimp only at h
    split at h
    · obtain ⟨-, rfl⟩ := Prod.mk.inj h
      exact hclear
    · split at h
      · cases h
      · obtain ⟨-, rfl⟩ := Prod.mk.inj h
        exact hclear

theorem await_cancels (h : reply.cancels = true) :
    (c.await timeoutMs reply).2.cancelled = true := by
  unfold await wait look
  simp only [h, if_true, cancel]
  split
  · rfl
  · split <;> rfl

theorem rest_fst : (c.rest ms).1 = true ↔ c.FiresInRest ms := by
  unfold rest FiresInRest
  split
  · simp [look_fst, *]
  · rw [wait_fst]
    simp [FiresWithin, *]

/-! ## Waiting for an answer -/

/-- What a callee does not answer at once is suspended, if there is time for a wait at all. -/
def Suspends (timeoutMs : Nat) (reply : Reply α) : Prop := reply.waitMs ≠ 0 ∧ timeoutMs ≠ 0

theorem await_of_fires (hsuspends : Suspends timeoutMs reply)
    (hfires : (c.during reply).FiresWithin (min reply.waitMs timeoutMs)) :
    ∃ c', c.await timeoutMs reply = (.cancelled, c') := by
  have hwait := wait_fst.mpr hfires
  unfold await
  simp only [if_neg hsuspends.1, if_neg hsuspends.2]
  split
  · exact ⟨_, rfl⟩
  · rename_i heq
    rw [during, heq] at hwait
    cases hwait

/-- An answer that counts came while the token had not fired, except that the callee may have fired
it and answered at once. -/
theorem await_of_answered (h : c.await timeoutMs reply = (.answered value, c')) :
    ¬ (Suspends timeoutMs reply ∧ (c.during reply).FiresWithin (min reply.waitMs timeoutMs)) ∧
      (c.cancelled = false → c'.cancelled = true → reply.cancels = true ∧ reply.waitMs = 0) := by
  constructor
  · rintro ⟨hsuspends, hfires⟩
    obtain ⟨c'', hcancelled⟩ := await_of_fires hsuspends hfires
    exact nomatch h.symm.trans hcancelled
  · intro hclear hfired
    unfold await at h
    dsimp only at h
    split at h
    · rename_i hatonce
      obtain ⟨-, rfl⟩ := Prod.mk.inj h
      refine ⟨?_, hatonce⟩
      cases hcancels : reply.cancels with
      | true => rfl
      | false => simp [hcancels, hclear] at hfired
    · split at h
      · cases h
      · split at h
        · cases h
        · rename_i hwait
          split at h
          · obtain ⟨-, rfl⟩ := Prod.mk.inj h
            exact nomatch (wait_cancelled hwait).symm.trans hfired
          · cases h

end Clock

/-! ## The end of a run that is cancelled -/

namespace Execution

/-- The run ended with an error, and no step came after. -/
structure StoppedBy (e : Execution) (error : WorkflowError) (e' : Execution) : Prop where
  status : e'.status = .ofError error
  error : e'.error = some (.ofError error)
  steps : e'.steps = e.steps

/-- The run ended cancelled, the record of its open step is skipped, and no step came after. -/
structure CutShort (e e' : Execution) : Prop where
  status : e'.status = .cancelled
  error : e'.error = some (.ofError .cancelled)
  skipped : ∃ before opened record, e.Open before opened ∧ e'.steps = before ++ [record] ∧
    record.stepId = opened.stepId ∧ record.status = .skipped

end Execution

/-- What the handler answers to an attempt of the step. -/
def Task.reply {σ : Type} (task : Task σ) (r : Run σ) : Reply StepResult :=
  (task.handler.execute task.params r.context r.world).1

/-- The world as an attempt of the step leaves it. -/
def Task.worldAfter {σ : Type} (task : Task σ) (r : Run σ) : σ :=
  (task.handler.execute task.params r.context r.world).2

namespace Engine

variable {σ : Type} {engine : Engine σ} {w : Workflow} {left count : Nat} {r r' last : Run σ}
  {task : Task σ} {before : List StepRecord} {record : StepRecord} {p q : Point σ}

/-- The attempt is suspended, and the token fires before it is over. -/
def FiresInAttempt (engine : Engine σ) (task : Task σ) (r : Run σ) : Prop :=
  let timeoutMs := (engine.timeoutMs task.step).toNat
  Clock.Suspends timeoutMs (task.reply r) ∧
    (r.clock.look.2.during (task.reply r)).FiresWithin (min (task.reply r).waitMs timeoutMs)

/-- What a run ends with before a step once the token has fired. Its limits come first. -/
inductive Reports (engine : Engine σ) (w : Workflow) (left : Nat) (r : Run σ) :
    WorkflowError → Prop where
  | limit (none : left = 0) : Reports engine w left r (.stepLimitExceeded w.maxSteps)
  | timeout {limit : UInt64} (more : left ≠ 0) (bounded : w.maxExecutionDurationMs = some limit)
      (late : limit.toNat * 1000000 < engine.elapsedNanos r.world) :
      Reports engine w left r (.timeout limit)
  | cancelled (more : left ≠ 0) (inTime : ∀ limit, w.maxExecutionDurationMs = some limit →
        engine.elapsedNanos r.world ≤ limit.toNat * 1000000) :
      Reports engine w left r .cancelled

/-! ## Where the token is found -/

theorem next_boundary_of_fired {id : String} (hfired : r.clock.Fired) :
    ∃ error last, engine.next w (.boundary left id r) = .ended (.error error) last ∧
      engine.Reports w left r error ∧ last.execution = r.execution ∧ last.world = r.world := by
  cases left with
  | zero => exact ⟨_, r, rfl, .limit rfl, rfl, rfl⟩
  | succ left =>
    suffices h : ∃ error, (engine.barrier w r).1 = some error ∧
        engine.Reports w (left + 1) r error by
      obtain ⟨error, hbar, hreports⟩ := h
      exact ⟨error, _, next_of_barred hbar, hreports, barrier_execution engine w r,
        barrier_world engine w r⟩
    unfold barrier
    dsimp only
    split
    · rename_i limit hoverdue
      obtain ⟨hlimit, hlate⟩ := Option.filter_eq_some_iff.mp hoverdue
      exact ⟨_, rfl, .timeout (Nat.succ_ne_zero left) hlimit (of_decide_eq_true hlate)⟩
    · rename_i hintime
      rw [Clock.look_of_fired hfired]
      refine ⟨_, rfl, .cancelled (Nat.succ_ne_zero left) fun limit hlimit => ?_⟩
      simpa [hlimit] using hintime

theorem next_attempt_of_fired (hfired : r.clock.Fired) :
    engine.next w (.attempt task left count r) =
      engine.settle task .cancelled { r with clock := r.clock.look.2 } := by
  rw [next, attempt, Clock.look_of_fired hfired]

theorem next_attempt_of_fires (hclear : ¬ r.clock.Fired) (hfires : engine.FiresInAttempt task r) :
    ∃ clock, engine.next w (.attempt task left count r) =
      engine.settle task .cancelled { r with world := task.worldAfter r, clock } := by
  obtain ⟨clock, hawait⟩ := Clock.await_of_fires hfires.1 hfires.2
  refine ⟨clock, ?_⟩
  rw [Task.reply] at hawait
  rw [next, attempt, Clock.look_of_not_fired hclear]
  dsimp only
  rw [hawait]
  rfl

theorem attempt_of_success {result : StepResult}
    (made : engine.attempt task.step task.handler task.params count r = (some result, r'))
    (success : result.success = true) :
    ¬ r.clock.Fired ∧ ¬ engine.FiresInAttempt task r ∧ (task.reply r).value = result ∧
      (r'.clock.cancelled = true → (task.reply r).cancels = true ∧ (task.reply r).waitMs = 0) := by
  unfold attempt at made
  split at made
  · cases made
  · rename_i clock hlook
    dsimp only at made
    split at made
    · cases made
    · rename_i value clock' hawait
      obtain ⟨hvalue, rfl⟩ := Prod.mk.inj made
      obtain rfl := Option.some.inj hvalue
      obtain ⟨hcalm, hcallee⟩ := Clock.await_of_answered hawait
      refine ⟨Clock.not_fired_of_look hlook, ?_, Clock.await_answered hawait,
        hcallee (Clock.look_false hlook).1⟩
      rw [FiresInAttempt, hlook]
      exact hcalm
    · obtain ⟨hresult, -⟩ := Prod.mk.inj made
      rw [← Option.some.inj hresult] at success
      cases success

theorem attempt_of_cancels {result : Option StepResult} (hclear : ¬ r.clock.Fired)
    (hcancels : (task.reply r).cancels = true)
    (made : engine.attempt task.step task.handler task.params count r = (result, r')) :
    r'.clock.cancelled = true := by
  have hawait : (r.clock.look.2.await (engine.timeoutMs task.step).toNat
      (task.reply r)).2.cancelled = true :=
    Clock.await_cancels hcancels
  rw [Task.reply] at hawait
  rw [attempt, Clock.look_of_not_fired hclear] at made
  dsimp only at made
  split at made
  all_goals
    rename_i hend
    rw [hend] at hawait
    obtain ⟨-, rfl⟩ := Prod.mk.inj made
    exact hawait

theorem next_rest_of_fires {error : StepError}
    (hfires : r.clock.FiresInRest ((task.step.retry.getD {}).delayMs count)) :
    engine.next w (.rest task left count error r) =
      engine.settle task .cancelled (backOff task.step count error r).2 := by
  have hrest : (backOff task.step count error r).1 = true := Clock.rest_fst.mpr hfires
  have hpair : backOff task.step count error r = (true, (backOff task.step count error r).2) :=
    Prod.ext hrest rfl
  rw [next, hpair]

theorem next_ne_reached (hfired : p.run.clock.Fired) (q : Point σ) :
    engine.next w p ≠ .reached q := by
  cases p with
  | boundary left id r =>
    change r.clock.Fired at hfired
    obtain ⟨_, _, hnext, -⟩ := @next_boundary_of_fired σ engine w left r id hfired
    rw [hnext]
    nofun
  | attempt task left count r =>
    change r.clock.Fired at hfired
    rw [next_attempt_of_fired hfired]
    nofun
  | rest task left count error r =>
    change r.clock.Fired at hfired
    rw [next_rest_of_fires (Or.inl hfired)]
    nofun

theorem proceed_reached {ended : Except WorkflowError (Option String)}
    (h : proceed left ended r = .reached q) : q.run = r := by
  unfold proceed at h
  split at h
  · cases h
  · cases h
  · rw [← Progress.reached.inj h]
    rfl

theorem proceed_ok {ended : Except WorkflowError (Option String)}
    (h : proceed left ended r = .ended (.ok ()) last) : ended = .ok none ∧ r = last := by
  unfold proceed at h
  split at h
  · cases h
  · exact ⟨rfl, (Progress.ended.inj h).2⟩
  · cases h

theorem settle_reached {ending : StepEnd} (h : engine.settle task ending r = .reached q) :
    q.run.clock = r.clock := by
  cases ending with
  | completed result =>
    rw [proceed_reached h]
    rfl
  | failed error =>
    rw [settle] at h
    split at h <;> rw [proceed_reached h] <;> rfl
  | cancelled => cases h

theorem settle_ok {ending : StepEnd} (h : engine.settle task ending r = .ended (.ok ()) last) :
    ∃ result, ending = .completed result ∧ task.step.next? result.output = none ∧
      last.clock = r.clock := by
  cases ending with
  | completed result =>
    obtain ⟨hnext, rfl⟩ := proceed_ok h
    exact ⟨result, rfl, Except.ok.inj hnext, rfl⟩
  | failed error =>
    rw [settle] at h
    split at h <;> cases (proceed_ok h).1
  | cancelled => cases h

theorem fired_of_cancels (hclear : ¬ r.clock.Fired) (hcancels : (task.reply r).cancels = true)
    (hnext : engine.next w (.attempt task left count r) = .reached q) : q.run.clock.Fired := by
  rw [next] at hnext
  split at hnext
  · cases hnext
  · rename_i result r' made
    have hfired : r'.clock.Fired := Or.inl (attempt_of_cancels hclear hcancels made)
    split at hnext
    · rwa [settle_reached hnext]
    · split at hnext
      · rwa [settle_reached hnext]
      · rw [← Progress.reached.inj hnext]
        exact hfired

theorem next_ok (h : engine.next w p = .ended (.ok ()) last) :
    ∃ task left count r r' result, p = .attempt task left count r ∧
      engine.attempt task.step task.handler task.params count r = (some result, r') ∧
      result.success = true ∧ task.step.next? result.output = none ∧ last.clock = r'.clock := by
  cases p with
  | boundary left id r =>
    cases left with
    | zero => cases h
    | succ left =>
      cases hbar : (engine.barrier w r).1 with
      | some e =>
        rw [next_of_barred hbar] at h
        cases h
      | none =>
        rw [next_of_clear hbar] at h
        split at h
        · cases h
        · unfold enter at h
          split at h
          · cases h
          · split at h <;> cases h
  | attempt task left count r =>
    rw [next] at h
    split at h
    · cases h
    · rename_i result r' made
      split at h
      · rename_i success
        obtain ⟨_, hending, hnext, hclock⟩ := settle_ok h
        obtain rfl := StepEnd.completed.inj hending
        exact ⟨task, left, count, r, r', result, rfl, made, success, hnext, hclock⟩
      · split at h
        · obtain ⟨_, hending, -⟩ := settle_ok h
          cases hending
        · cases h
  | rest task left count error r =>
    rw [next] at h
    split at h <;> cases h

/-! ## The run after that -/

theorem finish_clock (engine : Engine σ) (outcome : Except WorkflowError Unit) (r : Run σ) :
    (engine.finish outcome r).clock = r.clock := by
  cases outcome <;> rfl

theorem finish_stopped (engine : Engine σ) (hrunning : r.execution.status = .running)
    (error : WorkflowError) :
    r.execution.StoppedBy error (engine.finish (.error error) r).execution := by
  have hfinish : (engine.finish (.error error) r).execution =
      (r.execution.fail error (engine.now r.world)).2 := rfl
  rw [hfinish, Execution.fail_of_running hrunning]
  exact ⟨rfl, rfl, rfl⟩

theorem finish_cutShort (engine : Engine σ) {e : Execution} (he : e.Open before record)
    (ho : r.execution.Open before record) :
    e.CutShort (engine.finish (.error .cancelled)
      (r.changeRecord (·.skip "Execution cancelled" (engine.now r.world)))).execution := by
  obtain ⟨closed, hcloses, hskipped⟩ :=
    skip_documents ho "Execution cancelled" (engine.now r.world)
  have hstopped := finish_stopped engine
    (r := r.changeRecord (·.skip "Execution cancelled" (engine.now r.world))) hcloses.status
    .cancelled
  exact ⟨hstopped.status, hstopped.error, before, record, closed, he,
    hstopped.steps.trans hcloses.steps, hcloses.stepId, hskipped⟩

variable {request : Request} {clock : Clock} {world : σ}

theorem Reaches.cutShort (h : engine.Reaches w request clock world p)
    (hnext : engine.next w p = engine.settle task .cancelled r) {e : Execution}
    (he : e.Open before record) (ho : r.execution.Open before record) :
    e.CutShort (engine.execute w request clock world).execution ∧
      (engine.execute w request clock world).world = r.world := by
  obtain ⟨heq, -⟩ := h.execute_eq hnext
  rw [heq, finish_world]
  exact ⟨finish_cutShort engine he ho, rfl⟩

theorem Reaches.stopped_of_fired {id : String}
    (h : engine.Reaches w request clock world (.boundary left id r)) (hfired : r.clock.Fired) :
    (∃ error, engine.Reports w left r error ∧
      r.execution.StoppedBy error (engine.execute w request clock world).execution) ∧
      (engine.execute w request clock world).world = r.world := by
  obtain ⟨error, last, hnext, hreports, hexecution, hworld⟩ := next_boundary_of_fired hfired
  obtain ⟨heq, hrunning⟩ := h.execute_eq hnext
  have hstopped := finish_stopped engine hrunning error
  rw [heq, finish_world, ← hexecution]
  exact ⟨⟨error, hreports, hstopped⟩, hworld⟩

theorem Reaches.cutShort_of_fired
    (h : engine.Reaches w request clock world (.attempt task left count r))
    (hfired : r.clock.Fired) :
    r.execution.CutShort (engine.execute w request clock world).execution ∧
      (engine.execute w request clock world).world = r.world := by
  obtain ⟨before, record, ho⟩ := h.sound
  exact h.cutShort (next_attempt_of_fired hfired) ho ho

theorem Reaches.cutShort_of_fires
    (h : engine.Reaches w request clock world (.attempt task left count r))
    (hclear : ¬ r.clock.Fired) (hfires : engine.FiresInAttempt task r) :
    r.execution.CutShort (engine.execute w request clock world).execution ∧
      (engine.execute w request clock world).world = task.worldAfter r := by
  obtain ⟨before, record, ho⟩ := h.sound
  obtain ⟨_, hnext⟩ := next_attempt_of_fires hclear hfires
  exact h.cutShort hnext ho ho

theorem Reaches.cutShort_of_rest {error : StepError}
    (h : engine.Reaches w request clock world (.rest task left count error r))
    (hfires : r.clock.FiresInRest ((task.step.retry.getD {}).delayMs count)) :
    r.execution.CutShort (engine.execute w request clock world).execution ∧
      (engine.execute w request clock world).world = r.world := by
  obtain ⟨before, record, ho⟩ := h.sound
  exact h.cutShort (next_rest_of_fires hfires) ho (backOff_opens rfl ho)

theorem execute_world_of_invalid (hinvalid : w.validate.valid = false) :
    (engine.execute w request clock world).world = world := by
  have hexecutes := executes_execute engine w request clock world
  generalize engine.execute w request clock world = final at hexecutes
  cases hexecutes with
  | refused =>
    rw [finish_world]
    rfl
  | walked valid =>
    rw [valid] at hinvalid
    cases hinvalid

theorem exists_last_attempt
    (h : (engine.execute w request clock world).execution.status = .completed) :
    ∃ task left count r, engine.Reaches w request clock world (.attempt task left count r) ∧
      (∀ q, engine.next w (.attempt task left count r) ≠ .reached q) ∧
      ¬ r.clock.Fired ∧ ¬ engine.FiresInAttempt task r ∧ (task.reply r).value.success = true ∧
      task.step.next? (task.reply r).value.output = none ∧
      ((engine.execute w request clock world).clock.cancelled = true →
        (task.reply r).cancels = true ∧ (task.reply r).waitMs = 0) := by
  have hexecutes := executes_execute engine w request clock world
  generalize hfinal : engine.execute w request clock world = final at h hexecutes
  cases hexecutes with
  | refused invalid =>
    rw [(finish_stopped engine rfl _).status] at h
    exact absurd h (ExecutionStatus.ofError_ne_completed _)
  | @walked outcome last valid walks =>
    have hyields := walks.yields
    cases outcome with
    | error e =>
      have hrunning := hyields.running rfl
      rw [(finish_stopped engine hrunning e).status] at h
      exact absurd h (ExecutionStatus.ofError_ne_completed e)
    | ok =>
      obtain ⟨q, hleads, hlast⟩ := hyields.exists_last rfl
      obtain ⟨task, left, count, r, r', result, rfl, made, success, hnext, hclock⟩ :=
        next_ok hlast
      obtain ⟨hclear, hcalm, rfl, hcallee⟩ := attempt_of_success made success
      refine ⟨task, left, count, r, ⟨valid, hleads⟩, ?_, hclear, hcalm, success, hnext, ?_⟩
      · intro q hq
        rw [hlast] at hq
        cases hq
      · rw [finish_clock, hclock]
        exact hcallee

/-- How a run heeds its token, wherever the token fires: before the run, in a call, while an attempt
is suspended, or during a rest. -/
structure Heeds (engine : Engine σ) (w : Workflow) (request : Request) (clock : Clock) (world : σ) :
    Prop where
  /-- Where the token has fired, no point follows and no call is made. The world stays as it is,
  whatever it keeps of the calls. -/
  still : ∀ p, engine.Reaches w request clock world p → p.run.clock.Fired →
    (∀ q, engine.next w p ≠ .reached q) ∧
      (engine.execute w request clock world).world = p.run.world
  /-- The run of an invalid workflow comes to no point and makes no call. -/
  refused : w.validate.valid = false → (engine.execute w request clock world).world = world
  /-- Before a step the run ends cancelled, unless one of its limits comes first. -/
  boundary : ∀ left id r, engine.Reaches w request clock world (.boundary left id r) →
    r.clock.Fired → ∃ error, engine.Reports w left r error ∧
      r.execution.StoppedBy error (engine.execute w request clock world).execution
  /-- Before an attempt the run ends cancelled. -/
  attempt : ∀ task left count r, engine.Reaches w request clock world (.attempt task left count r) →
    r.clock.Fired → r.execution.CutShort (engine.execute w request clock world).execution
  /-- So does it while an attempt is suspended. No other call follows. -/
  suspended : ∀ task left count r,
    engine.Reaches w request clock world (.attempt task left count r) → ¬ r.clock.Fired →
      engine.FiresInAttempt task r →
        r.execution.CutShort (engine.execute w request clock world).execution ∧
          (engine.execute w request clock world).world = task.worldAfter r
  /-- So does it while it rests. No call follows. -/
  rest : ∀ task left count error r,
    engine.Reaches w request clock world (.rest task left count error r) →
      r.clock.FiresInRest ((task.step.retry.getD {}).delayMs count) →
        r.execution.CutShort (engine.execute w request clock world).execution ∧
          (engine.execute w request clock world).world = r.world
  /-- Where a callee fires the token, the point that follows finds it. -/
  callee : ∀ task left count r, engine.Reaches w request clock world (.attempt task left count r) →
    ¬ r.clock.Fired → (task.reply r).cancels = true →
      ∀ q, engine.next w (.attempt task left count r) = .reached q → q.run.clock.Fired
  /-- A run that completes does so with its last attempt. The token had not fired before that, and
  did not interrupt it. If it has fired, the callee fired it and answered at once. -/
  completed : (engine.execute w request clock world).execution.status = .completed →
    ∃ task left count r, engine.Reaches w request clock world (.attempt task left count r) ∧
      (∀ q, engine.next w (.attempt task left count r) ≠ .reached q) ∧
      ¬ r.clock.Fired ∧ ¬ engine.FiresInAttempt task r ∧ (task.reply r).value.success = true ∧
      task.step.next? (task.reply r).value.output = none ∧
      ((engine.execute w request clock world).clock.cancelled = true →
        (task.reply r).cancels = true ∧ (task.reply r).waitMs = 0)

theorem execute_heeds (engine : Engine σ) (w : Workflow) (request : Request) (clock : Clock)
    (world : σ) : engine.Heeds w request clock world where
  still p hp hfired := by
    refine ⟨next_ne_reached hfired, ?_⟩
    cases p with
    | boundary left id r => exact (hp.stopped_of_fired hfired).2
    | attempt task left count r => exact (hp.cutShort_of_fired hfired).2
    | rest task left count error r => exact (hp.cutShort_of_rest (Or.inl hfired)).2
  refused := execute_world_of_invalid
  boundary left id r h hfired := (h.stopped_of_fired hfired).1
  attempt task left count r h hfired := (h.cutShort_of_fired hfired).1
  suspended task left count r h hclear hfires := h.cutShort_of_fires hclear hfires
  rest task left count error r h hfires := h.cutShort_of_rest hfires
  callee task left count r _ hclear hcancels q hnext := fired_of_cancels hclear hcancels hnext
  completed h := exists_last_attempt h

end Engine

end Stepwise
