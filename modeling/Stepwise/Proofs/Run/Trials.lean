import Mathlib.Order.Bounds.Defs
import Stepwise.Proofs.Run.Calls
import Stepwise.Proofs.Run.Cancellation

/-!
# Attempts until one settles a step

The answers of a handler decide how many attempts a step has. Here they stand apart from the run
that makes the attempts.
-/

namespace Stepwise

/-! ## What the handler has in store -/

/-- A step that its handler has accepted, and the world before its first attempt. -/
structure Trial (σ : Type) where
  engine : Engine σ
  step : Step
  handler : Handler σ
  params : Json
  context : Context
  world : σ

def Engine.trial {σ : Type} (engine : Engine σ) (step : Step) (handler : Handler σ) (r : Run σ) :
    Trial σ :=
  ⟨engine, step, handler, Engine.valuesOf step r, r.context, r.world⟩

namespace Trial

variable {σ : Type} (t : Trial σ)

/-- The step has one attempt if it asks for none, or says nothing about it. -/
def mostAttempts : Nat :=
  match t.step.retry with
  | none => 1
  | some policy => max policy.maxAttempts.toNat 1

/-- The rest after a failed attempt. Attempts are counted from one. -/
def restMs (k : Nat) : Nat :=
  match t.step.retry with
  | none => 0
  | some policy => min (policy.baseDelayMs.toNat * k) (UInt64.size - 1)

/-- The world after so many attempts. -/
def worldAfter : Nat → σ
  | 0 => t.world
  | k + 1 => (t.handler.execute t.params t.context (worldAfter k)).2

def reply (k : Nat) : Reply StepResult :=
  (t.handler.execute t.params t.context (t.worldAfter (k - 1))).1

/-- What an attempt comes to. One that is not answered in time is a failure. -/
def result (k : Nat) : StepResult :=
  let timeoutMs := (t.engine.timeoutMs t.step).toNat
  if timeoutMs < (t.reply k).waitMs then .failed (timeoutError k timeoutMs) {}
  else (t.reply k).value

/-- How long an attempt takes. It does not go on beyond its timeout. -/
def tookMs (k : Nat) : Nat := min (t.reply k).waitMs (t.engine.timeoutMs t.step).toNat

/-- The time of so many attempts, or of the rests after them. -/
def totalMs (ms : Nat → Nat) (first count : Nat) : Nat :=
  (List.range' first count).foldr (fun k later => ms k + later) 0

/-- No attempt follows this one. -/
def Settles (k : Nat) : Prop :=
  (t.result k).success = true ∨ (t.result k).errorOrDefault.recoverable = false ∨
    k = t.mostAttempts

def ending (n : Nat) : StepEnd :=
  if (t.result n).success then .completed (t.result n) else .failed (t.result n).errorOrDefault

/-- The call that an attempt makes. -/
def call (k : Nat) : Call := ⟨t.step.stepType, t.params, t.context, t.reply k⟩

/-- The calls of the first attempts. -/
def calls (n : Nat) : List Call := (List.range' 1 n).map t.call

/-- The step as an engine attempts it that notes the calls. -/
def task (started : Timestamp) (onward : Nat) : Task (σ × List Call) :=
  ⟨t.step, t.handler.noting t.step.stepType, t.params, started, onward⟩

/-- An attempt of the step by an engine that notes the calls. -/
def attempt (k : Nat) (r : Run (σ × List Call)) : Option StepResult × Run (σ × List Call) :=
  t.engine.noting.attempt t.step (t.handler.noting t.step.stepType) t.params k r

theorem calls_succ (n : Nat) : t.calls (n + 1) = t.calls n ++ [t.call (n + 1)] := by
  rw [calls, List.range'_1_concat, List.map_append, Nat.add_comm 1 n]
  rfl

theorem totalMs_of_lt (ms : Nat → Nat) (first : Nat) {k n : Nat} (h : k < n) :
    totalMs ms first (n - k) = ms first + totalMs ms (first + 1) (n - (k + 1)) := by
  have hcount : n - k = n - (k + 1) + 1 := by omega
  rw [totalMs, hcount, List.range'_succ]
  rfl

theorem mostAttempts_eq : t.mostAttempts = (t.step.retry.getD {}).attempts := by
  unfold mostAttempts
  split
  · rename_i hnone
    rw [hnone]
    rfl
  · rename_i hsome
    rw [hsome]
    rfl

theorem mostAttempts_lt : t.mostAttempts < UInt32.size := by
  unfold mostAttempts
  split
  · decide
  · rename_i policy _
    have hlt : policy.maxAttempts.toNat < UInt32.size := policy.maxAttempts.toNat_lt
    exact Nat.max_lt.mpr ⟨hlt, by decide⟩

theorem restMs_eq (k : Nat) : t.restMs k = (t.step.retry.getD {}).delayMs k := by
  unfold restMs
  split
  · rename_i hnone
    rw [hnone]
    exact (Nat.zero_min _).symm.trans (congrArg (min · _) (Nat.zero_mul k).symm)
  · rename_i hsome
    rw [hsome]
    rfl

end Trial

/-! ## Clocks -/

namespace Clock

variable {c c' : Clock} {ms timeoutMs : Nat} {α : Type} {reply : Reply α}

theorem cancelled_of_look (h : c.look = (true, c')) : c'.cancelled = true := by
  unfold look at h
  split at h
  · obtain ⟨-, rfl⟩ := Prod.mk.inj h
    assumption
  · split at h
    · cases h
    · obtain ⟨-, rfl⟩ := Prod.mk.inj h
      rfl
    · cases h

theorem cancelled_of_wait (h : c.wait ms = (true, c')) : c'.cancelled = true := by
  unfold wait at h
  split at h
  · rename_i hlook
    obtain ⟨-, rfl⟩ := Prod.mk.inj h
    exact cancelled_of_look hlook
  · dsimp only at h
    split at h
    · cases h
    · split at h
      · obtain ⟨-, rfl⟩ := Prod.mk.inj h
        rfl
      · cases h

theorem cancelled_of_rest (h : c.rest ms = (true, c')) : c'.cancelled = true := by
  unfold rest at h
  split at h
  · exact cancelled_of_look h
  · exact cancelled_of_wait h

theorem now_of_wait (h : c.wait ms = (false, c')) : c'.now = c.now + ms := by
  unfold wait at h
  split at h
  · cases h
  · rename_i hlook
    obtain ⟨-, hnow, -⟩ := look_false hlook
    dsimp only at h
    rw [← hnow]
    split at h
    · obtain ⟨-, rfl⟩ := Prod.mk.inj h
      rfl
    · split at h
      · cases h
      · obtain ⟨-, rfl⟩ := Prod.mk.inj h
        rfl

theorem now_of_rest (h : c.rest ms = (false, c')) : c'.now = c.now + ms := by
  unfold rest at h
  split at h
  · rename_i hzero
    rw [hzero]
    exact (look_false h).2.1
  · exact now_of_wait h

/-- How waiting for an answer can end, and what time it is then. -/
inductive Awaits (c : Clock) (timeoutMs : Nat) (reply : Reply α) : Attempt α → Clock → Prop where
  | cancelled {c' : Clock} (fired : c'.cancelled = true) : Awaits c timeoutMs reply .cancelled c'
  | answered {c' : Clock} (inTime : reply.waitMs ≤ timeoutMs)
      (now : c'.now = c.now + reply.waitMs) :
      Awaits c timeoutMs reply (.answered reply.value) c'
  | timedOut {c' : Clock} (late : timeoutMs < reply.waitMs) (now : c'.now = c.now + timeoutMs) :
      Awaits c timeoutMs reply .timedOut c'

theorem awaits_of_await {ending : Attempt α} (h : c.await timeoutMs reply = (ending, c')) :
    c.Awaits timeoutMs reply ending c' := by
  have hduring : (if reply.cancels then c.cancel else c).now = c.now := by split <;> rfl
  unfold await at h
  dsimp only at h
  split at h
  · rename_i hatonce
    obtain ⟨rfl, rfl⟩ := Prod.mk.inj h
    refine .answered (by omega) ?_
    rw [hduring, hatonce, Nat.add_zero]
  · rename_i hwaits
    split at h
    · rename_i hzero
      obtain ⟨rfl, rfl⟩ := Prod.mk.inj h
      refine .timedOut (by omega) ?_
      rw [hduring, hzero, Nat.add_zero]
    · split at h
      · rename_i hwait
        obtain ⟨rfl, rfl⟩ := Prod.mk.inj h
        exact .cancelled (cancelled_of_wait hwait)
      · rename_i hwait
        have hnow := now_of_wait hwait
        rw [hduring] at hnow
        split at h
        · rename_i hinTime
          obtain ⟨rfl, rfl⟩ := Prod.mk.inj h
          rw [Nat.min_eq_left hinTime] at hnow
          exact .answered hinTime hnow
        · rename_i hlate
          obtain ⟨rfl, rfl⟩ := Prod.mk.inj h
          rw [Nat.min_eq_right (Nat.le_of_not_le hlate)] at hnow
          exact .timedOut (Nat.lt_of_not_le hlate) hnow

end Clock

/-! ## A run that makes the attempts -/

namespace Engine

variable {σ : Type} {engine : Engine σ} {step : Step} {handler : Handler σ} {params : Json}
  {left count : Nat} {r r' : Run σ}

theorem cancelled_of_attempt (h : engine.attempt step handler params count r = (none, r')) :
    r'.clock.cancelled = true := by
  unfold attempt at h
  split at h
  · rename_i hlook
    rw [← (Prod.mk.inj h).2]
    exact Clock.cancelled_of_look hlook
  · dsimp only at h
    split at h
    · rename_i hawait
      rw [← (Prod.mk.inj h).2]
      cases Clock.awaits_of_await hawait with
      | cancelled fired => exact fired
    · cases h
    · cases h

theorem ends_of_attempt {result : StepResult}
    (h : engine.attempt step handler params count r = (some result, r')) :
    let waitMs := (handler.execute params r.context r.world).1.waitMs
    let timeoutMs := (engine.timeoutMs step).toNat
    result = (if timeoutMs < waitMs then .failed (timeoutError count timeoutMs) {}
        else (handler.execute params r.context r.world).1.value) ∧
      r'.clock.now = r.clock.now + min waitMs timeoutMs := by
  unfold attempt at h
  split at h
  · cases h
  · rename_i hlook
    dsimp only at h ⊢
    rw [← (Clock.look_false hlook).2.1]
    split at h
    · cases h
    · rename_i hawait
      obtain ⟨hresult, rfl⟩ := Prod.mk.inj h
      cases Clock.awaits_of_await hawait with
      | answered inTime now =>
        rw [if_neg (Nat.not_lt.mpr inTime), Nat.min_eq_left inTime]
        exact ⟨(Option.some.inj hresult).symm, now⟩
    · rename_i hawait
      obtain ⟨hresult, rfl⟩ := Prod.mk.inj h
      cases Clock.awaits_of_await hawait with
      | timedOut late now =>
        rw [if_pos late, Nat.min_eq_right (Nat.le_of_lt late)]
        exact ⟨(Option.some.inj hresult).symm, now⟩

theorem cancelled_of_backOff {error : StepError}
    (h : backOff step count error r = (true, r')) : r'.clock.cancelled = true := by
  obtain ⟨hrest, rfl⟩ := Prod.mk.inj h
  exact Clock.cancelled_of_rest (Prod.ext hrest rfl)

theorem now_of_backOff {error : StepError} (h : backOff step count error r = (false, r')) :
    r'.clock.now = r.clock.now + (step.retry.getD {}).delayMs count := by
  obtain ⟨hrest, rfl⟩ := Prod.mk.inj h
  exact Clock.now_of_rest (Prod.ext hrest rfl)

theorem Tries.clock_cancelled {ending : StepEnd}
    (h : Tries engine step handler params left count r ending r') (cut : ending = .cancelled) :
    r'.clock.cancelled = true := by
  induction h with
  | cancelled made => exact cancelled_of_attempt made
  | completed | failed => cases cut
  | interrupted _ _ _ rest => exact cancelled_of_backOff rest
  | again _ _ _ _ _ ih => exact ih cut

end Engine

namespace Trial

open Engine

variable {σ : Type} {t : Trial σ} {earlier : List Call} {k n left : Nat}
  {r r' r'' final : Run (σ × List Call)} {before : List StepRecord} {record : StepRecord}
  {ending : StepEnd} {result : StepResult} {w : Workflow} {started : Timestamp} {onward : Nat}

theorem success_of_ending (h : .completed result = t.ending n) :
    (t.result n).success = true ∧ t.result n = result := by
  unfold ending at h
  split at h
  · exact ⟨‹_›, (StepEnd.completed.inj h).symm⟩
  · cases h

theorem failure_of_ending {error : StepError} (h : .failed error = t.ending n) :
    (t.result n).success = false ∧ (t.result n).errorOrDefault = error := by
  unfold ending at h
  split at h
  · cases h
  · exact ⟨Bool.eq_false_iff.mpr ‹_›, (StepEnd.failed.inj h).symm⟩

/-- The run has made so many attempts of the step, and their calls come last in its notes. -/
structure Made (t : Trial σ) (earlier : List Call) (k : Nat) (r : Run (σ × List Call)) :
    Prop where
  context : r.context = t.context
  world : r.world = (t.worldAfter k, earlier ++ t.calls k)

theorem Made.execute (h : t.Made earlier k r) :
    (t.handler.noting t.step.stepType).execute t.params r.context r.world =
      (t.reply (k + 1), t.worldAfter (k + 1), earlier ++ t.calls (k + 1)) := by
  rw [h.context, h.world, calls_succ, ← List.append_assoc]
  rfl

theorem Made.attempt (h : t.Made earlier k r)
    (made : t.attempt (k + 1) r = (some result, r')) :
    result = t.result (k + 1) ∧ t.Made earlier (k + 1) r' ∧
      r'.clock.now = r.clock.now + t.tookMs (k + 1) := by
  have hends := ends_of_attempt made
  rw [h.execute] at hends
  refine ⟨hends.1, ⟨(attempt_context made).trans h.context, ?_⟩, hends.2⟩
  rcases attempt_world made with ⟨hnone, -⟩ | ⟨hworld, -⟩
  · cases hnone
  · rw [hworld, h.execute]

theorem Made.backOff {error : StepError} {stop : Bool} (h : t.Made earlier k r)
    (rest : backOff t.step count error r = (stop, r')) : t.Made earlier k r' :=
  ⟨(backOff_context rest).trans h.context, (backOff_world rest).trans h.world⟩

/-- The run rests after the attempt as long as it should. Then another attempt follows. -/
def RestsAfter (t : Trial σ) (w : Workflow) (task : Task (σ × List Call))
    (p : Point (σ × List Call)) (k : Nat) : Prop :=
  ∃ left rest again,
    t.engine.noting.Leads w p (.rest task left k (t.result k).errorOrDefault rest) ∧
    t.engine.noting.next w (.rest task left k (t.result k).errorOrDefault rest) =
      .reached (.attempt task left (k + 1) again) ∧
    again.clock.now = rest.clock.now + t.restMs k

/-- A run that has made `k` attempts goes on to make `n` in all. The last one is the first of them
that settles the step. -/
structure Course (t : Trial σ) (earlier : List Call) (before : List StepRecord)
    (record : StepRecord) (left k : Nat) (r : Run (σ × List Call)) (n : Nat)
    (r' : Run (σ × List Call)) : Prop where
  more : k < n
  within : n ≤ t.mostAttempts
  settles : t.Settles n
  first : ∀ m, k < m → m < n → ¬ t.Settles m
  made : t.Made earlier n r'
  opened : r'.execution.Open before { record with retryCount := UInt32.ofNat (n - 1) }
  retries : r'.execution.metrics.retries =
    r.execution.metrics.retries + UInt32.ofNat (n - (k + 1))
  time : r'.clock.now = r.clock.now + totalMs t.tookMs (k + 1) (n - k) +
    totalMs t.restMs (k + 1) (n - (k + 1))
  rests : ∀ w started onward m, k < m → m < n →
    t.RestsAfter w (t.task started onward) (.attempt (t.task started onward) left (k + 1) r) m

theorem attempt_counts
    (made : t.attempt (k + 1) r = (some result, r'))
    (ho : r.execution.Open before record) :
    r'.execution.Open before { record with retryCount := UInt32.ofNat k } ∧
      r'.execution.metrics = r.execution.metrics := by
  obtain ⟨_, hexecution, hcount⟩ := attempt_execution made ho
  rw [hexecution, hcount rfl]
  exact ⟨ho.withLast ho.running, rfl⟩

theorem Course.one (h : t.Made earlier k r) (ho : r.execution.Open before record)
    (made : t.attempt (k + 1) r = (some result, r'))
    (settles : t.Settles (k + 1)) (hk : k + 1 ≤ t.mostAttempts) :
    t.Course earlier before record left k r (k + 1) r' := by
  obtain ⟨hopened, hmetrics⟩ := attempt_counts made ho
  obtain ⟨-, hmade, hnow⟩ := h.attempt made
  refine ⟨Nat.lt_succ_self k, hk, settles, fun m _ _ => by omega,
    hmade, hopened, ?_, ?_, fun _ _ _ m _ _ => by omega⟩
  · rw [hmetrics, Nat.sub_self]
    exact (UInt32.add_zero _).symm
  · rw [hnow, Nat.sub_self, Nat.add_sub_cancel_left]
    rfl

/-- The next attempt fails, but another one may succeed. The run rests until it is time for it. -/
structure Fails (t : Trial σ) (k : Nat) (r : Run (σ × List Call)) (result : StepResult)
    (r' r'' : Run (σ × List Call)) : Prop where
  made : t.attempt (k + 1) r = (some result, r')
  failure : result.success = false
  recoverable : result.errorOrDefault.recoverable = true
  rest : Engine.backOff t.step (k + 1) result.errorOrDefault r' = (false, r'')

theorem Fails.next_attempt (h : t.Fails k r result r' r'') :
    t.engine.noting.next w (.attempt (t.task started onward) (left + 1) (k + 1) r) =
      .reached (.rest (t.task started onward) left (k + 1) result.errorOrDefault r') :=
  next_attempt_of_failure h.made h.failure h.recoverable

theorem Fails.next_rest (h : t.Fails k r result r' r'') :
    t.engine.noting.next w (.rest (t.task started onward) left (k + 1) result.errorOrDefault r') =
      .reached (.attempt (t.task started onward) left (k + 1 + 1) r'') :=
  next_rest_of_over h.rest

theorem Fails.now (h : t.Fails k r result r' r'') :
    r''.clock.now = r'.clock.now + t.restMs (k + 1) := by
  rw [now_of_backOff h.rest, restMs_eq]

theorem Fails.restsAfter (h : t.Fails k r result r' r'') (hm : t.Made earlier k r) :
    t.RestsAfter w (t.task started onward)
      (.attempt (t.task started onward) (left + 1) (k + 1) r) (k + 1) := by
  obtain ⟨rfl, -⟩ := hm.attempt h.made
  exact ⟨left, r', r'', .single h.next_attempt, h.next_rest, h.now⟩

theorem Fails.restsAfter_later {m : Nat} (h : t.Fails k r result r' r'')
    (later : t.RestsAfter w (t.task started onward)
      (.attempt (t.task started onward) left (k + 1 + 1) r'') m) :
    t.RestsAfter w (t.task started onward)
      (.attempt (t.task started onward) (left + 1) (k + 1) r) m := by
  obtain ⟨left', rest, again, hleads, hnext, hnow⟩ := later
  exact ⟨left', rest, again, .head h.next_attempt (.head h.next_rest hleads), hnext, hnow⟩

theorem Course.again (h : t.Made earlier k r) (ho : r.execution.Open before record)
    (fails : t.Fails k r result r' r'') (undecided : ¬ t.Settles (k + 1))
    (course : t.Course earlier before { record with retryCount := UInt32.ofNat k } left (k + 1)
      r'' n final) :
    t.Course earlier before record (left + 1) k r n final := by
  obtain ⟨-, hmetrics⟩ := attempt_counts fails.made ho
  obtain ⟨-, -, hnow⟩ := h.attempt fails.made
  have hmore := course.more
  refine ⟨Nat.lt_of_succ_lt hmore, course.within, course.settles, fun m hm hlt => ?_,
    course.made, course.opened, ?_, ?_, fun w started onward m hm hlt => ?_⟩
  · rcases Nat.eq_or_lt_of_le hm with rfl | hm
    · exact undecided
    · exact course.first m hm hlt
  · have hcount : n - (k + 1) = 1 + (n - (k + 1 + 1)) := by omega
    rw [course.retries, backOff_execution fails.rest, hcount, UInt32.ofNat_add,
      ← UInt32.add_assoc, ← hmetrics]
    rfl
  · rw [course.time, fails.now, hnow,
      totalMs_of_lt t.tookMs (k + 1) (Nat.lt_of_succ_lt hmore),
      totalMs_of_lt t.restMs (k + 1) hmore]
    omega
  · rcases Nat.eq_or_lt_of_le hm with rfl | hm
    · exact fails.restsAfter h
    · exact fails.restsAfter_later (course.rests w started onward m hm hlt)

/-- Attempts that are not cancelled take the course that the handler has in store. -/
theorem course_of_tries (h : Tries t.engine.noting t.step (t.handler.noting t.step.stepType)
      t.params left (k + 1) r ending r')
    (settled : ending ≠ .cancelled) (hm : t.Made earlier k r)
    (ho : r.execution.Open before record) (hleft : k + 1 + left = t.mostAttempts) :
    ∃ n, t.Course earlier before record left k r n r' ∧ ending = t.ending n := by
  -- by induction on the attempts that are made: each has one result more behind it
  generalize hcount : k + 1 = count at h
  induction h generalizing k record with
  | cancelled | interrupted => exact absurd rfl settled
  | completed made success =>
    subst hcount
    obtain ⟨rfl, -⟩ := hm.attempt made
    exact ⟨k + 1, .one hm ho made (Or.inl success) (by omega), (if_pos success).symm⟩
  | failed made failure stop =>
    subst hcount
    obtain ⟨rfl, -⟩ := hm.attempt made
    have hsettles : t.Settles (k + 1) :=
      Or.inr (stop.elim (fun hzero => Or.inr (by omega)) Or.inl)
    refine ⟨k + 1, .one hm ho made hsettles (by omega), ?_⟩
    rw [Trial.ending, failure]
    rfl
  | again made failure recoverable rest more ih =>
    subst hcount
    obtain ⟨hresult, hmade, -⟩ := hm.attempt made
    obtain ⟨hopened, -⟩ := attempt_counts made ho
    have hopen : ¬ t.Settles (k + 1) := by
      rw [Settles, ← hresult, failure, recoverable]
      rintro (h | h | h)
      · cases h
      · cases h
      · omega
    obtain ⟨n, hcourse, hending⟩ :=
      ih settled (hmade.backOff rest) (backOff_opens rest hopened) (by omega) rfl
    exact ⟨n, .again hm ho ⟨made, failure, recoverable, rest⟩ hopen hcourse, hending⟩

/-! ## The step as a whole -/

/-- The run comes to the step. The step has the handler, and the handler accepts the params. -/
structure Begins (t : Trial σ) (r : Run (σ × List Call)) : Prop where
  running : r.execution.status = .running
  found : t.engine.registry.get? t.step.stepType = some t.handler
  accepted : t.handler.validate t.params = .ok ()
  params : valuesOf t.step r = t.params
  context : r.context = t.context
  world : r.world.1 = t.world

/-- The run before the first attempt. -/
def first (t : Trial σ) (r : Run (σ × List Call)) : Run (σ × List Call) :=
  prepared t.step (t.engine.noting.openRecord t.step r)

/-- The record of the step tells what the last attempt came to, and how many came before it. -/
structure Recorded (t : Trial σ) (n : Nat) (record : StepRecord) : Prop where
  stepId : record.stepId = t.step.id
  completed : (t.result n).success = true →
    record.status = .completed ∧ record.output = some (t.result n).output
  failed : (t.result n).success = false →
    record.status = .failed ∧ record.error = some (t.result n).errorOrDefault.message ∧
      record.errorCode = some (t.result n).errorOrDefault.code
  retryCount : record.retryCount.toNat = n - 1

/-- The step made `n` attempts between the two runs, as many as its handler had in store. -/
structure Settled (t : Trial σ) (r : Run (σ × List Call)) (n : Nat) (r' : Run (σ × List Call)) :
    Prop where
  least : IsLeast {k | 1 ≤ k ∧ t.Settles k} n
  world : r'.world = (t.worldAfter n, r.world.2 ++ t.calls n)
  recorded : ∃ record, r'.execution.steps = r.execution.steps ++ [record] ∧ t.Recorded n record
  retries : r'.execution.metrics.retries = r.execution.metrics.retries + UInt32.ofNat (n - 1)
  /-- Nothing but the attempts and the rests between them takes time. -/
  time : r'.clock.now = r.clock.now + totalMs t.tookMs 1 n + totalMs t.restMs 1 (n - 1)
  /-- Between any two attempts there is one rest. -/
  rests : ∀ w onward, ∃ task left first,
    t.engine.noting.enter onward t.step (t.engine.noting.openRecord t.step r) =
      .reached (.attempt task left 1 first) ∧
    ∀ k, 1 ≤ k → k < n → t.RestsAfter w task (.attempt task left 1 first) k

theorem Begins.noting_found (h : t.Begins r) :
    t.engine.noting.registry.get? t.step.stepType =
      some (t.handler.noting t.step.stepType) := by
  rw [Engine.noting, Registry.get?_noting, h.found]
  rfl

theorem Begins.opened (h : t.Begins r) :
    (t.engine.noting.openRecord t.step r).execution.Open r.execution.steps
      (.start t.step (t.engine.now r.world.1)) := by
  rw [openRecord_execution t.engine.noting t.step h.running]
  exact ⟨h.running, rfl, rfl⟩

theorem Begins.made (h : t.Begins r) : t.Made r.world.2 0 (t.first r) where
  context := h.context
  world := by
    rw [worldAfter, ← h.world, calls, List.range'_zero, List.map_nil, List.append_nil]
    rfl

theorem Begins.first_retries (h : t.Begins r) :
    (t.first r).execution.metrics.retries = r.execution.metrics.retries := by
  rw [first, prepared_execution t.step h.opened,
    openRecord_execution t.engine.noting t.step h.running]
  rfl

theorem Begins.enter (h : t.Begins r) (onward : Nat) :
    t.engine.noting.enter onward t.step (t.engine.noting.openRecord t.step r) =
      .reached (.attempt (t.task (t.engine.now r.world.1) onward)
        ((t.step.retry.getD {}).attempts - 1) 1 (t.first r)) := by
  have hparams : valuesOf t.step (t.engine.noting.openRecord t.step r) = t.params := h.params
  have haccepted : (t.handler.noting t.step.stepType).validate t.params = .ok () := h.accepted
  rw [Engine.enter, h.noting_found]
  dsimp only
  rw [hparams, haccepted]
  rfl

theorem Begins.course (h : t.Begins r)
    (attempted : Attempted t.engine.noting t.step (t.engine.noting.openRecord t.step r) ending r')
    (settled : ending ≠ .cancelled) :
    ∃ record n, record.stepId = t.step.id ∧
      t.Course r.world.2 r.execution.steps record ((t.step.retry.getD {}).attempts - 1) 0
        (t.first r) n r' ∧
      ending = t.ending n := by
  obtain ⟨handler, found, -, tries⟩ := attempted
  obtain rfl := Option.some.inj (h.noting_found.symm.trans found)
  have hparams : valuesOf t.step (t.engine.noting.openRecord t.step r) = t.params := h.params
  rw [hparams] at tries
  have hmost : 0 + 1 + ((t.step.retry.getD {}).attempts - 1) = t.mostAttempts := by
    have hpos : 1 ≤ (t.step.retry.getD {}).attempts := Nat.le_max_right _ _
    rw [mostAttempts_eq]
    omega
  obtain ⟨n, hcourse, hending⟩ :=
    course_of_tries tries settled h.made (prepared_open t.step h.opened) hmost
  exact ⟨_, n, rfl, hcourse, hending⟩

theorem Begins.settled (h : t.Begins r)
    (course : t.Course r.world.2 r.execution.steps record ((t.step.retry.getD {}).attempts - 1) 0
      (t.first r) n r')
    {closed : StepRecord} (closes : Closes final.execution r.execution.steps
      { record with retryCount := UInt32.ofNat (n - 1) } closed)
    (recorded : closed.retryCount.toNat = n - 1 → t.Recorded n closed)
    (world : final.world = r'.world) (clock : final.clock = r'.clock)
    (retries : final.execution.metrics.retries = r'.execution.metrics.retries) :
    t.Settled r n final where
  least := by
    refine ⟨⟨course.more, course.settles⟩, fun m ⟨hpos, hsettles⟩ => ?_⟩
    exact Nat.le_of_not_lt fun hlt => course.first m hpos hlt hsettles
  world := world.trans course.made.world
  recorded := by
    refine ⟨closed, closes.steps, recorded ?_⟩
    have hlt := Nat.lt_of_le_of_lt course.within t.mostAttempts_lt
    rw [closes.retryCount]
    exact UInt32.toNat_ofNat_of_lt' (Nat.lt_of_le_of_lt (Nat.sub_le n 1) hlt)
  retries := by rw [retries, course.retries, h.first_retries]
  time := by
    rw [clock, course.time]
    rfl
  rests w onward := ⟨_, _, _, h.enter onward, course.rests w _ onward⟩

theorem Begins.settled_of_failed (h : t.Begins r) {error : StepError}
    (attempted : Attempted t.engine.noting t.step (t.engine.noting.openRecord t.step r)
      (.failed error) r')
    (execution : final.execution = (t.engine.noting.failStep t.step error r').execution)
    (world : final.world = r'.world) (clock : final.clock = r'.clock) :
    ∃ n, t.Settled r n final := by
  obtain ⟨record, n, hid, hcourse, hending⟩ := h.course attempted nofun
  obtain ⟨hfailure, rfl⟩ := failure_of_ending hending
  obtain ⟨closed, hcloses, hstatus, hmessage, hcode⟩ :=
    failStep_documents t.engine.noting t.step hcourse.opened (t.result n).errorOrDefault
  rw [← execution] at hcloses
  refine ⟨n, h.settled hcourse hcloses (fun hcount => ?_) world clock ?_⟩
  · exact ⟨hcloses.stepId.trans hid,
      fun hsuccess => absurd hsuccess (Bool.eq_false_iff.mp hfailure),
      fun _ => ⟨hstatus, hmessage, hcode⟩, hcount⟩
  · rw [execution, failStep_execution t.engine.noting t.step hcourse.opened]
    rfl

theorem Begins.settled_of_completed (h : t.Begins r) {started : Timestamp}
    (attempted : Attempted t.engine.noting t.step (t.engine.noting.openRecord t.step r)
      (.completed result) r') :
    ∃ n, t.Settled r n (t.engine.noting.completeStep t.step started result r').2 := by
  obtain ⟨record, n, hid, hcourse, hending⟩ := h.course attempted nofun
  obtain ⟨hsuccess, rfl⟩ := success_of_ending hending
  obtain ⟨closed, hcloses, hstatus, houtput, -⟩ :=
    completeStep_documents t.engine.noting t.step hcourse.opened started (t.result n)
  refine ⟨n, h.settled hcourse hcloses (fun hcount => ?_) rfl rfl ?_⟩
  · exact ⟨hcloses.stepId.trans hid, fun _ => ⟨hstatus, houtput⟩,
      fun hfailure => absurd hsuccess (Bool.eq_false_iff.mp hfailure), hcount⟩
  · rw [completeStep_execution hcourse.opened]
    rfl

theorem Begins.settles (h : t.Begins r) {outcome : Except WorkflowError (Option String)}
    (ends : Ends t.engine.noting t.step (t.engine.noting.openRecord t.step r) outcome final)
    (unfired : final.clock.cancelled = false) : ∃ n, t.Settled r n final := by
  cases ends with
  | unhandled missing => exact nomatch missing.symm.trans h.noting_found
  | refused found refusal =>
    obtain rfl := Option.some.inj (h.noting_found.symm.trans found)
    have haccepted : t.handler.validate
        (valuesOf t.step (t.engine.noting.openRecord t.step r)) = .ok () := by
      rw [← h.accepted, ← h.params]
      rfl
    exact nomatch haccepted.symm.trans refusal
  | completed attempted => exact h.settled_of_completed attempted
  | rerouted attempted edge => exact h.settled_of_failed attempted rfl rfl rfl
  | failed attempted edge => exact h.settled_of_failed attempted rfl rfl rfl
  | cancelled attempted =>
    obtain ⟨_, _, _, tries⟩ := attempted
    exact nomatch unfired.symm.trans (tries.clock_cancelled rfl)

end Trial

namespace Engine

variable {σ : Type} {step : Step} {handler : Handler σ}

/-- Comes too late at first, then fails without an error, and succeeds from then on. -/
def recovering : Handler Nat where
  validate _ := .ok ()
  schema := { fields := [] }
  execute _ _ world :=
    match world with
    | 0 => ({ value := .succeeded .null {}, waitMs := 90000 }, 1)
    | 1 => (.now ⟨false, .null, {}, none⟩, 2)
    | n + 2 => (.now (.succeeded (.nat n) {}), n + 3)

def mending : Engine Nat where
  registry := Registry.empty.register "ask" recovering
  now _ := Timestamp.ofUnixNanos 0
  elapsedNanos _ := 0

def persisting : Workflow where
  id := ⟨"persisting", by decide⟩
  entryStepId := "ask"
  steps := [asking]
where
  asking : Step :=
    { id := "ask", stepType := "ask", retry := some { maxAttempts := 5, baseDelayMs := 10 } }

def outset : Run (Nat × List Call) :=
  mending.noting.begin persisting ⟨"run", "tenant", .null⟩ {} (0, []) ⟨[], []⟩

example : (mending.noting.runStep persisting.asking
    (mending.noting.openRecord persisting.asking outset)).2.clock.now = 60000 + 10 + 20 := by
  decide +kernel

end Engine

end Stepwise
