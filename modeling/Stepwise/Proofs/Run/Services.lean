import Stepwise.Proofs.Handler.Gate
import Stepwise.Proofs.Run.Trials

/-! # Calls of services -/

namespace Stepwise

open Engine (valuesOf)

/-! ## Answers of a service -/

section Answers

variable {σ α β : Type}

/-- The world of a service after so many equal requests. -/
def worldAfterAsking (ask : α → σ → Reply β × σ) (request : α) (world : σ) : Nat → σ
  | 0 => world
  | k + 1 => (ask request (worldAfterAsking ask request world k)).2

/-- The reply to one of equal requests. They are counted from one. -/
def replyTo (ask : α → σ → Reply β × σ) (request : α) (world : σ) (k : Nat) : Reply β :=
  (ask request (worldAfterAsking ask request world (k - 1))).1

end Answers

/-- The service of a step found something, or it would fail in the same way again. -/
def ServiceFinal {β : Type} : Except ServiceError β → Prop
  | .ok _ => True
  | .error (.notFound _) | .error (.validation _) | .error (.configuration _) => True
  | .error (.provider ..) | .error (.internal _) => False

def ServiceCompletes {β : Type} : Except ServiceError β → Prop
  | .ok _ => True
  | .error _ => False

/-- A response that the step is content with. -/
def HttpCompletes (failOnError : Bool) : Except ServiceError HttpResponse → Prop
  | .ok r => 200 ≤ r.status ∧ r.status < 300 ∨ failOnError = false
  | .error _ => False

/-- A response that the step is content with, or that blames the request. -/
def HttpFinal (failOnError : Bool) : Except ServiceError HttpResponse → Prop
  | .ok r => 200 ≤ r.status ∧ r.status < 300 ∨ failOnError = false ∨
      r.status < 500 ∧ r.status ≠ 429
  | .error _ => False

/-- What the result of a step says about the answer it was made from. -/
structure Classifies {β : Type} (result : β → StepResult) (final completes : β → Prop) : Prop where
  completes : ∀ answer, completes answer ↔ (result answer).success = true
  final : ∀ answer, final answer ↔
    (result answer).success = true ∨ (result answer).errorOrDefault.recoverable = false

theorem classifies_service {β : Type} {result : Except ServiceError β → StepResult}
    (success : ∀ b, (result (.ok b)).success = true)
    (failure : ∀ e, ∃ code metadata, result (.error e) = .failed (e.toStepError code) metadata) :
    Classifies result ServiceFinal ServiceCompletes where
  completes answer := by
    cases answer with
    | ok b => exact iff_of_true trivial (success b)
    | error e =>
      obtain ⟨code, metadata, heq⟩ := failure e
      rw [heq]
      exact iff_of_false id Bool.false_ne_true
  final answer := by
    cases answer with
    | ok b => exact iff_of_true trivial (.inl (success b))
    | error e =>
      obtain ⟨code, metadata, heq⟩ := failure e
      rw [heq]
      cases e with
      | notFound | validation | configuration => exact iff_of_true trivial (.inr rfl)
      | provider | internal => exact iff_of_false id (by rintro (h | h) <;> cases h)

theorem Retrieval.classifies_result (q : Query) :
    Classifies (result q) ServiceFinal ServiceCompletes :=
  classifies_service (fun _ => rfl) fun _ => ⟨_, _, rfl⟩

theorem Completion.classifies_result : Classifies result ServiceFinal ServiceCompletes :=
  classifies_service (fun _ => rfl) fun _ => ⟨_, _, rfl⟩

theorem Http.success_result_iff (failOnError : Bool) (r : HttpResponse) :
    (result failOnError (.ok r)).success = true ↔ HttpCompletes failOnError (.ok r) := by
  have hsuccess : r.isSuccess = true ↔ 200 ≤ r.status ∧ r.status < 300 := by
    rw [HttpResponse.isSuccess, Status.isSuccess, Bool.and_eq_true, decide_eq_true_iff,
      decide_eq_true_iff]
  rw [HttpCompletes, ← hsuccess, result]
  cases failOnError with
  | false => exact iff_of_true rfl (.inr rfl)
  | true =>
    cases r.isSuccess with
    | true => exact iff_of_true rfl (.inl rfl)
    | false => exact iff_of_false Bool.false_ne_true (by rintro (h | h) <;> cases h)

theorem Http.classifies_result (failOnError : Bool) :
    Classifies (result failOnError) (HttpFinal failOnError) (HttpCompletes failOnError) where
  completes answer := by
    cases answer with
    | ok r => exact (success_result_iff failOnError r).symm
    | error e => exact iff_of_false id Bool.false_ne_true
  final answer := by
    cases answer with
    | error e => exact iff_of_false id (by rintro (h | h) <;> cases h)
    | ok r =>
      have hfinal : HttpFinal failOnError (.ok r) ↔
          HttpCompletes failOnError (.ok r) ∨ r.status < 500 ∧ r.status ≠ 429 := or_assoc.symm
      rw [hfinal, ← success_result_iff]
      refine or_congr_right' fun hfailed => ?_
      unfold result at hfailed ⊢
      dsimp only at hfailed ⊢
      split at hfailed
      · rw [if_pos ‹_›]
        change _ ↔ isRetryable r.status = false
        rw [isRetryable, Bool.or_eq_false_iff, decide_eq_false_iff_not, beq_eq_false_iff_ne,
          not_le]
      · exact absurd rfl hfailed

/-! ## Steps that settle -/

namespace Trial

variable {σ : Type} {t : Trial σ} {n : Nat} {record : StepRecord}

theorem Recorded.status_completed_iff (h : t.Recorded n record) :
    record.status = .completed ↔ (t.result n).success = true := by
  cases hsuccess : (t.result n).success with
  | true => exact iff_of_true (h.completed hsuccess).1 rfl
  | false =>
    rw [(h.failed hsuccess).1]
    decide

theorem Recorded.status_failed_iff (h : t.Recorded n record) :
    record.status = .failed ↔ ¬(t.result n).success = true := by
  cases hsuccess : (t.result n).success with
  | true =>
    rw [(h.completed hsuccess).1]
    decide
  | false => exact iff_of_true (h.failed hsuccess).1 Bool.false_ne_true

end Trial

namespace Engine

variable {σ : Type} {engine : Engine σ} {step : Step} {handler : Handler σ} {r : Run σ}

/-- The run comes to a step whose handler accepts its params. -/
structure Comes (engine : Engine σ) (step : Step) (handler : Handler σ) (r : Run σ) : Prop where
  running : r.execution.status = .running
  found : engine.registry.get? step.stepType = some handler
  accepted : handler.validate (valuesOf step r) = .ok ()

/-- The run after the step. -/
def after (engine : Engine σ) (step : Step) (r : Run σ) : Run σ :=
  (engine.runStep step (engine.openRecord step r)).2

theorem Comes.settles (h : engine.Comes step handler r)
    (uncancelled : (engine.after step r).clock.cancelled = false) :
    ∃ n, IsLeast {k | 1 ≤ k ∧ (engine.trial step handler r).Settles k} n ∧
      (engine.after step r).world = (engine.trial step handler r).worldAfter n ∧
      ∃ record, (engine.after step r).execution.steps = r.execution.steps ++ [record] ∧
        (engine.trial step handler r).Recorded n record := by
  -- the same run with a note of every call of a handler
  let noted : Run (σ × List Call) :=
    ⟨(r.world, []), r.clock, r.execution, r.context, r.events, r.panic?⟩
  have hview : (engine.noting.runStep step (engine.noting.openRecord step noted)).2.view Prod.fst =
      engine.after step r := by
    have hshown := engine.shownBy_noting.runStep step (engine.noting.openRecord step noted)
    rw [← engine.shownBy_noting.openRecord] at hshown
    exact (congrArg Prod.snd hshown).symm
  have hbegins : (engine.trial step handler r).Begins noted :=
    ⟨h.running, h.found, h.accepted, rfl, rfl, rfl⟩
  rw [← hview] at uncancelled ⊢
  obtain ⟨n, hsettled⟩ := hbegins.settles (ends_runStep engine.noting step _) uncancelled
  exact ⟨n, hsettled.least, congrArg Prod.fst hsettled.world, hsettled.recorded⟩

end Engine

/-! ## Steps of services -/

/-- A step has one attempt if it asks for none, or says nothing about it. -/
def Step.mostAttempts (s : Step) : Nat := max ((s.retry.map (·.maxAttempts.toNat)).getD 1) 1

namespace Engine

variable {σ α β γ ρ : Type} {engine : Engine (σ × List γ)} {step : Step}
  {handler : Handler (σ × List γ)} {r : Run (σ × List γ)}

/-- No reply that the step waits for is too late, and nothing cancels the run. -/
structure Undisturbed (engine : Engine (σ × List γ)) (step : Step) (r : Run (σ × List γ))
    (reply : Nat → Reply β) (final : β → Prop) : Prop where
  inTime : ∀ k, 1 ≤ k → k ≤ step.mostAttempts →
    (∀ j, 1 ≤ j → j < k → ¬final (reply j).value) →
    (reply k).waitMs ≤ (engine.timeoutMs step).toNat
  uncancelled : (engine.after step r).clock.cancelled = false

/-- The step makes its call until a reply is final or no attempt is left. What the last reply is
decides how the step ends. -/
def CallsUntil (engine : Engine (σ × List γ)) (step : Step) (r : Run (σ × List γ)) (call : γ)
    (reply : Nat → Reply β) (final completes : β → Prop) : Prop :=
  ∃ n, IsLeast {k | 1 ≤ k ∧ (final (reply k).value ∨ k = step.mostAttempts)} n ∧
    (engine.after step r).world.2 = r.world.2 ++ List.replicate n call ∧
    ∃ record, (engine.after step r).execution.steps = r.execution.steps ++ [record] ∧
      record.stepId = step.id ∧
      (record.status = .completed ↔ completes (reply n).value) ∧
      (record.status = .failed ↔ ¬completes (reply n).value)

theorem trial_mostAttempts (engine : Engine (σ × List γ)) (step : Step)
    (handler : Handler (σ × List γ)) (r : Run (σ × List γ)) :
    (engine.trial step handler r).mostAttempts = step.mostAttempts := by
  have hstep : (engine.trial step handler r).step = step := rfl
  rw [Trial.mostAttempts_eq, hstep, Step.mostAttempts]
  cases step.retry <;> rfl

/-- Two conditions on numbers have the same least number, if they agree up to the first number that
is final. -/
theorem isLeast_of_agree {settles final : Nat → Prop} {most n : Nat}
    (least : IsLeast {k | 1 ≤ k ∧ settles k} n) (within : n ≤ most)
    (agree : ∀ k, 1 ≤ k → k ≤ most → (∀ j, 1 ≤ j → j < k → ¬final j) →
      (settles k ↔ final k ∨ k = most)) :
    IsLeast {k | 1 ≤ k ∧ (final k ∨ k = most)} n ∧ ∀ j, 1 ≤ j → j < n → ¬final j := by
  obtain ⟨⟨hpos, hsettles⟩, hleast⟩ := least
  have hnone : ∀ j, 1 ≤ j → j < n → ¬final j := by
    intro j
    induction j using Nat.strong_induction_on with
    | _ j ih =>
      intro hj hjn hfinal
      have hiff := agree j hj (hjn.le.trans within) fun i hi hij => ih i hij hi (hij.trans hjn)
      exact (hleast ⟨hj, hiff.mpr (.inl hfinal)⟩).not_gt hjn
  refine ⟨⟨⟨hpos, (agree n hpos within hnone).mp hsettles⟩, fun k hk => ?_⟩, hnone⟩
  by_contra hlt
  have hkn : k < n := not_le.mp hlt
  have hiff := agree k hk.1 (hkn.le.trans within) fun j hj hjk => hnone j hj (hjk.trans hkn)
  exact hlt (hleast ⟨hk.1, hiff.mpr hk.2⟩)

section Trials

variable {read : Json → Except StepError ρ} {note : α → γ} {ask : α → σ → Reply β × σ}
  {request : ρ → Context → α} {result : ρ → β → StepResult} {q : ρ} {final completes : β → Prop}

theorem worldAfter_trial (h : handler.Asks read (notingRequests note ask) request result)
    (hq : read (valuesOf step r) = .ok q) (k : Nat) :
    (engine.trial step handler r).worldAfter k =
      (worldAfterAsking ask (request q r.context) r.world.1 k,
        r.world.2 ++ List.replicate k (note (request q r.context))) := by
  induction k with
  | zero => exact Prod.ext rfl (List.append_nil _).symm
  | succ k ih =>
    have hstep : (engine.trial step handler r).worldAfter (k + 1) =
        (handler.execute (valuesOf step r) r.context
          ((engine.trial step handler r).worldAfter k)).2 := rfl
    rw [hstep, ih, h.asked hq, List.replicate_succ', ← List.append_assoc]
    rfl

theorem reply_trial (h : handler.Asks read (notingRequests note ask) request result)
    (hq : read (valuesOf step r) = .ok q) (k : Nat) :
    (engine.trial step handler r).reply k =
      (replyTo ask (request q r.context) r.world.1 k).map (result q) := by
  have hstep : (engine.trial step handler r).reply k =
      (handler.execute (valuesOf step r) r.context
        ((engine.trial step handler r).worldAfter (k - 1))).1 := rfl
  rw [hstep, worldAfter_trial h hq, h.asked hq]
  rfl

theorem result_trial (h : handler.Asks read (notingRequests note ask) request result)
    (hq : read (valuesOf step r) = .ok q) {k : Nat}
    (inTime : (replyTo ask (request q r.context) r.world.1 k).waitMs ≤
      (engine.timeoutMs step).toNat) :
    (engine.trial step handler r).result k =
      result q (replyTo ask (request q r.context) r.world.1 k).value := by
  unfold Trial.result
  rw [reply_trial h hq]
  exact if_neg (Nat.not_lt.mpr inTime)

theorem settles_trial (h : handler.Asks read (notingRequests note ask) request result)
    (classifies : Classifies (result q) final completes) (hq : read (valuesOf step r) = .ok q)
    {k : Nat} (inTime : (replyTo ask (request q r.context) r.world.1 k).waitMs ≤
      (engine.timeoutMs step).toNat) :
    (engine.trial step handler r).Settles k ↔
      final (replyTo ask (request q r.context) r.world.1 k).value ∨ k = step.mostAttempts := by
  rw [Trial.Settles, result_trial h hq inTime, trial_mostAttempts, ← or_assoc, ← classifies.final]

theorem callsUntil (h : handler.Asks read (notingRequests note ask) request result)
    (classifies : Classifies (result q) final completes)
    (comes : engine.Comes step handler r) (hq : read (valuesOf step r) = .ok q)
    (undisturbed : engine.Undisturbed step r (replyTo ask (request q r.context) r.world.1) final) :
    engine.CallsUntil step r (note (request q r.context))
      (replyTo ask (request q r.context) r.world.1) final completes := by
  obtain ⟨n, hleast, hworld, record, hsteps, hrecorded⟩ :=
    comes.settles undisturbed.uncancelled
  have hmost : n ≤ step.mostAttempts :=
    hleast.2 ⟨Nat.le_max_right _ _, .inr (.inr (trial_mostAttempts ..).symm)⟩
  obtain ⟨hleast', hbefore⟩ := isLeast_of_agree hleast hmost fun k hk hkm hnone =>
    settles_trial h classifies hq (undisturbed.inTime k hk hkm hnone)
  have hresult : (engine.trial step handler r).result n =
      result q (replyTo ask (request q r.context) r.world.1 n).value :=
    result_trial h hq (undisturbed.inTime n hleast.1.1 hmost hbefore)
  refine ⟨n, hleast', ?_, record, hsteps, hrecorded.stepId, ?_, ?_⟩
  · rw [hworld, worldAfter_trial h hq]
  · rw [classifies.completes, ← hresult]
    exact hrecorded.status_completed_iff
  · rw [classifies.completes, ← hresult]
    exact hrecorded.status_failed_iff

end Trials

/-- The steps of services ask until an answer is final. It is final if it is what the step is made
for, or if asking again would be in vain. -/
theorem runStep_callsUntil (step : Step) (search : SearchService σ)
    (complete : CompletionService σ) (defaultModel : String) (client : HttpClient σ) :
    (∀ (engine : Engine (σ × List SearchRequest)) (r : Run (σ × List SearchRequest)),
      engine.Comes step (Retrieval.handler (notingRequests id search)) r →
      ∃ q, Retrieval.Query.ofParams (valuesOf step r) = .ok q ∧
        let request := q.request r.context.scope.tenantId
        let reply := replyTo search request r.world.1
        engine.Undisturbed step r reply ServiceFinal →
          engine.CallsUntil step r request reply ServiceFinal ServiceCompletes) ∧
    (∀ (engine : Engine (σ × List CompletionRequest)) (r : Run (σ × List CompletionRequest)),
      engine.Comes step (Completion.handler (notingRequests id complete) defaultModel) r →
      ∃ request, Completion.requestOf defaultModel (valuesOf step r) = .ok request ∧
        let reply := replyTo complete request r.world.1
        engine.Undisturbed step r reply ServiceFinal →
          engine.CallsUntil step r request reply ServiceFinal ServiceCompletes) ∧
    ∀ (engine : Engine (σ × List HttpCall)) (r : Run (σ × List HttpCall)),
      engine.Comes step (Http.handler client.noting) r →
      ∃ call, Http.Call.ofParams (valuesOf step r) = .ok call ∧
        let reply := replyTo client.send call.request r.world.1
        engine.Undisturbed step r reply (HttpFinal call.failOnError) →
          engine.CallsUntil step r (.send call.request) reply (HttpFinal call.failOnError)
            (HttpCompletes call.failOnError) := by
  refine ⟨fun engine r comes => ?_, fun engine r comes => ?_, fun engine r comes => ?_⟩
  · have hasks := Retrieval.handler_asks (notingRequests id search)
    obtain ⟨q, hq⟩ := hasks.reads comes.accepted
    exact ⟨q, hq, callsUntil hasks (Retrieval.classifies_result q) comes hq⟩
  · have hasks := Completion.handler_asks (notingRequests id complete) defaultModel
    obtain ⟨q, hq⟩ := hasks.reads comes.accepted
    exact ⟨q, hq, callsUntil hasks Completion.classifies_result comes hq⟩
  · have hasks := Http.handler_asks client.noting
    obtain ⟨call, hcall⟩ := hasks.reads comes.accepted
    exact ⟨call, hcall, callsUntil hasks (Http.classifies_result call.failOnError) comes hcall⟩

/-! ## Services that recover -/

/-- A service that answers at once, and whose answers are counted from zero. -/
def answering {α β : Type} (answer : Nat → β) : α → Nat → Reply β × Nat :=
  fun _ n => (.now (answer n), n + 1)

/-- An outage, and then nothing is found. -/
def seeking : SearchService Nat :=
  answering fun n => if n < 2 then .error (.provider "index" "down") else .error (.notFound "kb")

/-- An outage, and then an answer. -/
def writing : CompletionService Nat :=
  answering fun n => if n < 1 then .error (.internal "lost") else .ok ⟨"Hello", "small", {}⟩

/-- Out of service, too many requests, and then no such page. -/
def fetching : HttpClient Nat where
  send := answering fun n => .ok ⟨if n = 0 then 503 else if n = 1 then 429 else 404, .null⟩
  postJson _ _ := answering fun _ => .error (.internal "unused")

/-- One step for each service, with the params of all of them. -/
def consulting : Step where
  id := "ask"
  stepType := "ask"
  params := .object [("collectionId", .string "kb"), ("query", .string "rust"),
    ("prompt", .string "Hi"), ("url", .string "http://a")]
  retry := some { maxAttempts := 5 }

/-- An engine whose only handler this is. -/
def serving {τ : Type} (handler : Handler τ) : Engine τ where
  registry := Registry.empty.register "ask" handler
  now _ := Timestamp.ofUnixNanos 0
  elapsedNanos _ := 0

/-- A run of one step that has begun. -/
def begun {τ : Type} (handler : Handler τ) (world : τ) : Run τ :=
  (serving handler).begin
    { id := ⟨"consulting", by decide⟩, entryStepId := "ask", steps := [consulting] }
    ⟨"run", "tenant", .null⟩ {} world ⟨[], []⟩

def seeker : Handler (Nat × List SearchRequest) := Retrieval.handler (notingRequests id seeking)

def writer : Handler (Nat × List CompletionRequest) :=
  Completion.handler (notingRequests id writing) "small"

def fetcher : Handler (Nat × List HttpCall) := Http.handler fetching.noting

theorem runStep_callsUntil_consulting :
    (∃ request, (serving seeker).CallsUntil consulting (begun seeker (0, [])) request
      (replyTo seeking request 0) ServiceFinal ServiceCompletes) ∧
    (∃ request, (serving writer).CallsUntil consulting (begun writer (0, [])) request
      (replyTo writing request 0) ServiceFinal ServiceCompletes) ∧
    ∃ request, (serving fetcher).CallsUntil consulting (begun fetcher (0, [])) (.send request)
      (replyTo fetching.send request 0) (HttpFinal true) (HttpCompletes true) := by
  obtain ⟨hsearch, hcomplete, hfetch⟩ :=
    runStep_callsUntil consulting seeking writing "small" fetching
  refine ⟨?_, ?_, ?_⟩
  · obtain ⟨q, -, hcalls⟩ := hsearch (serving seeker) (begun seeker (0, []))
      ⟨rfl, rfl, by decide +kernel⟩
    exact ⟨_, hcalls ⟨fun _ _ _ _ => Nat.zero_le _, by decide +kernel⟩⟩
  · obtain ⟨q, -, hcalls⟩ := hcomplete (serving writer) (begun writer (0, []))
      ⟨rfl, rfl, by decide +kernel⟩
    exact ⟨_, hcalls ⟨fun _ _ _ _ => Nat.zero_le _, by decide +kernel⟩⟩
  · obtain ⟨call, hcall, hcalls⟩ := hfetch (serving fetcher) (begun fetcher (0, []))
      ⟨rfl, rfl, by decide +kernel⟩
    have hfails : call.failOnError = true := by
      have hread : (Http.Call.ofParams (valuesOf consulting (begun fetcher (0, [])))).map
          (·.failOnError) = .ok true := by decide +kernel
      rw [hcall] at hread
      exact Except.ok.inj hread
    rw [hfails] at hcalls
    exact ⟨_, hcalls ⟨fun _ _ _ _ => Nat.zero_le _, by decide +kernel⟩⟩

example : ((serving fetcher).after consulting (begun fetcher (0, []))).world.2.length = 3 := by
  decide +kernel

end Engine

end Stepwise
