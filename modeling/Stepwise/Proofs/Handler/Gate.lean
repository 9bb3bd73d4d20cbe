import Stepwise.Proofs.Handler.Refusals
import Stepwise.Proofs.Handler.Resolution

/-! # Validation as a gate -/

namespace Stepwise

variable {σ α β γ ρ : Type}

/-! ## Services that note requests -/

/-- The service, with a note of every request. -/
def notingRequests (note : α → γ) (ask : α → σ → Reply β × σ) (request : α) (world : σ × List γ) :
    Reply β × (σ × List γ) :=
  ((ask request world.1).1, (ask request world.1).2, world.2 ++ [note request])

/-- A call of an HTTP client. -/
inductive HttpCall where
  | send (request : HttpRequest)
  | postJson (url : String) (headers : List (String × String)) (body : Json)

/-- The client, with a note of every call. -/
def HttpClient.noting (client : HttpClient σ) : HttpClient (σ × List HttpCall) where
  send := notingRequests .send client.send
  postJson url headers body world :=
    ((client.postJson url headers body world.1).1, (client.postJson url headers body world.1).2,
      world.2 ++ [.postJson url headers body])

/-! ## Handlers of one call -/

/-- A handler that reads its params, asks a service once and makes the answer its result. -/
structure Handler.Asks (h : Handler σ) (read : Json → Except StepError ρ)
    (ask : α → σ → Reply β × σ) (request : ρ → Context → α) (result : ρ → β → StepResult) :
    Prop where
  validate : ∀ params, h.validate params = do
    h.schema.check params
    let _ ← read params
  refused : ∀ {params e}, read params = .error e → ∀ context world,
    h.execute params context world = (.now (.failed e {}), world)
  asked : ∀ {params q}, read params = .ok q → ∀ context world,
    h.execute params context world =
      ((ask (request q context) world).1.map (result q), (ask (request q context) world).2)

theorem Retrieval.handler_asks (service : SearchService σ) :
    (handler service).Asks Query.ofParams service
      (fun q context => q.request context.scope.tenantId) result where
  validate _ := rfl
  refused h _ _ := by rw [handler]; dsimp only; rw [h]
  asked h _ _ := by rw [handler]; dsimp only; rw [h]

theorem Completion.handler_asks (service : CompletionService σ) (defaultModel : String) :
    (handler service defaultModel).Asks (requestOf defaultModel) service (fun q _ => q)
      (fun _ => result) where
  validate _ := rfl
  refused h _ _ := by rw [handler]; dsimp only; rw [h]
  asked h _ _ := by rw [handler]; dsimp only; rw [h]

theorem Http.handler_asks (client : HttpClient σ) :
    (handler client).Asks Call.ofParams client.send (fun call _ => call.request)
      (fun call => result call.failOnError) where
  validate _ := rfl
  refused h _ _ := by rw [handler]; dsimp only; rw [h]
  asked h _ _ := by rw [handler]; dsimp only; rw [h]

/-! ## Results that do not blame the params -/

/-- No failure of a result says that the params are wrong. -/
def StepResult.Blameless (r : StepResult) : Prop :=
  ∀ e, r.error = some e → e.code ≠ StepError.invalidParamsCode

theorem StepResult.blameless_succeeded (output : Json) (metadata : StepMetadata) :
    (succeeded output metadata).Blameless := nofun

theorem StepResult.blameless_failed {e : StepError} (h : e.code ≠ StepError.invalidParamsCode)
    (metadata : StepMetadata) : (failed e metadata).Blameless := by
  rintro _ ⟨⟩
  exact h

theorem Retrieval.blameless_result (q : Query) (answer : Except ServiceError (List SearchHit)) :
    (result q answer).Blameless := by
  cases answer with
  | ok hits => exact StepResult.blameless_succeeded _ _
  | error e =>
    exact StepResult.blameless_failed
      (by decide : "RETRIEVAL_FAILED" ≠ StepError.invalidParamsCode) _

theorem Completion.blameless_result (answer : Except ServiceError Completion) :
    (result answer).Blameless := by
  cases answer with
  | ok c => exact StepResult.blameless_succeeded _ _
  | error e =>
    exact StepResult.blameless_failed
      (by decide : "COMPLETION_FAILED" ≠ StepError.invalidParamsCode) _

theorem Http.blameless_result (failOnError : Bool) (answer : Except ServiceError HttpResponse) :
    (result failOnError answer).Blameless := by
  cases answer with
  | error e =>
    exact StepResult.blameless_failed
      (by decide : "HTTP_REQUEST_FAILED" ≠ StepError.invalidParamsCode) _
  | ok r =>
    unfold result
    dsimp only
    split
    · exact StepResult.blameless_failed
        (by decide : "HTTP_ERROR" ≠ StepError.invalidParamsCode) _
    · exact StepResult.blameless_succeeded _ _

/-! ## The gate -/

/-- Params are refused for good, or the handler makes `count` calls and does not blame them. -/
def Handler.Gated (h : Handler (σ × List α)) (count : Nat) : Prop :=
  ∀ params context world,
    (∃ e, h.validate params = .error e ∧ e.RefusesParams) ∨
      h.validate params = .ok () ∧ (h.execute params context world).1.value.Blameless ∧
        ∃ calls, (h.execute params context world).2.2 = world.2 ++ calls ∧ calls.length = count

/-- With params that cannot be read, the handler does nothing but refuse them. -/
def Handler.Guarded (h : Handler σ) (read : Json → Except StepError ρ) : Prop :=
  ∀ params e, read params = .error e → e.RefusesParams ∧
    ∀ context world, h.execute params context world = (.now (.failed e {}), world)

namespace Handler.Asks

variable {read : Json → Except StepError ρ} {request : ρ → Context → α}
  {result : ρ → β → StepResult}

theorem reads {h : Handler σ} {ask : α → σ → Reply β × σ} (hasks : h.Asks read ask request result)
    {params : Json} (accepted : h.validate params = .ok ()) : ∃ q, read params = .ok q := by
  rw [hasks.validate] at accepted
  obtain ⟨_, -, accepted⟩ := ok_of_bind accepted
  obtain ⟨q, hq, -⟩ := ok_of_bind accepted
  exact ⟨q, hq⟩

theorem guarded {h : Handler σ} {ask : α → σ → Reply β × σ}
    (hasks : h.Asks read ask request result) (hread : ∀ params, Refusing (read params)) :
    h.Guarded read :=
  fun params e he => ⟨hread params e he, hasks.refused he⟩

theorem gated {h : Handler (σ × List γ)} {note : α → γ} {ask : α → σ → Reply β × σ}
    (hasks : h.Asks read (notingRequests note ask) request result)
    (hread : ∀ params, Refusing (read params))
    (hresult : ∀ q answer, (result q answer).Blameless) : h.Gated 1 := by
  intro params context world
  rw [hasks.validate]
  cases hcheck : h.schema.check params with
  | error e => exact .inl ⟨e, rfl, h.schema.refusing_check params e hcheck⟩
  | ok _ =>
    cases hq : read params with
    | error e => exact .inl ⟨e, rfl, hread params e hq⟩
    | ok q =>
      refine .inr ⟨rfl, ?_⟩
      rw [hasks.asked hq]
      exact ⟨hresult q _, [note (request q context)], rfl, rfl⟩

end Handler.Asks

theorem Conditional.gated : (handler : Handler (σ × List α)).Gated 0 := by
  intro params context world
  cases hvalidate : validate params with
  | error e =>
    have hrefuses : Refusing (validate params) :=
      .bind (schema.refusing_check params) fun _ =>
        .bind (Params.refusing_requiredString params _) fun _ =>
          .bind (Params.refusing_optionalString params _) fun _ =>
            .bind (Params.refusing_optionalString params _) fun _ => .ok _
    exact .inl ⟨e, hvalidate, hrefuses e hvalidate⟩
  | ok _ =>
    obtain ⟨condition, -, hresult⟩ := result_of_validate hvalidate context
    refine .inr ⟨hvalidate, ?_, [], (List.append_nil _).symm, rfl⟩
    have hvalue : (handler.execute params context world).1.value = result params context := rfl
    rw [hvalue, hresult]
    exact StepResult.blameless_succeeded _ _

/-- The validation of every built-in handler is a gate to its one call. A handler that is called
with unread params holds them back itself. -/
theorem Handler.gated_builtin (search : SearchService σ) (complete : CompletionService σ)
    (client : HttpClient σ) (defaultModel : String) :
    (Retrieval.handler (notingRequests id search)).Gated 1 ∧
      (Completion.handler (notingRequests id complete) defaultModel).Gated 1 ∧
      (Http.handler client.noting).Gated 1 ∧
      (Conditional.handler : Handler (σ × List α)).Gated 0 ∧
      (∀ params context world, ((Conditional.handler : Handler σ).execute params context world).2 =
        world) ∧
      (Retrieval.handler search).Guarded Retrieval.Query.ofParams ∧
      (Completion.handler complete defaultModel).Guarded (Completion.requestOf defaultModel) ∧
      (Http.handler client).Guarded Http.Call.ofParams := by
  refine ⟨?_, ?_, ?_, Conditional.gated, fun _ _ _ => rfl, ?_, ?_, ?_⟩
  · exact (Retrieval.handler_asks _).gated Retrieval.refusing_ofParams
      Retrieval.blameless_result
  · exact (Completion.handler_asks _ _).gated (Completion.refusing_requestOf _)
      fun _ => Completion.blameless_result
  · exact (Http.handler_asks _).gated Http.refusing_ofParams
      fun call => Http.blameless_result call.failOnError
  · exact (Retrieval.handler_asks _).guarded Retrieval.refusing_ofParams
  · exact (Completion.handler_asks _ _).guarded (Completion.refusing_requestOf _)
  · exact (Http.handler_asks _).guarded Http.refusing_ofParams

end Stepwise
