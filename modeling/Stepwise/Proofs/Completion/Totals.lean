import Stepwise.Completion.Chat
import Stepwise.Proofs.Handler.Gate
import Stepwise.Proofs.Numeric.Saturation

/-! # Totals of tokens -/

namespace Stepwise

variable {σ α β : Type}

/-! ## Answers that panic -/

namespace Reply

theorem outcome_map (f : α → β) (r : Reply α) : (r.map f).outcome = r.outcome.map f := by
  unfold outcome
  cases h : r.panic? <;> simp [map, h, Except.map]

-- The stub does not come up, since a reply with a stub has a panic.
theorem outcome_mapOrPanic (f : α → Except Panic β) (stub : Panic → β) (r : Reply α) :
    (r.mapOrPanic f stub).outcome = r.outcome.bind f := by
  unfold mapOrPanic outcome
  cases hf : f r.value <;> cases hr : r.panic? <;> simp [Except.bind, hf]

end Reply

/-! ## The two sums -/

theorem checkedAdd_of_lt {a b : UInt32} (h : a.toNat + b.toNat < UInt32.size) :
    ∃ sum, checkedAdd a b = .ok sum ∧ sum.toNat = a.toNat + b.toNat :=
  ⟨a + b, if_pos h, by rw [UInt32.toNat_add, Nat.mod_eq_of_lt h]⟩

theorem checkedAdd_of_le {a b : UInt32} (h : UInt32.size ≤ a.toNat + b.toNat) :
    checkedAdd a b = .error .addOverflow :=
  if_neg (Nat.not_lt.mpr h)

theorem StepMetadata.toNat_totalTokens (m : StepMetadata) (prompt completion : UInt32) :
    (m.withTokens prompt completion).totalTokens.toNat =
      min maxCount (prompt.toNat + completion.toNat) :=
  toNat_saturatingAdd prompt completion

/-! ## Answers of the interface -/

namespace Chat

variable {response : Json} {model : String} {content : Option String} {rest : List (Option String)}
  {t : Tokens}

theorem completion_of_decode (h : Response.decode response = .ok ⟨model, content :: rest, some t⟩) :
    completion response =
      (Usage.ofTokens t.prompt t.completion).map fun u => .ok ⟨content.getD "", model, u⟩ := by
  rw [completion, h]
  rfl

theorem outcome_service (client : HttpClient σ) (e : Endpoint) (request : CompletionRequest)
    (world : σ) : (service client e request world).1.outcome =
      (client.postJson e.url e.headers (body request) world).1.outcome.bind read :=
  Reply.outcome_mapOrPanic read _ _

end Chat

/-! ## Results of steps -/

namespace Completion

/-- The total in the output of a step. -/
def totalInOutput? (r : StepResult) : Option Json :=
  (r.output.get? "usage").bind (·.get? "totalTokens")

/-- The step succeeds, and both its totals are this one. -/
structure Totals (total : Nat) (r : StepResult) : Prop where
  success : r.success = true
  output : totalInOutput? r = some (.nat total)
  metadata : r.metadata.totalTokens.toNat = total

theorem totals_result {text model : String} {u : Usage} {total : Nat}
    (hsum : u.promptTokens.toNat + u.completionTokens.toNat = total)
    (htotal : u.totalTokens.toNat = total) : Totals total (result (.ok ⟨text, model, u⟩)) where
  success := rfl
  output := congrArg (some <| Json.nat ·) htotal
  metadata := by
    have hle : total ≤ maxCount := htotal ▸ Nat.le_pred_of_lt u.totalTokens.toNat_lt
    refine (StepMetadata.toNat_totalTokens _ _ _).trans ?_
    rw [hsum, Nat.min_eq_right hle]

theorem outcome_execute {defaultModel : String} {params : Json} {request : CompletionRequest}
    (h : requestOf defaultModel params = .ok request) (service : CompletionService σ)
    (context : Context) (world : σ) :
    ((handler service defaultModel).execute params context world).1.outcome =
      (service request world).1.outcome.map result := by
  rw [(handler_asks service defaultModel).asked h context world]
  exact Reply.outcome_map result _

/-- A step whose params are accepted succeeds with every answer that has a choice and tokens, unless
the tokens are too many to add up. The program panics then. -/
theorem totals {defaultModel : String} {params : Json}
    (accepted : validate defaultModel params = .ok ()) (client : HttpClient σ)
    (e : Chat.Endpoint) (context : Context) (world : σ) :
    ∃ request, requestOf defaultModel params = .ok request ∧
      ∀ {body model content rest prompt completion},
        (client.postJson e.url e.headers (Chat.body request) world).1.outcome = .ok (.ok body) →
        Chat.Response.decode body = .ok ⟨model, content :: rest, some ⟨prompt, completion⟩⟩ →
          let outcome := ((handler (Chat.service client e) defaultModel).execute params context
            world).1.outcome
          let sum := prompt.toNat + completion.toNat
          (sum < UInt32.size → ∃ r, outcome = .ok r ∧ Totals sum r) ∧
            (UInt32.size ≤ sum → outcome = .error .addOverflow) := by
  obtain ⟨request, hrequest⟩ := (handler_asks (Chat.service client e) defaultModel).reads accepted
  refine ⟨request, hrequest, fun {body model content rest prompt completion} hbody hdecode => ?_⟩
  intro outcome sum
  have houtcome : outcome = ((Usage.ofTokens prompt completion).map fun u =>
      .ok ⟨content.getD "", model, u⟩).map result := by
    have hservice := Chat.outcome_service client e request world
    rw [hbody] at hservice
    have hread := hservice.trans (Chat.completion_of_decode hdecode)
    exact (outcome_execute hrequest _ context world).trans (congrArg (·.map result) hread)
  rw [houtcome, Usage.ofTokens]
  constructor
  · intro hlt
    obtain ⟨total, hadd, htotal⟩ := checkedAdd_of_lt hlt
    rw [hadd]
    exact ⟨_, rfl, totals_result rfl htotal⟩
  · intro hle
    rw [checkedAdd_of_le hle]
    rfl

/-! ## Sums beyond the greatest count -/

/-- An answer whose tokens add up to one more than the greatest count. -/
def longAnswer : Json :=
  .object [("model", .string "m"),
    ("choices", .array [.object [("message", .object [("content", .string "Hello")])]]),
    ("usage", .object [("prompt_tokens", .nat maxCount), ("completion_tokens", .nat 1)])]

theorem decode_longAnswer : Chat.Response.decode longAnswer =
    .ok ⟨"m", [some "Hello"], some ⟨.ofNat maxCount, 1⟩⟩ := by
  decide

/-- A client that gives the answer to everyone. -/
def longClient : HttpClient Unit where
  send _ world := (.now (.ok ⟨200, longAnswer⟩), world)
  postJson _ _ _ world := (.now (.ok longAnswer), world)

def greeting : Json := .object [("prompt", .string "Hi")]

theorem totals_longAnswer :
    let context : Context := .new .null ⟨"wf", "run", "acme"⟩
    validate "m" greeting = .ok () ∧
      Chat.Response.decode longAnswer = .ok ⟨"m", [some "Hello"], some ⟨.ofNat maxCount, 1⟩⟩ ∧
      ((handler (Chat.service longClient {}) "m").execute greeting context ()).1.outcome =
        .error .addOverflow := by
  intro context
  have accepted : validate "m" greeting = .ok () := rfl
  obtain ⟨request, hrequest, htotals⟩ := totals accepted longClient {} context ()
  obtain ⟨-, hpanics⟩ := htotals rfl decode_longAnswer
  exact ⟨accepted, decode_longAnswer, hpanics (by decide)⟩

end Completion

end Stepwise
