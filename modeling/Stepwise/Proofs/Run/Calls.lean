import Stepwise.Proofs.Named
import Stepwise.Proofs.Run.Step
import Stepwise.Proofs.Run.View

/-! # Calls of handlers -/

namespace Stepwise

variable {σ : Type}

/-- A call of a handler: what the handler was given, and what it answered. -/
structure Call where
  stepType : String
  params : Json
  context : Context
  reply : Reply StepResult

/-! ## Engines that note calls -/

/-- The handler of a step type, with a note of every call. -/
def Handler.noting (stepType : String) (h : Handler σ) : Handler (σ × List Call) where
  validate := h.validate
  execute params context world :=
    ((h.execute params context world.1).1, (h.execute params context world.1).2,
      world.2 ++ [⟨stepType, params, context, (h.execute params context world.1).1⟩])
  schema := h.schema

def Registry.noting (g : Registry σ) : Registry (σ × List Call) :=
  ⟨g.toTable.mapWithName Handler.noting⟩

/-- The engine with a note of every call. -/
def Engine.noting (engine : Engine σ) : Engine (σ × List Call) where
  registry := engine.registry.noting
  defaultTimeoutMs := engine.defaultTimeoutMs
  now world := engine.now world.1
  elapsedNanos world := engine.elapsedNanos world.1

theorem Registry.get?_noting (g : Registry σ) (stepType : String) :
    g.noting.get? stepType = (g.get? stepType).map (Handler.noting stepType) :=
  Table.get?_mapWithName Handler.noting g.toTable stepType

theorem Handler.shownBy_noting (stepType : String) (h : Handler σ) :
    (h.noting stepType).ShownBy Prod.fst h :=
  ⟨rfl, fun _ _ _ => rfl⟩

theorem Engine.shownBy_noting (engine : Engine σ) : engine.noting.ShownBy Prod.fst engine where
  handlers stepType := by
    rw [noting, Registry.get?_noting]
    cases engine.registry.get? stepType with
    | none => exact .none
    | some h => exact .some (h.shownBy_noting stepType)
  defaultTimeoutMs := rfl
  now _ := rfl
  elapsedNanos _ := rfl

/-! ## The calls of a step -/

/-- What a call was given. -/
structure Call.Gives (call : Call) (stepType : String) (params : Json) (context : Context) :
    Prop where
  stepType : call.stepType = stepType
  params : call.params = params
  context : call.context = context

/-- The last call came to nothing: it answered with the error, or it timed out. -/
def Spoiled (calls : List Call) (error : StepError) : Prop :=
  ∃ call, calls.getLast? = some call ∧
    (error = call.reply.value.errorOrDefault ∨ ∃ count ms, error = timeoutError count ms)

/-- The world notes calls after those it has. -/
structure Notes (world : σ × List Call) (stepType : String) (params : Json) (context : Context)
    (calls : List Call) (world' : σ × List Call) : Prop where
  noted : world'.2 = world.2 ++ calls
  gives : ∀ call ∈ calls, call.Gives stepType params context

namespace Notes

variable {world world' world'' : σ × List Call} {stepType : String} {params : Json}
  {context : Context} {calls calls' : List Call}

theorem none (world : σ × List Call) (stepType : String) (params : Json) (context : Context) :
    Notes world stepType params context [] world :=
  ⟨(List.append_nil _).symm, nofun⟩

theorem append (h : Notes world stepType params context calls world')
    (h' : Notes world' stepType params context calls' world'') :
    Notes world stepType params context (calls ++ calls') world'' where
  noted := by rw [h'.noted, h.noted, List.append_assoc]
  gives call hcall := (List.mem_append.mp hcall).elim (h.gives call) (h'.gives call)

theorem execute (h : Handler σ) (stepType : String) (params : Json) (context : Context)
    (world : σ × List Call) :
    Notes world stepType params context
      [⟨stepType, params, context, (h.execute params context world.1).1⟩]
      ((h.noting stepType).execute params context world).2 where
  noted := rfl
  gives call hcall := by
    rw [List.mem_singleton.mp hcall]
    exact ⟨rfl, rfl, rfl⟩

end Notes

theorem Spoiled.append {calls : List Call} {error : StepError} (h : Spoiled calls error)
    (before : List Call) : Spoiled (before ++ calls) error := by
  obtain ⟨call, hlast, hcall⟩ := h
  exact ⟨call, by rw [List.getLast?_append, hlast, Option.some_or], hcall⟩

namespace Engine

variable {engine : Engine σ} {step : Step} {params : Json}

variable {handler : Handler σ} {r r' : Run (σ × List Call)} {stepType : String}

theorem attempt_notes {count : Nat} {result : Option StepResult}
    (h : engine.noting.attempt step (handler.noting stepType) params count r = (result, r')) :
    ∃ calls, Notes r.world stepType params r.context calls r'.world ∧
      ∀ answer, result = some answer → answer.success = false →
        Spoiled calls answer.errorOrDefault := by
  rcases attempt_world h with ⟨rfl, hworld⟩ | ⟨hworld, hanswer⟩
  · rw [hworld]
    exact ⟨[], .none .., nofun⟩
  · rw [hworld]
    refine ⟨_, .execute handler .., fun answer ha hs => ⟨_, rfl, ?_⟩⟩
    rcases hanswer answer ha with rfl | ⟨ms, rfl⟩
    · exact Or.inl rfl
    · exact Or.inr ⟨count, ms, rfl⟩

theorem Tries.notes {left count : Nat} {ending : StepEnd}
    (h : Tries engine.noting step (handler.noting stepType) params left count r ending r') :
    ∃ calls, Notes r.world stepType params r.context calls r'.world ∧
      ∀ error, ending = .failed error → Spoiled calls error := by
  induction h with
  | cancelled made =>
    obtain ⟨calls, hn, -⟩ := attempt_notes made
    exact ⟨calls, hn, nofun⟩
  | completed made =>
    obtain ⟨calls, hn, -⟩ := attempt_notes made
    exact ⟨calls, hn, nofun⟩
  | failed made failure =>
    obtain ⟨calls, hn, hs⟩ := attempt_notes made
    refine ⟨calls, hn, fun error he => ?_⟩
    rw [← StepEnd.failed.inj he]
    exact hs _ rfl failure
  | interrupted made _ _ rest =>
    obtain ⟨calls, hn, -⟩ := attempt_notes made
    rw [backOff_world rest]
    exact ⟨calls, hn, nofun⟩
  | again made _ _ rest _ ih =>
    obtain ⟨calls, hn, -⟩ := attempt_notes made
    obtain ⟨calls', hn', hs⟩ := ih
    rw [backOff_world rest, backOff_context rest, attempt_context made] at hn'
    exact ⟨calls ++ calls', hn.append hn', fun error he => (hs error he).append calls⟩

theorem Attempted.notes {ending : StepEnd} (h : Attempted engine.noting step r ending r') :
    ∃ calls, Notes r.world step.stepType (valuesOf step r) r.context calls r'.world ∧
      ∀ error, ending = .failed error → Spoiled calls error := by
  obtain ⟨found, hfound, -, tries⟩ := h
  rw [noting, Registry.get?_noting] at hfound
  obtain ⟨handler, -, rfl⟩ := Option.map_eq_some_iff.mp hfound
  exact tries.notes

/-! ## The count of the calls -/

variable {before : List StepRecord} {record : StepRecord}

theorem attempt_counted {count : Nat} {result : StepResult}
    (h : engine.noting.attempt step (handler.noting stepType) params count r = (some result, r'))
    (ho : r.execution.Open before record) :
    r'.world.2.length = r.world.2.length + 1 ∧
      r'.execution.Open before { record with retryCount := UInt32.ofNat (count - 1) } := by
  obtain ⟨n, hn, hcount⟩ := attempt_execution h ho
  refine ⟨?_, ?_⟩
  · rcases attempt_world h with ⟨hnone, -⟩ | ⟨hworld, -⟩
    · cases hnone
    · rw [hworld]
      exact List.length_append
  · rw [hn, ← hcount rfl]
    exact ho.withLast ho.running

theorem Tries.counted {left count : Nat} {ending : StepEnd}
    (h : Tries engine.noting step (handler.noting stepType) params left count r ending r')
    (settled : ending ≠ .cancelled) (ho : r.execution.Open before record) :
    ∃ n ≤ left, r'.world.2.length = r.world.2.length + (n + 1) ∧
      ∃ opened, r'.execution.Open before opened ∧
        opened.retryCount = UInt32.ofNat (count + n - 1) := by
  -- By induction over the attempts: those that follow count from one more, and make one call less.
  induction h generalizing record with
  | cancelled | interrupted => exact absurd rfl settled
  | completed made | failed made =>
    obtain ⟨hworld, ho'⟩ := attempt_counted made ho
    exact ⟨0, Nat.zero_le _, hworld, _, ho', rfl⟩
  | again made _ _ rest _ ih =>
    obtain ⟨hworld, ho'⟩ := attempt_counted made ho
    obtain ⟨n, hn, hworld', opened, hopened, hcount⟩ := ih settled (backOff_opens rest ho')
    refine ⟨n + 1, Nat.succ_le_succ hn, ?_, opened, hopened, ?_⟩
    · rw [hworld', backOff_world rest, hworld]
      omega
    · rw [hcount, Nat.add_right_comm, Nat.add_assoc]

theorem Attempted.counted {ending : StepEnd} (h : Attempted engine.noting step r ending r')
    (settled : ending ≠ .cancelled) (ho : r.execution.Open before record) {opened : StepRecord}
    (ho' : r'.execution.Open before opened) :
    r'.world.2.length = r.world.2.length + (opened.retryCount.toNat + 1) := by
  obtain ⟨found, hfound, -, tries⟩ := h
  rw [noting, Registry.get?_noting] at hfound
  obtain ⟨handler, -, rfl⟩ := Option.map_eq_some_iff.mp hfound
  obtain ⟨n, hn, hworld, opened', hopened', hcount⟩ :=
    tries.counted settled (prepared_open step ho)
  obtain rfl : opened = opened' := by
    have hsteps := ho'.steps.symm.trans hopened'.steps
    exact (List.cons.inj (List.append_cancel_left hsteps)).1
  have hlt : n < 2 ^ 32 := by
    have := (step.retry.getD {}).maxAttempts.toNat_lt
    unfold RetryPolicy.attempts at hn
    omega
  rw [hworld, hcount, Nat.add_comm 1 n, Nat.add_sub_cancel, UInt32.toNat_ofNat_of_lt' hlt]
  rfl

end Engine

end Stepwise
