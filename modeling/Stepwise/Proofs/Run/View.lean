import Stepwise.Run.Engine

/-!
# Views of a world

Two engines that do the same in a world and in a view of it have the same runs.
-/

namespace Stepwise

variable {σ τ : Type} {f : σ → τ}

/-- A run in a view of its world. -/
def Run.view (f : σ → τ) (r : Run σ) : Run τ :=
  ⟨f r.world, r.clock, r.execution, r.context, r.events, r.panic?⟩

/-- The second handler does in the view what the first does in the world. -/
structure Handler.ShownBy (f : σ → τ) (h : Handler σ) (shown : Handler τ) : Prop where
  validate : shown.validate = h.validate
  execute : ∀ params context world,
    shown.execute params context (f world) = (h.execute params context world).map id f

/-- The second engine does in the view what the first does in the world. -/
structure Engine.ShownBy (f : σ → τ) (engine : Engine σ) (shown : Engine τ) : Prop where
  handlers : ∀ stepType, Option.Rel (Handler.ShownBy f) (engine.registry.get? stepType)
    (shown.registry.get? stepType)
  defaultTimeoutMs : shown.defaultTimeoutMs = engine.defaultTimeoutMs
  now : ∀ world, shown.now (f world) = engine.now world
  elapsedNanos : ∀ world, shown.elapsedNanos (f world) = engine.elapsedNanos world

namespace Engine.ShownBy

variable {engine : Engine σ} {shown : Engine τ} {h : Handler σ} {h' : Handler τ} {step : Step}
  {params : Json}

theorem timeoutMs (s : engine.ShownBy f shown) (step : Step) :
    shown.timeoutMs step = engine.timeoutMs step := by
  rw [Engine.timeoutMs, s.defaultTimeoutMs, Engine.timeoutMs]

theorem stepFailure (s : engine.ShownBy f shown) (step : Step) (error : StepError) :
    shown.stepFailure step error = engine.stepFailure step error := by
  rw [Engine.stepFailure, s.timeoutMs, Engine.stepFailure]

theorem attempt (s : engine.ShownBy f shown) (sh : h.ShownBy f h') (count : Nat) (r : Run σ) :
    shown.attempt step h' params count (r.view f) =
      (engine.attempt step h params count r).map id (Run.view f) := by
  have hexecute : h'.execute params (r.view f).context (r.view f).world =
      (h.execute params r.context r.world).map id f := sh.execute params r.context r.world
  have hlook : (r.view f).clock.look = r.clock.look := rfl
  unfold Engine.attempt
  rw [s.timeoutMs, hexecute, hlook]
  obtain ⟨reply, world⟩ := h.execute params r.context r.world
  obtain ⟨stop, clock⟩ := r.clock.look
  cases stop with
  | true => rfl
  | false =>
    dsimp only [Prod.map, id]
    obtain ⟨ending, clock⟩ := clock.await (engine.timeoutMs step).toNat reply
    cases ending <;> rfl

theorem attempts (s : engine.ShownBy f shown) (sh : h.ShownBy f h') (left count : Nat)
    (r : Run σ) :
    shown.attempts step h' params left count (r.view f) =
      (engine.attempts step h params left count r).map id (Run.view f) := by
  induction left generalizing count r with
  | zero =>
    unfold Engine.attempts
    rw [s.attempt sh]
    obtain ⟨result, r'⟩ := engine.attempt step h params count r
    cases result with
    | none => rfl
    | some result =>
      dsimp only [Prod.map, id]
      split <;> rfl
  | succ left ih =>
    unfold Engine.attempts
    rw [s.attempt sh]
    obtain ⟨result, r'⟩ := engine.attempt step h params count r
    cases result with
    | none => rfl
    | some result =>
      dsimp only [Prod.map, id]
      split
      · rfl
      · split
        · rfl
        · have hrest : backOff step count result.errorOrDefault (r'.view f) =
              (backOff step count result.errorOrDefault r').map id (Run.view f) := rfl
          rw [hrest]
          obtain ⟨stop, r''⟩ := backOff step count result.errorOrDefault r'
          cases stop with
          | true => rfl
          | false => exact ih _ _

theorem failStep (s : engine.ShownBy f shown) (step : Step) (error : StepError) (r : Run σ) :
    shown.failStep step error (r.view f) = (engine.failStep step error r).view f := by
  unfold Engine.failStep
  simp only [Run.view, s.now, Run.changeRecord, Run.changeMetrics, Run.emit]

theorem completeStep (s : engine.ShownBy f shown) (step : Step) (started : Timestamp)
    (result : StepResult) (r : Run σ) :
    shown.completeStep step started result (r.view f) =
      (engine.completeStep step started result r).map id (Run.view f) := by
  unfold Engine.completeStep
  simp only [Run.view, s.now, Run.changeRecord, Run.changeMetrics, Run.emit, Prod.map, id]

theorem runStep (s : engine.ShownBy f shown) (step : Step) (r : Run σ) :
    shown.runStep step (r.view f) = (engine.runStep step r).map id (Run.view f) := by
  have found := s.handlers step.stepType
  have hemit : ∀ e, (r.view f).emit e = (r.emit e).view f := fun _ => rfl
  have hchange : ∀ (r : Run σ) g, (r.view f).changeRecord g = (r.changeRecord g).view f :=
    fun _ _ => rfl
  have hnow : shown.now (r.view f).world = engine.now r.world := s.now r.world
  have hcontext : ((r.emit (.stepStarted step.id step.stepType)).view f).context =
      (r.emit (.stepStarted step.id step.stepType)).context := rfl
  unfold Engine.runStep
  rw [hnow, hemit]
  generalize r.emit (.stepStarted step.id step.stepType) = r at hcontext ⊢
  -- Both lookups become variables, so that one case split settles the two of them.
  generalize engine.registry.get? step.stepType = found₁ at found ⊢
  generalize shown.registry.get? step.stepType = found₂ at found ⊢
  cases found with
  | none =>
    dsimp only
    rw [s.failStep]
    rfl
  | @some handler handler' sh =>
    dsimp only
    rw [hcontext, hchange, sh.validate]
    cases handler.validate (Template.resolveValue step.params r.context) with
    | error e =>
      dsimp only
      rw [s.failStep]
      rfl
    | ok =>
      dsimp only
      rw [s.attempts sh]
      obtain ⟨ending, r'⟩ := engine.attempts step handler
        (Template.resolveValue step.params r.context) ((step.retry.getD {}).attempts - 1) 1
        (r.changeRecord (·.setInput (Template.resolveValue step.params r.context)))
      cases ending with
      | completed result =>
        dsimp only [Prod.map, id]
        rw [s.completeStep]
        rfl
      | failed error =>
        dsimp only [Prod.map, id]
        rw [s.failStep]
        cases step.onFailure with
        | none =>
          dsimp only
          rw [s.stepFailure]
        | some => rfl
      | cancelled =>
        dsimp only [Prod.map, id]
        rw [hchange, show shown.now (r'.view f).world = engine.now r'.world from s.now r'.world]

theorem barrier (s : engine.ShownBy f shown) (w : Workflow) (r : Run σ) :
    shown.barrier w (r.view f) = (engine.barrier w r).map id (Run.view f) := by
  have helapsed : shown.elapsedNanos (r.view f).world = engine.elapsedNanos r.world :=
    s.elapsedNanos r.world
  unfold Engine.barrier
  rw [helapsed]
  dsimp only
  split <;> rfl

theorem openRecord (s : engine.ShownBy f shown) (step : Step) (r : Run σ) :
    shown.openRecord step (r.view f) = (engine.openRecord step r).view f := by
  unfold Engine.openRecord
  rw [show shown.now (r.view f).world = engine.now r.world from s.now r.world]
  rfl

theorem walk (s : engine.ShownBy f shown) (w : Workflow) (index : Std.HashMap String Step)
    (left : Nat) (stepId : String) (r : Run σ) :
    shown.walk w index left stepId (r.view f) =
      (engine.walk w index left stepId r).map id (Run.view f) := by
  induction left generalizing stepId r with
  | zero => rfl
  | succ left ih =>
    unfold Engine.walk
    rw [s.barrier]
    obtain ⟨bar, r⟩ := engine.barrier w r
    cases bar with
    | some => rfl
    | none =>
      cases index[stepId]? with
      | none => rfl
      | some step =>
        dsimp only [Prod.map, id]
        rw [s.openRecord, s.runStep]
        obtain ⟨outcome, r⟩ := engine.runStep step (engine.openRecord step r)
        rcases outcome with e | _ | next
        · rfl
        · rfl
        · exact ih next r

theorem finish (s : engine.ShownBy f shown) (outcome : Except WorkflowError Unit) (r : Run σ) :
    shown.finish outcome (r.view f) = (engine.finish outcome r).view f := by
  have hnow : shown.now (r.view f).world = engine.now r.world := s.now r.world
  unfold Engine.finish
  rw [hnow]
  cases outcome <;> rfl

theorem begin (s : engine.ShownBy f shown) (w : Workflow) (request : Request) (clock : Clock)
    (world : σ) (report : Report) :
    shown.begin w request clock (f world) report =
      (engine.begin w request clock world report).view f := by
  unfold Engine.begin
  rw [s.now]
  rfl

theorem execute (s : engine.ShownBy f shown) (w : Workflow) (request : Request) (clock : Clock)
    (world : σ) :
    shown.execute w request clock (f world) =
      (engine.execute w request clock world).view f := by
  unfold Engine.execute
  dsimp only
  rw [s.begin]
  split
  · exact s.finish _ _
  · rw [s.walk]
    exact s.finish _ _

end Engine.ShownBy

end Stepwise
