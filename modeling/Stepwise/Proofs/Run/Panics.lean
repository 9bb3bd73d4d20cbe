import Stepwise.Handler.Builtin
import Stepwise.Proofs.Handler.Gate
import Stepwise.Proofs.Handler.Registry
import Stepwise.Proofs.Run.Actions
import Stepwise.Proofs.Run.Cancellation

/-! # Panics of handlers -/

namespace Stepwise

open Relation

/-! ## Answers in time -/

namespace Clock

variable {α : Type} {c : Clock} {timeoutMs : Nat} {reply : Reply α}

/-- The token does not fire during the wait for the answer, and the wait is not too long. -/
def Hears (c : Clock) (timeoutMs : Nat) (reply : Reply α) : Prop :=
  ¬ (Suspends timeoutMs reply ∧ (c.during reply).FiresWithin (min reply.waitMs timeoutMs)) ∧
    reply.waitMs ≤ timeoutMs

theorem hears_iff :
    c.Hears timeoutMs reply ↔ ∃ value c', c.await timeoutMs reply = (.answered value, c') := by
  unfold Hears Suspends await
  rw [← wait_fst, ← during]
  generalize c.during reply = c
  dsimp only
  by_cases hatonce : reply.waitMs = 0
  · simp [hatonce]
  by_cases hzero : timeoutMs = 0
  · simp [hatonce, hzero]
  rw [if_neg hatonce, if_neg hzero]
  cases hwait : c.wait (min reply.waitMs timeoutMs) with
  | mk fired c' =>
    cases fired with
    | true => simp [hatonce, hzero]
    | false => by_cases hle : reply.waitMs ≤ timeoutMs <;> simp [hle]

end Clock

namespace Engine

variable {σ : Type} {engine : Engine σ} {w : Workflow} {task : Task σ} {left count : Nat}
  {r r' last : Run σ} {p q : Point σ} {x : Panic} {outcome : Except WorkflowError Unit}

/-- The attempt is made, and its handler panics while the run waits for it. -/
structure Panics (engine : Engine σ) (task : Task σ) (r : Run σ) (x : Panic) : Prop where
  made : ¬ r.clock.Fired
  heard : r.clock.look.2.Hears (engine.timeoutMs task.step).toNat (task.reply r)
  panics : (task.reply r).panic? = some x

/-- A handler panics as the run goes on from the point. -/
def PanicsAt (engine : Engine σ) : Point σ → Panic → Prop
  | .boundary _ _ _, _ => False
  | .attempt task _ _ r, x => engine.Panics task r x
  | .rest _ _ _ _ _, _ => False

/-! ## One attempt -/

theorem panics_of_answered {clock clock' : Clock} {result : StepResult}
    (look : r.clock.look = (false, clock))
    (answered : clock.await (engine.timeoutMs task.step).toNat (task.reply r) =
      (.answered result, clock')) :
    engine.Panics task r x ↔ (task.reply r).panic? = some x := by
  refine ⟨Panics.panics, fun h => ⟨Clock.not_fired_of_look look, ?_, h⟩⟩
  rw [look]
  exact Clock.hears_iff.mpr ⟨_, _, answered⟩

theorem not_panics_of_unanswered {clock clock' : Clock} {ending : Attempt StepResult}
    (look : r.clock.look = (false, clock))
    (ended : clock.await (engine.timeoutMs task.step).toNat (task.reply r) = (ending, clock'))
    (unanswered : ∀ result, ending ≠ .answered result) : ¬ engine.Panics task r x := by
  intro h
  have heard := h.heard
  rw [look] at heard
  obtain ⟨result, _, answered⟩ := Clock.hears_iff.mp heard
  exact unanswered result (Prod.mk.inj (ended.symm.trans answered)).1

theorem attempt_panic_iff :
    (engine.attempt task.step task.handler task.params count r).2.panic? = some x ↔
      r.panic? = some x ∨ r.panic? = none ∧ engine.Panics task r x := by
  unfold attempt
  split
  · rename_i look
    have hfired : r.clock.Fired := Clock.look_fst.mp (congrArg Prod.fst look)
    exact ⟨.inl, fun h => h.resolve_right fun h => h.2.made hfired⟩
  · rename_i look
    dsimp only
    split
    · rename_i cancelled
      have hnot := not_panics_of_unanswered (x := x) look cancelled nofun
      exact ⟨.inl, fun h => h.resolve_right fun h => hnot h.2⟩
    · rename_i answered
      rw [panics_of_answered look answered]
      change (r.panic? <|> (task.reply r).panic?) = some x ↔ _
      cases r.panic? <;> simp
    · rename_i timedOut
      have hnot := not_panics_of_unanswered (x := x) look timedOut nofun
      exact ⟨.inl, fun h => h.resolve_right fun h => hnot h.2⟩

/-! ## From one point to the next -/

@[simp] theorem proceed_run (left : Nat) (ended : Except WorkflowError (Option String))
    (r : Run σ) : (proceed left ended r).run = r := by
  match ended with
  | .error _ => rfl
  | .ok none => rfl
  | .ok (some _) => rfl

theorem settle_panic? (engine : Engine σ) (task : Task σ) (ending : StepEnd) (r : Run σ) :
    (engine.settle task ending r).run.panic? = r.panic? := by
  unfold settle
  split
  · rw [proceed_run]
    rfl
  · split <;> rw [proceed_run] <;> rfl
  · rw [proceed_run]
    rfl

theorem enter_panic? (engine : Engine σ) (left : Nat) (step : Step) (r : Run σ) :
    (engine.enter left step r).run.panic? = r.panic? := by
  unfold enter
  split
  · rw [proceed_run]
    rfl
  · split
    · rw [proceed_run]
      rfl
    · rfl

theorem barrier_panic? (engine : Engine σ) (w : Workflow) (r : Run σ) :
    (engine.barrier w r).2.panic? = r.panic? := by
  unfold barrier
  dsimp only
  split <;> rfl

theorem next_panic_iff : (engine.next w p).run.panic? = some x ↔
    p.run.panic? = some x ∨ p.run.panic? = none ∧ engine.PanicsAt p x := by
  cases p with
  | boundary left id r =>
    suffices h : (engine.next w (.boundary left id r)).run.panic? = r.panic? by
      simp [h, PanicsAt, Point.run]
    cases left with
    | zero => rfl
    | succ left =>
      cases hbar : (engine.barrier w r).1 with
      | some e =>
        rw [next_of_barred hbar]
        exact barrier_panic? engine w r
      | none =>
        rw [next_of_clear hbar]
        split
        · exact barrier_panic? engine w r
        · rw [enter_panic?]
          exact barrier_panic? engine w r
  | attempt task left count r =>
    suffices h : (engine.next w (.attempt task left count r)).run.panic? =
        (engine.attempt task.step task.handler task.params count r).2.panic? by
      rw [h]
      exact attempt_panic_iff
    rw [next]
    split
    · rename_i made
      rw [settle_panic?, made]
    · rename_i made
      rw [made]
      split
      · exact settle_panic? ..
      · split
        · exact settle_panic? ..
        · rfl
  | rest task left count error r =>
    suffices h : (engine.next w (.rest task left count error r)).run.panic? = r.panic? by
      simp [h, PanicsAt, Point.run]
    rw [next]
    split
    · rename_i rest
      rw [settle_panic?, ← (Prod.mk.inj rest).2]
      rfl
    · rename_i rest
      rw [← (Prod.mk.inj rest).2]
      rfl

/-! ## The first panic of a run -/

theorem Leads.panic (h : engine.Leads w p q) (hp : p.run.panic? = none)
    (hq : q.run.panic? = some x) :
    ∃ p', engine.Leads w p p' ∧ p'.run.panic? = none ∧ engine.PanicsAt p' x := by
  induction h with
  | refl => exact nomatch hp.symm.trans hq
  | tail hleads hnext ih =>
    have hpanic := next_panic_iff.mp ((congrArg (·.run.panic?) hnext).trans hq)
    rcases hpanic with hearlier | ⟨hnone, hpanics⟩
    · exact ih hearlier
    · exact ⟨_, hleads, hnone, hpanics⟩

theorem Yields.panic {g : Progress σ} (h : Yields engine w g outcome last)
    (hg : g.run.panic? = some x) : last.panic? = some x := by
  induction h with
  | ended => exact hg
  | reached _ ih => exact ih (next_panic_iff.mpr (.inl hg))

theorem finish_panic? (engine : Engine σ) (outcome : Except WorkflowError Unit) (r : Run σ) :
    (engine.finish outcome r).panic? = r.panic? := by
  cases outcome <;> rfl

theorem outcome_error_iff {r : Run σ} : r.outcome = .error x ↔ r.panic? = some x := by
  unfold Run.outcome
  split <;> simp [*]

variable {request : Request} {clock : Clock} {world : σ}

theorem execute_panic?_of_invalid (engine : Engine σ) (request : Request) (clock : Clock)
    (world : σ) (hinvalid : w.validate.valid = false) :
    (engine.execute w request clock world).panic? = none := by
  have hexecutes := executes_execute engine w request clock world
  generalize engine.execute w request clock world = final at hexecutes
  cases hexecutes with
  | refused => exact finish_panic? ..
  | walked valid => exact nomatch valid.symm.trans hinvalid

/-- A run panics just when a handler does that it waits for, and with the first such panic. -/
theorem execute_panics_iff : (engine.execute w request clock world).outcome = .error x ↔
    ∃ p, engine.Reaches w request clock world p ∧ p.run.panic? = none ∧ engine.PanicsAt p x := by
  rw [outcome_error_iff]
  cases hvalid : w.validate.valid with
  | false =>
    rw [execute_panic?_of_invalid engine request clock world hvalid]
    refine ⟨nofun, fun ⟨_, hreaches, _⟩ => ?_⟩
    exact nomatch hreaches.1.symm.trans hvalid
  | true =>
    obtain ⟨outcome, last, hyields, heq⟩ := yields_execute engine w request clock world hvalid
    rw [heq, finish_panic?]
    constructor
    · intro hlast
      obtain ⟨q, hleads, hend⟩ := hyields.exists_last rfl
      have hq := next_panic_iff.mp ((congrArg (·.run.panic?) hend).trans hlast)
      rcases hq with hearlier | ⟨hnone, hpanics⟩
      · obtain ⟨p, hp, hnone, hpanics⟩ := hleads.panic rfl hearlier
        exact ⟨p, ⟨hvalid, hp⟩, hnone, hpanics⟩
      · exact ⟨q, ⟨hvalid, hleads⟩, hnone, hpanics⟩
    · rintro ⟨p, hreaches, hnone, hpanics⟩
      cases hreaches.2.yields hyields with
      | reached more => exact more.panic (next_panic_iff.mpr (.inr ⟨hnone, hpanics⟩))

end Engine

/-! ## Handlers that do not panic -/

section Calm

variable {σ α β ρ : Type}

/-- No answer of the service is a panic. -/
def Calm (ask : α → σ → Reply β × σ) : Prop :=
  ∀ request world, (ask request world).1.panic? = none

def Handler.Calm (h : Handler σ) : Prop :=
  ∀ params context world, (h.execute params context world).1.panic? = none

theorem Handler.Asks.calm {h : Handler σ} {read : Json → Except StepError ρ}
    {ask : α → σ → Reply β × σ} {request : ρ → Context → α} {result : ρ → β → StepResult}
    (hasks : h.Asks read ask request result) (hcalm : Stepwise.Calm ask) : h.Calm := by
  intro params context world
  cases hread : read params with
  | error e =>
    rw [hasks.refused hread]
    rfl
  | ok q =>
    rw [hasks.asked hread]
    exact hcalm (request q context) world

theorem Conditional.calm : (handler : Handler σ).Calm := fun _ _ _ => rfl

/-- No answer to a built-in handler is a panic. -/
structure Services.Calm (services : Services σ) : Prop where
  search : ∀ service, services.search = some service → Stepwise.Calm service
  completion : ∀ service model, services.completion = some (service, model) →
    Stepwise.Calm service
  http : Stepwise.Calm services.http.send

namespace Registry

variable {g : Registry σ}

def Calm (g : Registry σ) : Prop :=
  ∀ stepType handler, g.get? stepType = some handler → handler.Calm

theorem Calm.register (hg : g.Calm) {h : Handler σ} (hcalm : h.Calm) (stepType : String) :
    (g.register stepType h).Calm := by
  intro name handler hfound
  rw [get?_register] at hfound
  split at hfound
  · rwa [← Option.some.inj hfound]
  · exact hg name handler hfound

theorem Calm.registerBuiltins {services : Services σ} (hg : g.Calm) (hs : services.Calm) :
    (g.registerBuiltins services).Calm := by
  unfold Registry.registerBuiltins
  dsimp only
  have hretrieval (service : SearchService σ) (h : services.search = some service) :
      (g.register BuiltinType.retrieval.name (Retrieval.handler service)).Calm :=
    hg.register ((Retrieval.handler_asks service).calm (hs.search service h)) _
  refine .register (.register ?_ Conditional.calm _) ((Http.handler_asks _).calm hs.http) _
  split
  · rename_i service model hcompletion
    refine .register ?_ ((Completion.handler_asks service model).calm
      (hs.completion service model hcompletion)) _
    split
    · rename_i service hsearch
      exact hretrieval service hsearch
    · exact hg
  · split
    · rename_i service hsearch
      exact hretrieval service hsearch
    · exact hg

end Registry

namespace Engine

variable {engine : Engine σ} {w : Workflow} {request : Request} {clock : Clock} {world : σ}
  {p : Point σ} {x : Panic}

theorem Reaches.not_panicsAt (h : engine.Reaches w request clock world p)
    (hcalm : engine.registry.Calm) : ¬ engine.PanicsAt p x := by
  obtain ⟨-, hplaced⟩ := h.2.does (p := engine.start w request clock world) trivial rfl
  cases p with
  | boundary => exact id
  | rest => exact id
  | attempt task left count r =>
    intro hpanics
    have hnone : (task.reply r).panic? = none := hcalm _ _ hplaced.1 _ _ _
    exact nomatch hnone.symm.trans hpanics.panics

/-- Nothing panics where no handler does. -/
theorem execute_calm (hcalm : engine.registry.Calm) (w : Workflow) (request : Request)
    (clock : Clock) (world : σ) :
    (engine.execute w request clock world).outcome =
      .ok (engine.execute w request clock world) := by
  have hnone : (engine.execute w request clock world).panic? = none := by
    refine Option.eq_none_iff_forall_ne_some.mpr fun x hx => ?_
    obtain ⟨p, hreaches, -, hpanics⟩ := execute_panics_iff.mp (outcome_error_iff.mpr hx)
    exact hreaches.not_panicsAt hcalm hpanics
  rw [Run.outcome, hnone]

end Engine

end Calm

end Stepwise
