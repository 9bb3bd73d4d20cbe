import Stepwise.Handler.Builtin
import Stepwise.Proofs.Handler.Registry
import Stepwise.Proofs.Retrieval.Tenancy
import Stepwise.Proofs.Run.Walk

/-! # Tenants are kept apart -/

namespace Stepwise

/-! ## Agreement -/

section

variable {σ : Type}

/-- Both handlers do the same in the runs of a tenant. -/
structure Handler.AgreeFor (tenantId : String) (h₁ h₂ : Handler σ) : Prop where
  validate : h₁.validate = h₂.validate
  execute : ∀ params (context : Context) world, context.scope.tenantId = tenantId →
    h₁.execute params context world = h₂.execute params context world

/-- Both registries have the same step types, with handlers that agree. -/
def Registry.AgreeFor (tenantId : String) (g₁ g₂ : Registry σ) : Prop :=
  ∀ stepType, Option.Rel (Handler.AgreeFor tenantId) (g₁.get? stepType) (g₂.get? stepType)

/-- The engine with another registry. -/
def Engine.over (engine : Engine σ) (g : Registry σ) : Engine σ := { engine with registry := g }

end

namespace Engine

variable {σ : Type} {engine : Engine σ} {g₁ g₂ : Registry σ} {h₁ h₂ : Handler σ} {step : Step}
  {params : Json} {tenantId : String}

@[simp] theorem over_registry (engine : Engine σ) (g : Registry σ) :
    (engine.over g).registry = g := rfl

theorem barrier_over (g : Registry σ) (w : Workflow) (r : Run σ) :
    (engine.over g).barrier w r = engine.barrier w r := rfl

theorem openRecord_over (g : Registry σ) (r : Run σ) :
    (engine.over g).openRecord step r = engine.openRecord step r := rfl

theorem begin_over (g : Registry σ) (w : Workflow) (request : Request) (clock : Clock) (world : σ)
    (report : Report) :
    (engine.over g).begin w request clock world report =
      engine.begin w request clock world report := rfl

theorem attempt_congr (agree : h₁.AgreeFor tenantId h₂) (count : Nat) {r : Run σ}
    (ht : r.context.scope.tenantId = tenantId) :
    (engine.over g₁).attempt step h₁ params count r =
      (engine.over g₂).attempt step h₂ params count r := by
  unfold attempt
  rw [agree.execute params r.context r.world ht]
  rfl

theorem attempts_congr (agree : h₁.AgreeFor tenantId h₂) (left count : Nat) {r : Run σ}
    (ht : r.context.scope.tenantId = tenantId) :
    (engine.over g₁).attempts step h₁ params left count r =
      (engine.over g₂).attempts step h₂ params left count r := by
  induction left generalizing count r with
  | zero =>
    unfold attempts
    rw [attempt_congr agree count ht]
  | succ left ih =>
    unfold attempts
    rw [attempt_congr agree count ht]
    cases made : (engine.over g₂).attempt step h₂ params count r with
    | mk result r' =>
      have hr' := attempt_context made
      cases result with
      | none => rfl
      | some result =>
        dsimp only
        cases rest : backOff step count result.errorOrDefault r' with
        | mk stop r'' =>
          have hr'' := (backOff_context rest).trans hr'
          have hnext := ih (count + 1) (r := r'') (by rw [hr'', ht])
          cases stop with
          | true => rfl
          | false => simp only [hnext]

theorem runStep_congr (agree : g₁.AgreeFor tenantId g₂) {r : Run σ}
    (ht : r.context.scope.tenantId = tenantId) :
    (engine.over g₁).runStep step r = (engine.over g₂).runStep step r := by
  have found := agree step.stepType
  unfold runStep
  simp only [over_registry]
  generalize g₁.get? step.stepType = found₁ at found ⊢
  generalize g₂.get? step.stepType = found₂ at found ⊢
  cases found with
  | none => rfl
  | some agree =>
    dsimp only
    rw [agree.validate, attempts_congr agree _ _ (by exact ht)]
    rfl

theorem walk_congr (agree : g₁.AgreeFor tenantId g₂) (w : Workflow)
    (index : Std.HashMap String Step) (left : Nat) (id : String) {r : Run σ}
    (ht : r.context.scope.tenantId = tenantId) :
    (engine.over g₁).walk w index left id r = (engine.over g₂).walk w index left id r := by
  induction left generalizing id r with
  | zero => rfl
  | succ left ih =>
    unfold walk
    rw [barrier_over g₁, barrier_over g₂]
    have hcontext := barrier_context engine w r
    cases hbar : engine.barrier w r with
    | mk bar r' =>
      rw [hbar] at hcontext
      cases bar with
      | some => rfl
      | none =>
        dsimp only
        cases index[id]? with
        | none => rfl
        | some step =>
          have hopen : (engine.openRecord step r').context.scope.tenantId = tenantId :=
            (congrArg (·.scope.tenantId) hcontext).trans ht
          dsimp only
          rw [openRecord_over g₁, openRecord_over g₂, runStep_congr agree hopen]
          have hscope := (ends_runStep (engine.over g₂) step (engine.openRecord step r')).scope
          cases hrun : (engine.over g₂).runStep step (engine.openRecord step r') with
          | mk outcome r'' =>
            rw [hrun] at hscope
            rcases outcome with e | _ | next
            · rfl
            · rfl
            · exact ih next ((congrArg Scope.tenantId hscope).trans hopen)

theorem execute_congr (w : Workflow) (request : Request) (clock : Clock) (world : σ)
    (agree : g₁.AgreeFor request.tenantId g₂) :
    (engine.over g₁).execute w request clock world =
      (engine.over g₂).execute w request clock world := by
  unfold execute
  dsimp only
  split
  · rfl
  · rw [begin_over g₁, begin_over g₂, walk_congr agree w _ _ _ rfl]
    rfl

end Engine

/-! ## Stores -/

/-- What two registries have for a step type: nothing, handlers that behave the same, or the
retrieval handlers over two stores. -/
inductive Counterparts {σ : Type} (s₁ s₂ : Store) :
    Option (Handler σ) → Option (Handler σ) → Prop where
  | missing : Counterparts s₁ s₂ none none
  | alike {h₁ h₂ : Handler σ} (validate : h₁.validate = h₂.validate)
      (execute : h₁.execute = h₂.execute) : Counterparts s₁ s₂ (some h₁) (some h₂)
  | retrieval : Counterparts s₁ s₂ (some (Retrieval.handler s₁.service))
      (some (Retrieval.handler s₂.service))

namespace Counterparts

variable {σ : Type} {s₁ s₂ : Store} {found₁ found₂ : Option (Handler σ)}

theorem agreeFor (h : Counterparts s₁ s₂ found₁ found₂) {tenantId : String}
    (same : s₁.ofTenant tenantId = s₂.ofTenant tenantId) :
    Option.Rel (Handler.AgreeFor tenantId) found₁ found₂ := by
  cases h with
  | missing => exact .none
  | alike validate execute => exact .some ⟨validate, fun _ _ _ _ => by rw [execute]⟩
  | retrieval =>
    refine .some ⟨rfl, fun params context world ht => ?_⟩
    subst ht
    exact Retrieval.execute_congr same params world

theorem refl (found : Option (Handler σ)) : Counterparts s₁ s₂ found found := by
  cases found with
  | none => exact .missing
  | some h => exact .alike rfl rfl

theorem register (g : Registry σ) (name stepType : String) :
    Counterparts s₁ s₂ ((g.register name (Retrieval.handler s₁.service)).get? stepType)
      ((g.register name (Retrieval.handler s₂.service)).get? stepType) := by
  rw [Registry.get?_register, Registry.get?_register]
  split
  · exact .retrieval
  · exact refl _

end Counterparts

namespace Engine

variable {σ : Type}

/-- Runs of a tenant over two stores with the same documents of the tenant are the same, with their
records and their events. -/
theorem execute_isolated (engine : Engine σ) (g₁ g₂ : Registry σ) (s₁ s₂ : Store)
    (counterparts : ∀ stepType, Counterparts s₁ s₂ (g₁.get? stepType) (g₂.get? stepType))
    (w : Workflow) (request : Request) (clock : Clock) (world : σ)
    (same : s₁.ofTenant request.tenantId = s₂.ofTenant request.tenantId) :
    (engine.over g₁).execute w request clock world =
      (engine.over g₂).execute w request clock world :=
  execute_congr w request clock world fun stepType => (counterparts stepType).agreeFor same

theorem execute_ofTenant (engine : Engine σ) (g : Registry σ) (name : String) (s : Store)
    (w : Workflow) (request : Request) (clock : Clock) (world : σ) :
    (engine.over (g.register name (Retrieval.handler s.service))).execute w request clock world =
      (engine.over (g.register name
        (Retrieval.handler (s.ofTenant request.tenantId).service))).execute w request clock world :=
  execute_congr w request clock world fun stepType =>
    (Counterparts.register g name stepType).agreeFor (s.ofTenant_ofTenant _).symm

/-! ## A search over two stores -/

def searching : Workflow where
  id := ⟨"searching", by decide⟩
  entryStepId := "search"
  steps := [
    { id := "search", stepType := BuiltinType.retrieval.name,
      params := .object [("collectionId", .string "docs"), ("query", .string "handbook")] }]

/-- The handbook for all tenants, with a note of another tenant after it. -/
def notedStore : Store :=
  [{ collectionId := "docs", text := "The handbook" },
    { collectionId := "docs", tenantId := some "globex", text := "A note on the handbook" }]

/-- The handbook for all tenants, with a draft of another tenant before it. -/
def draftedStore : Store :=
  [{ collectionId := "docs", tenantId := some "initech", text := "A draft of the handbook" },
    { collectionId := "docs", text := "The handbook" }]

def finding (s : Store) : Registry Unit :=
  Registry.empty.register BuiltinType.retrieval.name (Retrieval.handler s.service)

def still : Engine Unit where
  registry := .empty
  now _ := Timestamp.ofUnixNanos 0
  elapsedNanos _ := 0

theorem execute_isolated_searching :
    (∀ stepType, Counterparts notedStore draftedStore ((finding notedStore).get? stepType)
      ((finding draftedStore).get? stepType)) ∧
    notedStore.ofTenant "acme" = draftedStore.ofTenant "acme" ∧
    (still.over (finding notedStore)).execute searching ⟨"run", "acme", .null⟩ {} () =
      (still.over (finding draftedStore)).execute searching ⟨"run", "acme", .null⟩ {} () := by
  have counterparts : ∀ stepType, Counterparts notedStore draftedStore
      ((finding notedStore).get? stepType) ((finding draftedStore).get? stepType) :=
    fun stepType => .register .empty _ stepType
  have same : notedStore.ofTenant "acme" = draftedStore.ofTenant "acme" := by decide
  exact ⟨counterparts, same, execute_isolated still (finding notedStore) (finding draftedStore)
    notedStore draftedStore counterparts searching ⟨"run", "acme", .null⟩ {} () same⟩

end Engine

end Stepwise
