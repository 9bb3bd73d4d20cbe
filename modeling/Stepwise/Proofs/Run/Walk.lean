import Stepwise.Proofs.Run.Step

/-! # From step to step -/

namespace Stepwise

/-! ## The index of a workflow -/

theorem Workflow.getElem?_foldl_insertIfNew (steps : List Step) (m : Std.HashMap String Step)
    (id : String) :
    (steps.foldl (fun m s => m.insertIfNew s.id s) m)[id]? =
      m[id]?.or (steps.find? (·.id == id)) := by
  induction steps generalizing m with
  | nil => simp
  | cons s rest ih =>
    rw [List.foldl_cons, ih, Std.HashMap.getElem?_insertIfNew, List.find?_cons]
    cases hid : s.id == id with
    | false => simp
    | true =>
      obtain rfl : s.id = id := beq_iff_eq.mp hid
      by_cases hmem : s.id ∈ m
      · simp [hmem]
      · simp [hmem]

theorem Workflow.getElem?_index (w : Workflow) (id : String) : w.index[id]? = w.step? id := by
  rw [index, getElem?_foldl_insertIfNew, Std.HashMap.getElem?_empty, Option.none_or, step?]

namespace Engine

variable {σ : Type} {engine : Engine σ} {w : Workflow} {step : Step} {r r' : Run σ}

/-! ## Between two steps -/

theorem barrier_context (engine : Engine σ) (w : Workflow) (r : Run σ) :
    (engine.barrier w r).2.context = r.context := by
  unfold barrier
  dsimp only
  split <;> rfl

theorem barrier_execution (engine : Engine σ) (w : Workflow) (r : Run σ) :
    (engine.barrier w r).2.execution = r.execution := by
  unfold barrier
  dsimp only
  split <;> rfl

theorem barrier_world (engine : Engine σ) (w : Workflow) (r : Run σ) :
    (engine.barrier w r).2.world = r.world := by
  unfold barrier
  dsimp only
  split <;> rfl

theorem barrier_error {e : WorkflowError} (h : (engine.barrier w r).1 = some e) :
    e = .cancelled ∨ ∃ limit, e = .timeout limit := by
  unfold barrier at h
  dsimp only at h
  split at h
  · exact Or.inr ⟨_, (Option.some.inj h).symm⟩
  · dsimp only at h
    split at h
    · exact Or.inl (Option.some.inj h).symm
    · cases h

/-! ## The way through a workflow -/

theorem begin_steps (engine : Engine σ) (w : Workflow) (request : Request) (clock : Clock)
    (world : σ) (report : Report) :
    (engine.begin w request clock world report).execution.steps = [] := rfl

/-- The ways in which a run can go on with an id when at most `left` more steps may follow. -/
inductive Walks (engine : Engine σ) (w : Workflow) :
    (left : Nat) → String → Run σ → Except WorkflowError Unit → Run σ → Prop where
  | limit {id : String} {r : Run σ} :
      Walks engine w 0 id r (.error (.stepLimitExceeded w.maxSteps)) r
  | barred {left : Nat} {id : String} {r : Run σ} {e : WorkflowError}
      (bar : (engine.barrier w r).1 = some e) :
      Walks engine w (left + 1) id r (.error e) (engine.barrier w r).2
  | missing {left : Nat} {id : String} {r : Run σ}
      (clear : (engine.barrier w r).1 = none) (missing : w.step? id = none) :
      Walks engine w (left + 1) id r (.error (.stepNotFound id)) (engine.barrier w r).2
  | stopped {left : Nat} {id : String} {step : Step} {e : WorkflowError} {r r' : Run σ}
      (clear : (engine.barrier w r).1 = none) (found : w.step? id = some step)
      (ends : Ends engine step (engine.openRecord step (engine.barrier w r).2) (.error e) r') :
      Walks engine w (left + 1) id r (.error e) r'
  | finished {left : Nat} {id : String} {step : Step} {r r' : Run σ}
      (clear : (engine.barrier w r).1 = none) (found : w.step? id = some step)
      (ends : Ends engine step (engine.openRecord step (engine.barrier w r).2) (.ok none) r') :
      Walks engine w (left + 1) id r (.ok ()) r'
  | hop {left : Nat} {id next : String} {step : Step} {r r' r'' : Run σ}
      {outcome : Except WorkflowError Unit}
      (clear : (engine.barrier w r).1 = none) (found : w.step? id = some step)
      (ends : Ends engine step (engine.openRecord step (engine.barrier w r).2) (.ok (some next)) r')
      (more : Walks engine w left next r' outcome r'') :
      Walks engine w (left + 1) id r outcome r''

theorem walks_walk (engine : Engine σ) (w : Workflow) (left : Nat) (id : String) (r : Run σ) :
    Walks engine w left id r (engine.walk w w.index left id r).1
      (engine.walk w w.index left id r).2 := by
  induction left generalizing id r with
  | zero => exact .limit
  | succ left ih =>
    unfold walk
    split
    · rename_i bar
      have hbar : Walks engine w (left + 1) id r _ _ := .barred (congrArg Prod.fst bar)
      rwa [bar] at hbar
    · rename_i r' free
      have clear : (engine.barrier w r).1 = none := congrArg Prod.fst free
      obtain rfl : (engine.barrier w r).2 = r' := congrArg Prod.snd free
      split
      · rename_i missing
        rw [Workflow.getElem?_index] at missing
        exact .missing clear missing
      · rename_i step found
        rw [Workflow.getElem?_index] at found
        have ends := ends_runStep engine step (engine.openRecord step (engine.barrier w r).2)
        split
        · rename_i ended
          rw [ended] at ends
          exact .stopped clear found ends
        · rename_i ended
          rw [ended] at ends
          exact .finished clear found ends
        · rename_i ended
          rw [ended] at ends
          exact .hop clear found ends (ih _ _)

/-- The error of a workflow with findings. -/
def refusal (w : Workflow) : WorkflowError := .validation ("; ".intercalate w.validate.errors)

/-- The ways in which a whole run can go. -/
inductive Executes (engine : Engine σ) (w : Workflow) (request : Request) (clock : Clock)
    (world : σ) : Run σ → Prop where
  | refused (invalid : w.validate.valid = false) :
      Executes engine w request clock world (engine.finish (.error (refusal w))
        (engine.begin w request clock world w.validate))
  | walked {outcome : Except WorkflowError Unit} {r : Run σ} (valid : w.validate.valid = true)
      (walks : Walks engine w w.maxSteps.toNat w.entryStepId
        (engine.begin w request clock world w.validate) outcome r) :
      Executes engine w request clock world (engine.finish outcome r)

theorem executes_execute (engine : Engine σ) (w : Workflow) (request : Request) (clock : Clock)
    (world : σ) :
    Executes engine w request clock world (engine.execute w request clock world) := by
  unfold execute
  cases hvalid : w.validate.valid with
  | true =>
    simp only [Report.toExcept, hvalid, if_true]
    exact .walked hvalid (walks_walk ..)
  | false =>
    simp only [Report.toExcept, hvalid, Bool.false_eq_true, if_false]
    exact .refused hvalid

end Engine

end Stepwise
