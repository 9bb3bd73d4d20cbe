import Stepwise.Proofs.Graph.Declared
import Stepwise.Proofs.Named
import Stepwise.Proofs.Run.Calls
import Stepwise.Proofs.Run.Conclusion

/-! # What a step is given -/

namespace Stepwise

open Engine

variable {σ : Type}

/-! ## Turns -/

/-- One step of a run: its record, and the calls of its handler. -/
structure Turn where
  record : StepRecord
  calls : List Call

namespace Turn

/-- What the steps after a turn see of it. -/
inductive Leaves (turn : Turn) : Json → Prop where
  | completed {output : Json} {metadata : StepMetadata} (status : turn.record.status = .completed)
      (result : turn.record.output = some output) (used : turn.record.metadata = some metadata) :
      Leaves turn (Context.completedEntry output metadata.toJson)
  | failed {error : StepError} (status : turn.record.status = .failed)
      (message : turn.record.error = some error.message)
      (code : turn.record.errorCode = some error.code) (spoiled : Spoiled turn.calls error) :
      Leaves turn (Context.failedEntry error.toJson)

/-- The last of some turns that has the id. -/
def Latest (turns : List Turn) (id : String) (turn : Turn) : Prop :=
  ∃ earlier later, turns = earlier ++ turn :: later ∧ turn.record.stepId = id ∧
    ∀ other ∈ later, other.record.stepId ≠ id

theorem latest_concat (turns : List Turn) (turn : Turn) :
    Latest (turns ++ [turn]) turn.record.stepId turn :=
  ⟨turns, [], rfl, rfl, fun _ h => absurd h List.not_mem_nil⟩

theorem Latest.concat {turns : List Turn} {id : String} {turn last : Turn}
    (h : Latest turns id turn) (hne : last.record.stepId ≠ id) :
    Latest (turns ++ [last]) id turn := by
  obtain ⟨earlier, later, rfl, hid, hlater⟩ := h
  refine ⟨earlier, later ++ [last], by simp, hid, fun other hother => ?_⟩
  rcases List.mem_append.mp hother with hother | hother
  · exact hlater other hother
  · rwa [List.mem_singleton.mp hother]

end Turn

/-- One entry for every id among the turns, as the last turn with the id has left it. -/
structure Replays (turns : List Turn) (entries : List (String × Json)) : Prop where
  sorted : Named.Sorted entries
  names : ∀ id, id ∈ Named.names entries ↔ ∃ turn ∈ turns, turn.record.stepId = id
  latest : ∀ id entry, Named.lookup id entries = some entry →
    ∃ turn, Turn.Latest turns id turn ∧ turn.Leaves entry

namespace Replays

variable {turns : List Turn} {entries : List (String × Json)} {turn : Turn} {entry : Json}

theorem nil : Replays [] [] where
  sorted := List.Pairwise.nil
  names id := by simp [Named.names]
  latest id entry h := by simp [Named.lookup] at h

theorem insert (h : Replays turns entries) (hl : turn.Leaves entry) :
    Replays (turns ++ [turn]) (Named.insert turn.record.stepId entry entries) where
  sorted := h.sorted.insert _ _
  names id := by
    rw [Named.mem_names_insert, h.names]
    constructor
    · rintro (rfl | ⟨t, ht, rfl⟩)
      · exact ⟨turn, by simp, rfl⟩
      · exact ⟨t, by simp [ht], rfl⟩
    · rintro ⟨t, ht, rfl⟩
      rcases List.mem_append.mp ht with ht | ht
      · exact Or.inr ⟨t, ht, rfl⟩
      · rw [List.mem_singleton.mp ht]
        exact Or.inl rfl
  latest id entry' he := by
    rw [Named.lookup_insert] at he
    split at he
    · rename_i hid
      subst hid
      rw [← Option.some.inj he]
      exact ⟨turn, Turn.latest_concat turns turn, hl⟩
    · rename_i hid
      obtain ⟨t, ht, hleaves⟩ := h.latest id entry' he
      exact ⟨t, ht.concat hid, hleaves⟩

end Replays

/-- A context with the input and the constants of a run, and with what its turns have left. -/
structure Context.Shows (w : Workflow) (request : Request) (turns : List Turn) (context : Context) :
    Prop where
  input : context.root .input = request.input
  scope : context.root .context = Scope.toJson ⟨w.id.text, request.executionId, request.tenantId⟩
  steps : ∃ entries, context.root .steps = .object entries ∧ Replays turns entries

namespace Context.Shows

variable {w : Workflow} {request : Request} {turns : List Turn} {context : Context}

theorem replays (h : context.Shows w request turns) : Replays turns context.steps.entries := by
  obtain ⟨entries, hentries, hr⟩ := h.steps
  rwa [Json.object.inj hentries]

theorem recordEntry (h : context.Shows w request turns) {turn : Turn} {entry : Json} {id : String}
    (hid : turn.record.stepId = id) (hl : turn.Leaves entry) :
    (context.recordEntry id entry).Shows w request (turns ++ [turn]) := by
  subst hid
  exact ⟨h.input, h.scope, _, rfl, h.replays.insert hl⟩

end Context.Shows

/-- What a step in a context was given, before its first attempt and with all attempts. The record
counts the calls. -/
structure Turn.Given (engine : Engine σ) (step : Step) (context : Context) (turn : Turn) :
    Prop where
  raw : engine.registry.get? step.stepType = none → turn.record.input = step.params
  resolved : engine.registry.get? step.stepType ≠ none →
    turn.record.input = Template.resolveValue step.params context
  accepted : turn.calls ≠ [] → engine.Accepts step turn.record.input
  calls : ∀ call ∈ turn.calls, call.Gives step.stepType turn.record.input context
  count : turn.record.status ≠ .skipped → engine.Accepts step turn.record.input →
    turn.calls.length = turn.record.retryCount.toNat + 1

/-- The calls of a turn fit the end of its attempts. -/
structure Turn.Fits (turn : Turn) (ending : Option StepEnd) : Prop where
  made : turn.calls ≠ [] → ∃ made, ending = some made
  count : ∀ made, ending = some made → made ≠ .cancelled →
    turn.calls.length = turn.record.retryCount.toNat + 1
  spoiled : ∀ error, ending = some (.failed error) → Spoiled turn.calls error

/-- The turn is that of a declared step, which sees what the turns before have left. -/
def Turn.Fed (engine : Engine σ) (w : Workflow) (request : Request) (before : List Turn)
    (turn : Turn) : Prop :=
  ∃ step context, w.step? turn.record.stepId = some step ∧ context.Shows w request before ∧
    turn.Given engine step context

/-- The turns of a run with notes. They have all records and all calls of the run. -/
structure Feeds (engine : Engine σ) (w : Workflow) (request : Request) (turns : List Turn)
    (r : Run (σ × List Call)) : Prop where
  records : turns.map Turn.record = r.execution.steps
  calls : turns.flatMap Turn.calls = r.world.2
  fed : ∀ before turn after, turns = before ++ turn :: after → turn.Fed engine w request before

/-! ## From turn to turn -/

namespace Engine

variable {engine : Engine σ} {w : Workflow} {request : Request} {turns : List Turn} {step : Step}
  {r r' : Run (σ × List Call)} {context context' : Context} {ending : Option StepEnd}
  {outcome : Except WorkflowError (Option String)}

theorem accepts_noting {params : Json} :
    engine.noting.Accepts step params ↔ engine.Accepts step params := by
  unfold Accepts
  rw [noting, Registry.get?_noting]
  cases engine.registry.get? step.stepType with
  | none => simp
  | some handler => simp [Handler.noting]

theorem inputFor_noting (engine : Engine σ) (step : Step) (context : Context) :
    engine.noting.inputFor step context = engine.inputFor step context := by
  rw [inputFor, inputFor, noting, Registry.get?_noting]
  cases engine.registry.get? step.stepType <;> rfl

theorem Concluded.accepts {engine : Engine σ} {record : StepRecord} {made : StepEnd}
    (h : Concluded engine step context ending outcome record context') (he : ending = some made) :
    engine.Accepts step record.input := by
  cases h with
  | rejected => cases he
  | completed _ accepts | rerouted _ accepts | failed _ accepts | cancelled _ accepts =>
    exact accepts

theorem Concluded.shows {engine : Engine σ} {turn : Turn} {next : Option String}
    (h : Concluded engine step context ending outcome turn.record context')
    (hid : turn.record.stepId = step.id) (ho : outcome = .ok next)
    (he : turn.Fits ending) (hs : context.Shows w request turns) :
    context'.Shows w request (turns ++ [turn]) := by
  cases h with
  | completed status _ output used => exact hs.recordEntry hid (.completed status output used)
  | rerouted status _ message code =>
    exact hs.recordEntry hid (.failed status message code (he.spoiled _ rfl))
  | rejected | failed | cancelled => cases ho

theorem Concluded.settled {engine : Engine σ} {record : StepRecord}
    (h : Concluded engine step context ending outcome record context')
    (hstatus : record.status ≠ .skipped) (accepts : engine.Accepts step record.input) :
    ∃ made, ending = some made ∧ made ≠ .cancelled := by
  cases h with
  | rejected _ rejects => exact absurd accepts rejects.not_accepts
  | completed | rerouted | failed => exact ⟨_, rfl, nofun⟩
  | cancelled status => exact absurd status hstatus

theorem Tried.notes {before : List StepRecord} {record first : StepRecord} {world : σ × List Call}
    (h : Tried engine.noting step r before record ending world)
    (ho : r.execution.Open before first) :
    ∃ calls, Notes r.world step.stepType (valuesOf step r) r.context calls world ∧
      Turn.Fits ⟨record, calls⟩ ending := by
  cases h with
  | not => exact ⟨[], .none .., absurd rfl, nofun, nofun⟩
  | @attempted made _ _ _ attempted ho' count last =>
    subst last
    obtain ⟨calls, hn, hs⟩ := attempted.notes
    -- Both the notes and the record count the attempts, so they agree.
    refine ⟨calls, hn, fun _ => ⟨made, rfl⟩, fun _ he settled => ?_,
      fun error he => hs error (Option.some.inj he)⟩
    obtain rfl := Option.some.inj he
    have hcounted := attempted.counted settled ho ho'
    rw [hn.noted, List.length_append, ← count] at hcounted
    exact Nat.add_left_cancel hcounted

variable {before : List StepRecord} {record : StepRecord} {calls : List Call}

theorem Concludes.input_noting
    (h : Concludes engine.noting step r before ending outcome record r') :
    record.input = engine.inputFor step r.context :=
  h.input.trans (inputFor_noting engine step r.context)

theorem Concludes.accepted (h : Concludes engine.noting step r before ending outcome record r')
    (he : Turn.Fits ⟨record, calls⟩ ending) (hcalls : calls ≠ []) :
    engine.Accepts step record.input := by
  obtain ⟨made, hmade⟩ := he.made hcalls
  exact accepts_noting.mp (h.concluded.accepts hmade)

theorem Concludes.given (h : Concludes engine.noting step r before ending outcome record r')
    (hn : Notes r.world step.stepType (valuesOf step r) r.context calls r'.world)
    (he : Turn.Fits ⟨record, calls⟩ ending) :
    Turn.Given engine step r.context ⟨record, calls⟩ where
  raw missing := h.input_noting.trans (inputFor_of_missing missing _)
  resolved found := by
    obtain ⟨handler, hhandler⟩ := Option.ne_none_iff_exists'.mp found
    exact h.input_noting.trans (inputFor_of_found hhandler _)
  accepted := h.accepted he
  calls call hcall := by
    obtain ⟨handler, hhandler, -⟩ := h.accepted he (List.ne_nil_of_mem hcall)
    have hvalues : record.input = valuesOf step r :=
      h.input_noting.trans (inputFor_of_found hhandler _)
    rw [hvalues]
    exact hn.gives call hcall
  count hstatus accepts := by
    obtain ⟨made, hmade, settled⟩ := h.concluded.settled hstatus (accepts_noting.mpr accepts)
    exact he.count made hmade settled

end Engine

namespace Feeds

variable {engine : Engine σ} {w : Workflow} {request : Request} {turns : List Turn} {step : Step}
  {r r' : Run (σ × List Call)}

theorem of_same (h : Feeds engine w request turns r)
    (hsteps : r'.execution.steps = r.execution.steps) (hworld : r'.world = r.world) :
    Feeds engine w request turns r' :=
  ⟨h.records.trans hsteps.symm, h.calls.trans (congrArg Prod.snd hworld.symm), h.fed⟩

theorem concat (h : Feeds engine w request turns r) {turn : Turn}
    (hsteps : r'.execution.steps = r.execution.steps ++ [turn.record])
    (hcalls : r'.world.2 = r.world.2 ++ turn.calls) (hf : turn.Fed engine w request turns) :
    Feeds engine w request (turns ++ [turn]) r' where
  records := by rw [List.map_append, h.records, hsteps]; rfl
  calls := by rw [List.flatMap_append, h.calls, hcalls]; simp
  fed before last after heq := by
    rcases List.eq_nil_or_concat after with rfl | ⟨after', x, rfl⟩
    · obtain ⟨rfl, hlast⟩ := List.append_inj' heq rfl
      obtain rfl := (List.cons.inj hlast).1
      exact hf
    · rw [List.concat_eq_append, ← List.cons_append, ← List.append_assoc] at heq
      exact h.fed before last after' (List.append_inj' heq rfl).1

end Feeds

namespace Engine

variable {engine : Engine σ} {w : Workflow} {request : Request} {turns : List Turn} {step : Step}
  {r r' : Run (σ × List Call)} {left : Nat} {id : String}

/-- A step that a run goes on to takes one turn. If the run goes on, the context shows the turn. -/
theorem Ends.feeds {outcome : Except WorkflowError (Option String)}
    (h : Ends engine.noting step (engine.noting.openRecord step (engine.noting.barrier w r).2)
      outcome r')
    (found : w.step? id = some step) (hr : r.execution.status = .running)
    (hf : Feeds engine w request turns r) (hs : r.context.Shows w request turns) :
    ∃ turn, Feeds engine w request (turns ++ [turn]) r' ∧ r'.execution.status = .running ∧
      ∀ next, outcome = .ok next → r'.context.Shows w request (turns ++ [turn]) := by
  have hb := barrier_execution engine.noting w r
  rw [← barrier_context engine.noting w r] at hs
  obtain ⟨ending, record, hc⟩ := h.concludes_openRecord (hb ▸ hr)
  obtain ⟨first, ho⟩ := hc.opened
  obtain ⟨calls, hn, he⟩ := hc.tried.notes ho
  have hid : w.step? record.stepId = some step := by
    rw [hc.stepId, (Workflow.step?_eq_some found).2, found]
  have hfed : Turn.Fed engine w request turns ⟨record, calls⟩ :=
    ⟨step, _, hid, hs, hc.given hn he⟩
  have hsteps := hc.steps
  have hcalls : r'.world.2 = r.world.2 ++ calls :=
    hn.noted.trans (congrArg (·.2 ++ calls) (barrier_world engine.noting w r))
  rw [hb] at hsteps
  refine ⟨⟨record, calls⟩, hf.concat hsteps hcalls hfed, hc.status, fun next ho => ?_⟩
  exact hc.concluded.shows hc.stepId ho he hs

theorem Walks.feeds {outcome : Except WorkflowError Unit}
    (h : Walks engine.noting w left id r outcome r') (hr : r.execution.status = .running)
    (hf : Feeds engine w request turns r) (hs : r.context.Shows w request turns) :
    ∃ turns', Feeds engine w request turns' r' := by
  induction h generalizing turns with
  | limit => exact ⟨turns, hf⟩
  | barred | missing =>
    exact ⟨turns, hf.of_same (congrArg Execution.steps (barrier_execution ..)) (barrier_world ..)⟩
  | stopped _ found ends | finished _ found ends =>
    obtain ⟨turn, hf', -, -⟩ := ends.feeds found hr hf hs
    exact ⟨_, hf'⟩
  | hop _ found ends _ ih =>
    obtain ⟨turn, hf', hr', hs'⟩ := ends.feeds found hr hf hs
    exact ih hr' hf' (hs' _ rfl)

theorem Executes.feeds {clock : Clock} {world : σ}
    (h : Executes engine.noting w request clock (world, []) r) :
    ∃ turns, Feeds engine w request turns r := by
  have hf : Feeds engine w request []
      (engine.noting.begin w request clock (world, []) w.validate) :=
    ⟨(begin_steps ..).symm, rfl, fun _ _ _ h => by simp at h⟩
  have hr := (begin_tallied engine.noting w request clock (world, []) w.validate).status
  cases h with
  | refused => exact ⟨[], hf.of_same (finish_steps ..) (finish_world ..)⟩
  | walked _ walks =>
    obtain ⟨turns, hf'⟩ := walks.feeds hr hf ⟨rfl, rfl, [], rfl, .nil⟩
    exact ⟨turns, hf'.of_same (finish_steps ..) (finish_world ..)⟩

/-- Every run feeds its steps. The notes of its calls change nothing else. -/
theorem execute_feeds (engine : Engine σ) (w : Workflow) (request : Request) (clock : Clock)
    (world : σ) :
    (engine.noting.execute w request clock (world, [])).view Prod.fst =
        engine.execute w request clock world ∧
      ∃ turns, Feeds engine w request turns
        (engine.noting.execute w request clock (world, [])) :=
  ⟨(engine.shownBy_noting.execute w request clock (world, [])).symm,
    (executes_execute engine.noting w request clock (world, [])).feeds⟩

end Engine

end Stepwise
