import Mathlib.Data.Finset.Card
import Mathlib.Data.Finset.Dedup
import Stepwise.Proofs.Named
import Stepwise.Proofs.Path.Grammar

/-! # What a context shows after a recording -/

namespace Stepwise

/-- What a finished step leaves behind. -/
inductive Recording where
  | completed (output metadata : Json)
  | failed (error : Json)

namespace Recording

def entry : Recording → Json
  | completed output metadata => .object [("metadata", metadata), ("output", output)]
  | failed error => .object [("error", error), ("output", .null)]

def output : Recording → Json
  | completed output _ => output
  | failed _ => .null

end Recording

namespace Context

def record (c : Context) (id : String) : Recording → Context
  | .completed output metadata => c.recordStep id output metadata
  | .failed error => c.recordFailure id error

def recordAll (c : Context) (recordings : List (String × Recording)) : Context :=
  recordings.foldl (fun c (id, r) => c.record id r) c

theorem record_eq (c : Context) (id : String) (r : Recording) :
    c.record id r = c.recordEntry id r.entry := by
  cases r <;> rfl

@[simp] theorem steps_record (c : Context) (id : String) (r : Recording) :
    (c.record id r).steps = c.steps.insert id r.entry := by
  rw [record_eq]
  rfl

@[simp] theorem recordAll_cons (c : Context) (id : String) (r : Recording)
    (rest : List (String × Recording)) :
    c.recordAll ((id, r) :: rest) = (c.record id r).recordAll rest := rfl

theorem recordAll_append (c : Context) (rs ts : List (String × Recording)) :
    c.recordAll (rs ++ ts) = (c.recordAll rs).recordAll ts := by
  rw [recordAll, List.foldl_append]
  rfl

/-! ## One recording -/

/-- The members after a value was added or replaced. They stay in order. -/
structure Replaces (key : String) (value : Json) (before after : List (String × Json)) : Prop where
  lookup : ∀ name, Named.lookup name after =
    if key = name then some value else Named.lookup name before
  sorted : Named.Sorted before → Named.Sorted after

/-- What the paths see of a recording. -/
structure Shown (before after : Context) (id : String) (entry : Json) : Prop where
  own : ∀ (p : Path) (rest : List Segment), p.root = .steps → p.segments = .key id :: rest →
    p.resolve after = Path.walk p.raw rest (some entry)
  whole : ∀ p : Path, p.root = .steps → p.segments = [] →
    ∃ members members', p.resolve before = .ok (some (.object members)) ∧
      p.resolve after = .ok (some (.object members')) ∧ Replaces id entry members members'
  other : ∀ p : Path, (p.root = .steps → ∃ first rest, p.segments = first :: rest ∧ first ≠ .key id) →
    p.resolve after = p.resolve before

theorem resolve_steps (c : Context) {p : Path} (h : p.root = .steps) :
    p.resolve c = Path.walk p.raw p.segments (some (.object c.steps.entries)) := by
  rw [Path.resolve, h]
  rfl

theorem shown_record (c : Context) (id : String) (r : Recording) :
    Shown c (c.record id r) id r.entry := by
  rw [record_eq]
  refine ⟨?_, ?_, ?_⟩
  · intro p rest hroot hsegments
    rw [resolve_steps _ hroot, hsegments, Path.walk, recordEntry, Table.insert,
      Named.lookup_insert, if_pos rfl]
  · intro p hroot hsegments
    refine ⟨c.steps.entries, (c.steps.insert id r.entry).entries, ?_, ?_, ?_, ?_⟩
    · rw [resolve_steps _ hroot, hsegments, Path.walk]
    · rw [resolve_steps _ hroot, hsegments, Path.walk, recordEntry]
    · intro name
      exact c.steps.get?_insert id name r.entry
    · intro _
      exact (c.steps.insert id r.entry).sorted
  · intro p hother
    cases hroot : p.root with
    | input | context =>
      rw [Path.resolve, Path.resolve, hroot]
      rfl
    | steps =>
      obtain ⟨first, rest, hsegments, hne⟩ := hother hroot
      rw [resolve_steps _ hroot, resolve_steps _ hroot, hsegments]
      cases first with
      | key name =>
        have hname : id ≠ name := by
          rintro rfl
          exact hne rfl
        rw [Path.walk, Path.walk, recordEntry, Table.insert, Named.lookup_insert, if_neg hname]
      | index n => rfl

/-! ## Many recordings -/

theorem get?_recordAll_of_ne {rs : List (String × Recording)} {id : String}
    (h : ∀ other ∈ rs, other.1 ≠ id) (c : Context) :
    (c.recordAll rs).steps.get? id = c.steps.get? id := by
  induction rs generalizing c with
  | nil => rfl
  | cons first rest ih =>
    obtain ⟨name, r⟩ := first
    have hne : name ≠ id := h (name, r) List.mem_cons_self
    rw [recordAll_cons, ih fun other hother => h other (List.mem_cons_of_mem _ hother),
      steps_record, Table.get?_insert, if_neg hne]

theorem get?_recordAll_last (c : Context) (earlier : List (String × Recording)) (id : String)
    (r : Recording) {later : List (String × Recording)} (h : ∀ other ∈ later, other.1 ≠ id) :
    (c.recordAll (earlier ++ (id, r) :: later)).steps.get? id = some r.entry := by
  rw [recordAll_append, recordAll_cons, get?_recordAll_of_ne h, steps_record, Table.get?_insert,
    if_pos rfl]

theorem render_output (id : String) :
    Path.render .steps [.key id, .key "output"] = "steps." ++ id ++ ".output" := by
  apply String.toList_inj.mp
  rw [Path.render, String.toList_ofList, String.toList_append, String.toList_append]
  simp [Root.name, Segment.chars]

theorem parse_output {id : String} (h : (Segment.key id).Valid) :
    Path.parse ("steps." ++ id ++ ".output") =
      .ok ⟨"steps." ++ id ++ ".output", .steps, [.key id, .key "output"]⟩ := by
  have houtput : (Segment.key "output").Valid := Segment.valid_key (by decide) (by rfl)
  have hvalid : ∀ segment ∈ [Segment.key id, .key "output"], segment.Valid := by
    intro segment hsegment
    simp only [List.mem_cons, List.not_mem_nil, or_false] at hsegment
    rcases hsegment with rfl | rfl
    · exact h
    · exact houtput
  have hparse := Path.parse_render .steps hvalid
  rwa [render_output] at hparse

theorem lookup_output_entry (r : Recording) (raw : String) :
    Path.walk raw [.key "output"] (some r.entry) = .ok (some r.output) := by
  cases r <;> simp [Path.walk, Recording.entry, Recording.output, Named.lookup]

theorem resolve_output_recordAll (c : Context) (earlier : List (String × Recording)) (id : String)
    (r : Recording) {later : List (String × Recording)} (h : ∀ other ∈ later, other.1 ≠ id) (raw : String) :
    (Path.mk raw .steps [.key id, .key "output"]).resolve
      (c.recordAll (earlier ++ (id, r) :: later)) = .ok (some r.output) := by
  rw [resolve_steps _ rfl, Path.walk]
  exact (congrArg (Path.walk raw _) (get?_recordAll_last c earlier id r h)).trans
    (lookup_output_entry r raw)

theorem mem_names_recordAll (c : Context) (rs : List (String × Recording)) (id : String) :
    id ∈ (c.recordAll rs).steps.names ↔ id ∈ c.steps.names ∨ id ∈ rs.map Prod.fst := by
  induction rs generalizing c with
  | nil => simp [recordAll]
  | cons first rest ih =>
    obtain ⟨name, r⟩ := first
    rw [recordAll_cons, ih, steps_record, Table.mem_names_insert, List.map_cons, List.mem_cons,
      or_comm (a := id = name), or_assoc]

theorem stepCount_recordAll (c : Context) (rs : List (String × Recording)) :
    (c.recordAll rs).stepCount = (c.steps.names ++ rs.map Prod.fst).toFinset.card := by
  have hsame : (c.recordAll rs).steps.names.toFinset =
      (c.steps.names ++ rs.map Prod.fst).toFinset := by
    ext id
    rw [List.mem_toFinset, List.mem_toFinset, mem_names_recordAll, List.mem_append]
  rw [← hsame, List.toFinset_card_of_nodup (Table.nodup _), stepCount, Table.size, Table.names,
    Named.names, List.length_map]

/-! ## All paths and all recordings -/

/-- What is recorded can be read, and nothing else changes. -/
theorem recordings_shown (c : Context) :
    (∀ id r, Shown c (c.record id r) id r.entry) ∧
    (∀ (id : String) (r : Recording) (earlier later : List (String × Recording)),
      (Segment.key id).Valid → (∀ other ∈ later, other.1 ≠ id) →
      ∃ p, Path.parse ("steps." ++ id ++ ".output") = .ok p ∧
        p.resolve (c.recordAll (earlier ++ (id, r) :: later)) = .ok (some r.output)) ∧
    (∀ input scope (recordings : List (String × Recording)),
      ((new input scope).recordAll recordings).stepCount =
        (recordings.map Prod.fst).toFinset.card) := by
  refine ⟨c.shown_record, ?_, ?_⟩
  · intro id r earlier later hvalid hlater
    exact ⟨_, parse_output hvalid, resolve_output_recordAll c earlier id r hlater _⟩
  · intro input scope recordings
    exact stepCount_recordAll (new input scope) recordings

def unasked : Context := .new .null ⟨"flow", "run", "tenant"⟩

/-- A step that fails and then succeeds, and another step after it. -/
def askedAgain : List (String × Recording) :=
  [("ask", .failed (.string "busy")), ("ask", .completed (.bool true) .null),
    ("check", .failed .null)]

theorem recordings_shown_askedAgain :
    (∃ p, Path.parse "steps.ask.output" = .ok p ∧
      p.resolve (unasked.recordAll askedAgain) = .ok (some (.bool true))) ∧
    (unasked.recordAll askedAgain).stepCount = 2 := by
  obtain ⟨-, hlast, hcount⟩ := recordings_shown unasked
  have hvalid : (Segment.key "ask").Valid := Segment.valid_key (by decide) (by rfl)
  refine ⟨?_, ?_⟩
  · refine hlast "ask" (.completed (.bool true) .null) [("ask", .failed (.string "busy"))]
      [("check", .failed .null)] hvalid ?_
    intro other hother
    rw [List.mem_singleton.mp hother]
    decide
  · exact hcount .null ⟨"flow", "run", "tenant"⟩ askedAgain

end Context

end Stepwise
