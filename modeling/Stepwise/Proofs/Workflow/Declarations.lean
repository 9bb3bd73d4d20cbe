import Mathlib.Data.List.Induction
import Mathlib.Data.List.Nodup
import Stepwise.Proofs.Graph.Declared
import Stepwise.Workflow.Validation

/-! # Repeated ids and dangling edges -/

namespace Stepwise

/-! ## Findings of one sort -/

inductive FindingSort where
  | size
  | duplicate
  | entry
  | dangling
  | graph
deriving DecidableEq

def Finding.sort : Finding → FindingSort
  | noSteps | tooManySteps .. => .size
  | duplicateStep _ => .duplicate
  | noEntry _ => .entry
  | danglingEdge .. => .dangling
  | cycle _ | unreachable .. => .graph

/-- The texts of the findings of one sort. -/
def Report.errorsOf (r : Report) (sort : FindingSort) : List String :=
  (r.findings.filter (·.sort = sort)).map Finding.message

namespace Workflow

variable {w : Workflow}

/-- The findings, sort by sort. -/
def findingsOf (w : Workflow) : FindingSort → List Finding
  | .size => w.sizeFindings
  | .duplicate => w.duplicateFindings
  | .entry => w.entryFindings (Graph.declared w)
  | .dangling => w.steps.flatMap (danglingEdges (Graph.declared w))
  | .graph => w.graphFindings (Graph.declared w)

theorem sort_of_mem_findingsOf {sort : FindingSort} {f : Finding} (h : f ∈ w.findingsOf sort) :
    f.sort = sort := by
  cases sort with
  | size =>
    unfold findingsOf sizeFindings at h
    split_ifs at h
    all_goals simp only [List.mem_singleton, List.not_mem_nil] at h
    all_goals rw [h, Finding.sort]
  | duplicate =>
    obtain ⟨id, -, rfl⟩ := List.mem_map.mp h
    rfl
  | entry =>
    unfold findingsOf entryFindings at h
    split_ifs at h
    · rw [List.mem_singleton.mp h, Finding.sort]
    · exact absurd h List.not_mem_nil
  | dangling =>
    obtain ⟨s, -, hs⟩ := List.mem_flatMap.mp h
    obtain ⟨edge, -, rfl⟩ := List.mem_map.mp hs
    rfl
  | graph =>
    unfold findingsOf graphFindings at h
    split_ifs at h
    · rcases List.mem_append.mp h with h | h
      all_goals
        obtain ⟨_, -, rfl⟩ := List.mem_map.mp h
        rfl
    · exact absurd h List.not_mem_nil

theorem filter_findingsOf (w : Workflow) (sort other : FindingSort) :
    (w.findingsOf sort).filter (·.sort = other) = if sort = other then w.findingsOf sort else [] := by
  split_ifs with h
  · rw [List.filter_eq_self]
    intro f hf
    exact decide_eq_true ((sort_of_mem_findingsOf hf).trans h)
  · rw [List.filter_eq_nil_iff]
    intro f hf
    rw [sort_of_mem_findingsOf hf]
    simp [h]

theorem errorsOf_validate (w : Workflow) (sort : FindingSort) :
    w.validate.errorsOf sort = (w.findingsOf sort).map Finding.message := by
  have hparts : w.validate.findings = w.findingsOf .size ++ w.findingsOf .duplicate
      ++ w.findingsOf .entry ++ w.findingsOf .dangling ++ w.findingsOf .graph := rfl
  rw [Report.errorsOf, hparts]
  simp only [List.filter_append, filter_findingsOf]
  cases sort <;> simp

end Workflow

/-! ## Repeated ids -/

/-- The id comes for the second time at a position. -/
def SecondAt (ids : List String) (id : String) (i : Nat) : Prop :=
  ids[i]? = some id ∧ (ids.take i).count id = 1

/-- The ids that come more than once, each once, in the order in which they come again. -/
structure Repeats (ids found : List String) : Prop where
  mem_iff : ∀ id, id ∈ found ↔ 2 ≤ ids.count id
  once : found.Nodup
  ordered : found.Pairwise fun a b => ∃ i j, SecondAt ids a i ∧ SecondAt ids b j ∧ i < j

theorem SecondAt.append {ids : List String} {id : String} {i : Nat} (h : SecondAt ids id i)
    (more : List String) : SecondAt (ids ++ more) id i := by
  obtain ⟨hid, hcount⟩ := h
  obtain ⟨hi, -⟩ := List.getElem?_eq_some_iff.mp hid
  refine ⟨?_, ?_⟩
  · rw [List.getElem?_append_left hi]
    exact hid
  · rw [List.take_append_of_le_length (Nat.le_of_lt hi)]
    exact hcount

theorem secondAt_concat {ids : List String} {id : String} (h : ids.count id = 1) :
    SecondAt (ids ++ [id]) id ids.length := by
  refine ⟨List.getElem?_concat_length, ?_⟩
  rw [List.take_left]
  exact h

theorem count_concat (ids : List String) (last id : String) :
    (ids ++ [last]).count id = ids.count id + if last = id then 1 else 0 := by
  rw [List.count_append, List.count_singleton]
  simp only [beq_iff_eq]

theorem one_le_count_concat {ids : List String} {last id : String} :
    1 ≤ (ids ++ [last]).count id ↔ last = id ∨ 1 ≤ ids.count id := by
  rw [count_concat]
  split_ifs with h
  · simp [h]
  · simp [h]

theorem two_le_count_concat {ids : List String} {last id : String} :
    2 ≤ (ids ++ [last]).count id ↔ last = id ∧ ids.count last = 1 ∨ 2 ≤ ids.count id := by
  rw [count_concat]
  split_ifs with h
  · subst h
    rw [eq_self, true_and]
    omega
  · simp [h]

theorem exists_secondAt {ids : List String} {id : String} (h : 2 ≤ ids.count id) :
    ∃ i, SecondAt ids id i := by
  induction ids using List.reverseRecOn with
  | nil => simp at h
  | append_singleton ids last ih =>
    rcases two_le_count_concat.mp h with ⟨rfl, hone⟩ | hearlier
    · exact ⟨ids.length, secondAt_concat hone⟩
    · obtain ⟨i, hi⟩ := ih hearlier
      exact ⟨i, hi.append [last]⟩

theorem Repeats.ordered_append {ids found : List String} (h : Repeats ids found)
    (more : List String) : found.Pairwise fun a b =>
      ∃ i j, SecondAt (ids ++ more) a i ∧ SecondAt (ids ++ more) b j ∧ i < j := by
  refine h.ordered.imp ?_
  rintro a b ⟨i, j, hi, hj, hlt⟩
  exact ⟨i, j, hi.append more, hj.append more, hlt⟩

theorem Repeats.again {ids found : List String} {id : String} (h : Repeats ids found)
    (hone : ids.count id = 1) : Repeats (ids ++ [id]) (found ++ [id]) := by
  have hfresh : id ∉ found := by
    rw [h.mem_iff]
    omega
  refine ⟨?_, ?_, ?_⟩
  · intro x
    rw [List.mem_append, List.mem_singleton, h.mem_iff, two_le_count_concat, or_comm,
      and_iff_left hone, eq_comm]
  · rw [← List.concat_eq_append]
    exact h.once.concat hfresh
  · rw [List.pairwise_append]
    refine ⟨h.ordered_append [id], List.pairwise_singleton _ _, ?_⟩
    intro a ha b hb
    rw [List.mem_singleton.mp hb]
    obtain ⟨i, hi⟩ := exists_secondAt ((h.mem_iff a).mp ha)
    obtain ⟨hlt, -⟩ := List.getElem?_eq_some_iff.mp hi.1
    exact ⟨i, ids.length, hi.append [id], secondAt_concat hone, hlt⟩

theorem Repeats.other {ids found : List String} {id : String} (h : Repeats ids found)
    (hone : ids.count id ≠ 1) : Repeats (ids ++ [id]) found := by
  refine ⟨?_, h.once, h.ordered_append [id]⟩
  intro x
  rw [h.mem_iff, two_le_count_concat, or_iff_right fun hx => hone hx.2]

namespace Workflow

/-- The sets of the search, after some ids: those that came, and those that came again. -/
structure Scanned (before : List String) (seen named : Std.HashSet String) : Prop where
  seen : ∀ id, seen.contains id = true ↔ 1 ≤ before.count id
  named : ∀ id, named.contains id = true ↔ 2 ≤ before.count id

namespace Scanned

variable {before : List String} {seen named : Std.HashSet String} {id : String}

theorem count_eq_one (h : Scanned before seen named) :
    (seen.contains id && !named.contains id) = true ↔ before.count id = 1 := by
  rw [Bool.and_eq_true, h.seen, Bool.not_eq_true', ← Bool.not_eq_true, h.named]
  omega

theorem again (h : Scanned before seen named) (hone : before.count id = 1) :
    Scanned (before ++ [id]) seen (named.insert id) := by
  constructor
  · intro x
    rw [h.seen, one_le_count_concat, or_iff_right_of_imp]
    rintro rfl
    exact Nat.le_of_eq hone.symm
  · intro x
    rw [Std.HashSet.contains_insert, Bool.or_eq_true, beq_iff_eq, h.named, two_le_count_concat,
      and_iff_left hone]

theorem other (h : Scanned before seen named) (hone : before.count id ≠ 1) :
    Scanned (before ++ [id]) (seen.insert id) named := by
  constructor
  · intro x
    rw [Std.HashSet.contains_insert, Bool.or_eq_true, beq_iff_eq, h.seen, one_le_count_concat]
  · intro x
    rw [h.named, two_le_count_concat, or_iff_right fun hx => hone hx.2]

end Scanned

theorem repeatedIds_concat {before : List String} {seen named : Std.HashSet String}
    (h : Scanned before seen named) (ids : List String) (last : String) :
    repeatedIds seen named (ids ++ [last]) =
      repeatedIds seen named ids ++ if (before ++ ids).count last = 1 then [last] else [] := by
  induction ids generalizing before seen named with
  | nil =>
    simp only [List.nil_append, repeatedIds, List.append_nil, h.count_eq_one]
  | cons id rest ih =>
    have hsplit : before ++ id :: rest = (before ++ [id]) ++ rest := by simp
    rw [List.cons_append, repeatedIds, repeatedIds, hsplit]
    by_cases hone : before.count id = 1
    · rw [if_pos (h.count_eq_one.mpr hone), if_pos (h.count_eq_one.mpr hone), ih (h.again hone)]
      rfl
    · rw [if_neg (mt h.count_eq_one.mp hone), if_neg (mt h.count_eq_one.mp hone),
        ih (h.other hone)]

theorem repeats_repeatedIds (ids : List String) : Repeats ids (repeatedIds ∅ ∅ ids) := by
  have hstart : Scanned [] ∅ ∅ := ⟨fun id => by simp, fun id => by simp⟩
  induction ids using List.reverseRecOn with
  | nil => exact ⟨fun id => by simp [repeatedIds], List.nodup_nil, List.Pairwise.nil⟩
  | append_singleton ids last ih =>
    rw [repeatedIds_concat hstart, List.nil_append]
    split_ifs with hone
    · exact ih.again hone
    · rw [List.append_nil]
      exact ih.other hone

end Workflow

/-! ## Dangling edges -/

/-- The fields of a step that name other steps, and in the order in which they count. -/
inductive EdgeField where
  | next
  | success
  | failure
  | onTrue
  | onFalse
deriving DecidableEq

namespace EdgeField

def all : List EdgeField := [next, success, failure, onTrue, onFalse]

def rank (f : EdgeField) : Nat := all.idxOf f

def kind : EdgeField → EdgeKind
  | next => .next
  | success => .success
  | failure => .failure
  | onTrue | onFalse => .branch

def label : EdgeField → String
  | next => "nextStepId"
  | success => "onSuccess"
  | failure => "onFailure"
  | onTrue | onFalse => "branch target"

theorem label_kind (f : EdgeField) : f.kind.label = f.label := by
  cases f <;> rfl

theorem mem_all (f : EdgeField) : f ∈ all := by
  cases f <;> decide

theorem pairwise_all : all.Pairwise fun f g => f.rank < g.rank := by decide

end EdgeField

/-- The step that a field names. Only a conditional step has branches. -/
def Step.target? (s : Step) : EdgeField → Option String
  | .next => s.nextStepId
  | .success => s.onSuccess
  | .failure => s.onFailure
  | .onTrue => if s.isConditional then s.stringParam? onTrueParam else none
  | .onFalse => if s.isConditional then s.stringParam? onFalseParam else none

theorem Step.edges_eq (s : Step) :
    s.edges = EdgeField.all.filterMap fun f => (s.target? f).map (f.kind, ·) := by
  simp only [edges, branchTargets, EdgeField.all, List.filterMap_cons, List.filterMap_nil, target?]
  cases s.nextStepId <;> cases s.onSuccess <;> cases s.onFailure <;> cases s.isConditional <;>
    cases s.stringParam? onTrueParam <;> cases s.stringParam? onFalseParam <;> rfl

/-- An edge that leads to no step, with its place among all edges of a workflow. -/
structure LooseEnd where
  position : Nat
  field : EdgeField
  step : String
  target : String

namespace LooseEnd

/-- The step at the position has the edge, and no step has the id that it leads to. -/
def Of (w : Workflow) (e : LooseEnd) : Prop :=
  ∃ s, w.steps[e.position]? = some s ∧ s.id = e.step ∧ s.target? e.field = some e.target ∧
    ¬ w.Declares e.target

/-- The edge of an earlier step, or of an earlier field of the same step. -/
def Before (a b : LooseEnd) : Prop :=
  a.position < b.position ∨ a.position = b.position ∧ a.field.rank < b.field.rank

def text (e : LooseEnd) : String :=
  s!"Step '{e.step}' references non-existent step '{e.target}' in " ++ e.field.label

theorem message_danglingEdge (e : LooseEnd) :
    (Finding.danglingEdge e.step e.target e.field.kind).message = e.text := by
  rw [text, ← EdgeField.label_kind]
  rfl

end LooseEnd

namespace Workflow

/-- The edges of one step that lead to no step. -/
def looseEnds (known : String → Bool) (s : Step) (position : Nat) : List LooseEnd :=
  EdgeField.all.filterMap fun f =>
    ((s.target? f).filter fun target => !known target).map fun target =>
      ⟨position, f, s.id, target⟩

theorem mem_looseEnds {known : String → Bool} {s : Step} {position : Nat} {e : LooseEnd} :
    e ∈ looseEnds known s position ↔ e.position = position ∧ e.step = s.id ∧
      s.target? e.field = some e.target ∧ known e.target = false := by
  simp only [looseEnds, List.mem_filterMap, Option.map_eq_some_iff, Option.filter_eq_some_iff,
    Bool.not_eq_true', EdgeField.mem_all, true_and]
  constructor
  · rintro ⟨f, target, ⟨ht, hk⟩, rfl⟩
    exact ⟨rfl, rfl, ht, hk⟩
  · rintro ⟨rfl, hid, ht, hk⟩
    refine ⟨e.field, e.target, ⟨ht, hk⟩, ?_⟩
    rw [← hid]

theorem pairwise_looseEnds (known : String → Bool) (s : Step) (position : Nat) :
    (looseEnds known s position).Pairwise LooseEnd.Before := by
  rw [looseEnds, List.pairwise_filterMap]
  refine EdgeField.pairwise_all.imp ?_
  intro f g hlt a ha b hb
  obtain ⟨_, -, rfl⟩ := Option.map_eq_some_iff.mp ha
  obtain ⟨_, -, rfl⟩ := Option.map_eq_some_iff.mp hb
  exact Or.inr ⟨rfl, hlt⟩

theorem message_danglingEdges (ids : Std.HashSet String) (s : Step) (position : Nat) :
    (danglingEdges ids s).map Finding.message =
      (looseEnds ids.contains s position).map LooseEnd.text := by
  rw [danglingEdges, s.edges_eq, List.filter_filterMap, List.map_filterMap, List.map_filterMap,
    looseEnds, List.map_filterMap]
  congr 1
  funext f
  cases s.target? f with
  | none => rfl
  | some target =>
    have htext := LooseEnd.message_danglingEdge ⟨position, f, s.id, target⟩
    rw [Option.map_some, Option.filter_some, Option.filter_some]
    split_ifs
    · exact congrArg some htext
    · rfl

/-- All edges that lead to no step, step by step. -/
def allLooseEnds (w : Workflow) : List LooseEnd :=
  w.steps.zipIdx.flatMap fun (s, position) => looseEnds (Graph.declared w).contains s position

theorem mem_allLooseEnds {w : Workflow} {e : LooseEnd} : e ∈ w.allLooseEnds ↔ e.Of w := by
  have hknown : (Graph.declared w).contains e.target = false ↔ ¬ w.Declares e.target := by
    rw [← Graph.contains_declared, Bool.not_eq_true]
  simp only [allLooseEnds, List.mem_flatMap, List.mem_zipIdx_iff_getElem?, mem_looseEnds, hknown]
  constructor
  · rintro ⟨⟨s, position⟩, hs, rfl, hid, htarget, hnone⟩
    exact ⟨s, hs, hid.symm, htarget, hnone⟩
  · rintro ⟨s, hs, hid, htarget, hnone⟩
    exact ⟨⟨s, e.position⟩, hs, rfl, hid.symm, htarget, hnone⟩

theorem pairwise_allLooseEnds (w : Workflow) : w.allLooseEnds.Pairwise LooseEnd.Before := by
  have hpositions : w.steps.zipIdx.Pairwise fun a b => a.2 < b.2 := by
    rw [← List.pairwise_map, List.zipIdx_map_snd]
    exact List.pairwise_lt_range' 1
  rw [allLooseEnds, List.pairwise_flatMap]
  refine ⟨?_, hpositions.imp ?_⟩
  · rintro ⟨s, position⟩ -
    exact pairwise_looseEnds _ s position
  · rintro ⟨s, i⟩ ⟨t, j⟩ hlt a ha b hb
    left
    rw [(mem_looseEnds.mp ha).1, (mem_looseEnds.mp hb).1]
    exact hlt

theorem errorsOf_dangling_eq (w : Workflow) :
    w.validate.errorsOf .dangling = w.allLooseEnds.map LooseEnd.text := by
  rw [errorsOf_validate, findingsOf, allLooseEnds, List.map_flatMap, List.map_flatMap]
  simp only [← message_danglingEdges]
  conv_lhs => rw [← List.zipIdx_map_fst 0 w.steps, List.flatMap_map]

/-- What a report says about the ids and the edges of a workflow. -/
structure DeclarationsReported (w : Workflow) : Prop where
  repeated : ∃ ids : List String,
    w.validate.errorsOf .duplicate = ids.map (fun id => s!"Duplicate step id '{id}'") ∧
    Repeats (w.steps.map Step.id) ids
  dangling : ∃ ends : List LooseEnd,
    w.validate.errorsOf .dangling = ends.map LooseEnd.text ∧
    (∀ e, e ∈ ends ↔ e.Of w) ∧ ends.Pairwise LooseEnd.Before

/-- Every repeated id and every dangling edge is reported once, whatever else is reported. -/
theorem declarations_reported (w : Workflow) : w.DeclarationsReported := by
  constructor
  · refine ⟨repeatedIds ∅ ∅ (w.steps.map Step.id), ?_, repeats_repeatedIds _⟩
    rw [errorsOf_validate, findingsOf, duplicateFindings, List.map_map]
    rfl
  · exact ⟨w.allLooseEnds, w.errorsOf_dangling_eq, fun _ => mem_allLooseEnds,
      w.pairwise_allLooseEnds⟩

example : repeatedIds ∅ ∅ ["ask", "check", "check", "ask", "check"] = ["check", "ask"] := by cbv

end Workflow

end Stepwise
