import Mathlib.Data.List.Chain
import Stepwise.Proofs.Graph.Declared

/-! # Cycles -/

namespace Stepwise

open Relation

namespace Graph

/-- A way along edges back to its start that passes no id twice. -/
structure IsCycle (g : Graph) (path : List String) : Prop where
  chain : path.IsChain g.Edge
  closed : ∃ v middle, path = v :: middle ++ [v] ∧ (v :: middle).Nodup

theorem transGen_of_isChain {g : Graph} {a b : String} {middle : List String}
    (h : (a :: middle ++ [b]).IsChain g.Edge) : TransGen g.Edge a b := by
  induction middle generalizing a with
  | nil => exact .single (List.isChain_pair.mp h)
  | cons c rest ih =>
    rw [List.cons_append, List.cons_append, List.isChain_cons_cons] at h
    exact (ih h.2).head h.1

theorem IsCycle.transGen {g : Graph} {path : List String} (h : g.IsCycle path) :
    ∃ v, path.head? = some v ∧ TransGen g.Edge v v := by
  obtain ⟨v, middle, rfl, -⟩ := h.closed
  exact ⟨v, rfl, transGen_of_isChain h.chain⟩

theorem takeWhile_ne_append {before after : List String} {v : String} (h : v ∉ before) :
    (before ++ v :: after).takeWhile (· != v) = before := by
  have hbefore : ∀ x ∈ before, (x != v) = true := fun x hx =>
    bne_iff_ne.mpr fun hxv => h (hxv ▸ hx)
  rw [List.takeWhile_append_of_pos hbefore, List.takeWhile_cons_of_neg (by simp), List.append_nil]

/-- The frames are a path to the last id, so an edge back into them closes a cycle. -/
theorem isCycle_closedPath {g : Graph} {frames : List Frame} {next : String}
    (hchain : (frames.map Frame.id).IsChain fun b a => g.Edge a b)
    (hnodup : (frames.map Frame.id).Nodup) (hmem : next ∈ frames.map Frame.id)
    (hedge : ∀ id ∈ (frames.map Frame.id).head?, g.Edge id next) :
    g.IsCycle (closedPath frames next) := by
  obtain ⟨before, after, hids⟩ := List.append_of_mem hmem
  rw [hids] at hchain hnodup hedge
  have hnot : next ∉ before := fun h => (List.nodup_append.mp hnodup).2.2 _ h _ List.mem_cons_self rfl
  have hpath : closedPath frames next = (before ++ [next]).reverse ++ [next] := by
    rw [closedPath, hids, takeWhile_ne_append hnot, List.reverse_append]
    rfl
  have hsub : before ++ [next] <+: before ++ next :: after := ⟨after, by simp⟩
  refine ⟨?_, next, before.reverse, by rw [hpath, List.reverse_append]; rfl, ?_⟩
  · have hbefore := List.IsChain.prefix hchain hsub
    rw [hpath]
    refine (List.isChain_reverse.mpr hbefore).append (List.isChain_singleton _) ?_
    intro x hx y hy
    obtain rfl : next = y := by simpa using hy
    apply hedge x
    rw [List.getLast?_reverse] at hx
    cases before with
    | nil => exact hx
    | cons b rest => exact hx
  · have hperm : (before ++ [next]).Perm (next :: before.reverse) :=
      List.perm_append_singleton _ _ |>.trans ((List.reverse_perm _).symm.cons _)
    exact hperm.nodup_iff.mp (hnodup.sublist hsub.sublist)

namespace Search

/-! ## What a search keeps -/

/-- The edges of frames that were looked at lead to marked ids, and not back into the path. -/
def Clear (g : Graph) (marks : Std.HashMap String Bool) : List Frame → Prop
  | [] => True
  | f :: rest =>
    (∀ b, g.Edge f.id b → b ∈ f.todo ∨ (marks[b]? ≠ none ∧ b ∉ (f :: rest).map Frame.id)) ∧
      Clear g marks rest

/-- As long as no cycle is found, no infinite way starts at an id that was left. -/
structure Settled (g : Graph) (s : Search) : Prop where
  clear : Clear g s.marks s.frames
  left : ∀ {id : String}, s.marks[id]? = some false → Acc (fun b a => g.Edge a b) id

/-- The ids of the path from its end, which are those marked `true`. -/
structure Trail (g : Graph) (marks : Std.HashMap String Bool) (ids : List String) : Prop where
  chain : ids.IsChain fun b a => g.Edge a b
  nodup : ids.Nodup
  marked : ∀ {id : String}, marks[id]? = some true ↔ id ∈ ids

structure Inv (g : Graph) (entry : String) (s : Search) : Prop where
  entered : s.marks[entry]? ≠ none
  reached : ∀ {id : String}, s.marks[id]? ≠ none → ReflTransGen g.Edge entry id
  trail : Trail g s.marks (s.frames.map Frame.id)
  todo : ∀ f ∈ s.frames, ∀ b ∈ f.todo, g.Edge f.id b
  found : ∀ path ∈ s.cycles, g.IsCycle path ∧ ∀ v ∈ path.head?, ReflTransGen g.Edge entry v
  settled : s.cycles = [] → s.Settled g

theorem Clear.mono {g : Graph} {marks marks' : Std.HashMap String Bool} {frames : List Frame}
    (h : Clear g marks frames) (hm : ∀ id : String, marks[id]? ≠ none → marks'[id]? ≠ none) :
    Clear g marks' frames := by
  induction frames with
  | nil => trivial
  | cons f rest ih =>
    refine ⟨fun b hb => ?_, ih h.2⟩
    exact (h.1 b hb).imp_right fun hmarked => ⟨hm b hmarked.1, hmarked.2⟩

theorem Clear.advance {g : Graph} {marks : Std.HashMap String Bool} {id next : String}
    {todo : List String} {rest : List Frame} (h : Clear g marks (⟨id, next :: todo⟩ :: rest))
    (hmarked : marks[next]? ≠ none) (hoff : next ∉ id :: rest.map Frame.id) :
    Clear g marks (⟨id, todo⟩ :: rest) := by
  refine ⟨fun b hb => ?_, h.2⟩
  rcases h.1 b hb with htodo | hdone
  · rcases List.mem_cons.mp htodo with rfl | htodo
    · exact Or.inr ⟨hmarked, hoff⟩
    · exact Or.inl htodo
  · exact Or.inr hdone

theorem insert_ne_none {marks : Std.HashMap String Bool} {a id : String} {mark : Bool}
    (h : marks[id]? ≠ none) : (marks.insert a mark)[id]? ≠ none := by
  rw [Std.HashMap.getElem?_insert]
  split
  · exact Option.some_ne_none _
  · exact h

theorem Trail.leave {g : Graph} {marks : Std.HashMap String Bool} {id : String}
    {ids : List String} (h : Trail g marks (id :: ids)) : Trail g (marks.insert id false) ids where
  chain := h.chain.tail
  nodup := (List.nodup_cons.mp h.nodup).2
  marked {x} := by
    rw [Std.HashMap.getElem?_insert]
    by_cases hx : id = x
    · subst hx
      simpa using (List.nodup_cons.mp h.nodup).1
    · rw [if_neg (by simpa using hx), h.marked, List.mem_cons, or_iff_right (Ne.symm hx)]

theorem Trail.enter {g : Graph} {marks : Std.HashMap String Bool} {id next : String}
    {ids : List String} (h : Trail g marks (id :: ids)) (hnext : marks[next]? = none)
    (hedge : g.Edge id next) : Trail g (marks.insert next true) (next :: id :: ids) where
  chain := List.isChain_cons_cons.mpr ⟨hedge, h.chain⟩
  nodup := by
    refine List.nodup_cons.mpr ⟨fun hmem => ?_, h.nodup⟩
    have hmark := h.marked.mpr hmem
    rw [hnext] at hmark
    exact absurd hmark (by simp)
  marked {x} := by
    rw [Std.HashMap.getElem?_insert, List.mem_cons]
    by_cases hx : next = x
    · simp [hx]
    · rw [if_neg (by simpa using hx), h.marked, or_iff_right (Ne.symm hx)]

theorem Inv.init (g : Graph) (entry : String) : Inv g entry (start g entry) where
  entered := by
    rw [start, Std.HashMap.getElem?_insert_self]
    exact Option.some_ne_none _
  reached {id} h := by
    rw [start, Std.HashMap.getElem?_insert, Std.HashMap.getElem?_empty] at h
    split at h
    · rename_i hid
      rw [beq_iff_eq.mp hid]
    · exact absurd rfl h
  trail := by
    refine ⟨List.isChain_singleton _, List.nodup_singleton _, fun {id} => ?_⟩
    rw [start, Std.HashMap.getElem?_insert, Std.HashMap.getElem?_empty, List.map_singleton,
      List.mem_singleton]
    by_cases hid : entry = id
    · rw [if_pos (beq_iff_eq.mpr hid)]
      exact iff_of_true rfl hid.symm
    · rw [if_neg (by simpa using hid)]
      exact iff_of_false nofun (Ne.symm hid)
  todo f hf b hb := by
    rw [List.mem_singleton.mp hf] at hb ⊢
    exact hb
  found _ h := absurd h List.not_mem_nil
  settled _ := by
    refine ⟨⟨fun b hb => Or.inl hb, trivial⟩, fun {id} h => ?_⟩
    rw [start, Std.HashMap.getElem?_insert, Std.HashMap.getElem?_empty] at h
    split at h <;> simp at h

/-! ## One step, case by case -/

section Step

variable {g : Graph} {entry id next : String} {s : Search} {todo : List String} {rest : List Frame}

theorem Inv.trail_of_frames (h : s.Inv g entry) (hf : s.frames = ⟨id, todo⟩ :: rest) :
    Trail g s.marks (id :: rest.map Frame.id) := by
  have htrail := h.trail
  rw [hf] at htrail
  exact htrail

theorem Inv.todo_advance (h : s.Inv g entry) (hf : s.frames = ⟨id, next :: todo⟩ :: rest) :
    ∀ f ∈ (⟨id, todo⟩ :: rest : List Frame), ∀ b ∈ f.todo, g.Edge f.id b := by
  intro f hmem b hb
  rcases List.mem_cons.mp hmem with rfl | hmem
  · exact h.todo ⟨id, next :: todo⟩ (by rw [hf]; exact List.mem_cons_self) b
      (List.mem_cons_of_mem _ hb)
  · exact h.todo f (by rw [hf]; exact List.mem_cons_of_mem _ hmem) b hb

theorem Inv.edge_next (h : s.Inv g entry) (hf : s.frames = ⟨id, next :: todo⟩ :: rest) :
    g.Edge id next :=
  h.todo ⟨id, next :: todo⟩ (by rw [hf]; exact List.mem_cons_self) next List.mem_cons_self

theorem Inv.reached_top (h : s.Inv g entry) (hf : s.frames = ⟨id, todo⟩ :: rest) :
    ReflTransGen g.Edge entry id := by
  apply h.reached
  rw [(h.trail_of_frames hf).marked.mpr List.mem_cons_self]
  exact Option.some_ne_none _

theorem Inv.leave (h : s.Inv g entry) (hf : s.frames = ⟨id, []⟩ :: rest) :
    Inv g entry { s with marks := s.marks.insert id false, frames := rest } where
  entered := insert_ne_none h.entered
  reached {x} hx := by
    rw [Std.HashMap.getElem?_insert] at hx
    split at hx
    · rename_i hid
      rw [← beq_iff_eq.mp hid]
      exact h.reached_top hf
    · exact h.reached hx
  trail := (h.trail_of_frames hf).leave
  todo f hmem := h.todo f (by rw [hf]; exact List.mem_cons_of_mem _ hmem)
  found := h.found
  settled hnone := by
    obtain ⟨hclear, hleft⟩ := h.settled hnone
    rw [hf] at hclear
    refine ⟨hclear.2.mono fun _ => insert_ne_none, fun {x} hx => ?_⟩
    rw [Std.HashMap.getElem?_insert] at hx
    split at hx
    · rename_i hid
      rw [← beq_iff_eq.mp hid]
      refine Acc.intro _ fun b hb => ?_
      -- Every successor is marked and off the path, so it was left before.
      obtain ⟨hmarked, hoff⟩ := (hclear.1 b hb).resolve_left List.not_mem_nil
      apply hleft
      cases hmark : s.marks[b]? with
      | none => exact absurd hmark hmarked
      | some mark =>
        cases mark with
        | false => rfl
        | true => exact absurd ((h.trail_of_frames hf).marked.mp hmark) hoff
    · exact hleft hx

theorem Inv.skip (h : s.Inv g entry) (hf : s.frames = ⟨id, next :: todo⟩ :: rest)
    (hmark : s.marks[next]? = some false) :
    Inv g entry { s with frames := ⟨id, todo⟩ :: rest } where
  entered := h.entered
  reached := h.reached
  trail := h.trail_of_frames hf
  todo := h.todo_advance hf
  found := h.found
  settled hnone := by
    obtain ⟨hclear, hleft⟩ := h.settled hnone
    rw [hf] at hclear
    refine ⟨hclear.advance (by rw [hmark]; exact Option.some_ne_none _) fun hmem => ?_, hleft⟩
    have hpath := (h.trail_of_frames hf).marked.mpr hmem
    rw [hmark] at hpath
    exact absurd hpath (by simp)

theorem Inv.close (h : s.Inv g entry) (hf : s.frames = ⟨id, next :: todo⟩ :: rest)
    (hmark : s.marks[next]? = some true) :
    Inv g entry { s with
      frames := ⟨id, todo⟩ :: rest
      cycles := closedPath (⟨id, todo⟩ :: rest) next :: s.cycles } where
  entered := h.entered
  reached := h.reached
  trail := h.trail_of_frames hf
  todo := h.todo_advance hf
  found path hpath := by
    rcases List.mem_cons.mp hpath with rfl | hpath
    · have htrail := h.trail_of_frames hf
      constructor
      · refine isCycle_closedPath htrail.chain htrail.nodup
          (htrail.marked.mp hmark) fun x hx => ?_
        obtain rfl : id = x := by simpa using hx
        exact h.edge_next hf
      · intro v hv
        obtain rfl : next = v := by simpa [closedPath] using hv
        exact (h.reached_top hf).tail (h.edge_next hf)
    · exact h.found path hpath
  settled hnone := absurd hnone (List.cons_ne_nil _ _)

theorem Inv.enter (h : s.Inv g entry) (hf : s.frames = ⟨id, next :: todo⟩ :: rest)
    (hmark : s.marks[next]? = none) :
    Inv g entry { s with
      marks := s.marks.insert next true
      frames := ⟨next, g.successors next⟩ :: ⟨id, todo⟩ :: rest } where
  entered := insert_ne_none h.entered
  reached {x} hx := by
    rw [Std.HashMap.getElem?_insert] at hx
    split at hx
    · rename_i hid
      rw [← beq_iff_eq.mp hid]
      exact (h.reached_top hf).tail (h.edge_next hf)
    · exact h.reached hx
  trail := (h.trail_of_frames hf).enter hmark (h.edge_next hf)
  todo f hmem := by
    rcases List.mem_cons.mp hmem with rfl | hmem
    · exact fun b hb => hb
    · exact h.todo_advance hf f hmem
  found := h.found
  settled hnone := by
    obtain ⟨hclear, hleft⟩ := h.settled hnone
    rw [hf] at hclear
    have htrail := (h.trail_of_frames hf).enter hmark (h.edge_next hf)
    refine ⟨⟨fun b hb => Or.inl hb, ?_⟩, fun {x} hx => ?_⟩
    · refine (hclear.mono fun _ => insert_ne_none).advance ?_ (List.nodup_cons.mp htrail.nodup).1
      rw [Std.HashMap.getElem?_insert_self]
      exact Option.some_ne_none _
    · rw [Std.HashMap.getElem?_insert] at hx
      split at hx
      · exact absurd hx (by simp)
      · exact hleft hx

theorem Inv.step (h : s.Inv g entry) : (s.step g).Inv g entry := by
  unfold Search.step
  split
  · exact h
  · rename_i hf
    exact h.leave hf
  · rename_i hf
    dsimp only
    split
    · rename_i hmark
      exact h.close hf hmark
    · rename_i hmark
      exact h.skip hf hmark
    · rename_i hmark
      exact h.enter hf hmark

end Step

theorem Inv.run {g : Graph} {entry : String} {s : Search} (n : Nat) (h : s.Inv g entry) :
    (run g n s).Inv g entry := by
  induction n generalizing s with
  | zero => exact h
  | succ n ih =>
    unfold Search.run
    split
    · exact h
    · exact ih h.step

/-! ## The bound -/

/-- The ids and edges on the path and off it that are still to be left and looked at. -/
def work (g : Graph) (s : Search) : Nat :=
  let unmarked := g.remaining s.marks.contains
  s.frames.length + (s.frames.flatMap Frame.todo).length + unmarked.length + g.edgeCount unmarked

theorem edgeCount_cons (g : Graph) (id : String) (ids : List String) :
    g.edgeCount (id :: ids) = (g.successors id).length + g.edgeCount ids := by
  rw [edgeCount, List.flatMap_cons, List.length_append, edgeCount]

theorem edgeCount_perm (g : Graph) {ids ids' : List String} (h : ids.Perm ids') :
    g.edgeCount ids = g.edgeCount ids' := (h.flatMap_right _).length_eq

/-- Marking a new id takes it and its edges away from the work off the path. -/
theorem work_unmarked {g : Graph} (hg : g.WellFormed) {marks : Std.HashMap String Bool}
    {id : String} (mark : Bool) (hid : id ∈ g.order) (hmark : marks[id]? = none) :
    (g.remaining marks.contains).length + g.edgeCount (g.remaining marks.contains) =
      (g.remaining (marks.insert id mark).contains).length +
        g.edgeCount (g.remaining (marks.insert id mark).contains) +
        (g.successors id).length + 1 := by
  have hfresh : marks.contains id = false := by
    rw [Std.HashMap.contains_eq_isSome_getElem?, hmark]
    rfl
  have hperm := hg.remaining_perm marks.contains (marks.insert id mark).contains hid hfresh
    fun _ => Std.HashMap.contains_insert
  rw [hperm.length_eq, edgeCount_perm g hperm, edgeCount_cons, List.length_cons]
  omega

theorem remaining_insert_marked {g : Graph} {marks : Std.HashMap String Bool} {id : String}
    {mark : Bool} (hmark : marks.contains id = true) :
    g.remaining (marks.insert id mark).contains = g.remaining marks.contains := by
  apply List.filter_congr
  intro x _
  rw [Std.HashMap.contains_insert]
  by_cases hx : id = x
  · rw [← hx, hmark, Bool.or_true]
  · rw [beq_eq_false_iff_ne.mpr hx, Bool.false_or]

theorem work_step {g : Graph} (hg : g.WellFormed) {entry : String} {s : Search}
    (h : s.Inv g entry) (hne : s.frames ≠ []) : (s.step g).work g + 1 = s.work g := by
  unfold Search.step
  split
  · rename_i hf
    exact absurd hf hne
  · rename_i id rest hf
    have hmark : s.marks.contains id = true := by
      rw [Std.HashMap.contains_eq_isSome_getElem?,
        (h.trail_of_frames hf).marked.mpr List.mem_cons_self]
      rfl
    simp only [work, hf, remaining_insert_marked hmark, List.length_cons, List.flatMap_cons,
      List.nil_append]
    omega
  · rename_i id next todo rest hf
    dsimp only
    split
    · simp only [work, hf, List.length_cons, List.flatMap_cons, List.length_append]
      omega
    · simp only [work, hf, List.length_cons, List.flatMap_cons, List.length_append]
      omega
    · rename_i hmark
      have hunmarked := work_unmarked hg true (hg.edge (h.edge_next hf)).2 hmark
      simp only [work, hf, List.length_cons, List.flatMap_cons, List.length_append]
      omega

theorem frames_run {g : Graph} (hg : g.WellFormed) {entry : String} {n : Nat} {s : Search}
    (h : s.Inv g entry) (hn : s.work g ≤ n) : (run g n s).frames = [] := by
  induction n generalizing s with
  | zero =>
    have hlen : s.frames.length = 0 := by
      simp only [work] at hn
      omega
    exact List.length_eq_zero_iff.mp hlen
  | succ n ih =>
    unfold Search.run
    split
    · rename_i hf
      exact hf
    · rename_i hf
      have hstep := work_step hg h (by rw [hf]; exact List.cons_ne_nil _ _)
      exact ih h.step (by omega)

theorem work_start {g : Graph} (hg : g.WellFormed) {entry : String} (hentry : entry ∈ g.order) :
    (start g entry).work g = g.searchBound := by
  have hempty : g.remaining (∅ : Std.HashMap String Bool).contains = g.order := by
    simp [remaining]
  have hunmarked := work_unmarked hg true hentry
    (Std.HashMap.getElem?_empty : (∅ : Std.HashMap String Bool)[entry]? = none)
  rw [hempty] at hunmarked
  simp only [work, start, searchBound, List.length_cons, List.length_nil, List.flatMap_cons,
    List.flatMap_nil, List.append_nil] at hunmarked ⊢
  omega

end Search

/-! ## The result -/

theorem isCycle_of_mem_cycles {g : Graph} {entry : String} {path : List String}
    (h : path ∈ g.cycles entry) :
    g.IsCycle path ∧ ∀ v ∈ path.head?, ReflTransGen g.Edge entry v :=
  ((Search.Inv.init g entry).run _).found path (List.mem_reverse.mp h)

theorem not_transGen_of_acc {g : Graph} {a v : String} (h : Acc (fun b a => g.Edge a b) a)
    (hav : ReflTransGen g.Edge a v) : ¬ TransGen g.Edge v v := by
  induction h generalizing v with
  | intro a _ ih =>
    rcases hav.cases_head with rfl | ⟨b, hab, hbv⟩
    · intro hloop
      obtain ⟨b, hab, hba⟩ := TransGen.head'_iff.mp hloop
      exact ih b hab .refl (.tail' hba hab)
    · exact ih b hab hbv

theorem not_transGen_of_cycles_eq_nil {g : Graph} (hg : g.WellFormed) {entry v : String}
    (hentry : entry ∈ g.order) (hnone : g.cycles entry = [])
    (hreach : ReflTransGen g.Edge entry v) : ¬ TransGen g.Edge v v := by
  have hinv := (Search.Inv.init g entry).run g.searchBound
  have hframes := Search.frames_run hg (Search.Inv.init g entry) (Search.work_start hg hentry).le
  have hsettled := hinv.settled (List.reverse_eq_nil_iff.mp hnone)
  apply not_transGen_of_acc _ hreach
  -- The path is empty at the end, so the entry was left.
  have hoff : _ ↔ entry ∈ _ := hinv.trail.marked
  rw [hframes, List.map_nil] at hoff
  cases hmark : (Search.run g g.searchBound (Search.start g entry)).marks[entry]? with
  | none => exact absurd hmark hinv.entered
  | some mark =>
    cases mark with
    | false => exact hsettled.left hmark
    | true => exact absurd (hoff.mp hmark) List.not_mem_nil

theorem cycles_eq_nil_iff {g : Graph} (hg : g.WellFormed) {entry : String}
    (hentry : entry ∈ g.order) :
    g.cycles entry = [] ↔ ∀ v, ReflTransGen g.Edge entry v → ¬ TransGen g.Edge v v := by
  constructor
  · exact fun hnone v => not_transGen_of_cycles_eq_nil hg hentry hnone
  · intro hacyclic
    apply List.eq_nil_iff_forall_not_mem.mpr
    intro path hpath
    obtain ⟨hcycle, hreach⟩ := isCycle_of_mem_cycles hpath
    obtain ⟨v, hv, hloop⟩ := hcycle.transGen
    exact hacyclic v (hreach v hv) hloop

end Graph

end Stepwise
