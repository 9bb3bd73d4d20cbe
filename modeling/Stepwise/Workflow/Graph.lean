import Std.Data.HashMap
import Std.Data.HashSet
import Stepwise.Workflow.Basic

/-! # The graph of a workflow -/

namespace Stepwise

/-- The successors of every id, and the ids in the order of their first declaration. -/
structure Graph where
  edges : Std.HashMap String (List String)
  order : List String

namespace Graph

def declared (w : Workflow) : Std.HashSet String :=
  w.steps.foldl (fun ids s => ids.insert s.id) ∅

/-- Adds a step that is not there yet. -/
def addStep (ids : Std.HashSet String) (g : Graph) (s : Step) : Graph :=
  if g.edges.contains s.id then g
  else ⟨g.edges.insert s.id (s.outgoing.filter ids.contains), s.id :: g.order⟩

def ofWorkflow (w : Workflow) : Graph :=
  let g := w.steps.foldl (addStep (declared w)) ⟨∅, []⟩
  { g with order := g.order.reverse }

def successors (g : Graph) (id : String) : List String := g.edges.getD id []

def edgeCount (g : Graph) (ids : List String) : Nat := (ids.flatMap g.successors).length

/-- A search looks at every edge once and leaves every id once. -/
def searchBound (g : Graph) : Nat := g.order.length + g.edgeCount g.order

/-! ## Cycles -/

/-- An id on the path of a search, and the successors that are still to be looked at. -/
structure Frame where
  id : String
  todo : List String

/-- A depth-first search. The frames form the path from the last id back to the entry. An id is
marked `true` as long as it is on the path, and `false` after that. -/
structure Search where
  marks : Std.HashMap String Bool
  frames : List Frame
  cycles : List (List String)

/-- The part of the path that `next` closes to a cycle, from `next` to `next`. -/
def closedPath (frames : List Frame) (next : String) : List String :=
  let tail := (frames.map Frame.id).takeWhile (· != next)
  next :: tail.reverse ++ [next]

/-- One step: look at one edge of the last id, or leave that id. -/
def Search.step (g : Graph) (s : Search) : Search :=
  match s.frames with
  | [] => s
  | ⟨id, []⟩ :: rest => { s with marks := s.marks.insert id false, frames := rest }
  | ⟨id, next :: todo⟩ :: rest =>
    let frames := ⟨id, todo⟩ :: rest
    match s.marks[next]? with
    | some true => { s with frames, cycles := closedPath frames next :: s.cycles }
    | some false => { s with frames }
    | none =>
      { s with marks := s.marks.insert next true, frames := ⟨next, g.successors next⟩ :: frames }

/-- Searches until the path is empty. -/
def Search.run (g : Graph) : Nat → Search → Search
  | 0, s => s
  | n + 1, s =>
    match s.frames with
    | [] => s
    | _ :: _ => Search.run g n (s.step g)

def Search.start (g : Graph) (entry : String) : Search :=
  ⟨(∅ : Std.HashMap String Bool).insert entry true, [⟨entry, g.successors entry⟩], []⟩

/-- The cycles that a search from the entry closes, in the order it finds them. -/
def cycles (g : Graph) (entry : String) : List (List String) :=
  (Search.run g g.searchBound (Search.start g entry)).cycles.reverse

/-! ## Reachability -/

/-- Ids that were reached, and those of them whose successors are still to be looked at. -/
structure Spread where
  reached : Std.HashSet String
  todo : List String

def Spread.visit (s : Spread) (id : String) : Spread :=
  if s.reached.contains id then s else ⟨s.reached.insert id, id :: s.todo⟩

/-- Looks at the successors of reached ids until none is left. -/
def Spread.run (g : Graph) : Nat → Spread → Spread
  | 0, s => s
  | n + 1, s =>
    match s.todo with
    | [] => s
    | id :: rest => Spread.run g n ((g.successors id).foldl Spread.visit { s with todo := rest })

/-- The ids that a path leads to from the entry. -/
def reachable (g : Graph) (entry : String) : Std.HashSet String :=
  (Spread.run g g.order.length ⟨(∅ : Std.HashSet String).insert entry, [entry]⟩).reached

/-- The ids that no path leads to, in the order of their first declaration. -/
def unreachable (g : Graph) (entry : String) : List String :=
  let reached := g.reachable entry
  g.order.filter fun id => !reached.contains id

end Graph

end Stepwise
