import Stepwise.Proofs.Graph.Declared

/-! # Reachability -/

namespace Stepwise

open Relation

namespace Graph

namespace Spread

/-! ## Looking at the successors of one id -/

theorem contains_visit (s : Spread) (a id : String) :
    (s.visit a).reached.contains id = (a == id || s.reached.contains id) := by
  unfold visit
  split
  · rename_i h
    by_cases hid : a = id
    · rw [← hid, h, Bool.or_true]
    · rw [beq_eq_false_iff_ne.mpr hid, Bool.false_or]
  · exact Std.HashSet.contains_insert

theorem mem_todo_visit {s : Spread} {a id : String} :
    id ∈ (s.visit a).todo ↔ id ∈ s.todo ∨ (id = a ∧ s.reached.contains id = false) := by
  unfold visit
  split
  · rename_i h
    constructor
    · exact Or.inl
    · rintro (hid | ⟨rfl, hnot⟩)
      · exact hid
      · exact absurd h (by rw [hnot]; exact Bool.false_ne_true)
  · rename_i h
    rw [List.mem_cons]
    constructor
    · rintro (rfl | hid)
      · exact Or.inr ⟨rfl, by simpa using h⟩
      · exact Or.inl hid
    · rintro (hid | ⟨hid, -⟩)
      · exact Or.inr hid
      · exact Or.inl hid

theorem contains_foldl_visit {s : Spread} {ids : List String} {id : String} :
    (ids.foldl visit s).reached.contains id = true ↔ s.reached.contains id = true ∨ id ∈ ids := by
  induction ids generalizing s with
  | nil => simp
  | cons a rest ih =>
    rw [List.foldl_cons, ih, contains_visit, List.mem_cons, Bool.or_eq_true, beq_iff_eq]
    tauto

theorem mem_todo_foldl_visit {s : Spread} {ids : List String} {id : String} :
    id ∈ (ids.foldl visit s).todo ↔ id ∈ s.todo ∨ (id ∈ ids ∧ s.reached.contains id = false) := by
  induction ids generalizing s with
  | nil => simp
  | cons a rest ih =>
    rw [List.foldl_cons, ih, mem_todo_visit, contains_visit, List.mem_cons]
    by_cases hid : id = a
    · subst hid
      simp only [BEq.rfl, Bool.true_or, Bool.true_eq_false, and_false, or_false, true_and, true_or]
    · have hne : (a == id) = false := beq_eq_false_iff_ne.mpr (Ne.symm hid)
      simp only [hid, hne, Bool.false_or, false_and, or_false, false_or]

/-! ## The loop -/

/-- What was reached is reachable, and what was left behind leads only to what was reached. -/
structure Inv (g : Graph) (entry : String) (s : Spread) : Prop where
  start : s.reached.contains entry = true
  sound : ∀ {id}, s.reached.contains id = true → ReflTransGen g.Edge entry id
  todo : ∀ {id}, id ∈ s.todo → s.reached.contains id = true
  closed : ∀ {a b}, s.reached.contains a = true → a ∉ s.todo → g.Edge a b →
    s.reached.contains b = true

theorem Inv.init (g : Graph) (entry : String) :
    Inv g entry ⟨(∅ : Std.HashSet String).insert entry, [entry]⟩ where
  start := Std.HashSet.contains_insert_self
  sound h := by
    rw [Std.HashSet.contains_insert, Std.HashSet.contains_empty, Bool.or_false, beq_iff_eq] at h
    rw [h]
  todo h := by
    rw [List.mem_singleton.mp h]
    exact Std.HashSet.contains_insert_self
  closed h hnot _ := by
    rw [Std.HashSet.contains_insert, Std.HashSet.contains_empty, Bool.or_false, beq_iff_eq] at h
    exact absurd (List.mem_singleton.mpr h.symm) hnot

theorem Inv.next {g : Graph} {entry id : String} {s : Spread} {rest : List String}
    (h : s.Inv g entry) (htodo : s.todo = id :: rest) :
    ((g.successors id).foldl visit { s with todo := rest }).Inv g entry where
  start := contains_foldl_visit.mpr (Or.inl h.start)
  sound hid := by
    rcases contains_foldl_visit.mp hid with hold | hnew
    · exact h.sound hold
    · have hreach := h.sound (h.todo (by rw [htodo]; exact List.mem_cons_self))
      exact hreach.tail hnew
  todo hid := by
    rw [contains_foldl_visit]
    rcases mem_todo_foldl_visit.mp hid with hold | ⟨hnew, -⟩
    · exact Or.inl (h.todo (by rw [htodo]; exact List.mem_cons_of_mem _ hold))
    · exact Or.inr hnew
  closed {a b} ha hnot hedge := by
    rw [contains_foldl_visit] at ha ⊢
    rw [mem_todo_foldl_visit, not_or] at hnot
    have hold : s.reached.contains a = true := by
      rcases ha with hold | hnew
      · exact hold
      · by_contra hfresh
        exact hnot.2 ⟨hnew, by simpa using hfresh⟩
    by_cases hid : a = id
    · exact Or.inr (hid ▸ hedge)
    · left
      apply h.closed hold _ hedge
      rw [htodo, List.mem_cons, not_or]
      exact ⟨hid, hnot.1⟩

theorem Inv.run {g : Graph} {entry : String} {s : Spread} (n : Nat) (h : s.Inv g entry) :
    (run g n s).Inv g entry := by
  induction n generalizing s with
  | zero => exact h
  | succ n ih =>
    unfold Spread.run
    split
    · exact h
    · rename_i htodo
      exact ih (h.next htodo)

/-! ## The bound -/

/-- How many ids are still to be looked at. Looking at one of them makes it less. -/
def pending (g : Graph) (s : Spread) : Nat :=
  s.todo.length + (g.remaining s.reached.contains).length

theorem pending_visit {g : Graph} (hg : g.WellFormed) (s : Spread) {id : String}
    (hid : id ∈ g.order) : (s.visit id).pending g = s.pending g := by
  unfold visit
  split
  · rfl
  · rename_i h
    have hperm := hg.remaining_perm s.reached.contains (s.reached.insert id).contains hid
      (Bool.eq_false_iff.mpr h) fun _ => Std.HashSet.contains_insert
    have hlen := hperm.length_eq
    simp only [pending, List.length_cons] at hlen ⊢
    omega

theorem pending_foldl_visit {g : Graph} (hg : g.WellFormed) (s : Spread) {ids : List String}
    (hids : ∀ id ∈ ids, id ∈ g.order) : (ids.foldl visit s).pending g = s.pending g := by
  induction ids generalizing s with
  | nil => rfl
  | cons a rest ih =>
    rw [List.foldl_cons, ih _ fun id h => hids id (List.mem_cons_of_mem _ h),
      pending_visit hg s (hids a List.mem_cons_self)]

theorem todo_run {g : Graph} (hg : g.WellFormed) {n : Nat} {s : Spread} (hn : s.pending g ≤ n) :
    (run g n s).todo = [] := by
  induction n generalizing s with
  | zero =>
    have hlen : s.todo.length = 0 := by
      unfold pending at hn
      omega
    exact List.length_eq_zero_iff.mp hlen
  | succ n ih =>
    unfold Spread.run
    split
    · rename_i htodo
      exact htodo
    · rename_i id rest htodo
      apply ih
      rw [pending_foldl_visit hg _ fun b hb => (hg.edge hb).2]
      simp only [pending, htodo, List.length_cons] at hn ⊢
      omega

end Spread

/-! ## The result -/

theorem todo_reachable {g : Graph} (hg : g.WellFormed) {entry : String} (hentry : entry ∈ g.order) :
    (Spread.run g g.order.length ⟨(∅ : Std.HashSet String).insert entry, [entry]⟩).todo = [] := by
  apply Spread.todo_run hg
  -- The entry is to be looked at, and all other ids are not reached yet.
  have hlen := (hg.remaining_perm (fun _ => false)
    ((∅ : Std.HashSet String).insert entry).contains hentry rfl
    fun _ => by rw [Std.HashSet.contains_insert, Std.HashSet.contains_empty]).length_eq
  have hall : (g.remaining fun _ => false).length = g.order.length := by simp [remaining]
  simp only [Spread.pending, List.length_cons, List.length_nil] at hlen ⊢
  omega

theorem contains_reachable {g : Graph} (hg : g.WellFormed) {entry : String}
    (hentry : entry ∈ g.order) {id : String} :
    (g.reachable entry).contains id = true ↔ ReflTransGen g.Edge entry id := by
  have hinv := (Spread.Inv.init g entry).run g.order.length
  have hdone := todo_reachable hg hentry
  constructor
  · exact hinv.sound
  · intro hpath
    induction hpath with
    | refl => exact hinv.start
    | tail _ hedge ih => exact hinv.closed ih (by rw [hdone]; exact List.not_mem_nil) hedge

theorem mem_unreachable {g : Graph} (hg : g.WellFormed) {entry : String}
    (hentry : entry ∈ g.order) {id : String} :
    id ∈ g.unreachable entry ↔ id ∈ g.order ∧ ¬ ReflTransGen g.Edge entry id := by
  rw [unreachable, List.mem_filter, ← contains_reachable hg hentry, Bool.not_eq_true',
    Bool.not_eq_true]

end Graph

end Stepwise
