import Mathlib.Data.List.Induction
import Stepwise.Handler.Registry
import Stepwise.Proofs.Named

/-! # What a registry finds -/

namespace Stepwise

namespace Registry

variable {σ : Type}

theorem get?_register (r : Registry σ) (stepType name : String) (h : Handler σ) :
    (r.register stepType h).get? name = if stepType = name then some h else r.get? name :=
  r.toTable.get?_insert stepType name h

/-! ## Changes -/

inductive Change (σ : Type) where
  | register (stepType : String) (h : Handler σ)
  | withHandler (stepType : String) (h : Handler σ)
  | unregister (stepType : String)
  | clear

namespace Change

def apply (r : Registry σ) : Change σ → Registry σ
  | register stepType h => r.register stepType h
  | withHandler stepType h => r.withHandler stepType h
  | unregister stepType => (r.unregister stepType).2
  | clear => r.clear

variable {stepType : String} {h h' : Handler σ} {c : Change σ}

/-- The change registers the handler under the type, either way. -/
inductive Registers (stepType : String) (h : Handler σ) : Change σ → Prop where
  | register : Registers stepType h (.register stepType h)
  | withHandler : Registers stepType h (.withHandler stepType h)

inductive Removes (stepType : String) : Change σ → Prop where
  | unregister : Removes stepType (.unregister stepType)
  | clear : Removes stepType .clear

/-- The change is about other types. -/
structure Spares (stepType : String) (c : Change σ) : Prop where
  registers : ∀ h, ¬ c.Registers stepType h
  removes : ¬ c.Removes stepType

theorem Registers.unique (hc : c.Registers stepType h) (hc' : c.Registers stepType h') :
    h = h' := by
  cases hc <;> cases hc' <;> rfl

theorem Registers.not_removes (hc : c.Registers stepType h) : ¬ c.Removes stepType := by
  cases hc <;> nofun

end Change

/-- The registry after these changes to an empty one. -/
def after (changes : List (Change σ)) : Registry σ := changes.foldl Change.apply empty

/-- One of the changes registers the handler, and the ones after it spare the type. -/
def Standing (changes : List (Change σ)) (stepType : String) (h : Handler σ) : Prop :=
  ∃ before c later, changes = before ++ c :: later ∧ c.Registers stepType h ∧
    ∀ d ∈ later, d.Spares stepType

variable {r : Registry σ} {changes : List (Change σ)} {stepType : String} {h : Handler σ}

/-! ### One change -/

theorem get?_unregister (r : Registry σ) (stepType name : String) :
    (r.unregister stepType).2.get? name = if stepType = name then none else r.get? name :=
  r.toTable.get?_erase stepType name

theorem get?_apply (r : Registry σ) (c : Change σ) (stepType : String) :
    (∃ h, c.Registers stepType h ∧ (c.apply r).get? stepType = some h) ∨
      (c.Removes stepType ∧ (c.apply r).get? stepType = none) ∨
      (c.Spares stepType ∧ (c.apply r).get? stepType = r.get? stepType) := by
  cases c with
  | register name h | withHandler name h =>
    have hget := get?_register r name stepType h
    by_cases hname : name = stepType
    · subst hname
      exact Or.inl ⟨h, by constructor, hget.trans (if_pos rfl)⟩
    · refine Or.inr (Or.inr ⟨⟨?_, nofun⟩, hget.trans (if_neg hname)⟩)
      rintro h' ⟨⟩
      exact hname rfl
  | unregister name =>
    have hget := get?_unregister r name stepType
    by_cases hname : name = stepType
    · subst hname
      exact Or.inr (Or.inl ⟨.unregister, hget.trans (if_pos rfl)⟩)
    · refine Or.inr (Or.inr ⟨⟨nofun, ?_⟩, hget.trans (if_neg hname)⟩)
      rintro ⟨⟩
      exact hname rfl
  | clear => exact Or.inr (Or.inl ⟨.clear, rfl⟩)

theorem standing_append_iff {c : Change σ} : Standing (changes ++ [c]) stepType h ↔
    c.Registers stepType h ∨ c.Spares stepType ∧ Standing changes stepType h := by
  constructor
  · rintro ⟨before, d, later, heq, hd, hlater⟩
    rcases List.eq_nil_or_concat later with rfl | ⟨later, x, rfl⟩
    · obtain ⟨-, rfl⟩ := List.append_singleton_inj.mp heq
      exact Or.inl hd
    · rw [List.concat_eq_append, ← List.cons_append, ← List.append_assoc] at heq
      obtain ⟨hchanges, rfl⟩ := List.append_singleton_inj.mp heq
      rw [List.concat_eq_append] at hlater
      exact Or.inr ⟨hlater c (by simp), before, d, later, hchanges, hd,
        fun d hd => hlater d (List.mem_append_left _ hd)⟩
  · rintro (hc | ⟨hc, before, d, later, rfl, hd, hlater⟩)
    · exact ⟨changes, c, [], rfl, hc, nofun⟩
    · refine ⟨before, d, later ++ [c], by simp, hd, fun x hx => ?_⟩
      rcases List.mem_append.mp hx with hx | hx
      · exact hlater x hx
      · rwa [List.mem_singleton.mp hx]

/-! ### Many changes -/

theorem after_append (changes : List (Change σ)) (c : Change σ) :
    after (changes ++ [c]) = c.apply (after changes) := List.foldl_append

theorem get?_after_iff (changes : List (Change σ)) (stepType : String) (h : Handler σ) :
    (after changes).get? stepType = some h ↔ Standing changes stepType h := by
  -- from the end, since the last change decides unless it spares the type
  induction changes using List.reverseRecOn with
  | nil => exact iff_of_false nofun (by rintro ⟨before, c, later, heq, -⟩; simp at heq)
  | append_singleton changes c ih =>
    rw [after_append, standing_append_iff]
    rcases get?_apply (after changes) c stepType with
      ⟨h', hc, hget⟩ | ⟨hc, hget⟩ | ⟨hc, hget⟩
    · rw [hget, Option.some.injEq]
      constructor
      · rintro rfl
        exact Or.inl hc
      · rintro (hc' | ⟨hspares, -⟩)
        · exact hc.unique hc'
        · exact absurd hc (hspares.registers h')
    · rw [hget]
      refine iff_of_false nofun ?_
      rintro (hc' | ⟨hspares, -⟩)
      · exact hc'.not_removes hc
      · exact hspares.removes hc
    · rw [hget, ih, or_iff_right (hc.registers h), and_iff_right hc]

/-! ## What a registry tells of itself -/

theorem has_iff : r.has stepType = true ↔ ∃ h, r.get? stepType = some h :=
  Option.isSome_iff_exists

theorem mem_types_iff : stepType ∈ r.types ↔ r.has stepType = true := by
  rw [has, ← not_iff_not, Bool.not_eq_true, Option.isSome_eq_false_iff, Option.isNone_iff_eq_none]
  exact Named.lookup_eq_none_iff.symm

theorem map_handlers (r : Registry σ) : r.handlers.map some = r.types.map r.get? := by
  rw [handlers, types, Table.names, Named.names, List.map_map, List.map_map]
  apply List.map_congr_left
  intro entry hentry
  exact (Named.lookup_of_mem r.toTable.nodup hentry).symm

/-- What is found after changes, and how all that a registry tells of itself agrees with that. -/
structure Refines (changes : List (Change σ)) : Prop where
  found : ∀ stepType h, (after changes).get? stepType = some h ↔ Standing changes stepType h
  missing : ∀ stepType,
    (after changes).get? stepType = none ↔ ∀ h, ¬ Standing changes stepType h
  has : ∀ stepType,
    (after changes).has stepType = true ↔ ∃ h, (after changes).get? stepType = some h
  removed : ∀ stepType, ((after changes).unregister stepType).1 = (after changes).get? stepType
  ascending : (after changes).types.Pairwise (· < ·)
  listed : ∀ stepType, stepType ∈ (after changes).types ↔ (after changes).has stepType = true
  handlers : (after changes).handlers.map some = (after changes).types.map (after changes).get?
  size_types : (after changes).size = (after changes).types.length
  size_handlers : (after changes).size = (after changes).handlers.length
  empty : (after changes).size = 0 ↔ (after changes).isEmpty = true

theorem refines (changes : List (Change σ)) : Refines changes where
  found := get?_after_iff changes
  missing stepType := by
    rw [Option.eq_none_iff_forall_ne_some]
    exact forall_congr' fun h => not_congr (get?_after_iff changes stepType h)
  has _ := has_iff
  removed _ := rfl
  ascending := (after changes).sorted
  listed _ := mem_types_iff
  handlers := (after changes).map_handlers
  size_types := (List.length_map Prod.fst).symm
  size_handlers := (List.length_map Prod.snd).symm
  empty := List.length_eq_zero_iff.trans List.isEmpty_iff.symm

/-- A type that was removed can be registered again. -/
example (h h' : Handler σ) :
    (after [.register "a" h, .unregister "a", .withHandler "a" h']).get? "a" = some h' := rfl

end Registry

end Stepwise
