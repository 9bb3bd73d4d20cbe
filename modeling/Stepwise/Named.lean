/-! # Values by name -/

namespace Stepwise

namespace Named

variable {α : Type}

def lookup (key : String) : List (String × α) → Option α
  | [] => none
  | (k, v) :: rest => if k = key then some v else lookup key rest

/-- Adds a value, or replaces the one under its name. -/
def insert (key : String) (value : α) : List (String × α) → List (String × α)
  | [] => [(key, value)]
  | (k, v) :: rest =>
    if key = k then (key, value) :: rest
    else if key < k then (key, value) :: (k, v) :: rest
    else (k, v) :: insert key value rest

def erase (key : String) : List (String × α) → List (String × α)
  | [] => []
  | (k, v) :: rest => if k = key then rest else (k, v) :: erase key rest

/-- Named values in order. Of two with one name the later stays. -/
def ordered (pairs : List (String × α)) : List (String × α) :=
  pairs.foldl (fun sorted (k, v) => insert k v sorted) []

/-! ## Order -/

def names (pairs : List (String × α)) : List String := pairs.map Prod.fst

/-- The names are in order, so every name comes once. -/
def Sorted (pairs : List (String × α)) : Prop := (names pairs).Pairwise (· < ·)

theorem mem_names_insert {key name : String} {value : α} {pairs : List (String × α)} :
    name ∈ names (insert key value pairs) ↔ name = key ∨ name ∈ names pairs := by
  induction pairs with
  | nil => simp [insert, names]
  | cons pair rest ih =>
    obtain ⟨k, v⟩ := pair
    rw [insert]
    split
    · rename_i hk
      subst hk
      simp [names]
    · split
      · simp [names]
      · simp only [names, List.map_cons, List.mem_cons] at ih ⊢
        rw [ih]
        exact or_left_comm

theorem Sorted.insert {pairs : List (String × α)} (h : Sorted pairs) (key : String) (value : α) :
    Sorted (insert key value pairs) := by
  induction pairs with
  | nil => exact List.pairwise_singleton _ _
  | cons pair rest ih =>
    obtain ⟨k, v⟩ := pair
    obtain ⟨hk, hrest⟩ := List.pairwise_cons.mp h
    rw [Named.insert]
    split
    · rename_i hkey
      subst hkey
      exact h
    · rename_i hne
      split
      · rename_i hlt
        refine List.pairwise_cons.mpr ⟨fun name hname => ?_, h⟩
        rcases List.mem_cons.mp hname with rfl | hname
        · exact hlt
        · exact String.lt_trans hlt (hk name hname)
      · rename_i hle
        refine List.pairwise_cons.mpr ⟨fun name hname => ?_, ih hrest⟩
        rcases mem_names_insert.mp hname with rfl | hname
        · exact Std.lt_of_le_of_ne (String.not_lt.mp hle) fun heq => hne heq.symm
        · exact hk name hname

theorem erase_sublist (key : String) (pairs : List (String × α)) :
    (erase key pairs).Sublist pairs := by
  induction pairs with
  | nil => exact List.Sublist.refl []
  | cons pair rest ih =>
    rw [erase]
    split
    · exact List.sublist_cons_self pair rest
    · exact ih.cons_cons pair

theorem Sorted.erase {pairs : List (String × α)} (h : Sorted pairs) (key : String) :
    Sorted (erase key pairs) := h.sublist ((erase_sublist key pairs).map Prod.fst)

end Named

/-- Values under names. The names are in order, and every name comes once. -/
structure Table (α : Type) where
  entries : List (String × α)
  sorted : Named.Sorted entries
deriving Repr

namespace Table

variable {α : Type}

def empty : Table α := ⟨[], List.Pairwise.nil⟩

def get? (t : Table α) (name : String) : Option α := Named.lookup name t.entries

/-- Adds a value, or replaces the one under its name. -/
def insert (t : Table α) (name : String) (value : α) : Table α :=
  ⟨Named.insert name value t.entries, t.sorted.insert name value⟩

def erase (t : Table α) (name : String) : Table α :=
  ⟨Named.erase name t.entries, t.sorted.erase name⟩

def names (t : Table α) : List String := Named.names t.entries

def size (t : Table α) : Nat := t.entries.length

end Table

end Stepwise
