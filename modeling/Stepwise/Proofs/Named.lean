import Stepwise.Named

/-! # Values by name, in order -/

namespace Stepwise

namespace Named

variable {α : Type}

theorem lookup_insert (key name : String) (value : α) (pairs : List (String × α)) :
    lookup name (insert key value pairs) =
      if key = name then some value else lookup name pairs := by
  induction pairs with
  | nil => rfl
  | cons pair rest ih =>
    obtain ⟨k, v⟩ := pair
    rw [insert]
    split
    · rename_i hk
      subst hk
      simp only [lookup]
      split <;> rfl
    · rename_i hk
      split
      · rfl
      · simp only [lookup, ih]
        by_cases hname : k = name
        · rw [if_pos hname, if_neg fun h => hk (h.trans hname.symm), if_pos hname]
        · rw [if_neg hname, if_neg hname]

/-! ## Values that are put in order -/

theorem Sorted.nodup {pairs : List (String × α)} (h : Sorted pairs) : (names pairs).Nodup := by
  refine List.Pairwise.imp (fun hlt => ?_) h
  rintro rfl
  exact String.lt_irrefl _ hlt

theorem lookup_of_mem {key : String} {value : α} {pairs : List (String × α)}
    (h : (names pairs).Nodup) (hmem : (key, value) ∈ pairs) : lookup key pairs = some value := by
  induction pairs with
  | nil => cases hmem
  | cons pair rest ih =>
    obtain ⟨k, v⟩ := pair
    obtain ⟨hfresh, hrest⟩ := List.nodup_cons.mp h
    rw [lookup]
    rcases List.mem_cons.mp hmem with heq | hmem
    · cases heq
      exact if_pos rfl
    · have hk : k ≠ key := by
        rintro rfl
        exact hfresh (List.mem_map.mpr ⟨(k, value), hmem, rfl⟩)
      rw [if_neg hk]
      exact ih hrest hmem

theorem lookup_map {β : Type} (f : String → α → β) (key : String) (pairs : List (String × α)) :
    lookup key (pairs.map fun pair => (pair.1, f pair.1 pair.2)) =
      (lookup key pairs).map (f key) := by
  induction pairs with
  | nil => rfl
  | cons pair rest ih =>
    rw [List.map_cons, lookup, lookup]
    split
    · rename_i hk
      rw [hk]
      rfl
    · exact ih

theorem lookup_eq_none_iff {key : String} {pairs : List (String × α)} :
    lookup key pairs = none ↔ key ∉ names pairs := by
  induction pairs with
  | nil => simp [lookup, names]
  | cons pair rest ih =>
    simp only [names, List.map_cons, List.mem_cons, not_or] at ih ⊢
    rw [lookup]
    split
    · rename_i hk
      simp [hk]
    · rename_i hk
      rw [ih]
      exact (and_iff_right (Ne.symm hk)).symm

theorem mem_insert {key : String} {value : α} {pairs : List (String × α)} {pair : String × α}
    (h : pair ∈ insert key value pairs) : pair = (key, value) ∨ pair ∈ pairs := by
  induction pairs with
  | nil => exact Or.inl (List.mem_singleton.mp h)
  | cons first rest ih =>
    obtain ⟨k, v⟩ := first
    rw [insert] at h
    split at h
    · rcases List.mem_cons.mp h with h | h
      · exact Or.inl h
      · exact Or.inr (List.mem_cons_of_mem _ h)
    · split at h
      · exact List.mem_cons.mp h
      · rcases List.mem_cons.mp h with h | h
        · exact Or.inr (h ▸ List.mem_cons_self)
        · exact (ih h).imp_right (List.mem_cons_of_mem _)

theorem insert_of_forall_lt {key : String} {pairs : List (String × α)}
    (h : ∀ name ∈ names pairs, name < key) (value : α) :
    insert key value pairs = pairs ++ [(key, value)] := by
  induction pairs with
  | nil => rfl
  | cons pair rest ih =>
    obtain ⟨k, v⟩ := pair
    have hk : k < key := h k List.mem_cons_self
    have hne : key ≠ k := by
      rintro rfl
      exact String.lt_irrefl _ hk
    have hrest := ih fun name hname => h name (List.mem_cons_of_mem _ hname)
    rw [insert, if_neg hne, if_neg (String.lt_asymm hk), hrest, List.cons_append]

/-- All pairs are put among those that are there, one after the other. -/
def insertAll (before pairs : List (String × α)) : List (String × α) :=
  pairs.foldl (fun sorted (k, v) => insert k v sorted) before

theorem insertAll_of_sorted {before pairs : List (String × α)} (h : Sorted (before ++ pairs)) :
    insertAll before pairs = before ++ pairs := by
  induction pairs generalizing before with
  | nil => simp [insertAll]
  | cons pair rest ih =>
    obtain ⟨k, v⟩ := pair
    have hlt : ∀ name ∈ names before, name < k := by
      rw [Sorted, names, List.map_append, List.pairwise_append] at h
      intro name hname
      exact h.2.2 name hname k List.mem_cons_self
    have hrest : Sorted ((before ++ [(k, v)]) ++ rest) := by simpa using h
    calc insertAll before ((k, v) :: rest)
        = insertAll (before ++ [(k, v)]) rest := by rw [← insert_of_forall_lt hlt]; rfl
      _ = before ++ (k, v) :: rest := by simp [ih hrest]

theorem Sorted.insertAll {before : List (String × α)} (h : Sorted before)
    (pairs : List (String × α)) : Sorted (insertAll before pairs) := by
  induction pairs generalizing before with
  | nil => exact h
  | cons pair rest ih => exact ih (h.insert pair.1 pair.2)

theorem mem_insertAll {before pairs : List (String × α)} {pair : String × α}
    (h : pair ∈ insertAll before pairs) : pair ∈ before ∨ pair ∈ pairs := by
  induction pairs generalizing before with
  | nil => exact Or.inl h
  | cons first rest ih =>
    rcases ih h with h | h
    · rcases mem_insert h with rfl | h
      · exact Or.inr List.mem_cons_self
      · exact Or.inl h
    · exact Or.inr (List.mem_cons_of_mem _ h)

theorem lookup_insertAll {before pairs : List (String × α)} (h : (names pairs).Nodup)
    (key : String) :
    lookup key (insertAll before pairs) = (lookup key pairs).or (lookup key before) := by
  induction pairs generalizing before with
  | nil => rfl
  | cons pair rest ih =>
    obtain ⟨k, v⟩ := pair
    obtain ⟨hfresh, hrest⟩ := List.nodup_cons.mp h
    have hstep := @ih (insert k v before) hrest
    rw [lookup_insert] at hstep
    refine hstep.trans ?_
    rw [lookup]
    split
    · rename_i hk
      subst hk
      rw [lookup_eq_none_iff.mpr hfresh]
      rfl
    · rfl

theorem ordered_of_sorted {pairs : List (String × α)} (h : Sorted pairs) : ordered pairs = pairs :=
  @insertAll_of_sorted _ [] pairs h

theorem sorted_ordered (pairs : List (String × α)) : Sorted (ordered pairs) :=
  @Sorted.insertAll _ [] List.Pairwise.nil pairs

theorem mem_of_mem_ordered {pairs : List (String × α)} {pair : String × α}
    (h : pair ∈ ordered pairs) : pair ∈ pairs :=
  (mem_insertAll h).resolve_left List.not_mem_nil

theorem lookup_ordered {pairs : List (String × α)} (h : (names pairs).Nodup) (key : String) :
    lookup key (ordered pairs) = lookup key pairs :=
  (lookup_insertAll h key).trans (Option.or_none)

/-! ## Values that are removed -/

theorem lookup_erase {pairs : List (String × α)} (h : (names pairs).Nodup) (key name : String) :
    lookup name (erase key pairs) = if key = name then none else lookup name pairs := by
  induction pairs with
  | nil => simp [erase, lookup]
  | cons pair rest ih =>
    obtain ⟨k, v⟩ := pair
    obtain ⟨hfresh, hrest⟩ := List.nodup_cons.mp h
    rw [erase]
    split
    · rename_i hk
      subst hk
      split
      · rename_i hname
        exact lookup_eq_none_iff.mpr (hname ▸ hfresh)
      · rename_i hname
        rw [lookup, if_neg hname]
    · rename_i hk
      rw [lookup, lookup, ih hrest]
      by_cases hname : k = name
      · rw [if_pos hname, if_neg fun h => hk (hname.trans h.symm), if_pos hname]
      · rw [if_neg hname, if_neg hname]

end Named

/-! ## Tables -/

namespace Table

variable {α β : Type}

theorem nodup (t : Table α) : t.names.Nodup := t.sorted.nodup

theorem get?_insert (t : Table α) (key name : String) (value : α) :
    (t.insert key value).get? name = if key = name then some value else t.get? name :=
  Named.lookup_insert key name value t.entries

theorem get?_erase (t : Table α) (key name : String) :
    (t.erase key).get? name = if key = name then none else t.get? name :=
  Named.lookup_erase t.nodup key name

theorem mem_names_insert {t : Table α} {key name : String} {value : α} :
    name ∈ (t.insert key value).names ↔ name = key ∨ name ∈ t.names :=
  Named.mem_names_insert

/-- The table with other values under the same names. -/
def mapWithName (f : String → α → β) (t : Table α) : Table β where
  entries := t.entries.map fun entry => (entry.1, f entry.1 entry.2)
  sorted := by
    have hnames : Named.names (t.entries.map fun entry => (entry.1, f entry.1 entry.2)) =
        t.names := List.map_map
    rw [Named.Sorted, hnames]
    exact t.sorted

theorem get?_mapWithName (f : String → α → β) (t : Table α) (name : String) :
    (t.mapWithName f).get? name = (t.get? name).map (f name) :=
  Named.lookup_map f name t.entries

end Table

end Stepwise
