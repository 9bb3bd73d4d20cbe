import Stepwise.Proofs.Except
import Stepwise.Proofs.Json.Ordered

/-! # Records that read back -/

namespace Stepwise

namespace Json

open Named (lookup names)

/-! ## The members of an object -/

variable {fields : List FieldSpec} {members seen : List (String × Json)} {origin : Origin}

theorem collectMembers_eq_ok (hnames : (names members).Nodup)
    (hknown : ∀ name ∈ names members, name ∈ fields.map FieldSpec.name)
    (hfresh : ∀ name ∈ names members, lookup name seen = none)
    (hpasses : ∀ field ∈ fields, ∀ v, lookup field.name members = some v → field.check v = .ok ()) :
    ∃ record, collectMembers fields seen members = .ok record ∧
      ∀ name, lookup name record = (lookup name members).or (lookup name seen) := by
  induction members generalizing seen with
  | nil => exact ⟨seen, rfl, fun _ => rfl⟩
  | cons member rest ih =>
    obtain ⟨k, v⟩ := member
    obtain ⟨hk, hrest⟩ := List.nodup_cons.mp hnames
    have hother : ∀ name ∈ names rest, k ≠ name := by
      rintro name hname rfl
      exact hk hname
    have hpasses' : ∀ field ∈ fields, ∀ v', lookup field.name rest = some v' →
        field.check v' = .ok () := by
      intro field hfield v' hv'
      apply hpasses field hfield v'
      rw [lookup, if_neg, hv']
      rintro rfl
      rw [Named.lookup_eq_none_iff.mpr hk] at hv'
      cases hv'
    obtain ⟨field, hfind⟩ : ∃ field, fields.find? (·.name == k) = some field := by
      obtain ⟨field, hfield, hname⟩ := List.mem_map.mp (hknown k List.mem_cons_self)
      rw [← Option.isSome_iff_exists, List.find?_isSome]
      exact ⟨field, hfield, beq_iff_eq.mpr hname⟩
    have hname : field.name = k := by simpa using List.find?_some hfind
    have hcheck : field.check v = .ok () := by
      apply hpasses field (List.mem_of_find?_eq_some hfind) v
      rw [hname, lookup, if_pos rfl]
    have hfresh' : ∀ name ∈ names rest, lookup name ((k, v) :: seen) = none := by
      intro name hmem
      rw [lookup, if_neg (hother name hmem), hfresh name (List.mem_cons_of_mem _ hmem)]
    obtain ⟨record, hrecord, hlookup⟩ :=
      ih hrest (fun name hmem => hknown name (List.mem_cons_of_mem _ hmem)) hfresh' hpasses'
    have hnew : lookup k seen = none := hfresh k List.mem_cons_self
    refine ⟨record, by simp [collectMembers, hfind, hnew, hcheck, hrecord], fun name => ?_⟩
    rw [hlookup name, lookup, lookup]
    split
    · rename_i heq
      subst heq
      rw [Named.lookup_eq_none_iff.mpr hk]
      rfl
    · rfl

/-- An object with some of the fields, in the order of their declaration. -/
def Enumerates (fields : List FieldSpec) (j : Json) : Prop :=
  ∃ members, j = .object members ∧ (names members).Sublist (fields.map FieldSpec.name)

theorem names_append (first second : List (String × Json)) :
    names (first ++ second) = names first ++ names second :=
  List.map_append

theorem names_memberIfSome (name : String) (j : Option Json) :
    (names (memberIfSome name j)).Sublist [name] := by
  cases j with
  | none => exact List.nil_sublist _
  | some j => exact List.Sublist.refl _

@[simp] theorem lookup_append (key : String) (first second : List (String × Json)) :
    lookup key (first ++ second) = (lookup key first).or (lookup key second) := by
  induction first with
  | nil => rfl
  | cons member rest ih =>
    rw [List.cons_append, lookup, lookup, ih]
    split <;> rfl

@[simp] theorem lookup_memberIfSome (key name : String) (j : Option Json) :
    lookup key (memberIfSome name j) = if name = key then j else none := by
  cases j <;> simp [memberIfSome, lookup]

/-! ## Fields -/

variable {j : Json}

/-- A decoder gets the value from the member with the name. -/
def Holds {α : Type} (origin : Origin) (j : Json) (name : String) (decode : Decoder α) (x : α) :
    Prop :=
  ∃ v, j.get? name = some v ∧ decode (v.written origin) = .ok x

/-- The same, or the member was left out and the value is the one for that case. -/
def HoldsOr {α : Type} (origin : Origin) (j : Json) (name : String) (decode : Decoder α)
    (default x : α) : Prop :=
  Holds origin j name decode x ∨ j.get? name = none ∧ x = default

/-- The member of a field, if there is one, passes the field's check. -/
def Passes (origin : Origin) (j : Json) (field : FieldSpec) : Prop :=
  ∀ v, j.get? field.name = some v → field.check (v.written origin) = .ok ()

/-- The record has the members as they were written. -/
def Collects (origin : Origin) (j : Json) (record : List (String × Json)) : Prop :=
  ∀ name, lookup name record = (j.get? name).map (written origin)

theorem Enumerates.exists_written (h : Enumerates fields j)
    (hdistinct : (fields.map FieldSpec.name).Nodup) (origin : Origin) :
    ∃ members, j.written origin = .object members ∧ (names members).Nodup ∧
      Collects origin j members := by
  obtain ⟨members, rfl, hnames⟩ := h
  exact exists_written_object origin (hdistinct.sublist hnames)

theorem Enumerates.get?_of_written_eq {j' : Json} (h : Enumerates fields j)
    (h' : Enumerates fields j') (hdistinct : (fields.map FieldSpec.name).Nodup)
    (heq : j.written origin = j'.written origin) (key : String) :
    (j.get? key).map (written origin) = (j'.get? key).map (written origin) := by
  obtain ⟨members, hwritten, -, hcollects⟩ := h.exists_written hdistinct origin
  obtain ⟨members', hwritten', -, hcollects'⟩ := h'.exists_written hdistinct origin
  have hsame : members = members' :=
    Json.object.inj (hwritten.symm.trans (heq.trans hwritten'))
  rw [← hcollects, ← hcollects', hsame]

/-- A record is read from an object that enumerates its fields. -/
theorem decodeRecord_written (origin : Origin) (name : String)
    (hdistinct : (fields.map FieldSpec.name).Nodup) (henumerates : Enumerates fields j)
    (hpasses : ∀ field ∈ fields, Passes origin j field) :
    ∃ record, decodeRecord origin name fields (j.written origin) = .ok record ∧
      Collects origin j record := by
  obtain ⟨members, hwritten, hnames, hlookup⟩ := henumerates.exists_written hdistinct origin
  have hknown : ∀ name ∈ names members, name ∈ fields.map FieldSpec.name := by
    intro name hname
    obtain ⟨given, rfl, hgiven⟩ := henumerates
    apply hgiven.subset
    refine Decidable.byContradiction fun hmissing => ?_
    have hnone := hlookup name
    rw [get?, Named.lookup_eq_none_iff.mpr hmissing] at hnone
    exact Named.lookup_eq_none_iff.mp hnone hname
  have hpasses' : ∀ field ∈ fields, ∀ v, lookup field.name members = some v →
      field.check v = .ok () := by
    intro field hfield v hv
    rw [hlookup] at hv
    obtain ⟨v', hv', rfl⟩ := Option.map_eq_some_iff.mp hv
    exact hpasses field hfield v' hv'
  have hfresh : ∀ name ∈ names members, lookup name ([] : List (String × Json)) = none :=
    fun _ _ => rfl
  obtain ⟨record, hrecord, hrecorded⟩ := collectMembers_eq_ok hnames hknown hfresh hpasses'
  refine ⟨record, ?_, fun name => ?_⟩
  · rw [hwritten]
    exact hrecord
  · rw [hrecorded, ← hlookup]
    exact Option.or_none

variable {α : Type} {name : String} {decode : Decoder α} {default x : α}
  {record : List (String × Json)}

theorem Holds.or (h : Holds origin j name decode x) :
    HoldsOr origin j name decode default x :=
  Or.inl h

theorem HoldsOr.passes (h : HoldsOr origin j name decode default x) (required : Bool)
    (outline : Outline) :
    Passes origin j ⟨name, required, fun j => (decode j).map fun _ => (), outline⟩ := by
  intro v hv
  rcases h with ⟨v', hv', hdecode⟩ | ⟨hnone, -⟩
  · obtain rfl := Option.some.inj (hv'.symm.trans hv)
    dsimp only
    rw [hdecode]
    rfl
  · exact nomatch hnone.symm.trans hv

theorem Holds.passes (h : Holds origin j name decode x) (required : Bool)
    (outline : Outline) :
    Passes origin j ⟨name, required, fun j => (decode j).map fun _ => (), outline⟩ :=
  HoldsOr.passes (h.or : HoldsOr origin j name decode x x) required outline

theorem Holds.need (h : Holds origin j name decode x)
    (hcollects : Collects origin j record) : need record name decode = .ok x := by
  obtain ⟨v, hv, hdecode⟩ := h
  rw [Json.need, hcollects, hv]
  exact hdecode

theorem HoldsOr.needOr (h : HoldsOr origin j name decode default x)
    (hcollects : Collects origin j record) :
    needOr record name decode default = .ok x := by
  rcases h with ⟨v, hv, hdecode⟩ | ⟨hnone, rfl⟩
  · rw [Json.needOr, hcollects, hv]
    exact hdecode
  · rw [Json.needOr, hcollects, hnone]
    rfl

/-! ## Single values -/

theorem decodeString_written (s : String) :
    decodeString ((Json.string s).written origin) = .ok s := by
  rw [written_string]
  rfl

theorem decodeNat_nat {bound n : Nat} (h : n < bound) (expected : String) :
    decodeNat bound expected (.nat n) = .ok n := by
  simp only [nat, decodeNat]
  rw [if_pos (by omega)]
  simp

theorem decodeU32_written (n : UInt32) :
    decodeU32 ((Json.nat n.toNat).written origin) = .ok n := by
  rw [written_nat, decodeU32, decodeNat_nat n.toNat_lt]
  simp [Except.map]

theorem decodeU64_written (n : UInt64) :
    decodeU64 ((Json.nat n.toNat).written origin) = .ok n := by
  rw [written_nat, decodeU64, decodeNat_nat n.toNat_lt]
  simp [Except.map]

theorem decodeSize_written (n : UInt64) :
    decodeSize ((Json.nat n.toNat).written origin) = .ok n := by
  rw [written_nat, decodeSize, decodeNat_nat n.toNat_lt]
  simp [Except.map]

theorem holds_string {s : String} (h : j.get? name = some (.string s)) :
    Holds origin j name decodeString s :=
  ⟨_, h, decodeString_written s⟩

theorem holds_u32 {n : UInt32} (h : j.get? name = some (.nat n.toNat)) :
    Holds origin j name decodeU32 n :=
  ⟨_, h, decodeU32_written n⟩

theorem holds_u64 {n : UInt64} (h : j.get? name = some (.nat n.toNat)) :
    Holds origin j name decodeU64 n :=
  ⟨_, h, decodeU64_written n⟩

theorem decodeAny_written {j : Json} (h : j.IsOrdered) : decodeAny (j.written origin) = .ok j := by
  rw [written_of_isOrdered h, decodeAny, canonical_of_isOrdered h]

theorem decodeItems_map {β : Type} {write : β → Json} {read : β → α} {xs : List β}
    (h : ∀ x ∈ xs, decode (write x) = .ok (read x)) :
    decodeItems decode (xs.map write) = .ok (xs.map read) := by
  induction xs with
  | nil => rfl
  | cons x rest ih =>
    have hrest := ih fun y hy => h y (List.mem_cons_of_mem x hy)
    rw [List.map_cons, decodeItems, bind_of_ok (h x List.mem_cons_self), bind_of_ok hrest]
    rfl

theorem decodeList_written {β : Type} {write : β → Json} {read : β → α} {xs : List β}
    (h : ∀ x ∈ xs, decode ((write x).written origin) = .ok (read x)) :
    decodeList decode ((Json.array (xs.map write)).written origin) = .ok (xs.map read) := by
  rw [written_array, decodeList, List.map_map]
  exact decodeItems_map h

/-! ## What was read -/

theorem needOr_eq_ok {x : α} (h : needOr record name decode default = .ok x) :
    (∃ j, decode j = .ok x) ∨ x = default := by
  unfold needOr at h
  split at h
  · exact Or.inl ⟨_, h⟩
  · exact Or.inr (Except.ok.inj h).symm

theorem decodeItems_eq_ok {items : List Json} {xs : List α}
    (h : decodeItems decode items = .ok xs) : ∀ x ∈ xs, ∃ j, decode j = .ok x := by
  induction items generalizing xs with
  | nil =>
    obtain rfl := Except.ok.inj h
    exact nofun
  | cons j rest ih =>
    obtain ⟨x, hx, h⟩ := ok_of_bind h
    obtain ⟨rest', hrest, h⟩ := ok_of_bind h
    obtain rfl := Except.ok.inj h
    exact List.forall_mem_cons.mpr ⟨⟨j, hx⟩, ih hrest⟩

theorem decodeList_eq_ok {j : Json} {xs : List α} (h : decodeList decode j = .ok xs) :
    ∀ x ∈ xs, ∃ j, decode j = .ok x := by
  unfold decodeList at h
  split at h
  · exact decodeItems_eq_ok h
  · cases h

/-! ## Values that may be absent -/

theorem decodeOption_of_ne_null {j : Json} (hj : j ≠ .null) (h : decode j = .ok x) :
    decodeOption decode j = .ok (some x) := by
  unfold decodeOption
  split
  · exact absurd rfl hj
  · rw [h]
    rfl

theorem holdsOr_option (write : α → Json) {o : Option α}
    (hlookup : j.get? name = o.map write) (hnull : (decode .null).isOk = false)
    (h : ∀ x, o = some x → decode ((write x).written origin) = .ok x) :
    HoldsOr origin j name (decodeOption decode) none o := by
  cases o with
  | none => exact Or.inr ⟨hlookup, rfl⟩
  | some x =>
    refine Or.inl ⟨write x, hlookup, decodeOption_of_ne_null ?_ (h x rfl)⟩
    intro heq
    have hread := h x rfl
    rw [heq] at hread
    rw [hread] at hnull
    cases hnull

theorem holdsOr_string {o : Option String} (h : j.get? name = o.map .string) :
    HoldsOr origin j name (decodeOption decodeString) none o :=
  holdsOr_option .string h rfl fun s _ => decodeString_written s

/-- A value that is not null. -/
def unlessNull (o : Option Json) : Option Json := o.filter fun j => !j.isNull

theorem unlessNull_eq_self_iff {o : Option Json} : unlessNull o = o ↔ o ≠ some .null := by
  cases o with
  | none => simp [unlessNull]
  | some j => cases j <;> simp [unlessNull, isNull]

/-- Any value may be there, but a null reads as if it was not. -/
theorem holdsOr_any {o : Option Json} (hlookup : j.get? name = o)
    (h : ∀ j, o = some j → j.IsOrdered) :
    HoldsOr origin j name (decodeOption decodeAny) none (unlessNull o) := by
  cases o with
  | none => exact Or.inr ⟨hlookup, rfl⟩
  | some j =>
    refine Or.inl ⟨j, hlookup, ?_⟩
    by_cases hj : j = .null
    · subst hj
      rw [written_null]
      rfl
    · have hdecode : decodeAny (j.written origin) = .ok j := decodeAny_written (h j rfl)
      have hsome : unlessNull (some j) = some j :=
        unlessNull_eq_self_iff.mpr fun heq => hj (Option.some.inj heq)
      rw [hsome]
      apply decodeOption_of_ne_null _ hdecode
      rwa [written_of_isOrdered (h j rfl)]

end Json

end Stepwise
