import Stepwise.Json.Decode
import Stepwise.Proofs.Named

/-! # Members in order -/

namespace Stepwise

namespace Json

mutual

/-- The members of every object are in order, each name once. -/
def IsOrdered : Json → Prop
  | .array items => ItemsOrdered items
  | .object members => Named.Sorted members ∧ MembersOrdered members
  | _ => True

def ItemsOrdered : List Json → Prop
  | [] => True
  | j :: rest => j.IsOrdered ∧ ItemsOrdered rest

def MembersOrdered : List (String × Json) → Prop
  | [] => True
  | (_, j) :: rest => j.IsOrdered ∧ MembersOrdered rest

end

mutual

theorem canonical_of_isOrdered : ∀ {j : Json}, j.IsOrdered → j.canonical = j
  | .null, _ | .bool _, _ | .number _, _ | .string _, _ => rfl
  | .array _, h => congrArg Json.array (canonicalItems_of_ordered h)
  | .object members, ⟨hsorted, hmembers⟩ => by
    rw [canonical, ofMembers, canonicalMembers_of_ordered hmembers,
      Named.ordered_of_sorted hsorted]

theorem canonicalItems_of_ordered : ∀ {items : List Json}, ItemsOrdered items →
    canonicalItems items = items
  | [], _ => rfl
  | _ :: _, ⟨h, hrest⟩ => by
    rw [canonicalItems, canonical_of_isOrdered h, canonicalItems_of_ordered hrest]

theorem canonicalMembers_of_ordered : ∀ {members : List (String × Json)}, MembersOrdered members →
    canonicalMembers members = members
  | [], _ => rfl
  | (_, _) :: _, ⟨h, hrest⟩ => by
    rw [canonicalMembers, canonical_of_isOrdered h, canonicalMembers_of_ordered hrest]

end

theorem membersOrdered_iff {members : List (String × Json)} :
    MembersOrdered members ↔ ∀ member ∈ members, member.2.IsOrdered := by
  induction members with
  | nil => simp [MembersOrdered]
  | cons member rest ih => simp [MembersOrdered, ih]

mutual

theorem isOrdered_canonical : ∀ j : Json, j.canonical.IsOrdered
  | .null | .bool _ | .number _ | .string _ => trivial
  | .array items => itemsOrdered_canonicalItems items
  | .object members => by
    have hmembers := membersOrdered_iff.mp (membersOrdered_canonicalMembers members)
    exact ⟨Named.sorted_ordered _, membersOrdered_iff.mpr fun member hmember =>
      hmembers member (Named.mem_of_mem_ordered hmember)⟩

theorem itemsOrdered_canonicalItems : ∀ items : List Json, ItemsOrdered (canonicalItems items)
  | [] => trivial
  | j :: rest => ⟨isOrdered_canonical j, itemsOrdered_canonicalItems rest⟩

theorem membersOrdered_canonicalMembers : ∀ members : List (String × Json),
    MembersOrdered (canonicalMembers members)
  | [] => trivial
  | (_, j) :: rest => ⟨isOrdered_canonical j, membersOrdered_canonicalMembers rest⟩

end

/-! ## The two ways to write -/

/-- What is written into a text keeps the order of its members. What becomes a value has its members
in the order of their names. -/
def written (origin : Origin) (j : Json) : Json :=
  match origin with
  | .text => j
  | .value => j.canonical

variable {origin : Origin}

@[simp] theorem written_null : written origin .null = .null := by
  cases origin <;> rfl

@[simp] theorem written_string (s : String) : written origin (.string s) = .string s := by
  cases origin <;> rfl

@[simp] theorem written_nat (n : Nat) : written origin (.nat n) = .nat n := by
  cases origin <;> rfl

theorem written_of_isOrdered {j : Json} (h : j.IsOrdered) : j.written origin = j := by
  cases origin with
  | text => rfl
  | value => exact canonical_of_isOrdered h

theorem canonicalItems_eq_map (items : List Json) : canonicalItems items = items.map canonical := by
  induction items with
  | nil => rfl
  | cons j rest ih => rw [canonicalItems, ih, List.map_cons]

theorem canonicalMembers_eq_map (members : List (String × Json)) :
    canonicalMembers members = members.map fun member => (member.1, member.2.canonical) := by
  induction members with
  | nil => rfl
  | cons member rest ih => rw [canonicalMembers, ih, List.map_cons]

theorem written_array (items : List Json) :
    (Json.array items).written origin = .array (items.map (written origin)) := by
  cases origin with
  | text => exact congrArg Json.array (List.map_id' items).symm
  | value => exact congrArg Json.array (canonicalItems_eq_map items)

theorem lookup_canonicalMembers (key : String) (members : List (String × Json)) :
    Named.lookup key (canonicalMembers members) =
      (Named.lookup key members).map canonical := by
  rw [canonicalMembers_eq_map]
  exact Named.lookup_map (fun _ => canonical) key members

theorem names_canonicalMembers (members : List (String × Json)) :
    Named.names (canonicalMembers members) = Named.names members := by
  rw [canonicalMembers_eq_map, Named.names, List.map_map]
  rfl

theorem exists_written_object (origin : Origin) {members : List (String × Json)}
    (h : (Named.names members).Nodup) :
    ∃ members', (Json.object members).written origin = .object members' ∧
      (Named.names members').Nodup ∧
      ∀ key, Named.lookup key members' = (Named.lookup key members).map (written origin) := by
  cases origin with
  | text =>
    refine ⟨members, rfl, h, fun key => ?_⟩
    cases Named.lookup key members <;> rfl
  | value =>
    refine ⟨Named.ordered (canonicalMembers members), rfl, (Named.sorted_ordered _).nodup,
      fun key => ?_⟩
    rw [Named.lookup_ordered (by rwa [names_canonicalMembers]), lookup_canonicalMembers]
    rfl

end Json

end Stepwise
