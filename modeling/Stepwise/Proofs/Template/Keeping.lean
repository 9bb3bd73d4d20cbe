import Stepwise.Proofs.Context.Dependence
import Stepwise.Proofs.Template.Parts

/-! # What templates keep -/

namespace Stepwise

/-! ## Places in values -/

namespace Json

/-- The items of an array, or the values of the members of an object. -/
def parts : Json → List Json
  | .array items => items
  | .object members => members.map Prod.snd
  | _ => []

/-- The value at a place. A place counts the parts on the way to it. -/
def at? : Json → List Nat → Option Json
  | j, [] => some j
  | j, i :: place => j.parts[i]?.bind (at? · place)

/-- One value stands where the other stood. Its string is replaced, its array has as many items, its
object has the same names, and any other value is the same. -/
def Matches (f : String → String) : Json → Json → Prop
  | .string s, j => j = .string (f s)
  | .array items, j => ∃ items', j = .array items' ∧ items'.length = items.length
  | .object members, j =>
    ∃ members', j = .object members' ∧ members'.map Prod.fst = members.map Prod.fst
  | .null, j => j = .null
  | .bool b, j => j = .bool b
  | .number n, j => j = .number n

variable {f : String → String}

theorem parts_mapStrings (j : Json) : (j.mapStrings f).parts = j.parts.map (mapStrings f) := by
  cases j with
  | array items => exact mapStringsItems_eq_map items
  | object members =>
    rw [mapStrings, mapStringsMembers_eq_map]
    simp [parts, Function.comp_def]
  | null | bool | number | string => rfl

theorem at?_mapStrings (j : Json) (place : List Nat) :
    (j.mapStrings f).at? place = (j.at? place).map (mapStrings f) := by
  induction place generalizing j with
  | nil => rfl
  | cons i place ih =>
    rw [at?, at?, parts_mapStrings, List.getElem?_map]
    cases j.parts[i]? with
    | none => rfl
    | some part => exact ih part

theorem matches_mapStrings (j : Json) : Matches f j (j.mapStrings f) := by
  cases j with
  | array items => exact ⟨_, rfl, by rw [mapStringsItems_eq_map, List.length_map]⟩
  | object members =>
    refine ⟨_, rfl, ?_⟩
    rw [mapStringsMembers_eq_map, List.map_map]
    rfl
  | null | bool | number | string => rfl

theorem rel_at?_mapStrings (j : Json) (place : List Nat) :
    Option.Rel (Matches f) (j.at? place) ((j.mapStrings f).at? place) := by
  rw [at?_mapStrings]
  cases j.at? place with
  | none => exact .none
  | some part => exact .some (matches_mapStrings part)

/-- Every string at some place stays as it is. -/
def Fixes (f : String → String) (j : Json) : Prop :=
  ∀ place s, j.at? place = some (.string s) → f s = s

theorem Fixes.parts {j : Json} (h : Fixes f j) : ∀ part ∈ j.parts, Fixes f part := by
  intro part hpart place s hs
  obtain ⟨i, hi⟩ := List.mem_iff_getElem?.mp hpart
  apply h (i :: place) s
  rw [at?, hi, Option.bind_some, hs]

theorem mapStringsItems_eq_self {items : List Json} (h : ∀ j ∈ items, j.mapStrings f = j) :
    mapStringsItems f items = items := by
  rw [mapStringsItems_eq_map, List.map_congr_left h, List.map_id']

theorem mapStringsMembers_eq_self {members : List (String × Json)}
    (h : ∀ member ∈ members, member.2.mapStrings f = member.2) :
    mapStringsMembers f members = members := by
  have hmember : ∀ member ∈ members, (member.1, member.2.mapStrings f) = member :=
    fun member hmem => Prod.ext rfl (h member hmem)
  rw [mapStringsMembers_eq_map, List.map_congr_left hmember, List.map_id']

theorem sizeOf_lt_of_mem_parts {j part : Json} (h : part ∈ j.parts) : sizeOf part < sizeOf j := by
  cases j with
  | array items =>
    have hlt : sizeOf part < sizeOf items := List.sizeOf_lt_of_mem h
    simp only [array.sizeOf_spec]
    omega
  | object members =>
    obtain ⟨member, hmem, rfl⟩ := List.mem_map.mp h
    have := List.sizeOf_lt_of_mem hmem
    obtain ⟨name, j⟩ := member
    simp only [Prod.mk.sizeOf_spec] at this
    simp only [object.sizeOf_spec]
    omega
  | null | bool | number | string => cases h

theorem Fixes.mapStrings_eq_self : ∀ {j : Json}, Fixes f j → j.mapStrings f = j
  | .null, _ | .bool _, _ | .number _, _ => rfl
  | .string s, h => congrArg Json.string (h [] s rfl)
  | .array items, h => by
    have hitems : ∀ item ∈ items, item.mapStrings f = item :=
      fun item hmem => (h.parts item hmem).mapStrings_eq_self
    exact congrArg Json.array (mapStringsItems_eq_self hitems)
  | .object members, h => by
    have hmembers : ∀ member ∈ members, member.2.mapStrings f = member.2 :=
      fun member hmem => (h.parts member.2 (List.mem_map_of_mem hmem)).mapStrings_eq_self
    exact congrArg Json.object (mapStringsMembers_eq_self hmembers)
termination_by j => sizeOf j
decreasing_by
  · exact sizeOf_lt_of_mem_parts (j := .array items) hmem
  · exact sizeOf_lt_of_mem_parts (j := .object members) (List.mem_map_of_mem hmem)

end Json

/-! ## Placeholders in texts -/

namespace Template

/-- The text is no path, or its path cannot be walked. -/
def LeadsNowhere (c : Context) (body : String) : Prop :=
  ∀ p, Path.parse body = .ok p → ∃ e, p.resolve c = .error e

/-- Somewhere in the text braces open, and close again on the same line. -/
def HasBraces (cs : List Char) : Prop :=
  ∃ body, '\n' ∉ body ∧ Piece.source (.placeholder body) <:+: cs

variable {cs body after : List Char} {template : String} {c : Context}

theorem lookUp_of_leadsNowhere {body : String} (h : LeadsNowhere c body) :
    ∃ e, lookUp body c = .error e := by
  rw [lookUp]
  cases hparse : Path.parse body with
  | error e => exact ⟨e, rfl⟩
  | ok p => exact h p hparse

theorem newline_notMem_of_closing? (h : closing? cs = some (body, after)) : '\n' ∉ body := by
  fun_induction closing? cs generalizing body after with
  | case1 rest =>
    obtain ⟨rfl, -⟩ := Prod.mk.inj (Option.some.inj h)
    exact List.not_mem_nil
  | case2 => cases h
  | case3 c rest _ hline body' after' hr ih =>
    obtain ⟨rfl, -⟩ := Prod.mk.inj (Option.some.inj h)
    exact List.not_mem_cons_of_ne_of_not_mem (fun heq => hline heq.symm) (ih hr)
  | case4 => cases h
  | case5 => cases h

theorem closing?_ne_none (hline : '\n' ∉ body) :
    closing? (body ++ '\x7d' :: '\x7d' :: after) ≠ none := by
  intro hnone
  generalize hcs : body ++ '\x7d' :: '\x7d' :: after = cs at hnone
  fun_induction closing? cs generalizing body with
  | case1 => cases hnone
  | case2 =>
    cases body with
    | nil => simp at hcs
    | cons x rest =>
      rw [List.cons_append] at hcs
      exact hline (List.mem_cons.mpr (Or.inl (List.cons.inj hcs).1.symm))
  | case3 => cases hnone
  | case4 c rest hclose _ hr ih =>
    cases body with
    | nil =>
      obtain ⟨rfl, rfl⟩ := List.cons.inj hcs
      exact hclose _ rfl rfl
    | cons x body =>
      obtain ⟨-, hrest⟩ := List.cons.inj hcs
      exact ih (fun hmem => hline (List.mem_cons_of_mem _ hmem)) hrest hr
  | case5 => simp at hcs

theorem newline_notMem_of_placeholder (h : .placeholder body ∈ pieces cs) : '\n' ∉ body := by
  fun_induction pieces cs with
  | case1 => cases h
  | case2 rest body' after' hclosing ih =>
    rcases List.mem_cons.mp h with heq | h
    · cases heq
      exact newline_notMem_of_closing? hclosing
    · exact ih h
  | case3 rest hclosing ih => exact ih (by simpa using h)
  | case4 c rest _ ih => exact ih (by simpa using h)

theorem source_infix_of_mem {piece : Piece} (h : piece ∈ pieces cs) : piece.source <:+: cs := by
  obtain ⟨before, later, hpieces⟩ := List.append_of_mem h
  refine ⟨before.flatMap Piece.source, later.flatMap Piece.source, ?_⟩
  rw [← flatMap_source_pieces cs, hpieces, List.flatMap_append, List.flatMap_cons,
    List.append_assoc]

/-- The scan from the left finds a placeholder wherever there is one to find. -/
theorem exists_placeholder_of_infix (hline : '\n' ∉ body)
    (h : Piece.source (.placeholder body) <:+: cs) : ∃ body', .placeholder body' ∈ pieces cs := by
  fun_induction pieces cs with
  | case1 => simp [Piece.source] at h
  | case2 rest body' after' hclosing ih => exact ⟨body', List.mem_cons_self⟩
  | case3 rest hclosing ih =>
    rcases List.infix_cons_iff.mp h with ⟨after', hprefix⟩ | h
    · have hrest : body ++ '\x7d' :: '\x7d' :: after' = rest := by
        simpa [Piece.source] using hprefix
      exact absurd (hrest ▸ hclosing) (closing?_ne_none hline)
    · obtain ⟨body', hmem⟩ := ih h
      exact ⟨body', List.mem_cons_of_mem _ hmem⟩
  | case4 c rest hopen ih =>
    rcases List.infix_cons_iff.mp h with ⟨after', hprefix⟩ | h
    · obtain ⟨hc, hrest⟩ := List.cons.inj hprefix
      exact absurd hrest.symm (hopen _ hc.symm)
    · obtain ⟨body', hmem⟩ := ih h
      exact ⟨body', List.mem_cons_of_mem _ hmem⟩

theorem hasPlaceholders_iff : hasPlaceholders template = true ↔
    ∃ body, .placeholder body ∈ pieces template.toList := by
  rw [hasPlaceholders, List.any_eq_true]
  constructor
  · rintro ⟨piece, hmem, hpiece⟩
    cases piece with
    | literal => cases hpiece
    | placeholder body => exact ⟨body, hmem⟩
  · rintro ⟨body, hmem⟩
    exact ⟨.placeholder body, hmem, rfl⟩

theorem hasPlaceholders_iff_paths : hasPlaceholders template = true ↔ paths template ≠ [] := by
  rw [hasPlaceholders_iff]
  constructor
  · rintro ⟨body, hmem⟩
    exact List.ne_nil_of_mem (mem_paths_of_placeholder hmem)
  · intro hne
    obtain ⟨path, hpath⟩ := List.exists_mem_of_ne_nil _ hne
    obtain ⟨piece, hmem, hpiece⟩ := List.mem_filterMap.mp hpath
    cases piece with
    | literal => cases hpiece
    | placeholder body => exact ⟨body, hmem⟩

theorem hasPlaceholders_iff_hasBraces :
    hasPlaceholders template = true ↔ HasBraces template.toList := by
  rw [hasPlaceholders_iff]
  constructor
  · rintro ⟨body, hmem⟩
    exact ⟨body, newline_notMem_of_placeholder hmem, source_infix_of_mem hmem⟩
  · rintro ⟨body, hline, hinfix⟩
    exact exists_placeholder_of_infix hline hinfix

theorem resolve_of_leadNowhere (h : ∀ path ∈ paths template, LeadsNowhere c path) :
    resolve template c = template := by
  apply resolve_of_text_eq_source
  intro piece hmem
  cases piece with
  | literal => rfl
  | placeholder body =>
    obtain ⟨e, he⟩ := lookUp_of_leadsNowhere (h _ (mem_paths_of_placeholder hmem))
    rw [lookUp_trim] at he
    rw [Piece.text, he]

/-! ## What stays -/

/-- What becomes of a text. -/
structure KeepsText (c : Context) (template : String) : Prop where
  unresolvable : (∀ path ∈ paths template, LeadsNowhere c path) → resolve template c = template
  paths : hasPlaceholders template = true ↔ paths template ≠ []
  braces : hasPlaceholders template = true ↔ HasBraces template.toList
  plain : ¬ HasBraces template.toList → resolve template c = template

/-- What becomes of a value. -/
structure KeepsShape (c : Context) (v : Json) : Prop where
  places : ∀ place,
    Option.Rel (Json.Matches (resolve · c)) (v.at? place) ((resolveValue v c).at? place)
  unresolvable : (∀ place s, v.at? place = some (.string s) →
    ∀ path ∈ Template.paths s, LeadsNowhere c path) → resolveValue v c = v

theorem keepsText (c : Context) (template : String) : KeepsText c template where
  unresolvable := resolve_of_leadNowhere
  paths := hasPlaceholders_iff_paths
  braces := hasPlaceholders_iff_hasBraces
  plain h := by
    rw [← hasPlaceholders_iff_hasBraces, Bool.not_eq_true] at h
    exact resolve_of_not_hasPlaceholders h c

theorem keepsShape (c : Context) (v : Json) : KeepsShape c v where
  places := v.rel_at?_mapStrings
  unresolvable h := by
    have hfixes : Json.Fixes (resolve · c) v :=
      fun place s hs => resolve_of_leadNowhere (h place s hs)
    exact hfixes.mapStrings_eq_self

/-- Text that cannot be resolved stays, in templates of every form and inside values of every
shape. -/
theorem unresolvable_kept (c : Context) :
    (∀ template, KeepsText c template) ∧ ∀ v, KeepsShape c v :=
  ⟨keepsText c, keepsShape c⟩

end Template

end Stepwise
