import Stepwise.Proofs.Named
import Stepwise.Template

/-! # The pieces of a template -/

namespace Stepwise

namespace Template

theorem eq_of_closing? {cs body after : List Char} (h : closing? cs = some (body, after)) :
    cs = body ++ ['\x7d', '\x7d'] ++ after := by
  fun_induction closing? cs generalizing body after with
  | case1 rest =>
    obtain ⟨rfl, rfl⟩ := Prod.mk.inj (Option.some.inj h)
    rfl
  | case2 => cases h
  | case3 c rest _ _ body' after' hr ih =>
    obtain ⟨rfl, rfl⟩ := Prod.mk.inj (Option.some.inj h)
    exact congrArg (c :: ·) (ih hr)
  | case4 => cases h
  | case5 => cases h

theorem flatMap_source_pieces (cs : List Char) : (pieces cs).flatMap Piece.source = cs := by
  fun_induction pieces cs with
  | case1 => rfl
  | case2 rest body after h ih =>
    rw [List.flatMap_cons, ih, eq_of_closing? h]
    simp [Piece.source]
  | case3 rest h ih =>
    rw [List.flatMap_cons, ih]
    rfl
  | case4 c rest _ ih =>
    rw [List.flatMap_cons, ih]
    rfl

theorem resolve_of_text_eq_source {template : String} {c : Context}
    (h : ∀ piece ∈ pieces template.toList, piece.text c = piece.source) :
    resolve template c = template := by
  rw [resolve, List.flatMap_def, List.map_congr_left h, ← List.flatMap_def,
    flatMap_source_pieces, String.ofList_toList]

theorem resolve_of_not_hasPlaceholders {template : String} (h : hasPlaceholders template = false)
    (c : Context) : resolve template c = template := by
  apply resolve_of_text_eq_source
  intro piece hmem
  cases piece with
  | literal => rfl
  | placeholder body => exact absurd (List.any_eq_false.mp h _ hmem) (by simp)

end Template

/-! ## Strings inside values -/

namespace Json

variable {f : String → String}

theorem mapStringsItems_eq_map (items : List Json) :
    mapStringsItems f items = items.map (mapStrings f) := by
  induction items with
  | nil => rfl
  | cons j rest ih => rw [mapStringsItems, ih, List.map_cons]

theorem mapStringsMembers_eq_map (members : List (String × Json)) :
    mapStringsMembers f members = members.map fun member => (member.1, member.2.mapStrings f) := by
  induction members with
  | nil => rfl
  | cons member rest ih => rw [mapStringsMembers, ih, List.map_cons]

theorem get?_mapStrings (f : String → String) (j : Json) (key : String) :
    (j.mapStrings f).get? key = (j.get? key).map (mapStrings f) := by
  cases j with
  | object members =>
    rw [mapStrings, mapStringsMembers_eq_map]
    exact Named.lookup_map (fun _ => mapStrings f) key members
  | null | bool | number | string | array => rfl

theorem string_of_mapStrings {j : Json} {s : String} (h : j.mapStrings f = .string s) :
    ∃ t, j = .string t ∧ f t = s := by
  cases j with
  | string t => exact ⟨t, rfl, Json.string.inj h⟩
  | null | bool | number | array | object => simp [mapStrings] at h

end Json

end Stepwise
