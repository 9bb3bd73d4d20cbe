import Stepwise.Proofs.Text.Characters

/-! # The text of a path -/

namespace Stepwise

open Token

/-- A character that can stand in a key without an end to the word. -/
def isPlain (c : Char) : Bool := isAlphanumeric c || c == '_' || c == '$' || c == '-'

/-- All keys are made of plain characters. -/
def Path.Plain (p : Path) : Prop :=
  ∀ name, .key name ∈ p.segments → ∀ c ∈ name.toList, isPlain c = true

theorem isWordChar_of_isPlain {c : Char} (h : isPlain c = true) : isWordChar c = true := by
  simp only [isPlain, isWordChar, Bool.or_eq_true] at h ⊢
  exact Or.inl (Or.inl (Or.inl h))

theorem isWordChar_of_isDigit {c : Char} (h : c.isDigit = true) : isWordChar c = true := by
  simp [isWordChar, isAlphanumeric, isNumeric, h]

theorem isWordChar_of_isLower {c : Char} (h : c.isLower = true) : isWordChar c = true := by
  simp [isWordChar, isAlphanumeric, isAlphabetic, isAlpha_of_isLower h]

namespace Path

theorem name_of_ofName? {name : String} {r : Root} (h : Root.ofName? name = some r) :
    name = r.name := by
  unfold Root.ofName? at h
  split at h <;> cases h <;> rfl

theorem parse_eq_ok {text : String} {p : Path} (h : Path.parse text = .ok p) :
    p.raw = String.ofList (trim text.toList) ∧ ∃ rest,
      trim text.toList = p.root.name.toList ++ rest ∧ segments? rest = .ok p.segments := by
  unfold parse at h
  dsimp only at h
  split at h
  · cases h
  · split at h
    · cases h
    · split at h
      · cases h
      · rename_i r hr
        split at h
        · rename_i segments hs
          cases h
          refine ⟨rfl, _, ?_, hs⟩
          rw [← name_of_ofName? hr, String.toList_ofList, List.takeWhile_append_dropWhile]
        · cases h

theorem segments?_isWordChar {cs : List Char} {segments : List Segment}
    (h : segments? cs = .ok segments)
    (plain : ∀ name, .key name ∈ segments → ∀ c ∈ name.toList, isPlain c = true) :
    ∀ c ∈ cs, isWordChar c = true := by
  fun_induction segments? cs generalizing segments with
  | case1 => exact fun _ hc => absurd hc List.not_mem_nil
  | case3 rest name hname more hmore =>
    rename_i ih
    cases h
    intro c hc
    rcases List.mem_cons.mp hc with rfl | hc
    · decide
    · rw [← List.takeWhile_append_dropWhile (p := isNameChar) (l := rest)] at hc
      rcases List.mem_append.mp hc with hc | hc
      · exact isWordChar_of_isPlain (plain _ List.mem_cons_self c (by simpa using hc))
      · exact ih hmore (fun _ hn => plain _ (List.mem_cons_of_mem _ hn)) c hc
  | case7 rest digits rest' hrest hdigits hbound more hmore =>
    rename_i ih
    cases h
    intro c hc
    rcases List.mem_cons.mp hc with rfl | hc
    · decide
    · rw [← List.takeWhile_append_dropWhile (p := Char.isDigit) (l := rest), hrest] at hc
      rcases List.mem_append.mp hc with hc | hc
      · exact isWordChar_of_isDigit (List.all_eq_true.mp List.all_takeWhile c hc)
      · rcases List.mem_cons.mp hc with rfl | hc
        · decide
        · exact ih hmore (fun _ hn => plain _ (List.mem_cons_of_mem _ hn)) c hc
  | case2 | case4 | case5 | case6 | case8 | case9 | case10 => cases h

theorem root_name_isLower (r : Root) : r.name.toList.all Char.isLower = true := by
  cases r <;> rfl

variable {text : String} {p : Path}

theorem raw_isWord (h : Path.parse text = .ok p) (plain : p.Plain) :
    ∃ c cs, p.raw.toList = c :: cs ∧ c.isLower = true ∧ ∀ x ∈ c :: cs, isWordChar x = true := by
  obtain ⟨hraw, rest, htext, hsegments⟩ := parse_eq_ok h
  rw [hraw, String.toList_ofList, htext]
  have hroot := List.all_eq_true.mp (root_name_isLower p.root)
  have hrest := segments?_isWordChar hsegments plain
  cases hname : p.root.name.toList with
  | nil => cases hr : p.root <;> simp [hr, Root.name] at hname
  | cons c cs =>
    rw [hname] at hroot
    refine ⟨c, cs ++ rest, rfl, hroot c List.mem_cons_self, fun x hx => ?_⟩
    rcases List.mem_append.mp (List.cons_append ▸ hx) with hx | hx
    · exact isWordChar_of_isLower (hroot x hx)
    · exact hrest x hx

theorem parse_raw (h : Path.parse text = .ok p) (plain : p.Plain) : Path.parse p.raw = .ok p := by
  obtain ⟨c, cs, hword, -, hchars⟩ := raw_isWord h plain
  have hblank : ∀ x ∈ p.raw.toList, isBlank x = false := by
    rw [hword]
    exact fun x hx => isBlank_of_isWordChar (hchars x hx)
  have htrim : trim p.raw.toList = trim text.toList := by
    rw [trim_eq_self hblank, (parse_eq_ok h).1, String.toList_ofList]
  unfold Path.parse at h ⊢
  rwa [htrim]

end Path

end Stepwise
