import Stepwise.Expr.Lexer

/-! # Kinds of characters -/

namespace Stepwise

/-! ## Sets of characters -/

namespace CharRanges

variable {r s : CharRanges} {c : Char}

/-- No character lies in both sets. -/
def Apart (r s : CharRanges) : Prop := ∀ a ∈ r, ∀ b ∈ s, a.2 < b.1 ∨ b.2 < a.1

instance (r s : CharRanges) : Decidable (Apart r s) :=
  inferInstanceAs (Decidable (∀ a ∈ r, ∀ b ∈ s, a.2 < b.1 ∨ b.2 < a.1))

theorem has_iff : r.has c = true ↔ ∃ a ∈ r, a.1 ≤ c.toNat ∧ c.toNat ≤ a.2 := by
  simp [has]

theorem Apart.not_has (h : Apart r s) (hc : s.has c = true) : r.has c = false := by
  rw [Bool.eq_false_iff]
  intro hr
  obtain ⟨a, ha, ha₁, ha₂⟩ := has_iff.mp hr
  obtain ⟨b, hb, hb₁, hb₂⟩ := has_iff.mp hc
  have := h a ha b hb
  omega

end CharRanges

theorem blankRanges_apart_alphabetic : blankRanges.Apart alphabeticRanges := by decide +kernel

theorem blankRanges_apart_numeric : blankRanges.Apart numericRanges := by decide +kernel

/-! ## Words -/

variable {c : Char}

theorem toNat_of_isLower (h : c.isLower = true) : 97 ≤ c.toNat ∧ c.toNat ≤ 122 := by
  have hbounds : (decide (c.val ≥ 97) && decide (c.val ≤ 122)) = true := h
  simpa [UInt32.le_iff_toNat_le] using hbounds

theorem toNat_of_isUpper (h : c.isUpper = true) : 65 ≤ c.toNat ∧ c.toNat ≤ 90 := by
  have hbounds : decide (c.val ≥ 65 ∧ c.val ≤ 90) = true := h
  simpa [UInt32.le_iff_toNat_le] using hbounds

theorem isAlpha_of_isLower (h : c.isLower = true) : c.isAlpha = true := by
  rw [show c.isAlpha = (c.isUpper || c.isLower) from rfl, h, Bool.or_true]

theorem toNat_of_isAlpha (h : c.isAlpha = true) :
    65 ≤ c.toNat ∧ c.toNat ≤ 90 ∨ 97 ≤ c.toNat ∧ c.toNat ≤ 122 := by
  rcases Bool.or_eq_true_iff.mp h with hupper | hlower
  · exact Or.inl (toNat_of_isUpper hupper)
  · exact Or.inr (toNat_of_isLower hlower)

theorem toNat_of_isDigit (h : c.isDigit = true) : 48 ≤ c.toNat ∧ c.toNat ≤ 57 := by
  simpa [Char.isDigit, UInt32.le_iff_toNat_le] using h

theorem isBlank_of_isAlphabetic (h : isAlphabetic c = true) : isBlank c = false := by
  rw [isAlphabetic, Bool.or_eq_true, Bool.and_eq_true] at h
  rcases h with h | ⟨-, h⟩
  · have hletters : CharRanges.has [(65, 90), (97, 122)] c = true := by
      simpa [CharRanges.has] using toNat_of_isAlpha h
    exact CharRanges.Apart.not_has (by decide) hletters
  · exact blankRanges_apart_alphabetic.not_has h

theorem isBlank_of_isNumeric (h : isNumeric c = true) : isBlank c = false := by
  rw [isNumeric, Bool.or_eq_true, Bool.and_eq_true] at h
  rcases h with h | ⟨-, h⟩
  · have hdigits : CharRanges.has [(48, 57)] c = true := by
      simpa [CharRanges.has] using toNat_of_isDigit h
    exact CharRanges.Apart.not_has (by decide) hdigits
  · exact blankRanges_apart_numeric.not_has h

theorem isBlank_of_isWordChar (h : Token.isWordChar c = true) : isBlank c = false := by
  simp only [Token.isWordChar, isAlphanumeric, Bool.or_eq_true, beq_iff_eq] at h
  rcases h with ((((((h | h) | rfl) | rfl) | rfl) | rfl) | rfl) | rfl
  · exact isBlank_of_isAlphabetic h
  · exact isBlank_of_isNumeric h
  all_goals decide

/-! ## Runs of characters -/

section Runs

variable {p : Char → Bool} {cs after : List Char}

theorem takeWhile_append_of_head (hin : ∀ x ∈ cs, p x = true)
    (hout : ∀ x, after.head? = some x → p x = false) : (cs ++ after).takeWhile p = cs := by
  rw [List.takeWhile_append_of_pos hin]
  cases after with
  | nil => simp
  | cons x rest => simp [hout x rfl]

theorem dropWhile_append_of_head (hin : ∀ x ∈ cs, p x = true)
    (hout : ∀ x, after.head? = some x → p x = false) : (cs ++ after).dropWhile p = after := by
  rw [List.dropWhile_append_of_pos hin]
  cases after with
  | nil => rfl
  | cons x rest => simp [hout x rfl]

end Runs

/-! ## Blanks at the ends of a text -/

section Trim

variable {cs : List Char}

theorem isBlank_of_head?_dropWhile {c : Char} (h : (cs.dropWhile isBlank).head? = some c) :
    isBlank c = false := by
  have hhead := List.head?_dropWhile_not isBlank cs
  rw [h] at hhead
  exact hhead

theorem trim_of_ends (hhead : ∀ c, cs.head? = some c → isBlank c = false)
    (hlast : ∀ c, cs.reverse.head? = some c → isBlank c = false) : trim cs = cs := by
  have hstop : ∀ ds : List Char, (∀ c, ds.head? = some c → isBlank c = false) →
      ds.dropWhile isBlank = ds := by
    intro ds h
    cases ds with
    | nil => rfl
    | cons c rest => rw [List.dropWhile_cons_of_neg (by simp [h c rfl])]
  rw [trim, trimStart, hstop cs hhead, trimEnd, hstop cs.reverse hlast, List.reverse_reverse]

theorem trim_eq_self (h : ∀ c ∈ cs, isBlank c = false) : trim cs = cs := by
  apply trim_of_ends
  · intro c hc
    exact h c (List.mem_of_mem_head? hc)
  · intro c hc
    exact h c (List.mem_reverse.mp (List.mem_of_mem_head? hc))

@[simp] theorem trim_trim (cs : List Char) : trim (trim cs) = trim cs := by
  -- what is cut off at the end leaves the start as it is
  have hprefix : trim cs <+: trimStart cs := by
    rw [← List.reverse_suffix, trim, trimEnd, List.reverse_reverse]
    exact List.dropWhile_suffix isBlank
  obtain ⟨cut, hcut⟩ := hprefix
  apply trim_of_ends
  · intro c hc
    have hstart : (trimStart cs).head? = some c := by
      rw [← hcut, List.head?_append, hc, Option.some_or]
    exact isBlank_of_head?_dropWhile hstart
  · intro c hc
    rw [trim, trimEnd, List.reverse_reverse] at hc
    exact isBlank_of_head?_dropWhile hc

theorem exists_trim (cs : List Char) : ∃ lead trail, cs = lead ++ (trim cs ++ trail) ∧
    (∀ c ∈ lead, isBlank c = true) ∧ ∀ c ∈ trail, isBlank c = true := by
  refine ⟨cs.takeWhile isBlank, ((trimStart cs).reverse.takeWhile isBlank).reverse, ?_, ?_, ?_⟩
  · rw [trim, trimEnd, ← List.reverse_append, List.takeWhile_append_dropWhile, List.reverse_reverse,
      trimStart, List.takeWhile_append_dropWhile]
  · exact List.all_eq_true.mp List.all_takeWhile
  · exact fun c hc => List.all_eq_true.mp List.all_takeWhile c (List.mem_reverse.mp hc)

end Trim

end Stepwise
