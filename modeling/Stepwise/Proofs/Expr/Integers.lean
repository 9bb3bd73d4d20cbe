import Stepwise.Expr.Basic
import Stepwise.Proofs.Numeric.Values

/-! # Comparisons of whole numbers -/

namespace Stepwise

open JsonNumber (inRange)

/-! ## The nearest double -/

/-- The value of the double nearest to a whole number. -/
def doubleOf (n : ℤ) : ℚ := (Binary.ofInt .double n).value

/-- Equal numbers, or numbers that do not share their nearest double. -/
def ToldApart (a b : ℤ) : Prop := a = b ∨ doubleOf a ≠ doubleOf b

variable {a b c : ℤ} {items : List ℤ}

theorem natAbs_lt_of_inRange (h : inRange a = true) : a.natAbs < UInt64.size := by
  simp only [inRange, Bool.and_eq_true, decide_eq_true_eq, UInt64.size] at h ⊢
  omega

theorem doubleOf_mono (ha : inRange a = true) (hb : inRange b = true) (le : a ≤ b) :
    doubleOf a ≤ doubleOf b :=
  Binary.value_ofInt_mono BinaryFormat.wide_double (natAbs_lt_of_inRange ha)
    (natAbs_lt_of_inRange hb) le

theorem doubleOf_eq (ha : inRange a = true) (small : a.natAbs ≤ 2 ^ 53) : doubleOf a = a :=
  Binary.value_ofInt BinaryFormat.wide_double (natAbs_lt_of_inRange ha) small

theorem lt_iff_of_toldApart (ha : inRange a = true) (hb : inRange b = true) (h : ToldApart a b) :
    doubleOf a < doubleOf b ↔ a < b := by
  rcases h with rfl | differ
  · simp only [lt_irrefl]
  · constructor
    · intro hlt
      by_contra hle
      exact hlt.not_ge (doubleOf_mono hb ha (not_lt.mp hle))
    · intro hlt
      exact lt_of_le_of_ne (doubleOf_mono ha hb hlt.le) differ

theorem eq_iff_of_toldApart (h : ToldApart a b) : doubleOf a = doubleOf b ↔ a = b := by
  rcases h with rfl | differ
  · simp only
  · exact ⟨fun same => absurd same differ, fun same => absurd (congrArg doubleOf same) differ⟩

theorem ToldApart.symm (h : ToldApart a b) : ToldApart b a := h.imp Eq.symm Ne.symm

/-- A number below `2 ^ 53` shares its double with no other. -/
theorem toldApart_of_small (ha : inRange a = true) (hb : inRange b = true)
    (small : a.natAbs < 2 ^ 53) : ToldApart a b := by
  have hbound : inRange (2 ^ 53) = true ∧ inRange (-2 ^ 53) = true := by decide
  have htop : doubleOf (2 ^ 53) = (2 ^ 53 : ℤ) := doubleOf_eq hbound.1 (by decide)
  have hbottom : doubleOf (-2 ^ 53) = (-2 ^ 53 : ℤ) := doubleOf_eq hbound.2 (by decide)
  have hself : doubleOf a = a := doubleOf_eq ha small.le
  by_cases hb' : b.natAbs ≤ 2 ^ 53
  · by_cases hab : a = b
    · exact .inl hab
    · refine .inr ?_
      rw [hself, doubleOf_eq hb hb']
      exact_mod_cast hab
  · refine .inr ?_
    rcases le_total 0 b with hpos | hneg
    · have hle : doubleOf (2 ^ 53) ≤ doubleOf b := doubleOf_mono hbound.1 hb (by omega)
      have hlt : doubleOf a < doubleOf (2 ^ 53) := by
        rw [hself, htop]
        exact_mod_cast (by omega : a < 2 ^ 53)
      exact (hlt.trans_le hle).ne
    · have hle : doubleOf b ≤ doubleOf (-2 ^ 53) := doubleOf_mono hb hbound.2 (by omega)
      have hlt : doubleOf (-2 ^ 53) < doubleOf a := by
        rw [hself, hbottom]
        exact_mod_cast (by omega : -2 ^ 53 < a)
      exact (hle.trans_lt hlt).ne'

/-! ## The operators -/

/-- The relation that an operator stands for. A text operator holds of no numbers. -/
def CompareOp.Holds {α : Type} [LT α] [LE α] (x y : α) : CompareOp → Prop
  | .eq => x = y
  | .ne => x ≠ y
  | .gt => y < x
  | .lt => x < y
  | .ge => y ≤ x
  | .le => x ≤ y
  | .contains | .startsWith | .endsWith => False

theorem looselySame_int_iff (ha : inRange a = true) (hb : inRange b = true) :
    (Json.int a).looselySame (.int b) = true ↔ doubleOf a = doubleOf b :=
  Binary.equal_iff (Binary.isFinite_ofInt BinaryFormat.wide_double (natAbs_lt_of_inRange ha))
    (Binary.isFinite_ofInt BinaryFormat.wide_double (natAbs_lt_of_inRange hb))

theorem CompareOp.apply_int_iff (ha : inRange a = true) (hb : inRange b = true) (op : CompareOp) :
    op.apply (.int a) (.int b) = true ↔ op.Holds (doubleOf a) (doubleOf b) := by
  have hfa : (Binary.ofInt .double a).isFinite = true :=
    Binary.isFinite_ofInt BinaryFormat.wide_double (natAbs_lt_of_inRange ha)
  have hfb : (Binary.ofInt .double b).isFinite = true :=
    Binary.isFinite_ofInt BinaryFormat.wide_double (natAbs_lt_of_inRange hb)
  cases op with
  | eq => exact looselySame_int_iff ha hb
  | ne =>
    rw [CompareOp.apply, Bool.not_eq_true', ← Bool.not_eq_true]
    exact not_congr (looselySame_int_iff ha hb)
  | gt => exact Binary.less_iff hfb hfa
  | lt => exact Binary.less_iff hfa hfb
  | ge => exact Binary.atMost_iff hfb hfa
  | le => exact Binary.atMost_iff hfa hfb
  | contains | startsWith | endsWith => exact iff_of_false Bool.false_ne_true id

theorem CompareOp.holds_doubleOf_iff (ha : inRange a = true) (hb : inRange b = true)
    (h : ToldApart a b) (op : CompareOp) : op.Holds (doubleOf a) (doubleOf b) ↔ op.Holds a b := by
  have hlt := lt_iff_of_toldApart ha hb h
  have hgt := lt_iff_of_toldApart hb ha h.symm
  cases op with
  | eq => exact eq_iff_of_toldApart h
  | ne => exact not_congr (eq_iff_of_toldApart h)
  | gt => exact hgt
  | lt => exact hlt
  | ge => exact not_lt.symm.trans ((not_congr hlt).trans not_lt)
  | le => exact not_lt.symm.trans ((not_congr hgt).trans not_lt)
  | contains | startsWith | endsWith => exact Iff.rfl

theorem CompareOp.holds_self_iff {α : Type} [Preorder α] {β : Type} [Preorder β] (x : α) (y : β)
    (op : CompareOp) : op.Holds x x ↔ op.Holds y y := by
  cases op <;> simp only [CompareOp.Holds, lt_irrefl, le_refl, ne_eq, not_true_eq_false]

theorem contains_int_iff (hitems : ∀ c ∈ items, inRange c = true) (hb : inRange b = true) :
    CompareOp.contains.apply (.array (items.map .int)) (.int b) = true ↔
      ∃ c ∈ items, doubleOf c = doubleOf b := by
  rw [CompareOp.apply, Json.contains, List.any_map, List.any_eq_true]
  constructor
  · rintro ⟨c, hc, same⟩
    exact ⟨c, hc, (looselySame_int_iff (hitems c hc) hb).mp same⟩
  · rintro ⟨c, hc, same⟩
    exact ⟨c, hc, (looselySame_int_iff (hitems c hc) hb).mpr same⟩

/-- Whole numbers are compared as such, unless two different ones share a double. Both are then at
least `2 ^ 53`, and every operator takes them for one number. -/
theorem CompareOp.apply_int (a b : ℤ) (items : List ℤ) (ha : inRange a = true)
    (hb : inRange b = true) (hitems : ∀ c ∈ items, inRange c = true) :
    (ToldApart a b → ∀ op : CompareOp, op.apply (.int a) (.int b) = true ↔ op.Holds a b) ∧
      (¬ToldApart a b → 2 ^ 53 ≤ a.natAbs ∧ 2 ^ 53 ≤ b.natAbs ∧
        ∀ op : CompareOp, op.apply (.int a) (.int b) = true ↔ op.Holds a a) ∧
      ((∀ c ∈ items, ToldApart c b) →
        (CompareOp.contains.apply (.array (items.map .int)) (.int b) = true ↔ b ∈ items)) ∧
      ((∃ c ∈ items, ¬ToldApart c b) →
        CompareOp.contains.apply (.array (items.map .int)) (.int b) = true) := by
  refine ⟨fun apart op => ?_, fun shared => ⟨?_, ?_, fun op => ?_⟩, fun apart => ?_, ?_⟩
  · exact (op.apply_int_iff ha hb).trans (op.holds_doubleOf_iff ha hb apart)
  · exact not_lt.mp fun small => shared (toldApart_of_small ha hb small)
  · exact not_lt.mp fun small => shared (toldApart_of_small hb ha small).symm
  · obtain ⟨-, same⟩ := not_or.mp shared
    rw [op.apply_int_iff ha hb, ← not_not.mp same]
    exact op.holds_self_iff _ _
  · rw [contains_int_iff hitems hb]
    constructor
    · rintro ⟨c, hc, same⟩
      exact (eq_iff_of_toldApart (apart c hc)).mp same ▸ hc
    · exact fun hmem => ⟨b, hmem, rfl⟩
  · rintro ⟨c, hc, shared⟩
    obtain ⟨-, same⟩ := not_or.mp shared
    exact (contains_int_iff hitems hb).mpr ⟨c, hc, not_not.mp same⟩

theorem CompareOp.apply_int_neighbours :
    ¬ToldApart (2 ^ 53) (2 ^ 53 + 1) ∧
      CompareOp.eq.apply (.int (2 ^ 53)) (.int (2 ^ 53 + 1)) = true ∧
      CompareOp.contains.apply (.array [.int (2 ^ 53)]) (.int (2 ^ 53 + 1)) = true ∧
      CompareOp.lt.apply (.int (2 ^ 53 - 1)) (.int (2 ^ 53 + 1)) = true ∧
      CompareOp.contains.apply (.array [.int (2 ^ 53 - 1)]) (.int (2 ^ 53 + 1)) = false := by
  have hshared : ¬ToldApart (2 ^ 53) (2 ^ 53 + 1) := by
    refine not_or.mpr ⟨by decide, not_not.mpr (congrArg Binary.value ?_)⟩
    decide +kernel
  have hapart : ToldApart (2 ^ 53 - 1) (2 ^ 53 + 1) :=
    toldApart_of_small (by decide) (by decide) (by decide)
  obtain ⟨-, both, -, found⟩ := CompareOp.apply_int (2 ^ 53) (2 ^ 53 + 1) [2 ^ 53] (by decide)
    (by decide) (by decide)
  obtain ⟨apart, -, listed, -⟩ := CompareOp.apply_int (2 ^ 53 - 1) (2 ^ 53 + 1) [2 ^ 53 - 1]
    (by decide) (by decide) (by decide)
  have hlt : (2 ^ 53 - 1 : ℤ) < 2 ^ 53 + 1 := by decide
  refine ⟨hshared, ((both hshared).2.2 .eq).mpr rfl, ?_, (apart hapart .lt).mpr hlt, ?_⟩
  · exact found ⟨2 ^ 53, List.mem_singleton_self _, hshared⟩
  · have hall : ∀ c ∈ [(2 ^ 53 - 1 : ℤ)], ToldApart c (2 ^ 53 + 1) := fun c hc =>
      List.mem_singleton.mp hc ▸ hapart
    exact Bool.eq_false_iff.mpr (mt (listed hall).mp (by decide))

end Stepwise
