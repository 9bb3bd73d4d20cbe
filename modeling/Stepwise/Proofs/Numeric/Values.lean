import Stepwise.Proofs.Numeric.Rounding

/-! # Values of binary numbers -/

namespace Stepwise

/-! ## Comparison -/

namespace Binary

/-- The number that a finite value is. -/
def value : Binary → ℚ
  | .finite s m e => if s then -(m * 2 ^ e) else m * 2 ^ e
  | _ => 0

variable {f : BinaryFormat} {num den : ℕ} {x y : Binary} {s : Bool} {m : ℕ} {e low : ℤ}

theorem value_zero (s : Bool) : (zero s).value = 0 := by cases s <;> simp [zero, value]

theorem signedAt_eq (h : low ≤ e) :
    (signedAt s m e low : ℚ) = (finite s m e).value / 2 ^ low := by
  have hneg : twoTo (-(e - low)) = 1 := by
    rw [twoTo, Int.toNat_of_nonpos (by omega)]
  have hpow : (twoTo (e - low) : ℚ) = 2 ^ e / 2 ^ low := by
    rw [← two_zpow_sub, ← twoTo_div_twoTo_neg, hneg, Nat.cast_one, div_one]
  unfold signedAt value
  dsimp only
  have hm : (((m * twoTo (e - low) : ℕ) : ℤ) : ℚ) = m * 2 ^ e / 2 ^ low := by
    push_cast [hpow]
    ring
  cases s with
  | true => rw [if_pos rfl, if_pos rfl, Int.cast_neg, hm, neg_div]
  | false => rw [if_neg Bool.false_ne_true, if_neg Bool.false_ne_true, hm]

theorem compare?_eq (hx : x.isFinite = true) (hy : y.isFinite = true) :
    ∃ a b : ℤ, compare? x y = some (compare a b) ∧ ∃ low : ℤ, (a : ℚ) = x.value / 2 ^ low ∧
      (b : ℚ) = y.value / 2 ^ low := by
  cases x with
  | nan | infinite => cases hx
  | finite s m e =>
    cases y with
    | nan | infinite => cases hy
    | finite t n d =>
      exact ⟨_, _, rfl, min e d, signedAt_eq (min_le_left _ _), signedAt_eq (min_le_right _ _)⟩

theorem less_iff (hx : x.isFinite = true) (hy : y.isFinite = true) :
    x.less y = true ↔ x.value < y.value := by
  obtain ⟨a, b, hcompare, low, ha, hb⟩ := compare?_eq hx hy
  rw [less, hcompare, beq_iff_eq, Option.some.injEq, compare_lt_iff_lt,
    ← div_lt_div_iff_of_pos_right (two_zpow_pos low), ← ha, ← hb]
  exact_mod_cast Iff.rfl

theorem equal_iff (hx : x.isFinite = true) (hy : y.isFinite = true) :
    x.equal y = true ↔ x.value = y.value := by
  obtain ⟨a, b, hcompare, low, ha, hb⟩ := compare?_eq hx hy
  rw [equal, hcompare, beq_iff_eq, Option.some.injEq, compare_eq_iff_eq,
    ← div_left_inj' (two_zpow_pos low).ne', ← ha, ← hb]
  exact_mod_cast Iff.rfl

theorem atMost_iff (hx : x.isFinite = true) (hy : y.isFinite = true) :
    x.atMost y = true ↔ x.value ≤ y.value := by
  rw [atMost, Bool.or_eq_true, less_iff hx hy, equal_iff hx hy, le_iff_lt_or_eq]

theorem value_finite (s : Bool) (m : ℕ) (e : ℤ) :
    (finite s m e).value = if s then -(m * 2 ^ e : ℚ) else m * 2 ^ e := rfl

/-! ## Rounding -/

theorem carry {p q : ℕ} (hp : 0 < p) (hq : q = twoTo p) (e : ℤ) :
    0 < q / 2 ∧ ((q / 2 : ℕ) * 2 ^ (e + 1) : ℚ) = q * 2 ^ e := by
  obtain ⟨r, rfl⟩ : ∃ r, p = r + 1 := ⟨p - 1, by omega⟩
  have hdouble : q = 2 * (q / 2) := by
    rw [hq, twoTo_natCast, pow_succ]
    omega
  have hpos : 0 < q := hq ▸ twoTo_pos _
  refine ⟨by omega, ?_⟩
  have hcast : (q : ℚ) = 2 * (q / 2 : ℕ) := by exact_mod_cast hdouble
  rw [two_zpow_add, zpow_one, hcast]
  ring

theorem value_round (f : BinaryFormat) (s : Bool) (num den : ℕ) :
    (round f s num den).value =
      if s then -(round f false num den).value else (round f false num den).value := by
  cases s with
  | false => rfl
  | true =>
    rw [if_pos rfl]
    unfold round
    split
    · rw [value_zero, value_zero, neg_zero]
    · dsimp only
      -- the significand and the exponent after the carry do not depend on the sign
      generalize (if nearest num den (exponentFor f num den) = twoTo f.precision then _ else _ :
        ℕ × ℤ) = last
      split
      · rw [value_zero, value_zero, neg_zero]
      · split
        · exact neg_zero.symm
        · rw [value_finite, value_finite, if_pos rfl, if_neg Bool.false_ne_true]

theorem round_rounds (hf : 0 < f.precision) (s : Bool) (hn : 0 < num) (hd : 0 < den)
    (bounded : f.exponentAt (num / den) < f.maxExponent) :
    ∃ v, f.Rounds (num / den) v ∧ (round f s num den).isFinite = true ∧
      (round f s num den).value = if s then -v else v := by
  refine ⟨_, ⟨_, nearest_spec num hd _, rfl⟩, ?_⟩
  unfold round
  rw [if_neg hn.ne', exponentFor_eq f hn hd]
  dsimp only
  generalize f.exponentAt (num / den) = e at *
  generalize nearest num den e = q at *
  split
  · rename_i hcarry
    obtain ⟨hpos, hvalue⟩ := carry hf hcarry e
    rw [if_neg hpos.ne', if_neg (by omega), value_finite, hvalue]
    exact ⟨rfl, rfl⟩
  · split
    · rename_i hzero
      refine ⟨rfl, ?_⟩
      dsimp only at hzero
      rw [value_zero, hzero]
      simp
    · rw [if_neg (by omega)]
      exact ⟨rfl, rfl⟩

end Binary

/-! ## Whole numbers -/

/-- A format in which no whole number of one machine word is too great. -/
structure BinaryFormat.Wide (f : BinaryFormat) : Prop where
  bits : 0 < f.precision
  least : f.minExponent ≤ 0
  greatest : 64 ≤ f.maxExponent

theorem BinaryFormat.wide_double : BinaryFormat.double.Wide := ⟨by decide, by decide, by decide⟩

theorem BinaryFormat.wide_single : BinaryFormat.single.Wide := ⟨by decide, by decide, by decide⟩

theorem BinaryFormat.Wide.bounded {f : BinaryFormat} (h : f.Wide) {x : ℚ} (hx : 0 < x)
    (word : x < UInt64.size) : f.exponentAt x < f.maxExponent := by
  have hbits := h.bits
  have hleast := h.least
  have hgreatest := h.greatest
  have hsize : ((UInt64.size : ℕ) : ℚ) = 2 ^ (64 : ℤ) := by norm_num [UInt64.size]
  have hword : x < 2 ^ ((63 : ℤ) + f.precision) :=
    word.trans_le (hsize.le.trans (two_zpow_le (by omega)))
  have hle := BinaryFormat.exponentAt_le_of_lt hx hword (by omega)
  omega

namespace Binary

variable {f : BinaryFormat} {x y : Binary} {m n : ℤ}

theorem value_ofInt_zero (f : BinaryFormat) : (ofInt f 0).value = 0 := value_zero false

theorem value_ofInt_neg (f : BinaryFormat) (n : ℤ) :
    (ofInt f (-n)).value = -(ofInt f n).value := by
  rcases lt_trichotomy n 0 with hn | rfl | hn
  · rw [ofInt, ofInt, Int.natAbs_neg, decide_eq_true hn, decide_eq_false (by omega),
      value_round f true, if_pos rfl, neg_neg]
  · rw [Int.neg_zero, value_ofInt_zero, neg_zero]
  · rw [ofInt, ofInt, Int.natAbs_neg, decide_eq_true (by omega), decide_eq_false hn.not_gt,
      value_round f true, if_pos rfl]

theorem ofInt_rounds (h : f.Wide) (hn : n ≠ 0) (word : n.natAbs < UInt64.size) :
    (ofInt f n).isFinite = true ∧ (0 < n → f.Rounds n (ofInt f n).value) := by
  have hpos : 0 < n.natAbs := Int.natAbs_pos.mpr hn
  obtain ⟨v, hv, hfinite, hvalue⟩ := round_rounds h.bits (decide (n < 0)) hpos one_pos (by
    rw [Nat.cast_one, div_one]
    exact h.bounded (by exact_mod_cast hpos) (by exact_mod_cast word))
  refine ⟨hfinite, fun positive => ?_⟩
  have hcast : ((n.natAbs : ℕ) : ℚ) = n := by
    rw [Nat.cast_natAbs, abs_of_pos positive]
  rw [decide_eq_false (by omega), if_neg Bool.false_ne_true] at hvalue
  rw [ofInt, decide_eq_false (by omega), hvalue]
  rwa [Nat.cast_one, div_one, hcast] at hv

theorem isFinite_ofInt (h : f.Wide) (word : n.natAbs < UInt64.size) :
    (ofInt f n).isFinite = true := by
  by_cases hn : n = 0
  · rw [hn]
    rfl
  · exact (ofInt_rounds h hn word).1

theorem value_ofInt_nonneg (h : f.Wide) (word : n.natAbs < UInt64.size) (hn : 0 ≤ n) :
    0 ≤ (ofInt f n).value := by
  rcases hn.eq_or_lt with rfl | positive
  · exact (value_ofInt_zero f).ge
  · exact ((ofInt_rounds h positive.ne' word).2 positive).nonneg (by exact_mod_cast hn)

theorem value_ofInt_mono_of_pos (h : f.Wide) (hm : m.natAbs < UInt64.size)
    (hn : n.natAbs < UInt64.size) (positive : 0 < m) (le : m ≤ n) :
    (ofInt f m).value ≤ (ofInt f n).value :=
  ((ofInt_rounds h positive.ne' hm).2 positive).mono h.bits (by exact_mod_cast positive)
    (by exact_mod_cast le) ((ofInt_rounds h (by omega) hn).2 (by omega))

theorem value_ofInt_mono (h : f.Wide) (hm : m.natAbs < UInt64.size) (hn : n.natAbs < UInt64.size)
    (le : m ≤ n) : (ofInt f m).value ≤ (ofInt f n).value := by
  rcases lt_or_ge 0 m with hpos | hm'
  · exact value_ofInt_mono_of_pos h hm hn hpos le
  · rcases lt_or_ge n 0 with hneg | hn'
    · have hle := value_ofInt_mono_of_pos (m := -n) (n := -m) h (by rwa [Int.natAbs_neg])
        (by rwa [Int.natAbs_neg]) (by omega) (by omega)
      rw [value_ofInt_neg, value_ofInt_neg] at hle
      exact neg_le_neg_iff.mp hle
    · have hle := value_ofInt_nonneg (n := -m) h (by rwa [Int.natAbs_neg]) (by omega)
      rw [value_ofInt_neg] at hle
      exact (neg_nonneg.mp hle).trans (value_ofInt_nonneg h hn hn')

theorem value_ofInt (h : f.Wide) (word : n.natAbs < UInt64.size)
    (small : n.natAbs ≤ twoTo f.precision) : (ofInt f n).value = n := by
  have hpositive : ∀ m : ℕ, 0 < m → m < UInt64.size → m ≤ twoTo f.precision →
      (ofInt f m).value = m := fun m hm word small =>
    ((ofInt_rounds (n := m) h (by omega) word).2 (by omega)).natCast h.bits h.least hm small
  rcases lt_trichotomy n 0 with hn | rfl | hn
  · obtain ⟨m, rfl⟩ : ∃ m : ℕ, n = -m := ⟨n.natAbs, by omega⟩
    rw [Int.natAbs_neg] at word small
    rw [value_ofInt_neg, hpositive m (by omega) word small]
    push_cast
    rfl
  · rw [value_ofInt_zero, Int.cast_zero]
  · obtain ⟨m, rfl⟩ : ∃ m : ℕ, n = m := ⟨n.natAbs, by omega⟩
    rw [hpositive m (by omega) word small]
    push_cast
    rfl

theorem one_le_value_ofInt (h : f.Wide) (word : n.natAbs < UInt64.size) (hn : 0 < n) :
    1 ≤ (ofInt f n).value := by
  have hone : (ofInt f 1).value = (1 : ℤ) := value_ofInt h (by decide) Nat.one_le_two_pow
  rw [Int.cast_one] at hone
  rw [← hone]
  exact value_ofInt_mono h (by decide) word hn

theorem value_ofInt_le (h : f.Wide) (word : n.natAbs < UInt64.size) (hn : 0 < n) :
    (ofInt f n).value ≤ 2 ^ (64 : ℤ) := by
  have hbits := h.bits
  have hleast := h.least
  have hlt : (n : ℚ) < 2 ^ (64 : ℤ) := by
    exact_mod_cast (by rw [UInt64.size] at word; omega : n < 2 ^ 64)
  have hlow : f.exponentAt n ≤ 64 :=
    BinaryFormat.exponentAt_le_of_lt (by exact_mod_cast hn)
      (hlt.trans_le (two_zpow_le (by omega))) (by omega)
  have hle := ((ofInt_rounds h hn.ne' word).2 hn).le_of_le (c := 1) hlow
    (by rw [Int.cast_one, one_mul]; exact hlt.le)
  rwa [Int.cast_one, one_mul] at hle

/-! ## Quotients -/

theorem exists_finite_of_value_pos (hx : 0 < x.value) :
    ∃ m e, x = finite false m e ∧ 0 < m := by
  cases x with
  | nan | infinite => exact absurd hx (lt_irrefl 0)
  | finite s m e =>
    rw [value_finite] at hx
    cases s with
    | true =>
      have hpos : (0 : ℚ) ≤ m * 2 ^ e := mul_nonneg m.cast_nonneg (two_zpow_pos e).le
      rw [if_pos rfl] at hx
      linarith
    | false =>
      rw [if_neg Bool.false_ne_true] at hx
      refine ⟨m, e, rfl, Nat.pos_of_ne_zero fun hm => ?_⟩
      rw [hm, Nat.cast_zero, zero_mul] at hx
      exact lt_irrefl 0 hx

/-- A quotient of positive values is their exact quotient, rounded once. -/
theorem divide_rounds (hf : 0 < f.precision) (hx : 0 < x.value) (hy : 0 < y.value)
    (bounded : f.exponentAt (x.value / y.value) < f.maxExponent) :
    (divide f x y).isFinite = true ∧ f.Rounds (x.value / y.value) (divide f x y).value := by
  obtain ⟨m, e, rfl, hm⟩ := exists_finite_of_value_pos hx
  obtain ⟨n, d, rfl, hn⟩ := exists_finite_of_value_pos hy
  have hquotient : ((finite false m e).value / (finite false n d).value : ℚ) =
      (m * twoTo (e - d) : ℕ) / (n * twoTo (d - e) : ℕ) := by
    have hsplit := div_zpow_eq m n (d - e)
    rw [Int.neg_sub] at hsplit
    rw [← hsplit, two_zpow_sub, value_finite, value_finite, if_neg Bool.false_ne_true,
      if_neg Bool.false_ne_true]
    have := (two_zpow_pos d).ne'
    have := (two_zpow_pos e).ne'
    field_simp
  rw [hquotient] at bounded ⊢
  rw [divide, if_neg hn.ne', bne_self_eq_false]
  obtain ⟨v, hv, hfinite, hvalue⟩ := round_rounds hf false (Nat.mul_pos hm (twoTo_pos _))
    (Nat.mul_pos hn (twoTo_pos _)) bounded
  rw [if_neg Bool.false_ne_true] at hvalue
  exact ⟨hfinite, hvalue ▸ hv⟩

end Binary

end Stepwise
