import Mathlib.Algebra.Order.Field.Power
import Mathlib.Algebra.Order.Ring.Abs
import Mathlib.Data.Int.Log
import Mathlib.Data.Nat.Log
import Mathlib.Data.Rat.Floor
import Mathlib.Tactic.FieldSimp
import Mathlib.Tactic.Linarith
import Mathlib.Tactic.Positivity
import Mathlib.Tactic.Ring
import Stepwise.Numeric.Binary

/-! # Rounded numbers -/

namespace Stepwise

/-! ## The nearest whole number -/

/-- No whole number is nearer, and of two that are equally near it is the even one. -/
structure Nearest (q : ℤ) (y : ℚ) : Prop where
  close : |y - q| ≤ 1 / 2
  even : |y - q| = 1 / 2 → Even q

namespace Nearest

variable {p q : ℤ} {x y : ℚ}

theorem intCast (n : ℤ) : Nearest n n := by
  have hzero : |(n : ℚ) - n| = 0 := by rw [sub_self, abs_zero]
  exact ⟨by rw [hzero]; norm_num, fun h => by rw [hzero] at h; norm_num at h⟩

theorem mono (h : Nearest p x) (k : Nearest q y) (le : x ≤ y) : p ≤ q := by
  by_contra hlt
  have hstep : (q : ℚ) + 1 ≤ p := by exact_mod_cast Int.not_le.mp hlt
  have hx := abs_le.mp h.close
  have hy := abs_le.mp k.close
  -- then `x` and `y` are one number half way between the two, and both would be even
  have hp : Even p := h.even (by rw [abs_of_nonpos (by linarith)]; linarith)
  have hq : Even q := k.even (by rw [abs_of_nonneg (by linarith)]; linarith)
  have hpq : (p : ℚ) = q + 1 := by linarith
  have hpq : p = q + 1 := by exact_mod_cast hpq
  rw [hpq] at hp
  exact Int.not_even_iff_odd.mpr hq.add_one hp

/-- The nearest whole number by what is left over from it. -/
theorem div_iff {n : ℤ} {d : ℕ} (hd : 0 < d) :
    Nearest q (n / d : ℚ) ↔ 2 * |n - q * d| ≤ d ∧ (2 * |n - q * d| = d → Even q) := by
  have hpos : (0 : ℚ) < d := by exact_mod_cast hd
  have hleft : |(n / d : ℚ) - q| = |n - q * d| / d := by
    rw [show (n / d : ℚ) - q = (n - q * d : ℤ) / d by push_cast; field_simp, abs_div,
      abs_of_pos hpos]
    push_cast
    rfl
  have hle : |(n / d : ℚ) - q| ≤ 1 / 2 ↔ 2 * |n - q * d| ≤ d := by
    rw [hleft, div_le_div_iff₀ hpos (by norm_num), one_mul, mul_comm]
    exact_mod_cast Iff.rfl
  have heq : |(n / d : ℚ) - q| = 1 / 2 ↔ 2 * |n - q * d| = d := by
    rw [hleft, div_eq_div_iff hpos.ne' (by norm_num), one_mul, mul_comm]
    exact_mod_cast Iff.rfl
  constructor
  · intro h
    exact ⟨hle.mp h.close, fun half => h.even (heq.mpr half)⟩
  · rintro ⟨close, even⟩
    exact ⟨hle.mpr close, fun half => even (heq.mp half)⟩

end Nearest

/-! ## Powers of two -/

theorem two_zpow_pos (e : ℤ) : (0 : ℚ) < 2 ^ e := zpow_pos (by norm_num) e

theorem two_zpow_le {d e : ℤ} (h : d ≤ e) : (2 : ℚ) ^ d ≤ 2 ^ e :=
  zpow_le_zpow_right₀ (by norm_num) h

theorem two_zpow_add (d e : ℤ) : (2 : ℚ) ^ (d + e) = 2 ^ d * 2 ^ e := zpow_add₀ (by norm_num) d e

theorem two_zpow_sub (d e : ℤ) : (2 : ℚ) ^ (d - e) = 2 ^ d / 2 ^ e := zpow_sub₀ (by norm_num) d e

theorem twoTo_pos (e : ℤ) : 0 < twoTo e := Nat.pow_pos (by decide)

theorem twoTo_natCast (n : ℕ) : twoTo n = 2 ^ n := rfl

theorem twoTo_div_twoTo_neg (e : ℤ) : (twoTo e / twoTo (-e) : ℚ) = 2 ^ e := by
  have hcast : ∀ d : ℤ, (twoTo d : ℚ) = 2 ^ (d.toNat : ℤ) := fun d => by
    rw [zpow_natCast]
    exact_mod_cast rfl
  rw [hcast, hcast, ← two_zpow_sub]
  congr 1
  omega

theorem div_zpow_eq (num den : ℕ) (e : ℤ) :
    (num / den / 2 ^ e : ℚ) = (num * twoTo (-e) : ℕ) / (den * twoTo e : ℕ) := by
  have h₁ : (twoTo e : ℚ) ≠ 0 := by exact_mod_cast (twoTo_pos e).ne'
  have h₂ : (twoTo (-e) : ℚ) ≠ 0 := by exact_mod_cast (twoTo_pos (-e)).ne'
  rw [← twoTo_div_twoTo_neg]
  push_cast
  field_simp

namespace Binary

variable {num den : ℕ} {e : ℤ}

theorem nearest_spec (num : ℕ) (hd : 0 < den) (e : ℤ) :
    Nearest (nearest num den e) (num / den / 2 ^ e) := by
  have hD : 0 < den * twoTo e := Nat.mul_pos hd (twoTo_pos e)
  have hsplit := Nat.div_add_mod (num * twoTo (-e)) (den * twoTo e)
  have hlt := Nat.mod_lt (num * twoTo (-e)) hD
  rw [div_zpow_eq]
  refine (Nearest.div_iff (n := (num * twoTo (-e) : ℕ)) hD).mpr ?_
  unfold nearest
  dsimp only
  generalize num * twoTo (-e) = n at *
  generalize den * twoTo e = d at *
  generalize n / d = q at *
  generalize n % d = r at *
  have hn : (n : ℤ) = q * d + r := by rw [← hsplit]; push_cast; ring
  split
  · have hleft : (n : ℤ) - ((q + 1 : ℕ) : ℤ) * d = r - d := by rw [hn]; push_cast; ring
    rw [hleft, abs_of_nonpos (by omega)]
    refine ⟨by omega, fun half => ?_⟩
    have heven : (q + 1) % 2 = 0 := by omega
    exact_mod_cast Nat.even_iff.mpr heven
  · have hleft : (n : ℤ) - (q : ℤ) * d = r := by rw [hn]; ring
    rw [hleft, abs_of_nonneg (by omega)]
    refine ⟨by omega, fun half => ?_⟩
    have heven : q % 2 = 0 := by omega
    exact_mod_cast Nat.even_iff.mpr heven

theorem quotient_lt_iff (hd : 0 < den) (p : ℕ) :
    quotient num den e < twoTo p ↔ (num / den : ℚ) < 2 ^ (e + p) := by
  have hD : 0 < den * twoTo e := Nat.mul_pos hd (twoTo_pos e)
  have hD' : (0 : ℚ) < (den * twoTo e : ℕ) := by exact_mod_cast hD
  rw [quotient, Nat.div_lt_iff_lt_mul hD, two_zpow_add, ← div_lt_iff₀' (two_zpow_pos e),
    div_zpow_eq, div_lt_iff₀ hD', zpow_natCast, twoTo_natCast]
  exact_mod_cast Iff.rfl

end Binary

/-! ## The last bit that is kept -/

namespace BinaryFormat

/-- The power of two of the last bit that a format keeps of a number. -/
def exponentAt (f : BinaryFormat) (x : ℚ) : ℤ := max f.minExponent (Int.log 2 x - f.precision + 1)

variable {f : BinaryFormat} {x y v w : ℚ} {c k : ℤ}

theorem exponentAt_mono (f : BinaryFormat) (hx : 0 < x) (le : x ≤ y) :
    f.exponentAt x ≤ f.exponentAt y := by
  have hlog : Int.log 2 x ≤ Int.log 2 y := Int.log_mono_right hx le
  unfold exponentAt
  omega

theorem lt_zpow_exponentAt (f : BinaryFormat) (x : ℚ) : x < 2 ^ (f.exponentAt x + f.precision) := by
  have hlt : x < 2 ^ (Int.log 2 x + 1) := by exact_mod_cast Int.lt_zpow_succ_log_self (by decide) x
  refine hlt.trans_le (two_zpow_le ?_)
  unfold exponentAt
  omega

theorem zpow_exponentAt_le (hx : 0 < x) (above : f.minExponent < f.exponentAt x) :
    2 ^ (f.exponentAt x + f.precision - 1) ≤ x := by
  have hle : 2 ^ Int.log 2 x ≤ x := by exact_mod_cast Int.zpow_log_le_self (by decide) hx
  refine le_trans (two_zpow_le ?_) hle
  unfold exponentAt at above ⊢
  omega

theorem exponentAt_le_of_lt (hx : 0 < x) (lt : x < 2 ^ (k + f.precision))
    (least : f.minExponent ≤ k) : f.exponentAt x ≤ k := by
  have hlog : Int.log 2 x < k + f.precision :=
    (Int.lt_zpow_iff_log_lt (by decide) hx).mp (by exact_mod_cast lt)
  unfold exponentAt
  omega

end BinaryFormat

namespace Binary

variable {f : BinaryFormat} {num den : ℕ}

theorem exponentFor_eq (f : BinaryFormat) (hn : 0 < num) (hd : 0 < den) :
    exponentFor f num den = f.exponentAt (num / den) := by
  have hnum : (0 : ℚ) < num := by exact_mod_cast hn
  have hden : (0 : ℚ) < den := by exact_mod_cast hd
  have hx : (0 : ℚ) < num / den := div_pos hnum hden
  have hn₁ : (2 : ℚ) ^ (num.log2 : ℤ) ≤ num := by exact_mod_cast Nat.log2_self_le hn.ne'
  have hn₂ : (num : ℚ) < 2 ^ (num.log2 + 1 : ℤ) := by exact_mod_cast Nat.lt_log2_self (n := num)
  have hd₁ : (2 : ℚ) ^ (den.log2 : ℤ) ≤ den := by exact_mod_cast Nat.log2_self_le hd.ne'
  have hd₂ : (den : ℚ) < 2 ^ (den.log2 + 1 : ℤ) := by exact_mod_cast Nat.lt_log2_self (n := den)
  have hlow : (2 : ℚ) ^ (num.log2 - (den.log2 + 1) : ℤ) ≤ num / den := by
    rw [two_zpow_sub]
    exact div_le_div₀ hnum.le hn₁ hden hd₂.le
  have hhigh : (num / den : ℚ) < 2 ^ (num.log2 + 1 - den.log2 : ℤ) := by
    rw [two_zpow_sub]
    exact div_lt_div₀ hn₂ hd₁ (two_zpow_pos _).le (two_zpow_pos _)
  have hlog₁ : (num.log2 : ℤ) - (den.log2 + 1) ≤ Int.log 2 (num / den : ℚ) :=
    (Int.zpow_le_iff_le_log (by decide) hx).mp (by exact_mod_cast hlow)
  have hlog₂ : Int.log 2 (num / den : ℚ) < num.log2 + 1 - den.log2 :=
    (Int.lt_zpow_iff_log_lt (by decide) hx).mp (by exact_mod_cast hhigh)
  unfold exponentFor BinaryFormat.exponentAt
  dsimp only
  congr 1
  have hguess : quotient num den (num.log2 - den.log2 - f.precision) < twoTo f.precision ↔
      (num / den : ℚ) < 2 ^ (num.log2 - den.log2 : ℤ) := by
    rw [quotient_lt_iff hd, Int.sub_add_cancel]
  have hlog : (num / den : ℚ) < 2 ^ (num.log2 - den.log2 : ℤ) ↔
      Int.log 2 (num / den : ℚ) < num.log2 - den.log2 := by
    exact_mod_cast Int.lt_zpow_iff_log_lt (R := ℚ) (b := 2) (by decide) hx
  split
  · rename_i hlt
    have := hlog.mp (hguess.mp hlt)
    omega
  · rename_i hge
    have := mt hlog.mpr (mt hguess.mpr hge)
    omega

end Binary

/-! ## Rounding -/

/-- The second number is the first one, rounded to the format. -/
def BinaryFormat.Rounds (f : BinaryFormat) (x v : ℚ) : Prop :=
  ∃ q : ℤ, Nearest q (x / 2 ^ f.exponentAt x) ∧ v = q * 2 ^ f.exponentAt x

namespace BinaryFormat

variable {f : BinaryFormat} {x y v w : ℚ} {c k : ℤ}

namespace Rounds

theorem in_units (low : f.exponentAt x ≤ k) (c : ℤ) :
    ∃ n : ℤ, (c * 2 ^ k : ℚ) = n * 2 ^ f.exponentAt x := by
  refine ⟨c * 2 ^ (k - f.exponentAt x).toNat, ?_⟩
  have hk : k = (k - f.exponentAt x).toNat + f.exponentAt x := by omega
  rw [hk, two_zpow_add, zpow_natCast, ← hk]
  push_cast
  ring

theorem le_of_le (h : f.Rounds x v) (low : f.exponentAt x ≤ k) (le : x ≤ c * 2 ^ k) :
    v ≤ c * 2 ^ k := by
  obtain ⟨q, hq, rfl⟩ := h
  obtain ⟨n, hn⟩ := in_units low c
  have hpos := two_zpow_pos (f.exponentAt x)
  rw [hn] at le ⊢
  have hle : q ≤ n := hq.mono (.intCast n) ((div_le_iff₀ hpos).mpr le)
  exact mul_le_mul_of_nonneg_right (by exact_mod_cast hle) hpos.le

theorem ge_of_ge (h : f.Rounds x v) (low : f.exponentAt x ≤ k) (le : c * 2 ^ k ≤ x) :
    c * 2 ^ k ≤ v := by
  obtain ⟨q, hq, rfl⟩ := h
  obtain ⟨n, hn⟩ := in_units low c
  have hpos := two_zpow_pos (f.exponentAt x)
  rw [hn] at le ⊢
  have hle : n ≤ q := Nearest.mono (.intCast n) hq ((le_div_iff₀ hpos).mpr le)
  exact mul_le_mul_of_nonneg_right (by exact_mod_cast hle) hpos.le

theorem eq_of_eq (h : f.Rounds x v) (low : f.exponentAt x ≤ k) (eq : x = c * 2 ^ k) : v = x := by
  rw [eq]
  exact le_antisymm (h.le_of_le low eq.le) (h.ge_of_ge low eq.ge)

theorem nonneg (h : f.Rounds x v) (hx : 0 ≤ x) : 0 ≤ v := by
  have hzero : ((0 : ℤ) * 2 ^ f.exponentAt x : ℚ) = 0 := by simp
  rw [← hzero]
  exact h.ge_of_ge le_rfl (hzero.trans_le hx)

theorem mono (hf : 0 < f.precision) (hx : 0 < x) (le : x ≤ y) (h : f.Rounds x v)
    (h' : f.Rounds y w) : v ≤ w := by
  rcases (f.exponentAt_mono hx le).eq_or_lt with heq | hlt
  · obtain ⟨p, hp, rfl⟩ := h
    obtain ⟨q, hq, rfl⟩ := h'
    rw [← heq] at hq ⊢
    have hpos := two_zpow_pos (f.exponentAt x)
    have hpq : p ≤ q := hp.mono hq (div_le_div_of_nonneg_right le hpos.le)
    exact mul_le_mul_of_nonneg_right (by exact_mod_cast hpq) hpos.le
  · -- a power of two lies between the two
    have hv : v ≤ (1 : ℤ) * 2 ^ (f.exponentAt x + f.precision) := by
      refine h.le_of_le (by omega) ?_
      rw [Int.cast_one, one_mul]
      exact (f.lt_zpow_exponentAt x).le
    have hw : (1 : ℤ) * 2 ^ (f.exponentAt y + f.precision - 1) ≤ w := by
      refine h'.ge_of_ge (by omega) ?_
      rw [Int.cast_one, one_mul]
      exact zpow_exponentAt_le (hx.trans_le le) (lt_of_le_of_lt (le_max_left _ _) hlt)
    rw [Int.cast_one, one_mul] at hv hw
    exact hv.trans (le_trans (two_zpow_le (by omega)) hw)

theorem close (h : f.Rounds x v) (low : f.exponentAt x ≤ k) : |x - v| ≤ 2 ^ k / 2 := by
  obtain ⟨q, hq, rfl⟩ := h
  have hpos := two_zpow_pos (f.exponentAt x)
  have hdiff : x - q * 2 ^ f.exponentAt x =
      (x / 2 ^ f.exponentAt x - q) * 2 ^ f.exponentAt x := by
    field_simp
  rw [hdiff, abs_mul, abs_of_pos hpos]
  calc |x / 2 ^ f.exponentAt x - q| * 2 ^ f.exponentAt x
      ≤ 1 / 2 * 2 ^ f.exponentAt x := mul_le_mul_of_nonneg_right hq.close hpos.le
    _ ≤ 2 ^ k / 2 := by linarith [two_zpow_le low]

theorem natCast {n : ℕ} (hf : 0 < f.precision) (least : f.minExponent ≤ 0) (h : f.Rounds n v)
    (hn : 0 < n) (small : n ≤ 2 ^ f.precision) : v = n := by
  have hpos : (0 : ℚ) < n := by exact_mod_cast hn
  rcases small.eq_or_lt with heq | hlt
  · have hcast : (n : ℚ) = (1 : ℤ) * 2 ^ (f.precision : ℤ) := by
      rw [heq, zpow_natCast]
      push_cast
      ring
    refine h.eq_of_eq ?_ hcast
    refine exponentAt_le_of_lt hpos ?_ (by omega)
    rw [hcast, Int.cast_one, one_mul]
    exact zpow_lt_zpow_right₀ (by norm_num) (by omega)
  · refine h.eq_of_eq (k := 0) (c := n) ?_ (by push_cast; ring)
    refine exponentAt_le_of_lt hpos ?_ least
    rw [zero_add, zpow_natCast]
    exact_mod_cast hlt

theorem pos (hf : 0 < f.precision) (hx : 2 ^ f.minExponent ≤ x) (h : f.Rounds x v) : 0 < v := by
  have hone : ∀ k : ℤ, ((1 : ℤ) * 2 ^ k : ℚ) = 2 ^ k := fun k => by rw [Int.cast_one, one_mul]
  rcases (le_max_left f.minExponent (Int.log 2 x - f.precision + 1)).eq_or_lt with heq | hlt
  · have hle := h.ge_of_ge (c := 1) le_rfl (by rwa [hone, exponentAt, ← heq])
    rw [hone] at hle
    exact (two_zpow_pos _).trans_le hle
  · have hpos : 0 < x := (two_zpow_pos _).trans_le hx
    have hle := h.ge_of_ge (c := 1) (k := f.exponentAt x + f.precision - 1) (by omega)
      (by rw [hone]; exact zpow_exponentAt_le hpos hlt)
    rw [hone] at hle
    exact (two_zpow_pos _).trans_le hle

end Rounds

/-! ## Parts of a small whole -/

variable {m m' n : ℕ}

theorem two_zpow_neg (p : ℕ) : (2 : ℚ) ^ (-p : ℤ) = 1 / 2 ^ p := by
  rw [zpow_neg, zpow_natCast, one_div]

theorem exponentAt_part_le (least : f.minExponent ≤ -f.precision) (hm : 0 < m) (hlt : m < n) :
    f.exponentAt (m / n) ≤ -f.precision := by
  have hn : (0 : ℚ) < n := by exact_mod_cast (by omega : 0 < n)
  refine exponentAt_le_of_lt (div_pos (by exact_mod_cast hm) hn) ?_ least
  rw [neg_add_cancel, zpow_zero, div_lt_one hn]
  exact_mod_cast hlt

namespace Rounds

theorem lt_one_of_part (least : f.minExponent ≤ -f.precision) (h : f.Rounds (m / n) v)
    (hm : 0 < m) (hlt : m < n) (small : n ≤ 2 ^ f.precision) : v < 1 := by
  have hn : (0 : ℚ) < n := by exact_mod_cast (by omega : 0 < n)
  have hsmall : (n : ℚ) ≤ 2 ^ f.precision := by exact_mod_cast small
  have hbit : (2 : ℚ) ^ (-f.precision : ℤ) ≤ 1 / n := by
    rw [two_zpow_neg]
    exact one_div_le_one_div_of_le hn hsmall
  have hone : (2 : ℚ) ^ f.precision * 2 ^ (-f.precision : ℤ) = 1 := by
    rw [two_zpow_neg]
    field_simp
  have hpart : (m : ℚ) / n + 1 / n ≤ 1 := by
    rw [← add_div, div_le_one hn]
    exact_mod_cast hlt
  have hv : v ≤ ((2 ^ f.precision - 1 : ℤ) : ℚ) * 2 ^ (-f.precision : ℤ) := by
    refine h.le_of_le (exponentAt_part_le least hm hlt) ?_
    push_cast
    rw [sub_mul, one_mul, hone]
    linarith
  refine hv.trans_lt ?_
  push_cast
  rw [sub_mul, one_mul, hone]
  linarith [two_zpow_pos (-f.precision : ℤ)]

/-- Different parts of one small whole are not rounded to one value. -/
theorem lt_of_parts (hf : 0 < f.precision) (least : f.minExponent ≤ -f.precision)
    (h : f.Rounds (m / n) v) (h' : f.Rounds (m' / n) w) (hm : 0 < m) (hlt : m < m') (hle : m' ≤ n)
    (small : n ≤ 2 ^ f.precision) : v < w := by
  have hn : (0 : ℚ) < n := by exact_mod_cast (by omega : 0 < n)
  rcases hle.eq_or_lt with rfl | hrest
  · have hw : w = ((1 : ℕ) : ℚ) := by
      rw [div_self hn.ne'] at h'
      exact natCast hf (by omega) (by rwa [Nat.cast_one]) one_pos Nat.one_le_two_pow
    rw [hw, Nat.cast_one]
    exact h.lt_one_of_part least hm hlt small
  · have hlow := exponentAt_part_le least hm (hlt.trans hrest)
    have hlow' := exponentAt_part_le least (hm.trans hlt) hrest
    rcases small.eq_or_lt with heq | hfew
    · -- every part is kept
      have hpart : ∀ l : ℕ, (l / n : ℚ) = (l : ℤ) * 2 ^ (-f.precision : ℤ) := by
        intro l
        rw [two_zpow_neg, heq]
        push_cast
        exact div_eq_mul_one_div _ _
      rw [h.eq_of_eq hlow (hpart m), h'.eq_of_eq hlow' (hpart m')]
      exact div_lt_div_of_pos_right (by exact_mod_cast hlt) hn
    · -- the parts are further apart than the two errors can bridge
      have hstep : (m : ℚ) / n + 1 / n ≤ m' / n := by
        rw [← add_div]
        exact div_le_div_of_nonneg_right (by exact_mod_cast hlt) hn.le
      have hbit : (2 : ℚ) ^ (-f.precision : ℤ) < 1 / n := by
        rw [two_zpow_neg]
        exact one_div_lt_one_div_of_lt hn (by exact_mod_cast hfew)
      have hv := abs_le.mp (h.close hlow)
      have hw := abs_le.mp (h'.close hlow')
      linarith

end Rounds

end BinaryFormat

end Stepwise
