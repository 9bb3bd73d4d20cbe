import Stepwise.Proofs.Numeric.Values
import Stepwise.Proofs.Retrieval.Terms

/-! # Scores and shares -/

namespace Stepwise

/-- The share of a query's terms that a text has. -/
noncomputable def share (query text : String) : ℚ :=
  (termsOf query ∩ termsOf text).ncard / (termsOf query).ncard

variable {query text other : String}

theorem share_eq (query text : String) :
    share query text = (matched (terms query) text).length / (terms query).length := by
  rw [share, ncard_shared, ncard_termsOf]

theorem length_matched_le (query text : String) :
    (matched (terms query) text).length ≤ (terms query).length :=
  List.length_filter_le _ _

theorem shared_nonempty_iff (query text : String) :
    (termsOf query ∩ termsOf text).Nonempty ↔ 0 < (matched (terms query) text).length := by
  have hfinite : (termsOf query).Finite := coe_terms query ▸ Finset.finite_toSet _
  rw [← ncard_shared, Set.ncard_pos (hfinite.inter_of_left _)]

theorem share_le_iff (hn : 0 < (terms query).length) :
    share query text ≤ share query other ↔
      (matched (terms query) text).length ≤ (matched (terms query) other).length := by
  rw [share_eq, share_eq, div_le_div_iff_of_pos_right (by exact_mod_cast hn)]
  exact_mod_cast Iff.rfl

/-! ## The computed score -/

/-- The score of a text before the last rounding. Both counts are rounded alone. -/
def scoreOfCounts (m n : ℕ) : ℚ := (Binary.ofInt .single m).value / (Binary.ofInt .single n).value

theorem scoreOfCounts_bounds {m n : ℕ} (hm : 0 < m) (hle : m ≤ n) (word : n < UInt64.size) :
    2 ^ (-64 : ℤ) ≤ scoreOfCounts m n ∧ scoreOfCounts m n ≤ 1 := by
  have hwide := BinaryFormat.wide_single
  have hone := Binary.one_le_value_ofInt (n := m) hwide (by omega) (by omega)
  have hmono := Binary.value_ofInt_mono (m := m) (n := n) hwide (by omega) (by omega) (by omega)
  have htop := Binary.value_ofInt_le (n := n) hwide (by omega) (by omega)
  have hpos : 0 < (Binary.ofInt .single n).value := by linarith
  constructor
  · rw [zpow_neg, ← one_div]
    exact div_le_div₀ (zero_le_one.trans hone) hone hpos htop
  · exact (div_le_one hpos).mpr hmono

/-- A score is zero, or it is rounded from the two counts. -/
theorem score_spec (hquery : query.length < UInt64.size) (text : String) :
    (score (terms query) text).isFinite = true ∧
      ((matched (terms query) text).length = 0 → (score (terms query) text).value = 0) ∧
      (0 < (matched (terms query) text).length →
        BinaryFormat.single.Rounds
          (scoreOfCounts (matched (terms query) text).length (terms query).length)
          (score (terms query) text).value) := by
  have hle := length_matched_le query text
  have hword : (terms query).length < UInt64.size := (length_terms_le query).trans_lt hquery
  unfold score
  by_cases hnil : terms query = []
  · have hzero : (terms query).length = 0 := by rw [hnil, List.length_nil]
    rw [if_pos hnil]
    exact ⟨rfl, fun _ => Binary.value_zero false, fun hpos => by omega⟩
  · have hn : 0 < (terms query).length := List.length_pos_iff.mpr hnil
    rw [if_neg hnil]
    generalize (terms query).length = n at *
    generalize (matched (terms query) text).length = m at *
    have hwide := BinaryFormat.wide_single
    have hvalue := Binary.one_le_value_ofInt (n := n) hwide (by omega) (by omega)
    rcases m.eq_zero_or_pos with rfl | hm
    · obtain ⟨k, e, heq, hk⟩ := Binary.exists_finite_of_value_pos (zero_lt_one.trans_le hvalue)
      rw [heq]
      simp [Binary.ofInt, Binary.round, Binary.zero, Binary.divide, hk.ne', Binary.isFinite,
        Binary.value]
    · obtain ⟨hlow, hone⟩ := scoreOfCounts_bounds hm hle hword
      have hpos : 0 < scoreOfCounts m n := (two_zpow_pos _).trans_le hlow
      have hquotient := Binary.divide_rounds (f := .single) hwide.bits
        (zero_lt_one.trans_le (Binary.one_le_value_ofInt (n := m) hwide (by omega) (by omega)))
        (zero_lt_one.trans_le hvalue)
        (hwide.bounded hpos (hone.trans_lt (by norm_num [UInt64.size])))
      exact ⟨hquotient.1, fun hzero => absurd hzero hm.ne', fun _ => hquotient.2⟩

theorem isFinite_score (hquery : query.length < UInt64.size) (text : String) :
    (score (terms query) text).isFinite = true := (score_spec hquery text).1

theorem score_pos_iff (hquery : query.length < UInt64.size) (text : String) :
    0 < (score (terms query) text).value ↔ (termsOf query ∩ termsOf text).Nonempty := by
  obtain ⟨-, hnone, hsome⟩ := score_spec hquery text
  rw [shared_nonempty_iff]
  constructor
  · intro hpos
    refine Nat.pos_of_ne_zero fun hzero => ?_
    rw [hnone hzero] at hpos
    exact lt_irrefl 0 hpos
  · intro hm
    have hword := (length_terms_le query).trans_lt hquery
    obtain ⟨hlow, -⟩ := scoreOfCounts_bounds hm (length_matched_le query text) hword
    exact (hsome hm).pos BinaryFormat.wide_single.bits
      ((two_zpow_le (by decide)).trans hlow)

theorem score_nonneg (hquery : query.length < UInt64.size) (text : String) :
    0 ≤ (score (terms query) text).value := by
  obtain ⟨-, hnone, -⟩ := score_spec hquery text
  rcases Nat.eq_zero_or_pos (matched (terms query) text).length with hzero | hm
  · exact (hnone hzero).ge
  · exact ((score_pos_iff hquery text).mpr ((shared_nonempty_iff query text).mpr hm)).le

theorem score_mono (hquery : query.length < UInt64.size)
    (le : share query text ≤ share query other) :
    (score (terms query) text).value ≤ (score (terms query) other).value := by
  obtain ⟨-, hnone, hsome⟩ := score_spec hquery text
  obtain ⟨-, -, hsome'⟩ := score_spec hquery other
  rcases Nat.eq_zero_or_pos (matched (terms query) text).length with hzero | hm
  · exact (hnone hzero).trans_le (score_nonneg hquery other)
  · have hword := (length_terms_le query).trans_lt hquery
    have hle := length_matched_le query text
    have hle' := length_matched_le query other
    have hm' := (share_le_iff (by omega)).mp le
    have hwide := BinaryFormat.wide_single
    have hcounts : scoreOfCounts (matched (terms query) text).length (terms query).length ≤
        scoreOfCounts (matched (terms query) other).length (terms query).length :=
      div_le_div_of_nonneg_right
        (Binary.value_ofInt_mono hwide (by omega) (by omega) (by exact_mod_cast hm'))
        (Binary.value_ofInt_nonneg hwide (by omega) (by omega))
    have hpos := (two_zpow_pos _).trans_le (scoreOfCounts_bounds hm hle hword).1
    exact (hsome hm).mono hwide.bits hpos hcounts (hsome' (by omega))

/-! ## Few terms -/

theorem scoreOfCounts_eq {m n : ℕ} (hle : m ≤ n) (small : n ≤ 2 ^ 24) :
    scoreOfCounts m n = m / n := by
  have hcast : ∀ k : ℕ, k ≤ 2 ^ 24 → (Binary.ofInt .single k).value = k := fun k hk =>
    Binary.value_ofInt (n := k) BinaryFormat.wide_single
      (hk.trans_lt (by decide : 2 ^ 24 < UInt64.size)) hk
  rw [scoreOfCounts, hcast m (hle.trans small), hcast n small]

theorem score_rounds_share (hquery : query.length < UInt64.size)
    (few : (termsOf query).ncard ≤ 2 ^ 24) (shared : (termsOf query ∩ termsOf text).Nonempty) :
    BinaryFormat.single.Rounds (share query text) (score (terms query) text).value := by
  obtain ⟨-, -, hsome⟩ := score_spec hquery text
  have hrounds := hsome ((shared_nonempty_iff query text).mp shared)
  rw [ncard_termsOf] at few
  rwa [scoreOfCounts_eq (length_matched_le query text) few, ← share_eq] at hrounds

theorem score_lt (hquery : query.length < UInt64.size) (few : (termsOf query).ncard ≤ 2 ^ 24)
    (lt : share query text < share query other) :
    (score (terms query) text).value < (score (terms query) other).value := by
  have hle := length_matched_le query text
  have hle' := length_matched_le query other
  have hn : 0 < (terms query).length := by
    refine Nat.pos_of_ne_zero fun hzero => ?_
    rw [share_eq, share_eq, hzero, Nat.cast_zero, div_zero, div_zero] at lt
    exact lt_irrefl 0 lt
  have hm := not_le.mp (mt (share_le_iff hn).mpr lt.not_ge)
  have hother : (termsOf query ∩ termsOf other).Nonempty :=
    (shared_nonempty_iff query other).mpr (by omega)
  rcases Nat.eq_zero_or_pos (matched (terms query) text).length with hzero | hpos
  · obtain ⟨-, hnone, -⟩ := score_spec hquery text
    exact (hnone hzero).trans_lt ((score_pos_iff hquery other).mpr hother)
  · have h := score_rounds_share hquery few ((shared_nonempty_iff query text).mpr hpos)
    have h' := score_rounds_share hquery few hother
    rw [share_eq] at h h'
    rw [ncard_termsOf] at few
    exact h.lt_of_parts BinaryFormat.wide_single.bits (by decide) h' hpos hm hle' few

theorem score_le_iff (hquery : query.length < UInt64.size) (few : (termsOf query).ncard ≤ 2 ^ 24) :
    (score (terms query) text).value ≤ (score (terms query) other).value ↔
      share query text ≤ share query other := by
  refine ⟨fun le => ?_, score_mono hquery⟩
  by_contra hnot
  exact (score_lt hquery few (not_le.mp hnot)).not_ge le

end Stepwise
