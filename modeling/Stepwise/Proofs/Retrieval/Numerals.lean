import Stepwise.Proofs.Numeric.Digits
import Stepwise.Proofs.Retrieval.Scores

/-! # Texts of many terms -/

namespace Stepwise

variable {w cs : List Char} {c : Char} {m n : ℕ}

/-! ## Words -/

namespace LowerCase

theorem le_first : ∀ r ∈ runs, 65 ≤ r.first := by decide +kernel

theorem ofChar_of_lt (h : c.toNat < 65) (before after : List Char) :
    ofChar before c after = [c] := by
  have hnone : shifted c = c := by
    unfold shifted
    dsimp only
    rw [List.find?_eq_none.mpr]
    intro r hr
    have hfirst := le_first r hr
    simp only [Bool.and_eq_true, decide_eq_true_eq]
    omega
  have hsigma : c ≠ 'Σ' := by
    rintro rfl
    exact absurd h (by decide)
  have hdotted : c ≠ 'İ' := by
    rintro rfl
    exact absurd h (by decide)
  rw [ofChar, if_neg hsigma, if_neg hdotted, hnone]

theorem ofChars_of_lt (h : ∀ c ∈ cs, c.toNat < 65) (before : List Char) :
    ofChars before cs = cs := by
  induction cs generalizing before with
  | nil => rfl
  | cons c cs ih =>
    rw [ofChars, ofChar_of_lt (h c List.mem_cons_self),
      ih fun c hc => h c (List.mem_cons_of_mem _ hc)]
    rfl

end LowerCase

theorem isRun_flatMap_iff {words : List (List Char)}
    (hwords : ∀ v ∈ words, v ≠ [] ∧ Alphanumeric v) :
    IsRun (words.flatMap (· ++ [' '])) w ↔ w ∈ words := by
  induction words with
  | nil => exact iff_of_false (not_isRun_nil w) List.not_mem_nil
  | cons v rest ih =>
    obtain ⟨hne, hv⟩ := hwords v List.mem_cons_self
    have hblank : isAlphanumeric ' ' = false := by decide
    have hhead : ∀ c, (' ' :: rest.flatMap (· ++ [' '])).head? = some c →
        isAlphanumeric c = false := by
      rintro c ⟨⟩
      exact hblank
    rw [List.flatMap_cons, List.append_assoc, List.singleton_append, isRun_append_iff hne hv hhead,
      isRun_cons_iff hblank, ih fun v hv => hwords v (List.mem_cons_of_mem _ hv), List.mem_cons]

/-! ## Numerals -/

/-- The numbers below `n`, each of them a term. -/
def numerals (n : ℕ) : String :=
  String.ofList (((List.range n).map (Nat.toDigits 10)).flatMap (· ++ [' ']))

theorem toDigits_injective : Function.Injective (Nat.toDigits 10) :=
  Function.LeftInverse.injective natOfDigits_toDigits

theorem termsOf_numerals (n : ℕ) : termsOf (numerals n) = Nat.toDigits 10 '' Finset.range n := by
  have hdigit : ∀ i, ∀ c ∈ Nat.toDigits 10 i, c.isDigit = true := fun i c hc =>
    List.all_eq_true.mp (all_isDigit_toDigits i) c hc
  have hwords : ∀ v ∈ (List.range n).map (Nat.toDigits 10), v ≠ [] ∧ Alphanumeric v := by
    intro v hv
    obtain ⟨i, -, rfl⟩ := List.mem_map.mp hv
    refine ⟨Nat.toDigits_ne_nil, fun c hc => ?_⟩
    rw [isAlphanumeric, isNumeric, hdigit i c hc, Bool.true_or, Bool.or_true]
  have hlower : ∀ i, lowerCase (Nat.toDigits 10 i) = Nat.toDigits 10 i := fun i =>
    LowerCase.ofChars_of_lt (fun c hc => by have := toNat_of_isDigit (hdigit i c hc); omega) []
  ext t
  rw [termsOf, numerals, String.toList_ofList]
  simp only [isRun_flatMap_iff hwords, Set.mem_ofPred_eq, List.mem_map, List.mem_range,
    Set.mem_image, Finset.coe_range, Set.mem_Iio]
  constructor
  · rintro ⟨w, ⟨i, hi, rfl⟩, rfl⟩
    exact ⟨i, hi, (hlower i).symm⟩
  · rintro ⟨i, hi, rfl⟩
    exact ⟨_, ⟨i, hi, rfl⟩, hlower i⟩

theorem ncard_termsOf_numerals (n : ℕ) : (termsOf (numerals n)).ncard = n := by
  rw [termsOf_numerals, Set.ncard_image_of_injective _ toDigits_injective, Set.ncard_coe_finset,
    Finset.card_range]

theorem ncard_shared_numerals (h : m ≤ n) :
    (termsOf (numerals n) ∩ termsOf (numerals m)).ncard = m := by
  have hsub : termsOf (numerals m) ⊆ termsOf (numerals n) := by
    rw [termsOf_numerals, termsOf_numerals]
    exact Set.image_mono (Finset.coe_subset.mpr (Finset.range_subset_range.mpr h))
  rw [Set.inter_eq_right.mpr hsub, ncard_termsOf_numerals]

theorem length_numerals_le (h : n ≤ 10 ^ 8) : (numerals n).length ≤ n * 9 := by
  rw [numerals, String.length_ofList, List.length_flatMap, List.map_map]
  refine (List.sum_le_card_nsmul _ 9 fun k hk => ?_).trans_eq ?_
  · obtain ⟨i, hi, rfl⟩ := List.mem_map.mp hk
    have hlength : (Nat.toDigits 10 i).length ≤ 8 :=
      (Nat.length_toDigits_le_iff (by decide) (by decide)).mpr ((List.mem_range.mp hi).trans_le h)
    rw [Function.comp_apply, List.length_append, List.length_singleton]
    exact Nat.succ_le_succ hlength
  · rw [List.length_map, List.length_range, Nat.nsmul_eq_mul]

theorem score_numerals (h : m ≤ n) (hn : 0 < n) :
    score (terms (numerals n)) (numerals m) =
      .divide .single (.ofInt .single m) (.ofInt .single n) := by
  have hlength : (terms (numerals n)).length = n := by
    rw [← ncard_termsOf, ncard_termsOf_numerals]
  have hmatched : (matched (terms (numerals n)) (numerals m)).length = m := by
    rw [← ncard_shared, ncard_shared_numerals h]
  have hne : terms (numerals n) ≠ [] := by
    rw [← List.length_pos_iff, hlength]
    exact hn
  rw [score, if_neg hne, hmatched, hlength]

theorem share_numerals (h : m ≤ n) : share (numerals n) (numerals m) = m / n := by
  rw [share, ncard_shared_numerals h, ncard_termsOf_numerals]

end Stepwise
