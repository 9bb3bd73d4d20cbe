import Mathlib.Data.List.Induction
import Stepwise.Numeric.Decimal
import Stepwise.Proofs.Text.Characters

/-! # Whole numbers as text -/

namespace Stepwise

theorem natOfDigits_toDigits (n : Nat) : natOfDigits (Nat.toDigits 10 n) = n :=
  Nat.ofDigitChars_toDigits (by decide) (by decide)

theorem all_isDigit_toDigits (n : Nat) : (Nat.toDigits 10 n).all Char.isDigit = true :=
  List.all_eq_true.mpr fun _ h => Nat.isDigit_of_mem_toDigits (by decide) (by decide) h

theorem natOfDigits_concat (cs : List Char) (c : Char) :
    natOfDigits (cs ++ [c]) = 10 * natOfDigits cs + digitValue c := by
  rw [natOfDigits, List.foldl_append]
  rfl

theorem toDigits_digitValue {c : Char} (h : c.isDigit = true) :
    digitValue c < 10 ∧ Nat.toDigits 10 (digitValue c) = [c] := by
  have hc := toNat_of_isDigit h
  have hlt : digitValue c < 10 := by
    unfold digitValue
    omega
  refine ⟨hlt, ?_⟩
  rw [Nat.toDigits_of_lt_base hlt, List.cons.injEq, ← Char.toNat_inj,
    Nat.toNat_digitChar_of_lt_ten hlt]
  unfold digitValue
  exact ⟨by omega, rfl⟩

theorem exists_zeros_append_toDigits {cs : List Char} (hsome : cs ≠ [])
    (decimal : ∀ c ∈ cs, c.isDigit = true) :
    ∃ zeros, cs = List.replicate zeros '0' ++ Nat.toDigits 10 (natOfDigits cs) := by
  induction cs using List.reverseRecOn with
  | nil => exact absurd rfl hsome
  | append_singleton cs c ih =>
    obtain ⟨hlt, hdigit⟩ := toDigits_digitValue (decimal c (by simp))
    rw [natOfDigits_concat]
    by_cases hcs : cs = []
    · subst hcs
      refine ⟨0, ?_⟩
      simpa [natOfDigits] using hdigit.symm
    · obtain ⟨zeros, hzeros⟩ := ih hcs fun x hx => decimal x (by simp [hx])
      by_cases hn : natOfDigits cs = 0
      · -- all digits before the last are zeros
        refine ⟨zeros + 1, ?_⟩
        rw [hn] at hzeros
        rw [hn, Nat.mul_zero, Nat.zero_add, hdigit, hzeros, List.replicate_succ']
        rfl
      · refine ⟨zeros, ?_⟩
        rw [← Nat.toDigits_append_toDigits (by decide) (Nat.pos_of_ne_zero hn) hlt, hdigit,
          ← List.append_assoc, ← hzeros]

theorem toList_toString_int (n : Int) : (toString n).toList =
    if n < 0 then '-' :: Nat.toDigits 10 n.natAbs else Nat.toDigits 10 n.natAbs := by
  cases n with
  | ofNat n =>
    rw [if_neg (by simp)]
    simp [toString, Int.repr, Nat.repr]
  | negSucc n =>
    rw [if_pos (by omega)]
    simp [toString, Int.repr, Nat.repr]

theorem exists_toDigits_eq_cons (n : Nat) :
    ∃ c cs, Nat.toDigits 10 n = c :: cs ∧ c.isDigit = true ∧ ∀ x ∈ cs, x.isDigit = true := by
  obtain ⟨c, cs, h⟩ := List.exists_cons_of_ne_nil (Nat.toDigits_ne_nil (n := n) (b := 10))
  have hall := List.all_eq_true.mp (all_isDigit_toDigits n)
  rw [h] at hall
  exact ⟨c, cs, h, hall c List.mem_cons_self, fun x hx => hall x (List.mem_cons_of_mem _ hx)⟩

theorem splitSign_of_isDigit {c : Char} {cs : List Char} (h : c.isDigit = true) :
    Decimal.splitSign (c :: cs) = (false, c :: cs) := by
  have hc := toNat_of_isDigit h
  unfold Decimal.splitSign
  split
  · rename_i heq
    rw [(List.cons.inj heq).1] at hc
    simp at hc
  · rename_i heq
    rw [(List.cons.inj heq).1] at hc
    simp at hc
  · rfl

theorem intOfText?_of_splitSign {cs ds : List Char} {negative : Bool} {n : Int}
    (hsign : Decimal.splitSign cs = (negative, ds)) (hds : ds = Nat.toDigits 10 n.natAbs)
    (hn : (if negative then -(n.natAbs : Int) else n.natAbs) = n) (h : isSignedWord n = true) :
    intOfText? cs = some n := by
  have hdigits : ds ≠ [] ∧ ds.all Char.isDigit = true ∧ isSignedWord n = true := by
    rw [hds]
    exact ⟨Nat.toDigits_ne_nil, all_isDigit_toDigits _, h⟩
  unfold intOfText?
  rw [hsign]
  dsimp only
  rw [hds, natOfDigits_toDigits, hn, ← hds, if_pos hdigits]

theorem intOfText?_toString {n : Int} (h : isSignedWord n = true) :
    intOfText? (toString n).toList = some n := by
  rw [toList_toString_int]
  split
  · exact intOfText?_of_splitSign rfl rfl (by rw [if_pos rfl]; omega) h
  · obtain ⟨c, cs, hdigits, hc, -⟩ := exists_toDigits_eq_cons n.natAbs
    refine intOfText?_of_splitSign ?_ rfl (by rw [if_neg Bool.false_ne_true]; omega) h
    rw [hdigits, splitSign_of_isDigit hc]

/-! ## Counts -/

theorem toList_toString_nat (n : Nat) : (toString n).toList = Nat.toDigits 10 n := by
  rw [Nat.toString_eq_repr, Nat.toList_repr]

theorem trim_toDigits (n : Nat) : trim (Nat.toDigits 10 n) = Nat.toDigits 10 n := by
  refine trim_eq_self fun c hc => isBlank_of_isNumeric ?_
  have hdigit := List.all_eq_true.mp (all_isDigit_toDigits n) c hc
  rw [isNumeric, hdigit, Bool.true_or]

theorem natOfText?_toDigits (max n : Nat) :
    natOfText? max (Nat.toDigits 10 n) = if n ≤ max then some n else none := by
  obtain ⟨c, cs, hdigits, hc, -⟩ := exists_toDigits_eq_cons n
  have hunsigned : ∀ r, Nat.toDigits 10 n ≠ '+' :: r := by
    intro r hr
    rw [hdigits, List.cons.injEq] at hr
    rw [hr.1] at hc
    cases hc
  unfold natOfText?
  split
  · rename_i r hr
    exact absurd hr (hunsigned r)
  · simp only [natOfDigits_toDigits, all_isDigit_toDigits, ne_eq, Nat.toDigits_ne_nil,
      not_false_eq_true, true_and]

theorem intOfText?_toDigits (n : Nat) :
    intOfText? (Nat.toDigits 10 n) = if isSignedWord n then some (n : Int) else none := by
  obtain ⟨c, cs, hdigits, hc, -⟩ := exists_toDigits_eq_cons n
  have hsign : Decimal.splitSign (Nat.toDigits 10 n) = (false, Nat.toDigits 10 n) := by
    rw [hdigits, splitSign_of_isDigit hc]
  unfold intOfText?
  rw [hsign]
  simp only [Bool.false_eq_true, if_false, natOfDigits_toDigits, all_isDigit_toDigits, ne_eq,
    Nat.toDigits_ne_nil, not_false_eq_true, true_and]

end Stepwise
