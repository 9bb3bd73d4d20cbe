import Stepwise.Numeric.Count

/-! # Sums that stop at the greatest count -/

namespace Stepwise

variable {α : Type} {a b : UInt32} {n : Nat}

/-- The greatest count. -/
def maxCount : Nat := UInt32.size - 1

theorem toNat_saturatingAdd (a b : UInt32) :
    (saturatingAdd a b).toNat = min maxCount (a.toNat + b.toNat) := by
  have hlt : min (a.toNat + b.toNat) (UInt32.size - 1) < UInt32.size :=
    Nat.lt_of_le_of_lt (Nat.min_le_right _ _) (by decide)
  rw [saturatingAdd, UInt32.toNat_ofNat_of_lt' hlt, Nat.min_comm]
  rfl

theorem toNat_saturatingAdd_of_min (h : a.toNat = min maxCount n) :
    (saturatingAdd a b).toNat = min maxCount (n + b.toNat) := by
  rw [toNat_saturatingAdd, h]
  omega

/-- The exact sum of what each of them counts. -/
def total (f : α → UInt32) (xs : List α) : Nat := xs.foldr (fun x n => (f x).toNat + n) 0

variable {f : α → UInt32} {xs ys : List α}

theorem total_append (f : α → UInt32) (xs ys : List α) :
    total f (xs ++ ys) = total f xs + total f ys := by
  induction xs with
  | nil => exact (Nat.zero_add _).symm
  | cons x rest ih =>
    have h : total f (x :: (rest ++ ys)) = (f x).toNat + total f (rest ++ ys) := rfl
    rw [List.cons_append, h, ih, ← Nat.add_assoc]
    rfl

theorem total_eq_of_perm (f : α → UInt32) (h : xs.Perm ys) : total f xs = total f ys := by
  refine h.foldr_eq' (fun x _ y _ n => ?_) 0
  exact Nat.add_left_comm _ _ _

-- An addend of `h` may have stopped where those of `f` and `g` have not. What it lacks is then beyond
-- the greatest count anyway.
/-- A sum of sums that had stopped stops where the sums of the addends do. -/
theorem min_total_saturatingAdd {f g h : α → UInt32}
    (hsum : ∀ x ∈ xs, h x = saturatingAdd (f x) (g x)) :
    min maxCount (total h xs) = min maxCount (total f xs + total g xs) := by
  induction xs with
  | nil => rfl
  | cons x rest ih =>
    have ih := ih fun y hy => hsum y (List.mem_cons_of_mem x hy)
    have hx : (h x).toNat = min maxCount ((f x).toNat + (g x).toNat) := by
      rw [hsum x List.mem_cons_self, toNat_saturatingAdd]
    change min maxCount ((h x).toNat + total h rest) =
      min maxCount (((f x).toNat + total f rest) + ((g x).toNat + total g rest))
    omega

end Stepwise
