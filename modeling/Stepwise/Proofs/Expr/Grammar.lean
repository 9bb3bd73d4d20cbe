import Stepwise.Expr.Token

/-! # The grammar of conditions -/

namespace Stepwise

namespace Expr

/-! ## Derivations -/

/-- The parts of a condition, from the tightest to the loosest. -/
inductive Level where
  | primary
  | unary
  | comparison
  | conjunction
  | disjunction
deriving DecidableEq, Repr

/-- The tokens derive the tree. The places of the tokens do not matter. -/
inductive Derives : Level → List Token → Expr → Prop where
  | literal (v : Json) (i : Nat) : Derives .primary [⟨.literal v, i⟩] (.literal v)
  | path (p : Path) (i : Nat) : Derives .primary [⟨.path p, i⟩] (.path p)
  | parens {ts : List Token} {e : Expr} (i j : Nat) (inner : Derives .disjunction ts e) :
      Derives .primary (⟨.openParen, i⟩ :: (ts ++ [⟨.closeParen, j⟩])) e
  | not {ts : List Token} {e : Expr} (i : Nat) (inner : Derives .unary ts e) :
      Derives .unary (⟨.not, i⟩ :: ts) (.not e)
  | primary {ts : List Token} {e : Expr} (only : Derives .primary ts e) : Derives .unary ts e
  | compare {ls rs : List Token} {l r : Expr} (op : CompareOp) (i : Nat)
      (left : Derives .unary ls l) (right : Derives .unary rs r) :
      Derives .comparison (ls ++ ⟨.compare op, i⟩ :: rs) (.compare op l r)
  | unary {ts : List Token} {e : Expr} (only : Derives .unary ts e) : Derives .comparison ts e
  | and {ls rs : List Token} {l r : Expr} (i : Nat)
      (left : Derives .conjunction ls l) (right : Derives .comparison rs r) :
      Derives .conjunction (ls ++ ⟨.logical .and, i⟩ :: rs) (.logical .and l r)
  | comparison {ts : List Token} {e : Expr} (only : Derives .comparison ts e) :
      Derives .conjunction ts e
  | or {ls rs : List Token} {l r : Expr} (i : Nat)
      (left : Derives .disjunction ls l) (right : Derives .conjunction rs r) :
      Derives .disjunction (ls ++ ⟨.logical .or, i⟩ :: rs) (.logical .or l r)
  | conjunction {ts : List Token} {e : Expr} (only : Derives .conjunction ts e) :
      Derives .disjunction ts e

/-! ## Nesting -/

/-- A parenthesis around a place, or a negation that waits for its operand there. -/
inductive Opening where
  | paren
  | negation
deriving DecidableEq, Repr

/-- An operand ends all negations that wait for it. -/
def settle : List Opening → List Opening
  | .negation :: s => settle s
  | s => s

/-- What is open after a token. The last opening comes first. -/
def openAfter (s : List Opening) (t : Token) : List Opening :=
  match t.kind with
  | .openParen => .paren :: s
  | .not => .negation :: s
  | .literal _ => settle s
  | .path _ => settle s
  | .closeParen =>
    match s with
    | .paren :: s => settle s
    | s => s
  | .compare _ => s
  | .logical _ => s

/-- Nowhere among the tokens are more than `n` parentheses and negations open. -/
def Fits (n : Nat) (s : List Opening) (ts : List Token) : Prop :=
  ∀ front, front <+: ts → (front.foldl openAfter s).length ≤ n

variable {n m : Nat} {s : List Opening} {t : Token} {ts us : List Token}

@[simp] theorem settle_paren (s : List Opening) : settle (.paren :: s) = .paren :: s := rfl

@[simp] theorem settle_negation (s : List Opening) : settle (.negation :: s) = settle s := rfl

@[simp] theorem settle_settle (s : List Opening) : settle (settle s) = settle s := by
  induction s with
  | nil => rfl
  | cons o s ih =>
    cases o with
    | paren => rfl
    | negation => exact ih

theorem length_settle_le (s : List Opening) : (settle s).length ≤ s.length := by
  induction s with
  | nil => simp [settle]
  | cons o s ih =>
    cases o with
    | paren => simp
    | negation => simp only [settle_negation, List.length_cons]; omega

theorem Derives.foldl_openAfter {level : Level} {e : Expr} (h : Derives level ts e)
    (s : List Opening) : ts.foldl openAfter s = settle s := by
  induction h generalizing s with
  | literal | path => rfl
  | parens i j inner ih => simp [List.foldl_append, openAfter, ih]
  | not i inner ih => simp [openAfter, ih]
  | primary _ ih | unary _ ih | comparison _ ih | conjunction _ ih => exact ih s
  | compare op i left right ihl ihr => simp [List.foldl_append, openAfter, ihl, ihr]
  | and i left right ihl ihr | or i left right ihl ihr =>
    simp [List.foldl_append, openAfter, ihl, ihr]

theorem fits_nil : Fits n s [] ↔ s.length ≤ n := by
  simp [Fits]

theorem fits_cons : Fits n s (t :: ts) ↔ s.length ≤ n ∧ Fits n (openAfter s t) ts := by
  constructor
  · intro h
    refine ⟨h [] List.nil_prefix, fun front hfront => ?_⟩
    exact h (t :: front) (List.cons_prefix_cons.mpr ⟨rfl, hfront⟩)
  · rintro ⟨hs, h⟩ front hfront
    rcases List.prefix_cons_iff.mp hfront with rfl | ⟨front', rfl, hfront'⟩
    · exact hs
    · exact h front' hfront'

theorem fits_append : Fits n s (ts ++ us) ↔ Fits n s ts ∧ Fits n (ts.foldl openAfter s) us := by
  induction ts generalizing s with
  | nil =>
    rw [List.nil_append, List.foldl_nil, fits_nil]
    exact ⟨fun h => ⟨h [] List.nil_prefix, h⟩, fun h => h.2⟩
  | cons t ts ih => rw [List.cons_append, fits_cons, ih, fits_cons, List.foldl_cons, and_assoc]

theorem Fits.mono (h : Fits n s ts) (hle : n ≤ m) : Fits m s ts :=
  fun front hfront => Nat.le_trans (h front hfront) hle

theorem fits_length (s : List Opening) (ts : List Token) : Fits (s.length + ts.length) s ts := by
  induction ts generalizing s with
  | nil => exact fits_nil.mpr (Nat.le_refl _)
  | cons t ts ih =>
    refine fits_cons.mpr ⟨Nat.le_add_right _ _, (ih _).mono ?_⟩
    have hlength : (openAfter s t).length ≤ s.length + 1 := by
      have := length_settle_le s
      unfold openAfter
      split
      · simp
      · simp
      · omega
      · omega
      · split
        · rename_i s'
          have := length_settle_le s'
          simp only [List.length_cons]
          omega
        · omega
      · omega
      · omega
    simp only [List.length_cons]
    omega

/-! ## Derivations within a limit -/

/-- The tokens derive the tree, with at most `n` operands that stand in one another. -/
structure Nests (n : Nat) (level : Level) (ts : List Token) (e : Expr) : Prop where
  derives : Derives level ts e
  fits : ∀ s m, s.length + n ≤ m + 1 → Fits m s ts

namespace Nests

variable {level left right : Level} {ls rs : List Token} {e l r : Expr}

theorem lift (h : Nests n left ts e) (d : Derives level ts e) : Nests n level ts e :=
  ⟨d, h.fits⟩

theorem mono (h : Nests n level ts e) (hle : n ≤ m) : Nests m level ts e :=
  ⟨h.derives, fun s k hk => h.fits s k (by omega)⟩

theorem leaf (d : Derives level [t] e) (ht : ∀ s, openAfter s t = settle s) :
    Nests (n + 1) level [t] e where
  derives := d
  fits s m hle := by
    have hsettle := length_settle_le s
    rw [fits_cons, fits_nil, ht]
    omega

theorem not (h : Nests n .unary ts e) (i : Nat) :
    Nests (n + 1) .unary (⟨.not, i⟩ :: ts) (.not e) where
  derives := .not i h.derives
  fits s m hle := by
    have hinner : Fits m (.negation :: s) ts :=
      h.fits _ _ (by simp only [List.length_cons]; omega)
    exact fits_cons.mpr ⟨by omega, hinner⟩

theorem parens (h : Nests n .disjunction ts e) (i j : Nat) :
    Nests (n + 1) .primary (⟨.openParen, i⟩ :: (ts ++ [⟨.closeParen, j⟩])) e where
  derives := .parens i j h.derives
  fits s m hle := by
    have hinner : Fits m (.paren :: s) ts := h.fits _ _ (by simp only [List.length_cons]; omega)
    have hopen : (Opening.paren :: s).length ≤ m := hinner [] List.nil_prefix
    have hsettle := length_settle_le s
    refine fits_cons.mpr ⟨by omega, fits_append.mpr ⟨hinner, ?_⟩⟩
    rw [h.derives.foldl_openAfter, fits_cons, fits_nil]
    exact ⟨hopen, show (settle s).length ≤ m by omega⟩

theorem operator (hl : Nests n left ls l) (hr : Nests n right rs r)
    (d : Derives level (ls ++ t :: rs) e) (ht : ∀ s, openAfter s t = s) :
    Nests n level (ls ++ t :: rs) e where
  derives := d
  fits s m hle := by
    have hsettle := length_settle_le s
    have hright : Fits m (settle s) rs := hr.fits _ _ (by omega)
    rw [fits_append, hl.derives.foldl_openAfter, fits_cons, ht]
    exact ⟨hl.fits s m hle, hright [] List.nil_prefix, hright⟩

end Nests

end Expr

end Stepwise
