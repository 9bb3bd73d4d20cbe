import Stepwise.Proofs.Expr.Grammar

/-!
# Reading conditions from the left

Every token says which rule comes next, so tokens derive one tree at most.
-/

namespace Stepwise

namespace Expr

/-! ## Readers -/

/-- The ways to read a tree at the front of some tokens, each with the tokens that are left. -/
abbrev Reader := List Token → Expr → List Token → Prop

def NoCompare (ts : List Token) : Prop := ∀ op i rest, ts ≠ ⟨.compare op, i⟩ :: rest

def NoLogical (op : LogicalOp) (ts : List Token) : Prop := ∀ i rest, ts ≠ ⟨.logical op, i⟩ :: rest

/-- Joins more operands to a tree as long as the connective follows. -/
inductive Joins (op : LogicalOp) (item : Reader) : Expr → Reader where
  | done {e : Expr} {ts : List Token} (stop : NoLogical op ts) : Joins op item e ts e ts
  | more {l r e : Expr} {i : Nat} {ts mid rest : List Token} (right : item ts r mid)
      (joins : Joins op item (.logical op l r) mid e rest) :
      Joins op item l (⟨.logical op, i⟩ :: ts) e rest

def Chained (op : LogicalOp) (item : Reader) : Reader := fun ts e rest =>
  ∃ first mid, item ts first mid ∧ Joins op item first mid e rest

inductive Compared (item : Reader) : Reader where
  | alone {ts rest : List Token} {e : Expr} (only : item ts e rest) (stop : NoCompare rest) :
      Compared item ts e rest
  | both {ts mid rest : List Token} {l r : Expr} {op : CompareOp} {i : Nat}
      (left : item ts l (⟨.compare op, i⟩ :: mid)) (right : item mid r rest) :
      Compared item ts (.compare op l r) rest

/-- A whole condition over the given operands. -/
def Whole (item : Reader) : Reader := Chained .or (Chained .and (Compared item))

/-- An operand. Its own operands stand after a negation or in parentheses. -/
inductive Operand (item : Reader) : Reader where
  | literal (v : Json) (i : Nat) (rest : List Token) :
      Operand item (⟨.literal v, i⟩ :: rest) (.literal v) rest
  | path (p : Path) (i : Nat) (rest : List Token) :
      Operand item (⟨.path p, i⟩ :: rest) (.path p) rest
  | not {i : Nat} {ts rest : List Token} {e : Expr} (inner : item ts e rest) :
      Operand item (⟨.not, i⟩ :: ts) (.not e) rest
  | parens {i j : Nat} {ts rest : List Token} {e : Expr}
      (inner : Whole item ts e (⟨.closeParen, j⟩ :: rest)) :
      Operand item (⟨.openParen, i⟩ :: ts) e rest

/-- Operands of which at most `n` stand in one another, the outermost included. -/
def Operands : Nat → Reader
  | 0 => fun _ _ _ => False
  | n + 1 => Operand (Operands n)

/-! ## Readers have no choice -/

def Functional (item : Reader) : Prop :=
  ∀ ⦃ts e rest e' rest'⦄, item ts e rest → item ts e' rest' → e = e' ∧ rest = rest'

namespace Functional

variable {item : Reader}

theorem joins (hf : Functional item) {op : LogicalOp} {l e e' : Expr} {ts rest rest' : List Token}
    (h : Joins op item l ts e rest) (h' : Joins op item l ts e' rest') : e = e' ∧ rest = rest' := by
  induction h with
  | done stop =>
    cases h' with
    | done => exact ⟨rfl, rfl⟩
    | more => exact absurd rfl (stop _ _)
  | more right _ ih =>
    cases h' with
    | done stop => exact absurd rfl (stop _ _)
    | more right' joins' =>
      obtain ⟨rfl, rfl⟩ := hf right right'
      exact ih joins'

theorem chained (hf : Functional item) (op : LogicalOp) : Functional (Chained op item) := by
  rintro ts e rest e' rest' ⟨first, mid, hfirst, hjoins⟩ ⟨first', mid', hfirst', hjoins'⟩
  obtain ⟨rfl, rfl⟩ := hf hfirst hfirst'
  exact hf.joins hjoins hjoins'

theorem compared (hf : Functional item) : Functional (Compared item) := by
  intro ts e rest e' rest' h h'
  cases h with
  | alone only stop =>
    cases h' with
    | alone only' => exact hf only only'
    | both left' =>
      obtain ⟨-, rfl⟩ := hf only left'
      exact absurd rfl (stop _ _ _)
  | both left right =>
    cases h' with
    | alone only' stop' =>
      obtain ⟨-, rfl⟩ := hf only' left
      exact absurd rfl (stop' _ _ _)
    | both left' right' =>
      obtain ⟨rfl, htokens⟩ := hf left left'
      obtain ⟨⟨⟩, rfl⟩ := List.cons.inj htokens
      obtain ⟨rfl, rfl⟩ := hf right right'
      exact ⟨rfl, rfl⟩

theorem whole (hf : Functional item) : Functional (Whole item) :=
  (hf.compared.chained .and).chained .or

theorem operand (hf : Functional item) : Functional (Operand item) := by
  intro ts e rest e' rest' h h'
  cases h with
  | literal => cases h'; exact ⟨rfl, rfl⟩
  | path => cases h'; exact ⟨rfl, rfl⟩
  | not inner =>
    cases h' with
    | not inner' =>
      obtain ⟨rfl, rfl⟩ := hf inner inner'
      exact ⟨rfl, rfl⟩
  | parens inner =>
    cases h' with
    | parens inner' =>
      obtain ⟨rfl, htokens⟩ := hf.whole inner inner'
      exact ⟨rfl, (List.cons.inj htokens).2⟩

end Functional

theorem functional_operands (n : Nat) : Functional (Operands n) := by
  induction n with
  | zero => exact fun _ _ _ _ _ h => h.elim
  | succ n ih => exact ih.operand

/-! ## What is read is derived -/

/-- What the reader finds derives its tree, with at most `n` operands that stand in one another. -/
def Explains (n : Nat) (level : Level) (item : Reader) : Prop :=
  ∀ ⦃ts e rest⦄, item ts e rest → ∃ front, ts = front ++ rest ∧ Nests n level front e

variable {n : Nat} {item : Reader}

theorem Joins.explained {op : LogicalOp} {base level : Level} (hitem : Explains n base item)
    (join : ∀ {ls rs l r} i, Derives level ls l → Derives base rs r →
      Derives level (ls ++ ⟨.logical op, i⟩ :: rs) (.logical op l r))
    {l e : Expr} {ts rest : List Token} (h : Joins op item l ts e rest) {ls : List Token}
    (left : Nests n level ls l) : ∃ front, ls ++ ts = front ++ rest ∧ Nests n level front e := by
  induction h generalizing ls with
  | done => exact ⟨ls, rfl, left⟩
  | @more _ _ _ i _ _ _ right _ ih =>
    obtain ⟨rs, rfl, hright⟩ := hitem right
    obtain ⟨front, heq, hfront⟩ :=
      ih (left.operator hright (join i left.derives hright.derives) fun _ => rfl)
    exact ⟨front, by simpa using heq, hfront⟩

theorem Explains.chained {op : LogicalOp} {base level : Level} (hitem : Explains n base item)
    (lift : ∀ {ts e}, Derives base ts e → Derives level ts e)
    (join : ∀ {ls rs l r} i, Derives level ls l → Derives base rs r →
      Derives level (ls ++ ⟨.logical op, i⟩ :: rs) (.logical op l r)) :
    Explains n level (Chained op item) := by
  rintro ts e rest ⟨first, mid, hfirst, hjoins⟩
  obtain ⟨ls, rfl, left⟩ := hitem hfirst
  exact hjoins.explained hitem join (left.lift (lift left.derives))

theorem Explains.compared (hitem : Explains n .unary item) :
    Explains n .comparison (Compared item) := by
  intro ts e rest h
  cases h with
  | alone only =>
    obtain ⟨front, rfl, hfront⟩ := hitem only
    exact ⟨front, rfl, hfront.lift (.unary hfront.derives)⟩
  | @both _ _ _ _ _ op i left right =>
    obtain ⟨ls, rfl, hleft⟩ := hitem left
    obtain ⟨rs, rfl, hright⟩ := hitem right
    exact ⟨ls ++ ⟨.compare op, i⟩ :: rs, by simp,
      hleft.operator hright (.compare op i hleft.derives hright.derives) fun _ => rfl⟩

theorem Explains.whole (hitem : Explains n .unary item) : Explains n .disjunction (Whole item) :=
  (hitem.compared.chained .comparison .and).chained .conjunction .or

theorem Explains.operand (hitem : Explains n .unary item) :
    Explains (n + 1) .unary (Operand item) := by
  intro ts e rest h
  cases h with
  | literal v i => exact ⟨[_], rfl, .leaf (.primary (.literal v i)) fun _ => rfl⟩
  | path p i => exact ⟨[_], rfl, .leaf (.primary (.path p i)) fun _ => rfl⟩
  | @not i _ _ _ inner =>
    obtain ⟨front, rfl, hfront⟩ := hitem inner
    exact ⟨⟨.not, i⟩ :: front, rfl, hfront.not i⟩
  | @parens i j _ _ _ inner =>
    obtain ⟨front, rfl, hfront⟩ := hitem.whole inner
    have hparens := hfront.parens i j
    exact ⟨⟨.openParen, i⟩ :: (front ++ [⟨.closeParen, j⟩]), by simp,
      hparens.lift (.primary hparens.derives)⟩

theorem explains_operands (n : Nat) : Explains n .unary (Operands n) := by
  induction n with
  | zero => exact fun _ _ _ h => h.elim
  | succ n ih => exact ih.operand

/-! ## What is derived is read -/

def Level.tight : Level → Bool
  | .primary => true
  | .unary => true
  | .comparison => false
  | .conjunction => false
  | .disjunction => false

/-- The readers find the tree at the front of tokens that do not go on with it. Connectives group to
the left, so a reader may join more operands to what it has found. -/
def Level.Finds (n : Nat) (front : List Token) (e : Expr) : Level → Prop
  | .primary => ∀ rest, Operands n (front ++ rest) e rest
  | .unary => ∀ rest, Operands n (front ++ rest) e rest
  | .comparison => ∀ rest, NoCompare rest → Compared (Operands n) (front ++ rest) e rest
  | .conjunction => ∀ rest e' rest', NoCompare rest →
      Joins .and (Compared (Operands n)) e rest e' rest' →
      Chained .and (Compared (Operands n)) (front ++ rest) e' rest'
  | .disjunction => ∀ rest e' rest', NoCompare rest → NoLogical .and rest →
      Joins .or (Chained .and (Compared (Operands n))) e rest e' rest' →
      Whole (Operands n) (front ++ rest) e' rest'

theorem Fits.sides {m : Nat} {s : List Opening} {level : Level} {ls rs : List Token} {l : Expr}
    {t : Token} (h : Fits m s (ls ++ t :: rs)) (left : Derives level ls l)
    (ht : openAfter s t = s) (hs : settle s = s) : Fits m s ls ∧ Fits m s rs := by
  rw [fits_append, left.foldl_openAfter, hs, fits_cons, ht] at h
  exact ⟨h.1, h.2.2⟩

theorem exists_of_fits_open {m : Nat} {s : List Opening} {o : Opening} {ts : List Token}
    (h : Fits m (o :: s) ts) (hn : s.length + n = m + 1) :
    ∃ n', n = n' + 1 ∧ (o :: s).length + n' = m + 1 := by
  have hle : (o :: s).length ≤ m := h [] List.nil_prefix
  rw [List.length_cons] at hle
  exact ⟨n - 1, by omega, by rw [List.length_cons]; omega⟩

theorem exists_of_fits {m : Nat} {s : List Opening} {ts : List Token}
    (h : Fits m s ts) (hn : s.length + n = m + 1) : ∃ n', n = n' + 1 := by
  have hle : s.length ≤ m := h [] List.nil_prefix
  exact ⟨n - 1, by omega⟩

theorem Derives.finds {level : Level} {front : List Token} {e : Expr}
    (h : Derives level front e) {m : Nat} {s : List Opening} (hfits : Fits m s front)
    (hn : s.length + n = m + 1) (hs : level.tight = true ∨ settle s = s) :
    level.Finds n front e := by
  -- By induction on the derivation. An opening leaves one operand less to what stands in it, and
  -- an operator leaves both of its sides what there was.
  induction h generalizing s n with
  | literal v i =>
    obtain ⟨n, rfl⟩ := exists_of_fits hfits hn
    exact fun rest => .literal v i rest
  | path p i =>
    obtain ⟨n, rfl⟩ := exists_of_fits hfits hn
    exact fun rest => .path p i rest
  | parens i j _ ih =>
    obtain ⟨-, hfits⟩ := fits_cons.mp hfits
    obtain ⟨hinner, -⟩ := fits_append.mp hfits
    obtain ⟨n, rfl, hn'⟩ := exists_of_fits_open hinner hn
    intro rest
    have hstop : NoLogical .or (⟨.closeParen, j⟩ :: rest) := by simp [NoLogical]
    have hwhole := ih hinner hn' (Or.inr rfl) (⟨.closeParen, j⟩ :: rest) _ _ (by simp [NoCompare])
      (by simp [NoLogical]) (.done hstop)
    rw [List.cons_append, List.append_assoc]
    exact .parens hwhole
  | not i _ ih =>
    obtain ⟨-, hfits⟩ := fits_cons.mp hfits
    obtain ⟨n, rfl, hn'⟩ := exists_of_fits_open hfits hn
    exact fun rest => .not (ih hfits hn' (Or.inl rfl) rest)
  | primary _ ih => exact ih hfits hn (Or.inl rfl)
  | compare op i left right ihl ihr =>
    have hsettled : settle s = s := hs.resolve_left nofun
    obtain ⟨hl, hr⟩ := hfits.sides left rfl hsettled
    intro rest hstop
    rw [List.append_assoc, List.cons_append]
    exact .both (ihl hl hn (Or.inl rfl) _) (ihr hr hn (Or.inl rfl) rest)
  | unary _ ih => exact fun rest hstop => .alone (ih hfits hn (Or.inl rfl) rest) hstop
  | and i left right ihl ihr =>
    have hsettled : settle s = s := hs.resolve_left nofun
    obtain ⟨hl, hr⟩ := hfits.sides left rfl hsettled
    intro rest e' rest' hstop hjoins
    have hright := ihr hr hn (Or.inr hsettled) rest hstop
    rw [List.append_assoc, List.cons_append]
    exact ihl hl hn (Or.inr hsettled) _ _ _ (by simp [NoCompare]) (.more hright hjoins)
  | comparison _ ih =>
    exact fun rest e' rest' hstop hjoins => ⟨_, _, ih hfits hn hs rest hstop, hjoins⟩
  | or i left right ihl ihr =>
    have hsettled : settle s = s := hs.resolve_left nofun
    obtain ⟨hl, hr⟩ := hfits.sides left rfl hsettled
    intro rest e' rest' hcompare hand hjoins
    have hright := ihr hr hn (Or.inr hsettled) rest _ _ hcompare (.done hand)
    rw [List.append_assoc, List.cons_append]
    exact ihl hl hn (Or.inr hsettled) _ _ _ (by simp [NoCompare]) (by simp [NoLogical])
      (.more hright hjoins)
  | conjunction _ ih =>
    intro rest e' rest' hcompare hand hjoins
    exact ⟨_, _, ih hfits hn hs rest _ _ hcompare (.done hand), hjoins⟩

theorem whole_iff {n : Nat} {ts : List Token} {e : Expr} :
    Whole (Operands (n + 1)) ts e [] ↔ Derives .disjunction ts e ∧ Fits n [] ts := by
  constructor
  · intro h
    obtain ⟨front, rfl, hfront⟩ := (explains_operands (n + 1)).whole h
    rw [List.append_nil]
    exact ⟨hfront.derives, hfront.fits [] n (by simp)⟩
  · rintro ⟨h, hfits⟩
    have hn : ([] : List Opening).length + (n + 1) = n + 1 := Nat.zero_add _
    have hfinds := h.finds hfits hn (Or.inr rfl) [] e [] nofun nofun (.done nofun)
    rwa [List.append_nil] at hfinds

theorem Derives.unique {ts : List Token} {e e' : Expr} (h : Derives .disjunction ts e)
    (h' : Derives .disjunction ts e') : e = e' := by
  -- The tokens fit some limit, and there they are read without a choice.
  have hfits := fits_length [] ts
  have hread := whole_iff.mpr ⟨h, hfits⟩
  have hread' := whole_iff.mpr ⟨h', hfits⟩
  exact ((functional_operands _).whole hread hread').1

end Expr

end Stepwise
