import Stepwise.Expr.Parser
import Stepwise.Proofs.Except
import Stepwise.Proofs.Expr.Reading

/-!
# The parser follows the grammar

A parser finds what its reader finds, unless the tree is too high.
-/

namespace Stepwise

namespace Expr

variable {p : Parser} {item : Reader} {op : LogicalOp} {n : Nat} {ts rest : List Token} {e : Expr}

/-- The parser finds the tree, and leaves the rest. -/
def Takes (p : Parser) : Reader := fun ts e rest => ∃ h, p ts = .ok ⟨e, rest, h⟩

/-- The parser finds the trees of a reader that are not too high. -/
def Implements (p : Parser) (item : Reader) : Prop :=
  ∀ ⦃ts e rest⦄, Takes p ts e rest ↔ item ts e rest ∧ e.depth ≤ maxDepth

theorem checked_eq_ok_iff {e' : Expr} : checked e = .ok e' ↔ e = e' ∧ e.depth ≤ maxDepth := by
  unfold checked
  split
  · simp only [reduceCtorEq, false_iff, not_and]
    omega
  · simp only [Except.ok.injEq]
    exact ⟨fun h => ⟨h, by omega⟩, fun h => h.1⟩

/-! ## Operands with connectives -/

theorem Joins.depth_le {l : Expr} (h : Joins op item l ts e rest) : l.depth ≤ e.depth := by
  induction h with
  | done => exact Nat.le_refl _
  | more _ _ ih =>
    simp only [depth] at ih
    omega

theorem chainOn_of_noLogical (p : Parser) (l : Expr) (stop : NoLogical op ts) :
    chainOn op p l ts = .ok (l, ⟨ts, Nat.le_refl _⟩) := by
  unfold chainOn
  split
  · rename_i o offset rest
    rw [if_neg fun ho => stop offset rest (by rw [ho])]
  · rfl

theorem chainOn_cons {l r e : Expr} {i : Nat} {mid : List Token} (right : Takes p ts r mid)
    (hdepth : (logical op l r).depth ≤ maxDepth)
    (hmore : ∃ h, chainOn op p (.logical op l r) mid = .ok (e, ⟨rest, h⟩)) :
    ∃ h, chainOn op p l (⟨.logical op, i⟩ :: ts) = .ok (e, ⟨rest, h⟩) := by
  obtain ⟨h, hright⟩ := right
  obtain ⟨h', hmore⟩ := hmore
  have hchecked : checked (.logical op l r) = .ok (.logical op l r) :=
    checked_eq_ok_iff.mpr ⟨rfl, hdepth⟩
  refine ⟨by simp only [List.length_cons]; omega, ?_⟩
  rw [chainOn, if_pos rfl, bind_of_ok hright, bind_of_ok hchecked, bind_of_ok hmore]
  rfl

theorem Implements.chainOn_of_joins (hp : Implements p item) {l : Expr}
    (h : Joins op item l ts e rest) (hdepth : e.depth ≤ maxDepth) :
    ∃ h, chainOn op p l ts = .ok (e, ⟨rest, h⟩) := by
  induction h with
  | done stop => exact ⟨_, chainOn_of_noLogical p _ stop⟩
  | more right joins ih =>
    have hjoined := joins.depth_le
    have hright := hjoined
    simp only [depth] at hright
    exact chainOn_cons (hp.mpr ⟨right, by omega⟩) (by omega) (ih hdepth)

theorem Implements.joins_of_chainOn (hp : Implements p item) {l : Expr}
    {h : rest.length ≤ ts.length} (heq : chainOn op p l ts = .ok (e, ⟨rest, h⟩))
    (hdepth : l.depth ≤ maxDepth) :
    Joins op item l ts e rest ∧ e.depth ≤ maxDepth := by
  fun_induction chainOn op p l ts with
  | case1 l offset ts ih =>
    obtain ⟨right, hright, heq⟩ := ok_of_bind heq
    obtain ⟨joined, hjoined, heq⟩ := ok_of_bind heq
    obtain ⟨rfl, hdepth'⟩ := checked_eq_ok_iff.mp hjoined
    obtain ⟨⟨e', rest', h'⟩, hmore, heq⟩ := ok_of_bind heq
    cases heq
    obtain ⟨joins, he⟩ := ih right _ hmore hdepth'
    exact ⟨.more (hp.mp ⟨_, hright⟩).1 joins, he⟩
  | case2 l o offset ts hne =>
    cases heq
    exact ⟨.done fun _ _ h => hne (TokenKind.logical.inj (Token.mk.inj (List.cons.inj h).1).1),
      hdepth⟩
  | case3 l ts hne =>
    cases heq
    exact ⟨.done fun i rest h => hne _ _ _ h, hdepth⟩

theorem Implements.chain (hp : Implements p item) (op : LogicalOp) :
    Implements (chain op p) (Chained op item) := by
  intro ts e rest
  constructor
  · rintro ⟨h, heq⟩
    obtain ⟨first, hfirst, heq⟩ := ok_of_bind heq
    obtain ⟨⟨e', rest', h'⟩, hmore, heq⟩ := ok_of_bind heq
    cases heq
    obtain ⟨hitem, hdepth⟩ := hp.mp ⟨_, hfirst⟩
    obtain ⟨joins, he⟩ := hp.joins_of_chainOn hmore hdepth
    exact ⟨⟨_, _, hitem, joins⟩, he⟩
  · rintro ⟨⟨first, mid, hfirst, joins⟩, he⟩
    have hdepth := joins.depth_le
    obtain ⟨h, hfirst⟩ := hp.mpr ⟨hfirst, by omega⟩
    obtain ⟨h', hmore⟩ := hp.chainOn_of_joins joins he
    refine ⟨by omega, ?_⟩
    rw [Expr.chain, bind_of_ok hfirst, bind_of_ok hmore]
    rfl

theorem Implements.comparison (hp : Implements p item) :
    Implements (comparison p) (Compared item) := by
  intro ts e rest
  constructor
  · rintro ⟨h, heq⟩
    obtain ⟨left, hleft, heq⟩ := ok_of_bind heq
    obtain ⟨hitem, hdepth⟩ := hp.mp ⟨_, hleft⟩
    split at heq
    · rename_i op i mid hrest
      obtain ⟨right, hright, heq⟩ := ok_of_bind heq
      obtain ⟨e', hchecked, heq⟩ := ok_of_bind heq
      obtain ⟨rfl, hdepth⟩ := checked_eq_ok_iff.mp hchecked
      cases heq
      rw [hrest] at hitem
      exact ⟨.both hitem (hp.mp ⟨_, hright⟩).1, hdepth⟩
    · rename_i hne
      cases heq
      exact ⟨.alone hitem fun op i mid h => hne op i mid h, hdepth⟩
  · rintro ⟨h, he⟩
    cases h with
    | alone only stop =>
      obtain ⟨h, honly⟩ := hp.mpr ⟨only, he⟩
      refine ⟨h, ?_⟩
      rw [Expr.comparison, bind_of_ok honly]
      split
      · rename_i hrest
        exact absurd hrest (stop _ _ _)
      · rfl
    | @both _ _ _ l r op i left right =>
      have hdepth := he
      simp only [depth] at hdepth
      obtain ⟨h, hleft⟩ := hp.mpr ⟨left, by omega⟩
      obtain ⟨h', hright⟩ := hp.mpr ⟨right, by omega⟩
      have hchecked : checked (.compare op l r) = .ok (.compare op l r) :=
        checked_eq_ok_iff.mpr ⟨rfl, he⟩
      rw [List.length_cons] at h
      refine ⟨by omega, ?_⟩
      rw [Expr.comparison, bind_of_ok hleft]
      dsimp only
      rw [bind_of_ok hright, bind_of_ok hchecked]
      rfl

theorem Implements.disjunction (hp : Implements p item) :
    Implements (disjunction p) (Whole item) :=
  (hp.comparison.chain .and).chain .or

/-! ## Operands -/

theorem cons_of_close {answer : { rest : List Token // rest.length < ts.length }}
    (h : close ts = .ok answer) : ∃ i, ts = ⟨.closeParen, i⟩ :: answer.1 := by
  unfold close at h
  split at h
  · rename_i i rest
    cases h
    exact ⟨i, rfl⟩
  · cases h
  · cases h

theorem not_whole_operands_zero : ¬ Whole (Operands 0) ts e rest := by
  intro h
  obtain ⟨front, -, hfront⟩ := (explains_operands 0).whole h
  have hopen : [Opening.paren].length ≤ 0 := hfront.fits [.paren] 0 (by simp) [] List.nil_prefix
  simp at hopen

theorem operand_of_takes (ih : ∀ m < n, Implements (operand m) (Operands (m + 1)))
    (h : Takes (operand n) ts e rest) : Operands (n + 1) ts e rest ∧ e.depth ≤ maxDepth := by
  obtain ⟨h, heq⟩ := h
  unfold operand at heq
  split at heq
  · cases heq
  · cases heq
    exact ⟨.literal .., by simp [depth, maxDepth]⟩
  · cases heq
    exact ⟨.path .., by simp [depth, maxDepth]⟩
  · cases n with
    | zero => cases heq
    | succ n =>
      obtain ⟨inner, hinner, heq⟩ := ok_of_bind heq
      obtain ⟨e', hchecked, heq⟩ := ok_of_bind heq
      obtain ⟨rfl, hdepth⟩ := checked_eq_ok_iff.mp hchecked
      cases heq
      exact ⟨.not ((ih n (by omega)).mp ⟨_, hinner⟩).1, hdepth⟩
  · cases n with
    | zero => cases heq
    | succ n =>
      obtain ⟨inner, hinner, heq⟩ := ok_of_bind heq
      obtain ⟨⟨after, h'⟩, hclose, heq⟩ := ok_of_bind heq
      cases heq
      obtain ⟨i, hrest⟩ := cons_of_close hclose
      obtain ⟨hwhole, hdepth⟩ := (ih n (by omega)).disjunction.mp ⟨_, hinner⟩
      rw [hrest] at hwhole
      exact ⟨.parens hwhole, hdepth⟩
  · cases heq

theorem takes_operand (ih : ∀ m < n, Implements (operand m) (Operands (m + 1)))
    (h : Operands (n + 1) ts e rest) (hdepth : e.depth ≤ maxDepth) :
    Takes (operand n) ts e rest := by
  cases h with
  | literal => exact ⟨by simp, by rw [operand]⟩
  | path => exact ⟨by simp, by rw [operand]⟩
  | @not i ts rest e inner =>
    cases n with
    | zero => exact inner.elim
    | succ n =>
      have hinner := hdepth
      simp only [depth] at hinner
      obtain ⟨h, hoperand⟩ := (ih n (by omega)).mpr ⟨inner, by omega⟩
      have hchecked : checked (.not e) = .ok (.not e) := checked_eq_ok_iff.mpr ⟨rfl, hdepth⟩
      refine ⟨by simp only [List.length_cons]; omega, ?_⟩
      rw [operand, bind_of_ok hoperand, bind_of_ok hchecked]
      rfl
  | @parens i j ts rest e inner =>
    cases n with
    | zero => exact absurd inner not_whole_operands_zero
    | succ n =>
      obtain ⟨h, hwhole⟩ := (ih n (by omega)).disjunction.mpr ⟨inner, hdepth⟩
      have hclose : close (⟨.closeParen, j⟩ :: rest) = .ok ⟨rest, by simp⟩ := rfl
      rw [List.length_cons] at h
      refine ⟨by simp only [List.length_cons]; omega, ?_⟩
      rw [operand, bind_of_ok hwhole, bind_of_ok hclose]
      rfl

theorem implements_operand (n : Nat) : Implements (operand n) (Operands (n + 1)) := by
  induction n using Nat.strongRecOn with
  | ind n ih =>
    exact fun _ _ _ => ⟨operand_of_takes ih, fun h => takes_operand ih h.1 h.2⟩

/-! ## Whole conditions -/

theorem not_derives_nil (level : Level) : ¬ Derives level [] e := by
  intro h
  generalize hts : ([] : List Token) = ts at h
  induction h with
  | literal | path | parens | not => cases hts
  | primary _ ih | unary _ ih | comparison _ ih | conjunction _ ih => exact ih hts
  | compare | and | or => simp at hts

theorem ofTokens_eq_ok_iff : ofTokens ts = .ok e ↔
    Derives .disjunction ts e ∧ Fits maxDepth [] ts ∧ e.depth ≤ maxDepth := by
  have hparser := (implements_operand maxDepth).disjunction
  rw [← and_assoc, ← whole_iff, ← hparser]
  unfold ofTokens
  split
  · rename_i hts
    subst hts
    refine iff_of_false nofun fun h => ?_
    exact not_derives_nil _ (whole_iff.mp (hparser.mp h).1).1
  · constructor
    · intro heq
      obtain ⟨⟨e', rest, h⟩, hread, heq⟩ := ok_of_bind heq
      split at heq
      · rename_i hrest
        cases heq
        dsimp only at hrest
        subst hrest
        exact ⟨h, hread⟩
      · cases heq
    · rintro ⟨h, hread⟩
      rw [bind_of_ok hread]
      rfl

/-- The parser accepts exactly the conditions of the grammar that stay within the limits, and their
trees are unique, within the limits and beyond. -/
theorem ofTokens_grammar (ts : List Token) (e : Expr) :
    (ofTokens ts = .ok e ↔
      Derives .disjunction ts e ∧ Fits maxDepth [] ts ∧ e.depth ≤ maxDepth) ∧
    ∀ e', Derives .disjunction ts e → Derives .disjunction ts e' → e = e' :=
  ⟨ofTokens_eq_ok_iff, fun _ h h' => h.unique h'⟩

end Expr

end Stepwise
