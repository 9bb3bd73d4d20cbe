import Stepwise.Proofs.Expr.Parsing

/-! # Conditions wherever their tokens stand -/

namespace Stepwise

/-- The error at no place. -/
def ExprError.unplaced : ExprError → ExprError
  | .unexpectedCharacter c _ => .unexpectedCharacter c 0
  | .unterminatedString _ => .unterminatedString 0
  | .invalidNumber text _ => .invalidNumber text 0
  | .unknownToken text _ cause => .unknownToken text 0 cause
  | .unexpectedToken expected found _ => .unexpectedToken expected found 0
  | e => e

/-- A result that is right, or an error that may be. -/
inductive Answers {α : Type} (E : ExprError → Prop) (R : α → Prop) : Except ExprError α → Prop where
  | ok {a : α} (right : R a) : Answers E R (.ok a)
  | error {e : ExprError} (may : E e) : Answers E R (.error e)

namespace Answers

variable {α β : Type} {E E' : ExprError → Prop} {R R' : α → Prop} {S : β → Prop}
  {x : Except ExprError α}

theorem bind {f : α → Except ExprError β} (h : Answers E R x)
    (hf : ∀ a, R a → Answers E S (f a)) : Answers E S (x >>= f) := by
  cases h with
  | ok right => exact hf _ right
  | error may => exact .error may

theorem mono (h : Answers E R x) (hE : ∀ e, E e → E' e) (hR : ∀ a, R a → R' a) :
    Answers E' R' x := by
  cases h with
  | ok right => exact .ok (hR _ right)
  | error may => exact .error (hE _ may)

theorem of_error (h : Answers E R x) {e : ExprError} (hx : x = .error e) : E e := by
  cases h with
  | ok => cases hx
  | error may =>
    cases hx
    exact may

theorem eq_or_eq {a : α} {e : ExprError} (h : Answers (· = e) (· = a) x) :
    x = .ok a ∨ x = .error e := by
  cases h with
  | ok right => exact Or.inl (congrArg Except.ok right)
  | error may => exact Or.inr (congrArg Except.error may)

end Answers

/-- Both have related results, or the same error at some places. -/
inductive Alike {α β : Type} (R : α → β → Prop) :
    Except ExprError α → Except ExprError β → Prop where
  | ok {a : α} {b : β} (same : R a b) : Alike R (.ok a) (.ok b)
  | error {e e' : ExprError} (same : e.unplaced = e'.unplaced) : Alike R (.error e) (.error e')

namespace Alike

variable {α β γ δ : Type} {R : α → β → Prop} {S : γ → δ → Prop}

theorem bind {x : Except ExprError α} {y : Except ExprError β} {f : α → Except ExprError γ}
    {g : β → Except ExprError δ} (h : Alike R x y) (hfg : ∀ a b, R a b → Alike S (f a) (g b)) :
    Alike S (x >>= f) (y >>= g) := by
  cases h with
  | ok same => exact hfg _ _ same
  | error same => exact .error same

theorem refl (x : Except ExprError α) : Alike Eq x x := by
  cases x with
  | ok => exact .ok rfl
  | error => exact .error rfl

theorem mapError_eq {x y : Except ExprError α} (h : Alike Eq x y) :
    x.mapError ExprError.unplaced = y.mapError ExprError.unplaced := by
  cases h with
  | ok same => rw [same]
  | error same => exact congrArg Except.error same

theorem ok_iff {x y : Except ExprError α} (h : Alike Eq x y) {a : α} : x = .ok a ↔ y = .ok a := by
  cases h with
  | ok same => rw [same]
  | error => exact ⟨nofun, nofun⟩

theorem tooDeep_iff {x y : Except ExprError α} (h : Alike Eq x y) :
    x = .error .tooDeep ↔ y = .error .tooDeep := by
  have hplace : ∀ e : ExprError, e.unplaced = .tooDeep ↔ e = .tooDeep := by
    intro e
    cases e <;> simp [ExprError.unplaced]
  cases h with
  | ok => exact ⟨nofun, nofun⟩
  | error same => rw [Except.error.injEq, Except.error.injEq, ← hplace, same, hplace]

end Alike

namespace Expr

theorem answers_checked (e : Expr) : Answers (· = .tooDeep) (· = e) (checked e) := by
  unfold checked
  split
  · exact .error rfl
  · exact .ok rfl

def SameKinds (ts us : List Token) : Prop := ts.map Token.kind = us.map Token.kind

/-- Tokens of the same kinds give the same tree and leave the same kinds. -/
def IgnoresPlaces (p : Parser) : Prop := ∀ ⦃ts us⦄, SameKinds ts us →
  Alike (fun a b => a.value = b.value ∧ SameKinds a.rest b.rest) (p ts) (p us)

variable {p : Parser} {op : LogicalOp} {ts us rest : List Token} {t : Token}

theorem SameKinds.cons (h : SameKinds (t :: rest) us) :
    ∃ i rest', us = ⟨t.kind, i⟩ :: rest' ∧ SameKinds rest rest' := by
  obtain ⟨u, rest', rfl, hkind, hrest⟩ := List.map_eq_cons_iff.mp h.symm
  exact ⟨u.offset, rest', by rw [← hkind], hrest.symm⟩

theorem SameKinds.nil (h : SameKinds [] us) : us = [] := List.map_eq_nil_iff.mp h.symm

namespace IgnoresPlaces

theorem chainOn (hp : IgnoresPlaces p) (l : Expr) (h : SameKinds ts us) :
    Alike (fun a b => a.1 = b.1 ∧ SameKinds a.2.1 b.2.1)
      (chainOn op p l ts) (chainOn op p l us) := by
  fun_induction Expr.chainOn op p l ts generalizing us with
  | case1 l offset rest ih =>
    obtain ⟨i, rest', rfl, hrest⟩ := h.cons
    rw [Expr.chainOn, if_pos rfl]
    refine (hp hrest).bind fun right right' hright => ?_
    rw [hright.1]
    refine (Alike.refl _).bind fun joined _ hjoined => ?_
    subst hjoined
    refine (ih right joined hright.2).bind fun last last' hlast => ?_
    exact .ok hlast
  | case2 l o offset rest hne =>
    obtain ⟨i, rest', rfl, -⟩ := h.cons
    rw [Expr.chainOn, if_neg hne]
    exact .ok ⟨rfl, h⟩
  | case3 l ts hne =>
    have hstop : Expr.chainOn op p l us = .ok (l, ⟨us, Nat.le_refl _⟩) := by
      unfold Expr.chainOn
      split
      · obtain ⟨i, rest', rfl, -⟩ := SameKinds.cons (Eq.symm h)
        exact absurd rfl (hne _ _ _)
      · rfl
    rw [hstop]
    exact .ok ⟨rfl, h⟩

theorem chain (hp : IgnoresPlaces p) (op : LogicalOp) : IgnoresPlaces (chain op p) := by
  intro ts us h
  refine (hp h).bind fun first first' hfirst => ?_
  rw [hfirst.1]
  refine (hp.chainOn first'.value hfirst.2).bind fun last last' hlast => ?_
  exact .ok hlast

theorem comparison (hp : IgnoresPlaces p) : IgnoresPlaces (comparison p) := by
  intro ts us h
  refine (hp h).bind fun left left' hleft => ?_
  obtain ⟨hvalue, hkinds⟩ := hleft
  split
  · rename_i op i rest hrest
    rw [hrest] at hkinds
    obtain ⟨j, rest', hrest', hmore⟩ := hkinds.cons
    split
    · rename_i op' j' rest'' hrest''
      obtain ⟨⟨⟩, rfl⟩ := List.cons.inj (hrest''.symm.trans hrest')
      refine (hp hmore).bind fun right right' hright => ?_
      rw [hvalue, hright.1]
      refine (Alike.refl _).bind fun joined _ hjoined => ?_
      subst hjoined
      exact .ok ⟨rfl, hright.2⟩
    · rename_i hne
      exact absurd hrest' (hne _ _ _)
  · rename_i hne
    split
    · rename_i op j rest' hrest'
      rw [hrest'] at hkinds
      obtain ⟨i, rest, hrest, -⟩ := SameKinds.cons (Eq.symm hkinds)
      exact absurd hrest (hne _ _ _)
    · exact .ok ⟨hvalue, hkinds⟩

theorem disjunction (hp : IgnoresPlaces p) : IgnoresPlaces (disjunction p) :=
  (hp.comparison.chain .and).chain .or

end IgnoresPlaces

theorem alike_close (h : SameKinds ts us) :
    Alike (fun a b => SameKinds a.1 b.1) (close ts) (close us) := by
  cases ts with
  | nil =>
    rw [h.nil]
    exact .error rfl
  | cons t rest =>
    obtain ⟨kind, i⟩ := t
    obtain ⟨j, rest', rfl, hrest⟩ := h.cons
    cases kind with
    | closeParen => exact .ok hrest
    | literal | path | compare | logical | not | openParen => exact .error rfl

theorem ignoresPlaces_operand (n : Nat) : IgnoresPlaces (operand n) := by
  induction n using Nat.strongRecOn with
  | ind n ih =>
    intro ts us h
    unfold operand
    cases ts with
    | nil =>
      rw [h.nil]
      exact .error rfl
    | cons t rest =>
      obtain ⟨kind, i⟩ := t
      obtain ⟨j, rest', rfl, hrest⟩ := h.cons
      cases kind with
      | literal | path => exact .ok ⟨rfl, hrest⟩
      | compare | logical | closeParen => exact .error rfl
      | not =>
        cases n with
        | zero => exact .error rfl
        | succ n =>
          refine (ih n (Nat.lt_succ_self n) hrest).bind fun inner inner' hinner => ?_
          rw [hinner.1]
          refine (Alike.refl _).bind fun e _ he => ?_
          subst he
          exact .ok ⟨rfl, hinner.2⟩
      | openParen =>
        cases n with
        | zero => exact .error rfl
        | succ n =>
          have hwhole := (ih n (Nat.lt_succ_self n)).disjunction hrest
          refine hwhole.bind fun inner inner' hinner => ?_
          refine (alike_close hinner.2).bind fun last last' hlast => ?_
          exact .ok ⟨hinner.1, hlast⟩

/-- Tokens of the same kinds form the same condition, or are wrong in the same way. -/
theorem alike_ofTokens (h : SameKinds ts us) : Alike Eq (ofTokens ts) (ofTokens us) := by
  cases ts with
  | nil =>
    rw [h.nil]
    exact .refl _
  | cons t rest =>
    obtain ⟨i, rest', rfl, -⟩ := h.cons
    unfold ofTokens
    rw [if_neg (List.cons_ne_nil _ _), if_neg (List.cons_ne_nil _ _)]
    refine ((ignoresPlaces_operand maxDepth).disjunction h).bind fun whole whole' hwhole => ?_
    obtain ⟨value, left, _⟩ := whole
    obtain ⟨value', left', _⟩ := whole'
    obtain ⟨hvalue, hkinds⟩ := hwhole
    dsimp only at hvalue hkinds ⊢
    cases left with
    | nil =>
      rw [hkinds.nil]
      exact .ok hvalue
    | cons t left =>
      obtain ⟨j, left', rfl, -⟩ := hkinds.cons
      exact .error rfl

end Expr

end Stepwise
