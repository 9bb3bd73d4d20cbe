import Stepwise.Proofs.Expr.RoundTrip
import Stepwise.Proofs.Expr.Spacing

/-! # Conditions inside conditions -/

namespace Stepwise

namespace Expr

variable {p : Parser} {item : Reader} {op : LogicalOp} {ts us rest : List Token} {e l : Expr}

/-! ## Conditions that are too deep -/

/-- The parser finds what its reader finds, or it says that this is too deep. -/
def FindsOrTooDeep (p : Parser) (item : Reader) : Prop :=
  ∀ ⦃ts e rest⦄, item ts e rest →
    Answers (· = .tooDeep) (fun a => a.value = e ∧ a.rest = rest) (p ts)

namespace FindsOrTooDeep

theorem chainOn (hp : FindsOrTooDeep p item) (h : Joins op item l ts e rest) :
    Answers (· = .tooDeep) (fun a => a.1 = e ∧ a.2.1 = rest) (chainOn op p l ts) := by
  induction h with
  | done stop =>
    rw [chainOn_of_noLogical p _ stop]
    exact .ok ⟨rfl, rfl⟩
  | more right _ ih =>
    rw [Expr.chainOn, if_pos rfl]
    refine (hp right).bind fun operand hoperand => ?_
    obtain ⟨rfl, rfl⟩ := hoperand
    refine (answers_checked _).bind fun joined hjoined => ?_
    subst hjoined
    refine ih.bind fun last hlast => ?_
    exact .ok hlast

theorem chain (hp : FindsOrTooDeep p item) (op : LogicalOp) :
    FindsOrTooDeep (chain op p) (Chained op item) := by
  rintro ts e rest ⟨first, mid, hfirst, joins⟩
  refine (hp hfirst).bind fun operand hoperand => ?_
  obtain ⟨rfl, rfl⟩ := hoperand
  refine (hp.chainOn joins).bind fun last hlast => ?_
  exact .ok hlast

theorem comparison (hp : FindsOrTooDeep p item) :
    FindsOrTooDeep (comparison p) (Compared item) := by
  intro ts e rest h
  cases h with
  | alone only stop =>
    refine (hp only).bind fun left hleft => ?_
    obtain ⟨rfl, rfl⟩ := hleft
    split
    · rename_i hrest
      exact absurd hrest (stop _ _ _)
    · exact .ok ⟨rfl, rfl⟩
  | both left right =>
    refine (hp left).bind fun left hleft => ?_
    obtain ⟨rfl, hmid⟩ := hleft
    split
    · rename_i hrest
      obtain ⟨⟨⟩, rfl⟩ := List.cons.inj (hrest.symm.trans hmid)
      refine (hp right).bind fun right hright => ?_
      obtain ⟨rfl, rfl⟩ := hright
      refine (answers_checked _).bind fun joined hjoined => ?_
      exact .ok ⟨hjoined, rfl⟩
    · rename_i hne
      exact absurd hmid (hne _ _ _)

theorem disjunction (hp : FindsOrTooDeep p item) :
    FindsOrTooDeep (disjunction p) (Whole item) :=
  (hp.comparison.chain .and).chain .or

end FindsOrTooDeep

/-- Whatever its budget, a parser finds operands of every depth or gives up. -/
theorem findsOrTooDeep_operand (n m : Nat) : FindsOrTooDeep (operand n) (Operands m) := by
  induction m generalizing n with
  | zero => exact fun _ _ _ h => h.elim
  | succ m ih =>
    intro ts e rest h
    unfold operand
    cases h with
    | literal | path => exact .ok ⟨rfl, rfl⟩
    | not inner =>
      cases n with
      | zero => exact .error rfl
      | succ n =>
        refine (ih n inner).bind fun operand hoperand => ?_
        obtain ⟨rfl, rfl⟩ := hoperand
        refine (answers_checked _).bind fun negation hnegation => ?_
        exact .ok ⟨hnegation, rfl⟩
    | parens inner =>
      cases n with
      | zero => exact .error rfl
      | succ n =>
        refine ((ih n).disjunction inner).bind fun whole hwhole => ?_
        obtain ⟨value, after, _⟩ := whole
        obtain ⟨rfl, rfl⟩ := hwhole
        exact .ok ⟨rfl, rfl⟩

theorem ofTokens_of_derives (h : Derives .disjunction ts e) :
    ofTokens ts = .ok e ∨ ofTokens ts = .error .tooDeep := by
  have hne : ts ≠ [] := by
    rintro rfl
    exact not_derives_nil _ h
  have hwhole := whole_iff.mpr ⟨h, fits_length [] ts⟩
  apply Answers.eq_or_eq
  unfold ofTokens
  rw [if_neg hne]
  refine ((findsOrTooDeep_operand maxDepth _).disjunction hwhole).bind fun whole hread => ?_
  rw [hread.2]
  exact .ok hread.1

end Expr

/-! ## The tokens of parts -/

namespace Token

variable {c : Char} {cs was after : List Char} {kind : TokenKind} {ts us : List Token}

theorem isLexeme_sign (hc : c ∈ ['&', '|', '(', ')'])
    (hs : ∀ now, sign? c (cs ++ now).head? = some (kind, cs.length)) : IsLexeme c cs was kind := by
  have hplain : ¬ StartsString c ∧ c.isDigit = false ∧ c ≠ '-' ∧ ¬ isWordStart c = true := by
    simp only [List.mem_cons, List.not_mem_nil, or_false, StartsString] at hc ⊢
    rcases hc with rfl | rfl | rfl | rfl <;> decide
  obtain ⟨hquote, hdigit, hminus, hword⟩ := hplain
  intro offset now _
  have hnumber : ¬ StartsNumber c (cs ++ now) := by
    rintro (h | ⟨rfl, -⟩)
    · exact Bool.eq_false_iff.mp hdigit h
    · exact hminus rfl
  rw [read_sign hquote hnumber hword, hs now]

theorem isLexeme_logical (op : LogicalOp) :
    ∃ c d, op.symbol.toList = [c, d] ∧ isBlank c = false ∧
      ∀ was, IsLexeme c [d] was (.logical op) := by
  cases op with
  | and => exact ⟨'&', '&', rfl, by decide, fun _ => isLexeme_sign (by decide) fun _ => rfl⟩
  | or => exact ⟨'|', '|', rfl, by decide, fun _ => isLexeme_sign (by decide) fun _ => rfl⟩

/-- The text has tokens of these kinds, wherever it stands. -/
def HasKinds (cs : List Char) (kinds : List TokenKind) : Prop :=
  ∀ i, ∃ ts, Lexed i cs ts ∧ ts.map Token.kind = kinds

variable {kinds more : List TokenKind}

namespace HasKinds

theorem nil : HasKinds [] [] := fun i => ⟨[], .nil i, rfl⟩

theorem blank (hblank : isBlank c = true) (h : HasKinds cs kinds) : HasKinds (c :: cs) kinds := by
  intro i
  obtain ⟨ts, hts, hkinds⟩ := h (i + 1)
  exact ⟨ts, .blank hblank hts, hkinds⟩

theorem token (visible : isBlank c = false) (lexeme : IsLexeme c cs was kind)
    (h : HasKinds was kinds) : HasKinds (c :: (cs ++ was)) (kind :: kinds) := by
  intro i
  obtain ⟨ts, hts, hkinds⟩ := h (i + 1 + cs.length)
  exact ⟨⟨kind, i⟩ :: ts, .token visible lexeme hts, by rw [List.map_cons, hkinds]⟩

theorem sign (visible : isBlank c = false) (hc : c ∈ ['&', '|', '(', ')'])
    (hs : ∀ next, sign? c next = some (kind, 0)) (h : HasKinds cs kinds) :
    HasKinds (c :: cs) (kind :: kinds) := by
  have lexeme : IsLexeme c [] cs kind := isLexeme_sign hc fun _ => hs _
  exact token visible lexeme h

theorem append {i : Nat} (h : Lexed i cs ts) (hstops : ∀ c, after.head? = some c → Stops c)
    (hafter : HasKinds after more) : HasKinds (cs ++ after) (ts.map Token.kind ++ more) := by
  induction h with
  | nil => exact hafter
  | blank hblank _ ih => exact ih.blank hblank
  | @token i c cs was kind ts visible lexeme _ ih =>
    rw [List.cons_append, List.append_assoc]
    exact ih.token visible (lexeme.change (.extend hstops was))

theorem parens {i : Nat} (h : Lexed i cs ts) (hafter : HasKinds after more) :
    HasKinds ('(' :: (cs ++ ')' :: after))
      (.openParen :: (ts.map Token.kind ++ .closeParen :: more)) := by
  have hstops : ∀ c, (')' :: after).head? = some c → Stops c := by
    intro c hc
    rw [← Option.some.inj hc]
    exact ⟨by decide, by decide, by decide⟩
  have hclose : HasKinds (')' :: after) (.closeParen :: more) :=
    hafter.sign (by decide) (by decide) fun _ => rfl
  exact (append h hstops hclose).sign (by decide) (by decide) fun _ => rfl

theorem connective (op : LogicalOp) (h : HasKinds after more) :
    HasKinds (' ' :: (op.symbol.toList ++ ' ' :: after)) (.logical op :: more) := by
  obtain ⟨c, d, hsymbol, hc, lexeme⟩ := isLexeme_logical op
  rw [hsymbol]
  exact blank (by decide) (token hc (lexeme _) (blank (by decide) h))

end HasKinds

end Token

/-! ## Conditions from parts -/

/-- The result of the left operand decides where it can. -/
def LogicalOp.shortCircuit {ε : Type} (op : LogicalOp) (left right : Except ε Bool) :
    Except ε Bool :=
  match op, left with
  | _, .error e => .error e
  | .and, .ok false => .ok false
  | .and, .ok true => right
  | .or, .ok true => .ok true
  | .or, .ok false => right

theorem LogicalOp.shortCircuit_mapError {ε δ : Type} (f : ε → δ) (op : LogicalOp)
    (left right : Except ε Bool) : (op.shortCircuit left right).mapError f =
      op.shortCircuit (left.mapError f) (right.mapError f) := by
  cases op <;> rcases left with _ | _ | _ <;> rfl

namespace Expr

open Token

variable {text s t : String} {a b : Expr} {kinds : List TokenKind} {op : LogicalOp}

def parenthesized (s : String) : String := "(" ++ s ++ ")"

def joined (op : LogicalOp) (s t : String) : String :=
  parenthesized s ++ " " ++ op.symbol ++ " " ++ parenthesized t

/-- Tokens of these kinds, all at the same place. -/
def placed (kinds : List TokenKind) : List Token := kinds.map (⟨·, 0⟩)

theorem kind_placed (kinds : List TokenKind) : (placed kinds).map Token.kind = kinds := by
  rw [placed, List.map_map]
  exact List.map_id _

theorem parse_of_hasKinds (h : HasKinds text.toList kinds) :
    Alike Eq (parse text) (ofTokens (placed kinds)) := by
  obtain ⟨ts, hts, hkinds⟩ := h 0
  rw [parse_of_tokens hts.tokensFrom]
  exact alike_ofTokens (hkinds.trans (kind_placed kinds).symm)

/-- The tokens of a condition, and of the condition in parentheses. -/
def enclosedKinds (kinds : List TokenKind) : List TokenKind :=
  .openParen :: (kinds ++ [.closeParen])

theorem exists_kinds (h : parse s = .ok a) : ∃ ts kinds, Lexed 0 s.toList ts ∧
    ts.map Token.kind = kinds ∧ Derives .disjunction (placed kinds) a := by
  obtain ⟨ts, hts, hparse⟩ := ok_of_bind h
  have hsame : SameKinds ts (placed (ts.map Token.kind)) := (kind_placed _).symm
  have hplaced := (alike_ofTokens hsame).ok_iff.mp hparse
  exact ⟨ts, _, lexed_of_tokensFrom hts, rfl, (ofTokens_eq_ok_iff.mp hplaced).1⟩

theorem hasKinds_parenthesized {ts : List Token} (h : Lexed 0 s.toList ts) :
    HasKinds (parenthesized s).toList (enclosedKinds (ts.map Token.kind)) := by
  have htext : (parenthesized s).toList = '(' :: (s.toList ++ [')']) := by
    simp [parenthesized]
  rw [htext]
  exact .parens h .nil

theorem hasKinds_joined {ts us : List Token} (hs : Lexed 0 s.toList ts) (ht : Lexed 0 t.toList us)
    (op : LogicalOp) : HasKinds (joined op s t).toList
      (enclosedKinds (ts.map Token.kind) ++ .logical op :: enclosedKinds (us.map Token.kind)) := by
  have htext : (joined op s t).toList = '(' :: (s.toList ++ ')' ::
      ' ' :: (op.symbol.toList ++ ' ' :: '(' :: (t.toList ++ [')']))) := by
    simp [joined, parenthesized]
  have hkinds := HasKinds.parens hs (.connective op (.parens ht .nil))
  rw [htext]
  simpa [enclosedKinds] using hkinds

theorem derives_enclosed (h : Derives .disjunction (placed kinds) a) :
    Derives .primary (placed (enclosedKinds kinds)) a := by
  have hparens := Derives.parens 0 0 h
  simpa [placed, enclosedKinds] using hparens

theorem derives_joined {left right : List Token} (hl : Derives .primary left a)
    (hr : Derives .primary right b) (op : LogicalOp) (i : Nat) :
    Derives .disjunction (left ++ ⟨.logical op, i⟩ :: right) (.logical op a b) := by
  have hright : Derives .comparison right b := .unary (.primary hr)
  cases op with
  | and => exact .conjunction (.and i (.comparison (.unary (.primary hl))) hright)
  | or => exact .or i hl.loosen (.comparison hright)

theorem fits_joined {left right : List Token} (hl : Derives .primary left a)
    (hfl : Fits maxDepth [] left) (hfr : Fits maxDepth [] right) (op : LogicalOp) (i : Nat) :
    Fits maxDepth [] (left ++ ⟨.logical op, i⟩ :: right) := by
  rw [fits_append, hl.foldl_openAfter, fits_cons]
  exact ⟨hfl, Nat.zero_le _, hfr⟩

theorem evaluate_logical (op : LogicalOp) (a b : Expr) (c : Context) :
    (logical op a b).evaluate c = op.shortCircuit (a.evaluate c) (b.evaluate c) := by
  cases op with
  | and =>
    rw [evaluate, value, evaluate, evaluate]
    cases a.value c with
    | error => rfl
    | ok v =>
      rw [bind_of_ok rfl, bind_of_ok rfl]
      cases v.truthy with
      | false => rfl
      | true => cases b.value c <;> rfl
  | or =>
    rw [evaluate, value, evaluate, evaluate]
    cases a.value c with
    | error => rfl
    | ok v =>
      rw [bind_of_ok rfl, bind_of_ok rfl]
      cases v.truthy with
      | true => rfl
      | false => cases b.value c <;> rfl

theorem evaluateText_of_parse (h : parse s = .ok a) (c : Context) :
    evaluateText s c = (a.evaluate c).mapError .resolution := by
  rw [evaluateText, bind_of_ok h]

/-- What becomes of two conditions that are joined. -/
structure JoinedSafely (op : LogicalOp) (s t : String) (a b : Expr) : Prop where
  parse : parse (joined op s t) = .ok (.logical op a b)
  evaluate : ∀ c, (logical op a b).evaluate c = op.shortCircuit (a.evaluate c) (b.evaluate c)
  evaluateText : ∀ c,
    evaluateText (joined op s t) c = op.shortCircuit (evaluateText s c) (evaluateText t c)

/-- A condition in parentheses is the same condition, unless it is too deep. Two conditions that are
not too deep can be joined, and each is evaluated as it is on its own. -/
theorem embedding_safe (hs : parse s = .ok a) (ht : parse t = .ok b) :
    (parse (parenthesized s) = .ok a ∨ parse (parenthesized s) = .error .tooDeep) ∧
    ((∃ e, parse (parenthesized s) = .ok e) → (∃ e, parse (parenthesized t) = .ok e) →
      a.depth ≤ 63 → b.depth ≤ 63 → ∀ op, JoinedSafely op s t a b) := by
  obtain ⟨ts, kinds, hts, rfl, hleft⟩ := exists_kinds hs
  obtain ⟨us, kinds, hus, rfl, hright⟩ := exists_kinds ht
  have hl := derives_enclosed hleft
  have hr := derives_enclosed hright
  have hparseLeft := parse_of_hasKinds (hasKinds_parenthesized hts)
  have hparseRight := parse_of_hasKinds (hasKinds_parenthesized hus)
  refine ⟨?_, ?_⟩
  · rw [hparseLeft.ok_iff, hparseLeft.tooDeep_iff]
    exact ofTokens_of_derives hl.loosen
  · rintro ⟨e, he⟩ ⟨e', he'⟩ hdepth hdepth' op
    obtain ⟨-, hfl, -⟩ := ofTokens_eq_ok_iff.mp (hparseLeft.ok_iff.mp he)
    obtain ⟨-, hfr, -⟩ := ofTokens_eq_ok_iff.mp (hparseRight.ok_iff.mp he')
    have hjoined : parse (joined op s t) = .ok (.logical op a b) := by
      rw [(parse_of_hasKinds (hasKinds_joined hts hus op)).ok_iff, placed, List.map_append,
        List.map_cons, ofTokens_eq_ok_iff]
      refine ⟨derives_joined hl hr op 0, fits_joined hl hfl hfr op 0, ?_⟩
      simp only [depth, maxDepth]
      omega
    refine ⟨hjoined, evaluate_logical op a b, fun c => ?_⟩
    rw [evaluateText_of_parse hjoined, evaluate_logical, LogicalOp.shortCircuit_mapError,
      evaluateText_of_parse hs, evaluateText_of_parse ht]

theorem embedding_safe_alternative : ∃ a b,
    parse "!input || input" = .ok a ∧ parse "input >=-5" = .ok b ∧
    parse "(!input || input)" = .ok a ∧
    parse "(!input || input) && (input >=-5)" = .ok (.logical .and a b) := by
  let input : Expr := .path ⟨"input", .input, []⟩
  have hs : parse "!input || input" = .ok (.logical .or (.not input) input) := by
    with_unfolding_all rfl
  have ht : parse "input >=-5" = .ok (.compare .ge input (.literal (.int (-5)))) := by
    with_unfolding_all rfl
  have hleft : parenthesized "!input || input" = "(!input || input)" := by decide +kernel
  have hright : parenthesized "input >=-5" = "(input >=-5)" := by decide +kernel
  have htext : joined .and "!input || input" "input >=-5" =
      "(!input || input) && (input >=-5)" := by decide +kernel
  obtain ⟨-, hjoins⟩ := embedding_safe hs ht
  rw [hleft, hright] at hjoins
  have hinner : parse "(!input || input)" = .ok (.logical .or (.not input) input) := by
    with_unfolding_all rfl
  have houter : parse "(input >=-5)" = .ok (.compare .ge input (.literal (.int (-5)))) := by
    with_unfolding_all rfl
  have hjoined := hjoins ⟨_, hinner⟩ ⟨_, houter⟩ (by decide) (by decide) .and
  exact ⟨_, _, hs, ht, hinner, htext ▸ hjoined.parse⟩

end Expr

end Stepwise
