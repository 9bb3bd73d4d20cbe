import Stepwise.Proofs.Expr.Spacing

/-! # Errors of conditions -/

namespace Stepwise

/-- The number of backslashes at the end. -/
def backslashes (front : List Char) : Nat := (front.reverse.takeWhile (· == '\\')).length

/-- The character after these is escaped. Backslashes escape each other in pairs; one is left. -/
def Escapes (front : List Char) : Prop := backslashes front % 2 = 1

/-- No quote among the characters closes a string. -/
def Unclosed (quote : Char) (cs : List Char) : Prop :=
  ∀ front after, cs = front ++ quote :: after → Escapes front

namespace ExprError

/-- How many characters stand before the error, if it has a place. -/
def offset? : ExprError → Option Nat
  | unexpectedCharacter _ i => some i
  | unterminatedString i => some i
  | invalidNumber _ i => some i
  | unknownToken _ i _ => some i
  | unexpectedToken _ _ i => some i
  | empty | unexpectedEnd _ | tooDeep | resolution _ => none

/-- What the error says of the text is so. An unexpected token is one of the tokens of the text, and
the message shows that token. Reading resolves no values, so no error is about that. -/
inductive Truthful (text : List Char) : ExprError → Prop where
  | empty (blank : ∀ c ∈ text, isBlank c = true) : Truthful text .empty
  | unexpectedCharacter {c : Char} {i : Nat} (there : text[i]? = some c) :
      Truthful text (.unexpectedCharacter c i)
  | unterminatedString {quote : Char} {cs : List Char} {i : Nat}
      (there : text.drop i = quote :: cs) (opens : Token.StartsString quote)
      (unclosed : Unclosed quote cs) : Truthful text (.unterminatedString i)
  | invalidNumber {number : String} {i : Nat} (nonempty : number.toList ≠ [])
      (there : number.toList <+: text.drop i) : Truthful text (.invalidNumber number i)
  | unknownToken {word : String} {i : Nat} {cause : PathError} (nonempty : word.toList ≠ [])
      (there : word.toList = (text.drop i).takeWhile Token.isWordChar)
      (fails : Path.parse word = .error cause) : Truthful text (.unknownToken word i cause)
  | unexpectedToken {t : Token} {ts : List Token} (expected : Expected)
      (tokens : Token.tokens text = .ok ts) (there : t ∈ ts) :
      Truthful text (.unexpectedToken expected t.kind t.offset)
  | unexpectedEnd (expected : Expected) : Truthful text (.unexpectedEnd expected)
  | tooDeep : Truthful text .tooDeep

variable {text front cs : List Char} {i : Nat} {e : ExprError}

theorem lt_length_of_there (hne : front ≠ []) (h : front <+: text.drop i) : i < text.length := by
  have hle := h.length_le
  have hpos := List.length_pos_iff.mpr hne
  rw [List.length_drop] at hle
  omega

theorem Truthful.offset_lt (h : e.Truthful text) (hi : e.offset? = some i) : i < text.length := by
  cases h with
  | empty | unexpectedEnd | tooDeep => cases hi
  | unexpectedCharacter there =>
    cases hi
    exact (List.getElem?_eq_some_iff.mp there).1
  | @unterminatedString quote cs i there _ _ =>
    cases hi
    exact lt_length_of_there (List.cons_ne_nil quote cs) (there ▸ List.prefix_rfl)
  | invalidNumber nonempty there =>
    cases hi
    exact lt_length_of_there nonempty there
  | unknownToken nonempty there _ =>
    cases hi
    exact lt_length_of_there nonempty (there ▸ List.takeWhile_prefix _)
  | unexpectedToken expected tokens there =>
    cases hi
    have hlt := (Token.lexed_of_tokensFrom tokens).offset_lt _ there
    rwa [Nat.zero_add] at hlt

end ExprError

/-! ## Errors in a token -/

namespace Token

open ExprError

variable {text cs rest : List Char} {c quote : Char} {i : Nat} {e : ExprError}

theorem backslashes_le (front : List Char) : backslashes front ≤ front.length := by
  have hle := (List.takeWhile_prefix (· == '\\') (l := front.reverse)).length_le
  rwa [List.length_reverse] at hle

theorem backslashes_cons (c : Char) (front : List Char) : backslashes (c :: front) =
    if backslashes front = front.length ∧ c = '\\' then backslashes front + 1
    else backslashes front := by
  unfold backslashes
  rw [List.reverse_cons, List.takeWhile_append, List.length_reverse]
  by_cases hall : (front.reverse.takeWhile (· == '\\')).length = front.length
  · rw [if_pos hall]
    by_cases hc : c = '\\'
    · rw [if_pos ⟨hall, hc⟩, List.takeWhile_cons_of_pos (by simpa using hc)]
      simp [hall]
    · rw [if_neg fun h => hc h.2, List.takeWhile_cons_of_neg (by simpa using hc)]
      simp [hall]
  · rw [if_neg hall, if_neg fun h => hall h.1]

theorem escapes_pair {front : List Char} (h : Escapes front) (c : Char) :
    Escapes ('\\' :: c :: front) := by
  have hle := backslashes_le front
  unfold Escapes at h ⊢
  simp only [backslashes_cons, List.length_cons, and_true]
  split_ifs <;> omega

theorem escapes_plain {front : List Char} (h : Escapes front) (hc : c ≠ '\\') :
    Escapes (c :: front) := by
  unfold Escapes at h ⊢
  rwa [backslashes_cons, if_neg fun h => hc h.2]

theorem unclosed_of_stringBody? (h : stringBody? quote cs = none) : Unclosed quote cs := by
  fun_induction stringBody? quote cs with
  | case1 => exact fun front after hcs => absurd hcs.symm (by simp)
  | case2 => cases h
  | case3 hquote =>
    intro front after hcs
    rcases List.cons_eq_append_iff.mp hcs with ⟨-, hcons⟩ | ⟨front', -, hnil⟩
    · exact absurd (List.cons.inj hcons).1.symm hquote
    · exact absurd hnil.symm (by simp)
  | case4 e rest hquote ih =>
    have hrest := ih (Option.map_eq_none_iff.mp h)
    intro front after hcs
    rcases List.cons_eq_append_iff.mp hcs with ⟨-, hcons⟩ | ⟨front', rfl, hcs'⟩
    · exact absurd (List.cons.inj hcons).1.symm hquote
    rcases List.cons_eq_append_iff.mp hcs' with ⟨rfl, -⟩ | ⟨front, rfl, hcs''⟩
    · -- The quote is what the backslash escapes.
      rfl
    · exact escapes_pair (hrest front after hcs'') e
  | case5 c rest hquote hc ih =>
    have hrest := ih (Option.map_eq_none_iff.mp h)
    intro front after hcs
    rcases List.cons_eq_append_iff.mp hcs with ⟨-, hcons⟩ | ⟨front, rfl, hcs'⟩
    · exact absurd (List.cons.inj hcons).1.symm hquote
    · exact escapes_plain (hrest front after hcs') hc

theorem parse_of_ofWord {word : String} {cause : PathError} (h : ofWord word = .error cause) :
    Path.parse word = .error cause := by
  unfold ofWord at h
  split at h
  case h_7 =>
    split at h
    · cases h
    · rename_i hparse
      cases h
      exact hparse
  all_goals cases h

theorem truthful_read (hi : text.drop i = c :: rest) (h : read i c rest = .error e) :
    e.Truthful text := by
  by_cases hquote : StartsString c
  · rw [read_string hquote] at h
    split at h
    · cases h
    · rename_i hbody
      cases h
      exact .unterminatedString hi hquote (unclosed_of_stringBody? hbody)
  by_cases hnumber : StartsNumber c rest
  · obtain ⟨cs, hpart, -⟩ := exists_numberPart hnumber
    obtain ⟨was, hsplit, -⟩ := splits_numberPart (c :: rest)
    rw [read_number hquote hnumber hpart] at h
    split at h
    · cases h
    · cases h
      refine .invalidNumber (by simp) ?_
      rw [String.toList_ofList, hi, ← hpart]
      exact ⟨was, hsplit.symm⟩
  by_cases hword : isWordStart c = true
  · rw [read_word hquote hnumber hword] at h
    split at h
    · cases h
    · rename_i hfails
      cases h
      refine .unknownToken (by simp) ?_ (parse_of_ofWord hfails)
      rw [String.toList_ofList, hi, List.takeWhile_cons_of_pos (isWordChar_of_isWordStart hword)]
  · rw [read_sign hquote hnumber hword] at h
    split at h
    · cases h
    · cases h
      refine .unexpectedCharacter ?_
      rw [← List.head?_drop, hi, List.head?_cons]

theorem truthful_tokensFrom (hi : text.drop i = cs) (h : tokensFrom i cs = .error e) :
    e.Truthful text := by
  fun_induction tokensFrom i cs generalizing e with
  | case1 => cases h
  | case2 i c rest hblank ih => exact ih (by rw [← List.drop_drop, hi]; rfl) h
  | case3 i c rest hblank e' hread =>
    cases h
    exact truthful_read hi hread
  | case4 i c rest hblank kind n hread e' hmore ih =>
    cases h
    exact ih (by rw [← List.drop_drop, ← List.drop_drop, hi]; rfl) hmore
  | case5 => cases h

theorem tokens_eq_nil_iff : tokens cs = .ok [] ↔ ∀ c ∈ cs, isBlank c = true := by
  constructor
  · intro h
    have hlexed : Lexed 0 cs [] := lexed_of_tokensFrom h
    exact hlexed.blank_of_nil rfl
  · intro hblank
    have hlexed := Lexed.blanks hblank (.nil (0 + cs.length))
    rw [List.append_nil] at hlexed
    exact hlexed.tokensFrom

end Token

/-! ## Errors between tokens -/

/-- The error is about one of these tokens, or about none. -/
inductive Blames (ts : List Token) : ExprError → Prop where
  | token {t : Token} (expected : Expected) (there : t ∈ ts) :
      Blames ts (.unexpectedToken expected t.kind t.offset)
  | theEnd (expected : Expected) : Blames ts (.unexpectedEnd expected)
  | tooDeep : Blames ts .tooDeep

variable {ts us : List Token} {e : ExprError}

theorem Blames.widen (h : Blames us e) (hsuffix : us <:+ ts) : Blames ts e := by
  cases h with
  | token expected there => exact .token expected (hsuffix.mem there)
  | theEnd expected => exact .theEnd expected
  | tooDeep => exact .tooDeep

theorem Answers.widen {α : Type} {R R' : α → Prop} {x : Except ExprError α}
    (h : Answers (Blames us) R x) (hsuffix : us <:+ ts) (hR : ∀ a, R a → R' a) :
    Answers (Blames ts) R' x :=
  h.mono (fun _ blames => blames.widen hsuffix) hR

namespace Expr

variable {p : Parser} {op : LogicalOp}

/-- The parser takes tokens from the front, and its errors are about the tokens it was given. -/
def Blaming (p : Parser) : Prop := ∀ ts, Answers (Blames ts) (fun a => a.rest <:+ ts) (p ts)

theorem blames_checked (ts : List Token) (e : Expr) :
    Answers (Blames ts) (fun _ => True) (checked e) :=
  (answers_checked e).mono (fun _ htooDeep => htooDeep ▸ .tooDeep) fun _ _ => trivial

theorem blames_close (ts : List Token) : Answers (Blames ts) (fun a => a.1 <:+ ts) (close ts) := by
  unfold close
  split
  · exact .ok (List.suffix_cons ..)
  · exact .error (.token .closeParen List.mem_cons_self)
  · exact .error (.theEnd .closeParen)

namespace Blaming

theorem within (hp : Blaming p) (hsuffix : us <:+ ts) :
    Answers (Blames ts) (fun a => a.rest <:+ ts) (p us) :=
  (hp us).widen hsuffix fun _ hrest => hrest.trans hsuffix

theorem chainOn (hp : Blaming p) (l : Expr) (ts : List Token) :
    Answers (Blames ts) (fun a => a.2.1 <:+ ts) (chainOn op p l ts) := by
  fun_induction Expr.chainOn op p l ts with
  | case1 l offset rest ih =>
    -- Every operand starts where the one before it ended.
    refine (hp.within (List.suffix_cons ..)).bind fun right hright => ?_
    refine (blames_checked _ _).bind fun joined _ => ?_
    refine ((ih right joined).widen hright fun _ hlast => hlast.trans hright).bind
      fun last hlast => ?_
    exact .ok hlast
  | case2 => exact .ok List.suffix_rfl
  | case3 => exact .ok List.suffix_rfl

theorem chain (hp : Blaming p) (op : LogicalOp) : Blaming (chain op p) := by
  intro ts
  refine (hp ts).bind fun first hfirst => ?_
  refine ((hp.chainOn first.value first.rest).widen hfirst fun _ hlast => hlast.trans hfirst).bind
    fun last hlast => ?_
  exact .ok hlast

theorem comparison (hp : Blaming p) : Blaming (comparison p) := by
  intro ts
  refine (hp ts).bind fun left hleft => ?_
  split
  · rename_i op i rest hrest
    have hmore : rest <:+ ts := (List.suffix_cons ..).trans (hrest ▸ hleft)
    refine (hp.within hmore).bind fun right hright => ?_
    refine (blames_checked _ _).bind fun joined _ => ?_
    exact .ok hright
  · exact .ok hleft

theorem disjunction (hp : Blaming p) : Blaming (disjunction p) :=
  (hp.comparison.chain .and).chain .or

end Blaming

theorem blaming_operand (n : Nat) : Blaming (operand n) := by
  induction n using Nat.strongRecOn with
  | ind n ih =>
    intro ts
    unfold operand
    cases ts with
    | nil => exact .error (.theEnd .aValue)
    | cons t rest =>
      obtain ⟨kind, i⟩ := t
      have hrest : rest <:+ ⟨kind, i⟩ :: rest := List.suffix_cons ..
      cases kind with
      | literal | path => exact .ok hrest
      | compare | logical | closeParen => exact .error (.token .aValue List.mem_cons_self)
      | not =>
        cases n with
        | zero => exact .error .tooDeep
        | succ n =>
          refine ((ih n (Nat.lt_succ_self n)).within hrest).bind fun inner hinner => ?_
          exact (blames_checked _ _).bind fun _ _ => .ok hinner
      | openParen =>
        cases n with
        | zero => exact .error .tooDeep
        | succ n =>
          refine ((ih n (Nat.lt_succ_self n)).disjunction.within hrest).bind fun inner hinner => ?_
          refine ((blames_close _).widen hinner fun _ hlast => hlast.trans hinner).bind
            fun last hlast => ?_
          exact .ok hlast

theorem blames_of_ofTokens (hne : ts ≠ []) (h : ofTokens ts = .error e) : Blames ts e := by
  have hwhole : Answers (Blames ts) (fun _ => True) (ofTokens ts) := by
    unfold ofTokens
    rw [if_neg hne]
    refine ((blaming_operand maxDepth).disjunction ts).bind fun whole hrest => ?_
    obtain ⟨value, left, _⟩ := whole
    cases left with
    | nil => exact .ok trivial
    | cons t left => exact .error (.token .theEnd (hrest.mem List.mem_cons_self))
  exact hwhole.of_error h

/-! ## Errors of whole texts -/

variable {text : String} {e : ExprError}

theorem truthful_of_blames (htokens : Token.tokens text.toList = .ok ts) (h : Blames ts e) :
    e.Truthful text.toList := by
  cases h with
  | token expected there => exact .unexpectedToken expected htokens there
  | theEnd expected => exact .unexpectedEnd expected
  | tooDeep => exact .tooDeep

theorem truthful_of_parse (h : parse text = .error e) : e.Truthful text.toList := by
  cases htokens : Token.tokens text.toList with
  | error e' =>
    rw [parse, htokens] at h
    cases h
    exact Token.truthful_tokensFrom List.drop_zero htokens
  | ok ts =>
    rw [parse_of_tokens htokens] at h
    by_cases hts : ts = []
    · subst hts
      cases h
      exact .empty (Token.tokens_eq_nil_iff.mp htokens)
    · exact truthful_of_blames htokens (blames_of_ofTokens hts h)

theorem parse_eq_empty_iff :
    parse text = .error .empty ↔ ∀ c ∈ text.toList, isBlank c = true := by
  constructor
  · intro h
    cases truthful_of_parse h with
    | empty blank => exact blank
  · intro hblank
    rw [parse_of_tokens (Token.tokens_eq_nil_iff.mpr hblank)]
    rfl

/-- The errors of reading a text are right about it and have their places in it. That there is
nothing to read is said of blank texts and of no others. -/
theorem errors_truthful (text : String) :
    (∀ e, parse text = .error e →
      e.Truthful text.toList ∧ ∀ i, e.offset? = some i → i < text.length) ∧
    (parse text = .error .empty ↔ ∀ c ∈ text.toList, isBlank c = true) := by
  refine ⟨fun e h => ⟨truthful_of_parse h, fun i hi => ?_⟩, parse_eq_empty_iff⟩
  rw [← String.length_toList]
  exact (truthful_of_parse h).offset_lt hi

def openEnded : String := "input == 'it\\'s"

theorem errors_truthful_openEnded :
    parse openEnded = .error (.unterminatedString 9) ∧
    (ExprError.unterminatedString 9).Truthful openEnded.toList ∧ 9 < openEnded.length := by
  have htext : openEnded.toList =
      ['i', 'n', 'p', 'u', 't', ' ', '=', '=', ' ', '\'', 'i', 't', '\\', '\'', 's'] := by
    decide +kernel
  have hparse : parse openEnded = .error (.unterminatedString 9) := by
    rw [parse, htext]
    with_unfolding_all rfl
  obtain ⟨htruthful, hplace⟩ := (errors_truthful openEnded).1 _ hparse
  exact ⟨hparse, htruthful, hplace 9 rfl⟩

end Expr

end Stepwise
