import Stepwise.Proofs.Expr.Spacing

/-!
# Braces in conditions

No token starts with a brace or ends with one, so braces belong to strings only.
-/

namespace Stepwise

namespace Token

def IsBrace (c : Char) : Prop := c = '\x7b' ∨ c = '\x7d'

/-- The last character is there to see, and is no brace. -/
def Ending (cs : List Char) : Prop :=
  ∃ front last, cs = front ++ [last] ∧ isBlank last = false ∧ ¬ IsBrace last

variable {c : Char} {cs rest was front back : List Char} {kind : TokenKind} {n i : Nat}
  {ts : List Token}

theorem stops_of_isBrace (h : IsBrace c) : Stops c := by
  rcases h with rfl | rfl
  · exact ⟨by decide, by decide, by decide⟩
  · exact ⟨by decide, by decide, by decide⟩

theorem read_brace (h : IsBrace c) (offset : Nat) (rest : List Char) :
    read offset c rest = .error (.unexpectedCharacter c offset) := by
  have hplain : ¬ StartsString c ∧ ¬ StartsNumber c rest ∧ ¬ isWordStart c = true ∧
      sign? c rest.head? = none := by
    rcases h with rfl | rfl
    · exact ⟨by simp [StartsString], by simp [StartsNumber], by decide, rfl⟩
    · exact ⟨by simp [StartsString], by simp [StartsNumber], by decide, rfl⟩
  obtain ⟨hquote, hnumber, hword, hsign⟩ := hplain
  rw [read_sign hquote hnumber hword, hsign]

/-! ## The last character of a token -/

theorem Ending.exists_visible (h : Ending cs) (hcs : cs = front ++ '\x7d' :: back) :
    ∃ x ∈ back, isBlank x = false := by
  obtain ⟨token, last, htoken, hlast, hbrace⟩ := h
  rw [htoken] at hcs
  rcases List.eq_nil_or_concat back with rfl | ⟨more, x, rfl⟩
  · obtain ⟨-, rfl⟩ := List.append_singleton_inj.mp hcs
    exact absurd (Or.inr rfl) hbrace
  · rw [List.concat_eq_append, ← List.cons_append, ← List.append_assoc] at hcs
    obtain ⟨-, rfl⟩ := List.append_singleton_inj.mp hcs
    exact ⟨last, by simp, hlast⟩

theorem ending_of_not_stops (h : ∀ x ∈ c :: cs, ¬ Stops x) : Ending (c :: cs) := by
  obtain ⟨front, last, heq⟩ := (List.eq_nil_or_concat (c :: cs)).resolve_left nofun
  rw [List.concat_eq_append] at heq
  have hlast : ¬ Stops last := h last (heq ▸ by simp)
  refine ⟨front, last, heq, ?_, fun hbrace => hlast (stops_of_isBrace hbrace)⟩
  rw [← Bool.not_eq_true]
  exact fun hblank => hlast (stops_of_isBlank hblank)

theorem take_of_stringBody? {quote : Char} {s : List Char}
    (h : stringBody? quote cs = some (s, n)) : ∃ front, cs.take n = front ++ [quote] := by
  fun_induction stringBody? quote cs generalizing s n with
  | case1 => cases h
  | case2 rest =>
    cases h
    exact ⟨[], rfl⟩
  | case3 => cases h
  | case4 e rest hquote ih =>
    obtain ⟨⟨s', n'⟩, hs, heq⟩ := Option.map_eq_some_iff.mp h
    cases heq
    obtain ⟨front, hfront⟩ := ih hs
    exact ⟨'\\' :: e :: front, by simp [hfront]⟩
  | case5 c rest hquote hc ih =>
    obtain ⟨⟨s', n'⟩, hs, heq⟩ := Option.map_eq_some_iff.mp h
    cases heq
    obtain ⟨front, hfront⟩ := ih hs
    exact ⟨c :: front, by simp [hfront]⟩

theorem ending_of_startsString (h : StartsString c) (front : List Char) :
    Ending (front ++ [c]) := by
  have hc : c = '"' ∨ c = Char.ofNat 39 := h.imp_right fun h => by rw [← h, Char.ofNat_toNat]
  rcases hc with rfl | rfl
  · exact ⟨front, _, rfl, by decide, by simp [IsBrace]⟩
  · exact ⟨front, _, rfl, by decide, by simp [IsBrace]⟩

theorem not_stops_of_mem_digits {x : Char} (h : x ∈ cs.takeWhile Char.isDigit) : ¬ Stops x :=
  not_stops_of_isWordChar (isWordChar_of_isDigit (List.all_eq_true.mp List.all_takeWhile x h))

theorem not_stops_of_mem_signedDigits {x : Char} (h : x ∈ signedDigits cs) : ¬ Stops x := by
  cases cs with
  | nil => cases h
  | cons s rest =>
    rw [signedDigits] at h
    split at h
    · rename_i hs
      rcases List.mem_cons.mp h with rfl | h
      · rcases hs with rfl | rfl
        · exact fun hstops => hstops.2.2 rfl
        · exact not_stops_of_isWordChar (by decide)
      · exact not_stops_of_mem_digits h
    · exact not_stops_of_mem_digits h

theorem not_stops_of_mem_exponentPart {x : Char} (h : x ∈ exponentPart cs) : ¬ Stops x := by
  cases cs with
  | nil => cases h
  | cons c rest =>
    by_cases hc : c = 'e' ∨ c = 'E'
    · rw [exponentPart_cons hc] at h
      rcases List.mem_cons.mp h with rfl | h
      · rcases hc with rfl | rfl
        · exact not_stops_of_isWordChar (by decide)
        · exact not_stops_of_isWordChar (by decide)
      · exact not_stops_of_mem_signedDigits h
    · rw [exponentPart.eq_def] at h
      dsimp only at h
      rw [if_neg hc] at h
      cases h

theorem not_stops_of_mem_unsignedPart {x : Char} (h : x ∈ unsignedPart cs) : ¬ Stops x := by
  rcases List.mem_append.mp h with h | h
  · have hpart := List.all_eq_true.mp List.all_takeWhile x h
    rw [isNumberPart, Bool.or_eq_true, beq_iff_eq] at hpart
    rcases hpart with hdigit | rfl
    · exact not_stops_of_isWordChar (isWordChar_of_isDigit hdigit)
    · exact not_stops_of_isWordChar (by decide)
  · exact not_stops_of_mem_exponentPart h

theorem not_stops_of_mem_numberPart {x : Char} (h : x ∈ numberPart cs) : ¬ Stops x := by
  by_cases hminus : cs.head? = some '-'
  · obtain ⟨rest, rfl⟩ := List.head?_eq_some_iff.mp hminus
    rw [numberPart_minus_cons] at h
    rcases List.mem_cons.mp h with rfl | h
    · exact not_stops_of_isWordChar (by decide)
    · exact not_stops_of_mem_unsignedPart h
  · rw [numberPart_of_head hminus] at h
    exact not_stops_of_mem_unsignedPart h

theorem ending_of_sign? (h : sign? c rest.head? = some (kind, n)) : Ending (c :: rest.take n) := by
  have hone : ∀ {x : Char}, rest.head? = some x → rest.take 1 = [x] := by
    intro x hx
    obtain ⟨more, rfl⟩ := List.head?_eq_some_iff.mp hx
    rfl
  generalize hnext : rest.head? = next at h hone
  unfold sign? at h
  split at h
  case h_12 => cases h
  all_goals obtain ⟨rfl, rfl⟩ := Prod.mk.inj (Option.some.inj h)
  case h_1 | h_2 | h_4 | h_6 | h_8 | h_9 =>
    rw [hone rfl]
    exact ⟨[_], _, rfl, by decide, by simp [IsBrace]⟩
  all_goals exact ⟨[], _, rfl, by decide, by simp [IsBrace]⟩

/-- No token ends with a brace, or with a blank. -/
theorem ending_of_read (h : read i c rest = .ok (kind, n)) : Ending (c :: rest.take n) := by
  by_cases hquote : StartsString c
  · rw [read_string hquote] at h
    split at h
    · rename_i hbody
      cases h
      obtain ⟨front, hfront⟩ := take_of_stringBody? hbody
      rw [hfront]
      exact ending_of_startsString hquote (c :: front)
    · cases h
  by_cases hnumber : StartsNumber c rest
  · obtain ⟨cs, hpart, -⟩ := exists_numberPart hnumber
    obtain ⟨was, hsplit, -⟩ := splits_numberPart (c :: rest)
    rw [hpart] at hsplit
    have hrest : rest = cs ++ was := (List.cons.inj hsplit).2
    rw [read_number hquote hnumber hpart] at h
    split at h
    · cases h
      rw [hrest, List.take_left]
      apply ending_of_not_stops
      rw [← hpart]
      exact fun _ => not_stops_of_mem_numberPart
    · cases h
  by_cases hword : isWordStart c = true
  · rw [read_word hquote hnumber hword] at h
    split at h
    · cases h
      rw [← List.prefix_iff_eq_take.mp (List.takeWhile_prefix isWordChar)]
      refine ending_of_not_stops (List.forall_mem_cons.mpr ⟨?_, fun x hx => ?_⟩)
      · exact not_stops_of_isWordChar (isWordChar_of_isWordStart hword)
      · exact not_stops_of_isWordChar (List.all_eq_true.mp List.all_takeWhile x hx)
    · cases h
  · rw [read_sign hquote hnumber hword] at h
    split at h
    · rename_i hsign
      cases h
      exact ending_of_sign? hsign
    · cases h

/-! ## Texts with a brace at one end -/

theorem not_lexed_of_brace (hfront : ∀ x ∈ front, isBlank x = true) :
    ¬ Lexed i (front ++ '\x7b' :: back) ts := by
  intro h
  generalize hcs : front ++ '\x7b' :: back = cs at h
  induction h generalizing front with
  | nil => simp at hcs
  | blank hblank _ ih =>
    cases front with
    | nil =>
      cases hcs
      exact absurd hblank (by decide)
    | cons c front => exact ih (List.forall_mem_cons.mp hfront).2 (List.cons.inj hcs).2
  | token hvisible lexeme _ _ =>
    cases front with
    | nil =>
      obtain ⟨rfl, -⟩ := List.cons.inj hcs
      have hread := lexeme 0 _ (.refl _)
      rw [read_brace (Or.inl rfl)] at hread
      cases hread
    | cons c front =>
      obtain ⟨rfl, -⟩ := List.cons.inj hcs
      rw [(List.forall_mem_cons.mp hfront).1] at hvisible
      cases hvisible

/-- What comes after a closing brace is not all blank. The brace belongs to a string, and the quote
is still to come. -/
theorem Lexed.exists_visible_of_brace (h : Lexed i (front ++ '\x7d' :: back) ts) :
    ∃ x ∈ back, isBlank x = false := by
  generalize hcs : front ++ '\x7d' :: back = cs at h
  induction h generalizing front with
  | nil => simp at hcs
  | blank hblank _ ih =>
    cases front with
    | nil =>
      cases hcs
      exact absurd hblank (by decide)
    | cons c front => exact ih (List.cons.inj hcs).2
  | @token i c cs was kind ts _ lexeme _ ih =>
    have hending := ending_of_read (lexeme 0 was (.refl was))
    rw [List.take_left] at hending
    rw [← List.cons_append] at hcs
    rcases List.append_eq_append_iff.mp hcs with ⟨more, htoken, hback⟩ | ⟨more, -, hwas⟩
    · cases more with
      | nil =>
        have hwas : [] ++ '\x7d' :: back = was := hback
        exact ih hwas
      | cons x more =>
        -- the brace is a part of the token, which ends with something else
        obtain ⟨rfl, rfl⟩ := List.cons.inj hback
        obtain ⟨x, hx, hvisible⟩ := hending.exists_visible htoken
        exact ⟨x, List.mem_append_left was hx, hvisible⟩
    · exact ih hwas.symm

end Token

namespace Expr

open Token

variable {text : String} {front back : List Char}

theorem exists_parse_error (h : ∀ ts, ¬ Lexed 0 text.toList ts) : ∃ e, parse text = .error e := by
  cases htokens : tokens text.toList with
  | ok ts => exact absurd (lexed_of_tokensFrom htokens) (h ts)
  | error e => exact ⟨e, by rw [parse, htokens]; rfl⟩

theorem parse_error_of_opening (hfront : ∀ x ∈ front, isBlank x = true) :
    ∃ e, parse (String.ofList (front ++ '\x7b' :: back)) = .error e := by
  apply exists_parse_error
  intro ts h
  rw [String.toList_ofList] at h
  exact not_lexed_of_brace hfront h

theorem parse_error_of_closing (hback : ∀ x ∈ back, isBlank x = true) :
    ∃ e, parse (String.ofList (front ++ '\x7d' :: back)) = .error e := by
  apply exists_parse_error
  intro ts h
  rw [String.toList_ofList] at h
  obtain ⟨x, hx, hvisible⟩ := h.exists_visible_of_brace
  rw [hback x hx] at hvisible
  cases hvisible

end Expr

end Stepwise
