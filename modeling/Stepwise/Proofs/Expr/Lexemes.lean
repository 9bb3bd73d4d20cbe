import Stepwise.Proofs.Expr.Lexing

/-!
# Where tokens end

What is read as a token depends on its own characters and the one that comes next.
-/

namespace Stepwise

namespace Token

/-- A character that no word, number or sign before it goes on with. -/
def Stops (c : Char) : Prop := isWordChar c = false ∧ c ≠ '=' ∧ c ≠ '+'

/-- What comes next starts as it did before, unless with a character that stops. -/
def SameEnd (was now : List Char) : Prop :=
  ∀ c, now.head? = some c → Stops c ∨ was.head? = some c

variable {c quote : Char} {cs rest was now : List Char} {kind : TokenKind} {n i : Nat}
  {p : Char → Bool}

theorem stops_of_isBlank (h : isBlank c = true) : Stops c := by
  refine ⟨?_, ?_, ?_⟩
  · rw [← Bool.not_eq_true]
    intro hword
    rw [isBlank_of_isWordChar hword] at h
    cases h
  · rintro rfl
    exact absurd h (by decide)
  · rintro rfl
    exact absurd h (by decide)

theorem isWordChar_of_isWordStart (h : isWordStart c = true) : isWordChar c = true := by
  simp only [isWordStart, Bool.or_eq_true] at h
  rcases h with (h | h) | h <;> simp [isWordChar, isAlphanumeric, h]

theorem Stops.isDigit (h : Stops c) : c.isDigit = false := by
  rw [← Bool.not_eq_true]
  intro hdigit
  have hword := h.1
  rw [isWordChar_of_isDigit hdigit] at hword
  cases hword

theorem not_stops_of_isWordChar (h : isWordChar c = true) : ¬ Stops c := fun hstops => by
  rw [hstops.1] at h
  cases h

namespace SameEnd

theorem refl (cs : List Char) : SameEnd cs cs := fun _ h => Or.inr h

theorem of_stops (h : ∀ c, now.head? = some c → Stops c) (was : List Char) : SameEnd was now :=
  fun c hc => Or.inl (h c hc)

theorem trans {next : List Char} (h : SameEnd was now) (h' : SameEnd now next) : SameEnd was next :=
  fun c hc => (h' c hc).elim Or.inl (h c)

theorem append (h : SameEnd was now) (front : List Char) :
    SameEnd (front ++ was) (front ++ now) := by
  cases front with
  | nil => exact h
  | cons c front => exact fun _ hx => Or.inr hx

theorem extend (h : ∀ c, now.head? = some c → Stops c) (was : List Char) :
    SameEnd was (was ++ now) := by
  have hend := (of_stops h []).append was
  rwa [List.append_nil] at hend

theorem head?_ne (h : SameEnd was now) (hc : ¬ Stops c) (hwas : was.head? ≠ some c) :
    now.head? ≠ some c := fun hnow => (h c hnow).elim hc hwas

theorem head?_not (h : SameEnd was now) (hp : ∀ c, Stops c → p c = false)
    (hwas : ∀ c, was.head? = some c → p c = false) : ∀ c, now.head? = some c → p c = false :=
  fun c hc => (h c hc).elim (hp c) (hwas c)

theorem span (h : SameEnd (cs.dropWhile p) now) (hp : ∀ c, Stops c → p c = false) :
    (cs.takeWhile p ++ now).takeWhile p = cs.takeWhile p ∧
      (cs.takeWhile p ++ now).dropWhile p = now := by
  have hin := List.all_eq_true.mp (List.all_takeWhile (p := p) (l := cs))
  have hout : ∀ c, now.head? = some c → p c = false := by
    apply h.head?_not hp
    intro c hc
    have hhead := List.head?_dropWhile_not p cs
    rwa [hc] at hhead
  exact ⟨takeWhile_append_of_head hin hout, dropWhile_append_of_head hin hout⟩

end SameEnd

/-! ## Strings -/

theorem stringBody?_split {s : List Char} (h : stringBody? quote cs = some (s, n)) :
    ∃ front was, cs = front ++ was ∧ front.length = n ∧
      ∀ now, stringBody? quote (front ++ now) = some (s, n) := by
  fun_induction stringBody? quote cs generalizing s n with
  | case1 => cases h
  | case2 rest =>
    cases h
    exact ⟨[quote], rest, rfl, rfl, fun now => stringBody?_quote quote now⟩
  | case3 => cases h
  | case4 e rest hquote ih =>
    obtain ⟨⟨s', n'⟩, hs, heq⟩ := Option.map_eq_some_iff.mp h
    cases heq
    obtain ⟨front, was, rfl, rfl, hfront⟩ := ih hs
    refine ⟨'\\' :: e :: front, was, rfl, rfl, fun now => ?_⟩
    rw [List.cons_append, List.cons_append, stringBody?_backslash hquote, hfront]
    rfl
  | case5 c rest hquote hc ih =>
    obtain ⟨⟨s', n'⟩, hs, heq⟩ := Option.map_eq_some_iff.mp h
    cases heq
    obtain ⟨front, was, rfl, rfl, hfront⟩ := ih hs
    refine ⟨c :: front, was, rfl, rfl, fun now => ?_⟩
    rw [List.cons_append, stringBody?_plain hquote hc, hfront]
    rfl

/-! ## Numbers -/

/-- Digits, with a sign before them or not. -/
def signedDigits : List Char → List Char
  | [] => []
  | s :: rest =>
    if s = '+' ∨ s = '-' then s :: rest.takeWhile Char.isDigit
    else (s :: rest).takeWhile Char.isDigit

def isNumberPart (c : Char) : Bool := c.isDigit || c == '.'

/-- A number without its sign. -/
def unsignedPart (cs : List Char) : List Char :=
  cs.takeWhile isNumberPart ++ exponentPart (cs.dropWhile isNumberPart)

theorem exponentPart_cons (hc : c = 'e' ∨ c = 'E') (rest : List Char) :
    exponentPart (c :: rest) = c :: signedDigits rest := by
  rw [exponentPart.eq_def]
  dsimp only
  rw [if_pos hc]
  cases rest with
  | nil => rfl
  | cons s rest =>
    dsimp only [signedDigits]
    split <;> rfl

theorem exponentPart_of_head (he : cs.head? ≠ some 'e') (hE : cs.head? ≠ some 'E') :
    exponentPart cs = [] := by
  cases cs with
  | nil => rfl
  | cons c rest =>
    have hc : ¬ (c = 'e' ∨ c = 'E') := by
      rintro (rfl | rfl)
      · exact he rfl
      · exact hE rfl
    rw [exponentPart.eq_def]
    exact if_neg hc

theorem signedDigits_of_head (hplus : cs.head? ≠ some '+') (hminus : cs.head? ≠ some '-') :
    signedDigits cs = cs.takeWhile Char.isDigit := by
  cases cs with
  | nil => rfl
  | cons s rest =>
    have hs : ¬ (s = '+' ∨ s = '-') := by
      rintro (rfl | rfl)
      · exact hplus rfl
      · exact hminus rfl
    exact if_neg hs

theorem numberPart_minus_cons (rest : List Char) :
    numberPart ('-' :: rest) = '-' :: unsignedPart rest := rfl

theorem numberPart_of_head (h : cs.head? ≠ some '-') : numberPart cs = unsignedPart cs := by
  unfold numberPart
  split
  rename_i sign body heq
  split at heq
  · exact absurd rfl h
  · cases heq
    rfl

/-- The part of a number at the front stays the same, as long as what comes next does. -/
def Splits (part : List Char → List Char) (cs : List Char) : Prop :=
  ∃ was, cs = part cs ++ was ∧ ∀ now, SameEnd was now → part (part cs ++ now) = part cs

theorem splits_signedDigits (cs : List Char) : Splits signedDigits cs := by
  by_cases hsign : cs.head? = some '+' ∨ cs.head? = some '-'
  · -- The sign comes first, so the digits after it are a run.
    obtain ⟨s, rest, rfl, hs⟩ : ∃ s rest, cs = s :: rest ∧ (s = '+' ∨ s = '-') := by
      cases cs with
      | nil => simp at hsign
      | cons s rest => exact ⟨s, rest, rfl, by simpa using hsign⟩
    have hdigits : ∀ rest, signedDigits (s :: rest) = s :: rest.takeWhile Char.isDigit :=
      fun rest => if_pos hs
    refine ⟨rest.dropWhile Char.isDigit, ?_, fun now hend => ?_⟩
    · rw [hdigits, List.cons_append, List.takeWhile_append_dropWhile]
    · rw [hdigits, List.cons_append, hdigits, (hend.span fun _ => Stops.isDigit).1]
  · rw [not_or] at hsign
    have hdigits := signedDigits_of_head hsign.1 hsign.2
    have hsplit := List.takeWhile_append_dropWhile (p := Char.isDigit) (l := cs)
    refine ⟨cs.dropWhile Char.isDigit, by rw [hdigits, hsplit], fun now hend => ?_⟩
    have hsame := hend.append (cs.takeWhile Char.isDigit)
    rw [hsplit] at hsame
    have hplus := hsame.head?_ne (fun h => h.2.2 rfl) hsign.1
    have hminus := hsame.head?_ne (not_stops_of_isWordChar (by decide)) hsign.2
    rw [hdigits, signedDigits_of_head hplus hminus, (hend.span fun _ => Stops.isDigit).1]

theorem splits_exponentPart (cs : List Char) : Splits exponentPart cs := by
  by_cases hexp : cs.head? = some 'e' ∨ cs.head? = some 'E'
  · obtain ⟨c, rest, rfl, hc⟩ : ∃ c rest, cs = c :: rest ∧ (c = 'e' ∨ c = 'E') := by
      cases cs with
      | nil => simp at hexp
      | cons c rest => exact ⟨c, rest, rfl, by simpa using hexp⟩
    obtain ⟨was, hrest, hdigits⟩ := splits_signedDigits rest
    refine ⟨was, ?_, fun now hend => ?_⟩
    · rw [exponentPart_cons hc, List.cons_append, ← hrest]
    · rw [exponentPart_cons hc, List.cons_append, exponentPart_cons hc, hdigits now hend]
  · rw [not_or] at hexp
    have hnone := exponentPart_of_head hexp.1 hexp.2
    refine ⟨cs, by rw [hnone, List.nil_append], fun now hend => ?_⟩
    have he := hend.head?_ne (not_stops_of_isWordChar (by decide)) hexp.1
    have hE := hend.head?_ne (not_stops_of_isWordChar (by decide)) hexp.2
    rw [hnone, List.nil_append, exponentPart_of_head he hE]

theorem splits_unsignedPart (cs : List Char) : Splits unsignedPart cs := by
  obtain ⟨was, hmore, hexponent⟩ := splits_exponentPart (cs.dropWhile isNumberPart)
  have hstops : ∀ c, Stops c → isNumberPart c = false := by
    intro c hc
    have hdot : c ≠ '.' := by
      rintro rfl
      exact absurd hc.1 (by decide)
    simp [isNumberPart, hc.isDigit, hdot]
  refine ⟨was, ?_, fun now hend => ?_⟩
  · rw [unsignedPart, List.append_assoc, ← hmore, List.takeWhile_append_dropWhile]
  · have hsame := hend.append (exponentPart (cs.dropWhile isNumberPart))
    rw [← hmore] at hsame
    obtain ⟨hrun, hrest⟩ := hsame.span hstops
    rw [← List.append_assoc] at hrun hrest
    change (unsignedPart cs ++ now).takeWhile isNumberPart = _ at hrun
    change (unsignedPart cs ++ now).dropWhile isNumberPart = _ at hrest
    rw [unsignedPart, hrun, hrest, hexponent now hend, unsignedPart]

theorem splits_numberPart (cs : List Char) : Splits numberPart cs := by
  by_cases hminus : cs.head? = some '-'
  · obtain ⟨rest, rfl⟩ : ∃ rest, cs = '-' :: rest := by
      cases cs with
      | nil => simp at hminus
      | cons c rest => exact ⟨rest, by simpa using hminus⟩
    obtain ⟨was, hrest, hnumber⟩ := splits_unsignedPart rest
    refine ⟨was, ?_, fun now hend => ?_⟩
    · rw [numberPart_minus_cons, List.cons_append, ← hrest]
    · rw [numberPart_minus_cons, List.cons_append, numberPart_minus_cons, hnumber now hend]
  · have hpart := numberPart_of_head hminus
    obtain ⟨was, hcs, hnumber⟩ := splits_unsignedPart cs
    refine ⟨was, by rw [hpart, ← hcs], fun now hend => ?_⟩
    have hsame := hend.append (unsignedPart cs)
    rw [← hcs] at hsame
    have hnow := hsame.head?_ne (not_stops_of_isWordChar (by decide)) hminus
    rw [hpart, numberPart_of_head hnow, hnumber now hend]

/-! ## How a token is read -/

def StartsString (c : Char) : Prop := c = '"' ∨ c.toNat = 39

def StartsNumber (c : Char) (rest : List Char) : Prop :=
  c.isDigit = true ∨ c = '-' ∧ rest.head?.any Char.isDigit = true

section Read

variable {offset : Nat}

theorem read_string (hc : StartsString c) : read offset c rest =
    match stringBody? c rest with
    | some (s, n) => .ok (.literal (.string (String.ofList s)), n)
    | none => .error (.unterminatedString offset) := by
  unfold read
  exact if_pos hc

theorem read_number (hquote : ¬ StartsString c) (hc : StartsNumber c rest) {cs : List Char}
    (hpart : numberPart (c :: rest) = c :: cs) : read offset c rest =
    match number? (c :: cs) (rest.drop cs.length).head? with
    | some n => .ok (.literal (.number n), cs.length)
    | none => .error (.invalidNumber (String.ofList (c :: cs)) offset) := by
  have hread : read offset c rest =
      match number? (numberPart (c :: rest))
        (rest.drop ((numberPart (c :: rest)).length - 1)).head? with
      | some n => .ok (.literal (.number n), (numberPart (c :: rest)).length - 1)
      | none => .error (.invalidNumber (String.ofList (numberPart (c :: rest))) offset) := by
    unfold read
    exact (if_neg hquote).trans (if_pos hc)
  rw [hread, hpart, List.length_cons, Nat.add_sub_cancel]

theorem read_word (hquote : ¬ StartsString c) (hnumber : ¬ StartsNumber c rest)
    (hc : isWordStart c = true) : read offset c rest =
    match ofWord (String.ofList (c :: rest.takeWhile isWordChar)) with
    | .ok kind => .ok (kind, (rest.takeWhile isWordChar).length)
    | .error cause =>
      .error (.unknownToken (String.ofList (c :: rest.takeWhile isWordChar)) offset cause) := by
  unfold read
  exact (if_neg hquote).trans ((if_neg hnumber).trans (if_pos hc))

theorem read_sign (hquote : ¬ StartsString c) (hnumber : ¬ StartsNumber c rest)
    (hc : ¬ isWordStart c = true) : read offset c rest =
    match sign? c rest.head? with
    | some answer => .ok answer
    | none => .error (.unexpectedCharacter c offset) := by
  unfold read
  exact (if_neg hquote).trans ((if_neg hnumber).trans (if_neg hc))

theorem head?_unsignedPart (hc : c.isDigit = true) (rest : List Char) :
    (unsignedPart (c :: rest)).head? = some c := by
  simp [unsignedPart, isNumberPart, hc]

theorem exists_numberPart (h : StartsNumber c rest) : ∃ cs, numberPart (c :: rest) = c :: cs ∧
    ∀ now, StartsNumber c (cs ++ now) := by
  rcases h with hdigit | ⟨rfl, hdigit⟩
  · have hminus : c ≠ '-' := by
      rintro rfl
      exact absurd hdigit (by decide)
    have hhead := head?_unsignedPart hdigit rest
    rw [← numberPart_of_head (by simpa using hminus)] at hhead
    obtain ⟨cs, hcs⟩ := List.head?_eq_some_iff.mp hhead
    exact ⟨cs, hcs, fun _ => Or.inl hdigit⟩
  · refine ⟨unsignedPart rest, numberPart_minus_cons rest, fun now => Or.inr ⟨rfl, ?_⟩⟩
    cases rest with
    | nil => cases hdigit
    | cons d rest =>
      rw [List.head?_append, head?_unsignedPart hdigit, Option.some_or]
      exact hdigit

end Read

/-! ## What a token is made of -/

/-- The token is read from its first character and the ones after it, with the same end. -/
def IsLexeme (c : Char) (cs was : List Char) (kind : TokenKind) : Prop :=
  ∀ offset now, SameEnd was now → read offset c (cs ++ now) = .ok (kind, cs.length)

theorem IsLexeme.change (h : IsLexeme c cs was kind) (hend : SameEnd was now) :
    IsLexeme c cs now kind := fun offset _ hnext => h offset _ (hend.trans hnext)

theorem number?_next {text : List Char} {next next' : Option Char}
    (h : next.any isWordChar = next'.any isWordChar) : number? text next = number? text next' := by
  rw [number?, number?, h]

theorem any_isWordChar_of_number? {text : List Char} {next : Option Char} {m : JsonNumber}
    (h : number? text next = some m) : next.any isWordChar = false := by
  rw [← Bool.not_eq_true]
  intro hany
  rw [number?, if_pos hany] at h
  cases h

theorem SameEnd.any_isWordChar (h : SameEnd was now) (hwas : was.head?.any isWordChar = false) :
    now.head?.any isWordChar = false := by
  have hhead : ∀ c, now.head? = some c → isWordChar c = false := by
    apply h.head?_not fun _ hc => hc.1
    intro c hc
    rwa [hc] at hwas
  cases hnow : now.head? with
  | none => rfl
  | some c => exact hhead c hnow

theorem isLexeme_number {m : JsonNumber} (hquote : ¬ StartsString c)
    (hc : ∀ now, StartsNumber c (cs ++ now)) (hwas : number? (c :: cs) was.head? = some m)
    (hpart : ∀ now, SameEnd was now → numberPart (c :: (cs ++ now)) = c :: cs) :
    IsLexeme c cs was (.literal (.number m)) := by
  intro offset now hend
  have hnext := any_isWordChar_of_number? hwas
  have hnow : number? (c :: cs) now.head? = some m := by
    rw [number?_next ((hend.any_isWordChar hnext).trans hnext.symm), hwas]
  rw [read_number hquote (hc now) (hpart now hend), List.drop_left, hnow]

theorem isLexeme_word (hquote : ¬ StartsString c) (hnumber : ∀ rest, ¬ StartsNumber c rest)
    (hc : isWordStart c = true)
    (h : ofWord (String.ofList (c :: rest.takeWhile isWordChar)) = .ok kind) :
    IsLexeme c (rest.takeWhile isWordChar) (rest.dropWhile isWordChar) kind := by
  intro offset now hend
  rw [read_word hquote (hnumber _) hc, (hend.span fun _ hc => hc.1).1, h]

/-- The sign takes some characters of the rest, and looks at no more than the next one. -/
def SignSplits (c : Char) (rest : List Char) (kind : TokenKind) (n : Nat) : Prop :=
  ∃ cs was, rest = cs ++ was ∧ cs.length = n ∧
    ∀ now, SameEnd was now → sign? c (cs ++ now).head? = some (kind, n)

theorem signSplits_one {next : Char} (hnext : rest.head? = some next)
    (h : sign? c (some next) = some (kind, 1)) : SignSplits c rest kind 1 := by
  obtain ⟨was, rfl⟩ := List.head?_eq_some_iff.mp hnext
  exact ⟨[next], was, rfl, rfl, fun _ _ => h⟩

theorem signSplits_zero (h : ∀ now, SameEnd rest now → sign? c now.head? = some (kind, 0)) :
    SignSplits c rest kind 0 := ⟨[], rest, rfl, rfl, h⟩

theorem SameEnd.head?_ne_equals (h : SameEnd was now) (hwas : was.head? = some '=' → False) :
    now.head? ≠ some '=' := h.head?_ne (fun hstops => hstops.2.1 rfl) hwas

theorem signSplits_of_sign? (h : sign? c rest.head? = some (kind, n)) :
    SignSplits c rest kind n := by
  generalize hnext : rest.head? = next at h
  unfold sign? at h
  split at h
  case h_12 => cases h
  all_goals obtain ⟨rfl, rfl⟩ := Prod.mk.inj (Option.some.inj h)
  case h_1 | h_2 | h_4 | h_6 | h_8 | h_9 => exact signSplits_one hnext rfl
  case h_3 hne => exact signSplits_zero fun _ hend => sign?_not (hend.head?_ne_equals (hnext ▸ hne))
  case h_5 hne => exact signSplits_zero fun _ hend => sign?_gt (hend.head?_ne_equals (hnext ▸ hne))
  case h_7 hne => exact signSplits_zero fun _ hend => sign?_lt (hend.head?_ne_equals (hnext ▸ hne))
  case h_10 | h_11 => exact signSplits_zero fun _ _ => rfl

theorem not_startsNumber (h : ¬ StartsNumber c rest) (hc : c ≠ '-') (rest' : List Char) :
    ¬ StartsNumber c rest' := by
  rintro (hdigit | ⟨hminus, -⟩)
  · exact h (Or.inl hdigit)
  · exact hc hminus

/-- A token that is read is a part of the text, and is read again at every place with the same
end. -/
theorem exists_lexeme (h : read i c rest = .ok (kind, n)) :
    ∃ cs was, rest = cs ++ was ∧ cs.length = n ∧ IsLexeme c cs was kind := by
  by_cases hquote : StartsString c
  · rw [read_string hquote] at h
    split at h
    · rename_i hbody
      cases h
      obtain ⟨cs, was, hrest, hlength, hcs⟩ := stringBody?_split hbody
      refine ⟨cs, was, hrest, hlength, fun offset now _ => ?_⟩
      rw [read_string hquote, hcs now, hlength]
    · cases h
  by_cases hnumber : StartsNumber c rest
  · obtain ⟨cs, hpart, hstarts⟩ := exists_numberPart hnumber
    obtain ⟨was, hsplit, hsame⟩ := splits_numberPart (c :: rest)
    rw [hpart] at hsplit hsame
    have hrest : rest = cs ++ was := (List.cons.inj hsplit).2
    subst hrest
    rw [read_number hquote hnumber hpart, List.drop_left] at h
    split at h
    · rename_i hm
      cases h
      exact ⟨cs, was, rfl, rfl, isLexeme_number hquote hstarts hm hsame⟩
    · cases h
  by_cases hword : isWordStart c = true
  · have hminus : c ≠ '-' := by
      rintro rfl
      exact absurd hword (by decide)
    rw [read_word hquote hnumber hword] at h
    split at h
    · rename_i hkind
      cases h
      exact ⟨_, _, List.takeWhile_append_dropWhile.symm, rfl,
        isLexeme_word hquote (not_startsNumber hnumber hminus) hword hkind⟩
    · cases h
  · rw [read_sign hquote hnumber hword] at h
    split at h
    · rename_i hsign
      cases h
      have hminus : c ≠ '-' := by
        rintro rfl
        cases hsign
      obtain ⟨cs, was, hrest, hlength, hcs⟩ := signSplits_of_sign? hsign
      refine ⟨cs, was, hrest, hlength, fun offset now hend => ?_⟩
      rw [read_sign hquote (not_startsNumber hnumber hminus _) hword, hcs now hend, hlength]
    · cases h

/-! ## Texts of tokens -/

/-- The text has these tokens, the first of its characters at the given place. -/
inductive Lexed : Nat → List Char → List Token → Prop where
  | nil (i : Nat) : Lexed i [] []
  | blank {i : Nat} {c : Char} {cs : List Char} {ts : List Token} (blank : isBlank c = true)
      (more : Lexed (i + 1) cs ts) : Lexed i (c :: cs) ts
  | token {i : Nat} {c : Char} {cs was : List Char} {kind : TokenKind} {ts : List Token}
      (visible : isBlank c = false) (lexeme : IsLexeme c cs was kind)
      (more : Lexed (i + 1 + cs.length) was ts) : Lexed i (c :: (cs ++ was)) (⟨kind, i⟩ :: ts)

theorem lexed_of_tokensFrom {ts : List Token} (h : tokensFrom i cs = .ok ts) : Lexed i cs ts := by
  fun_induction tokensFrom i cs generalizing ts with
  | case1 =>
    cases h
    exact .nil _
  | case2 i c rest hblank ih => exact .blank hblank (ih h)
  | case3 => cases h
  | case4 => cases h
  | case5 i c rest hblank kind n hread more hmore ih =>
    cases h
    obtain ⟨cs, was, rfl, rfl, lexeme⟩ := exists_lexeme hread
    rw [List.drop_left] at hmore ih
    exact .token (by simpa using hblank) lexeme (ih hmore)

theorem Lexed.tokensFrom {ts : List Token} (h : Lexed i cs ts) : tokensFrom i cs = .ok ts := by
  induction h with
  | nil => rw [Token.tokensFrom]
  | blank blank _ ih => rw [Token.tokensFrom, if_pos blank, ih]
  | token visible lexeme _ ih =>
    rw [Token.tokensFrom, if_neg (by simp [visible]), lexeme _ _ (.refl _)]
    dsimp only
    rw [List.drop_left, ih]

section Places

variable {ts : List Token}

theorem Lexed.blanks {bs : List Char} (hblank : ∀ c ∈ bs, isBlank c = true)
    (more : Lexed (i + bs.length) cs ts) : Lexed i (bs ++ cs) ts := by
  induction bs generalizing i with
  | nil => exact more
  | cons c bs ih =>
    obtain ⟨hc, hbs⟩ := List.forall_mem_cons.mp hblank
    rw [List.length_cons, Nat.add_comm bs.length, ← Nat.add_assoc] at more
    exact .blank hc (ih hbs more)

theorem Lexed.blank_of_nil (h : Lexed i cs ts) (hts : ts = []) : ∀ c ∈ cs, isBlank c = true := by
  induction h with
  | nil => exact fun _ hc => absurd hc List.not_mem_nil
  | blank blank _ ih => exact List.forall_mem_cons.mpr ⟨blank, ih hts⟩
  | token => cases hts

theorem Lexed.exists_char (h : Lexed i cs ts) : ∀ t ∈ ts, ∃ front c after,
    cs = front ++ c :: after ∧ t.offset = i + front.length ∧ isBlank c = false := by
  induction h with
  | nil => exact fun _ ht => absurd ht List.not_mem_nil
  | @blank i c cs ts _ _ ih =>
    intro t ht
    obtain ⟨front, x, after, rfl, hoffset, hx⟩ := ih t ht
    exact ⟨c :: front, x, after, rfl, by rw [hoffset, List.length_cons]; omega, hx⟩
  | @token i c cs was kind ts visible _ _ ih =>
    intro t ht
    rcases List.mem_cons.mp ht with rfl | ht
    · exact ⟨[], c, cs ++ was, rfl, rfl, visible⟩
    · obtain ⟨front, x, after, rfl, hoffset, hx⟩ := ih t ht
      refine ⟨c :: (cs ++ front), x, after, by simp, ?_, hx⟩
      rw [hoffset, List.length_cons, List.length_append]
      omega

theorem Lexed.le_offset (h : Lexed i cs ts) : ∀ t ∈ ts, i ≤ t.offset := by
  intro t ht
  obtain ⟨front, _, _, _, hoffset, _⟩ := h.exists_char t ht
  omega

theorem Lexed.offset_lt (h : Lexed i cs ts) : ∀ t ∈ ts, t.offset < i + cs.length := by
  intro t ht
  obtain ⟨front, c, after, rfl, hoffset, _⟩ := h.exists_char t ht
  rw [hoffset, List.length_append, List.length_cons]
  omega

theorem Lexed.increasing (h : Lexed i cs ts) : (ts.map Token.offset).Pairwise (· < ·) := by
  induction h with
  | nil => exact .nil
  | blank _ _ ih => exact ih
  | token _ _ more ih =>
    refine List.pairwise_cons.mpr ⟨fun offset hoffset => ?_, ih⟩
    obtain ⟨t, ht, rfl⟩ := List.mem_map.mp hoffset
    have hle := more.le_offset t ht
    dsimp only
    omega

end Places

end Token

end Stepwise
