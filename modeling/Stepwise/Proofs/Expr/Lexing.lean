import Stepwise.Proofs.Numeric.Digits
import Stepwise.Proofs.Path.Raw

/-! # Tokens from their texts -/

namespace Stepwise

/-! ## Texts of tokens -/

/-- The body of a string, with a backslash before every quote and every backslash. -/
def escaped (cs : List Char) : List Char :=
  cs.flatMap fun c => if c = '"' ∨ c = '\\' then ['\\', c] else [c]

/-- The text of a literal. Numbers that are not whole, arrays and objects have none. -/
def Json.literalText : Json → List Char
  | .null => ['n', 'u', 'l', 'l']
  | .bool true => ['t', 'r', 'u', 'e']
  | .bool false => ['f', 'a', 'l', 's', 'e']
  | .number (.int n) => (toString n).toList
  | .string s => '"' :: (escaped s.toList ++ ['"'])
  | _ => []

def TokenKind.text : TokenKind → List Char
  | .literal v => v.literalText
  | .path p => p.raw.toList
  | .compare op => op.symbol.toList
  | .logical op => op.symbol.toList
  | .not => ['!']
  | .openParen => ['(']
  | .closeParen => [')']

/-- The literals that can be written: null, booleans, signed words and strings. -/
def Json.IsWritable : Json → Prop
  | .null => True
  | .bool _ => True
  | .number (.int n) => isSignedWord n = true
  | .string _ => True
  | _ => False

/-- A path that was read from some text, with plain keys. -/
def Path.IsWritable (p : Path) : Prop := p.Plain ∧ ∃ text, Path.parse text = .ok p

def TokenKind.IsWritable : TokenKind → Prop
  | .literal v => v.IsWritable
  | .path p => p.IsWritable
  | _ => True

namespace Token

/-- A blank or the end comes next. -/
def Ends (after : List Char) : Prop := ∀ c, after.head? = some c → isBlank c = true

/-- The word is read as the token wherever it ends. -/
def ReadsAs (word : List Char) (kind : TokenKind) : Prop :=
  ∃ c cs, word = c :: cs ∧ isBlank c = false ∧ ∀ offset after, Ends after →
    read offset c (cs ++ after) = .ok (kind, cs.length)

variable {c : Char} {cs after : List Char} {kind : TokenKind} {offset : Nat}

theorem Ends.not_word (h : Ends after) : ∀ c, after.head? = some c → isWordChar c = false := by
  intro c hc
  have hblank := h c hc
  rw [← Bool.not_eq_true]
  intro hword
  rw [isBlank_of_isWordChar hword] at hblank
  cases hblank

theorem Ends.head?_ne (h : Ends after) {c : Char} (hc : isBlank c = false) :
    after.head? ≠ some c := by
  intro hhead
  rw [h c hhead] at hc
  cases hc

/-! ### Signs -/

theorem readsAs_sign (hc : c ∈ ['=', '!', '>', '<', '&', '|', '(', ')'])
    (hs : ∀ after, Ends after → sign? c (cs ++ after).head? = some (kind, cs.length)) :
    ReadsAs (c :: cs) kind := by
  have hplain : ¬ (c = '"' ∨ c.toNat = 39) ∧ c.isDigit = false ∧ c ≠ '-' ∧
      isWordStart c = false ∧ isBlank c = false := by
    simp only [List.mem_cons, List.not_mem_nil, or_false] at hc
    rcases hc with rfl | rfl | rfl | rfl | rfl | rfl | rfl | rfl <;> decide
  obtain ⟨hquote, hdigit, hminus, hword, hblank⟩ := hplain
  have hnumber : ∀ rest : List Char,
      ¬ (c.isDigit = true ∨ c = '-' ∧ rest.head?.any Char.isDigit = true) := by
    simp [hdigit, hminus]
  refine ⟨c, cs, rfl, hblank, fun offset after hafter => ?_⟩
  unfold read
  rw [if_neg hquote, if_neg (hnumber _), if_neg (by simp [hword]), hs after hafter]

theorem sign?_not {next : Option Char} (h : next ≠ some '=') : sign? '!' next = some (.not, 0) := by
  unfold sign?
  split <;> simp_all

theorem sign?_gt {next : Option Char} (h : next ≠ some '=') :
    sign? '>' next = some (.compare .gt, 0) := by
  unfold sign?
  split <;> simp_all

theorem sign?_lt {next : Option Char} (h : next ≠ some '=') :
    sign? '<' next = some (.compare .lt, 0) := by
  unfold sign?
  split <;> simp_all

/-! ### Words -/

theorem readsAs_word (hc : c.isLower = true) (hcs : cs.all isWordChar = true)
    (hk : ofWord (String.ofList (c :: cs)) = .ok kind) : ReadsAs (c :: cs) kind := by
  have hrange := toNat_of_isLower hc
  have hblank : isBlank c = false := isBlank_of_isWordChar (isWordChar_of_isLower hc)
  have hquote : ¬ (c = '"' ∨ c.toNat = 39) := by
    rintro (rfl | h)
    · simp at hrange
    · omega
  have hnumber : ∀ rest : List Char,
      ¬ (c.isDigit = true ∨ c = '-' ∧ rest.head?.any Char.isDigit = true) := by
    rintro rest (h | ⟨rfl, -⟩)
    · have := toNat_of_isDigit h
      omega
    · simp at hrange
  have hstart : isWordStart c = true := by
    simp [isWordStart, isAlphabetic, isAlpha_of_isLower hc]
  refine ⟨c, cs, rfl, hblank, fun offset after hafter => ?_⟩
  unfold read
  rw [if_neg hquote, if_neg (hnumber _), if_pos hstart]
  dsimp only
  rw [takeWhile_append_of_head (List.all_eq_true.mp hcs) hafter.not_word, hk]
  rfl

/-! ### Numbers -/

theorem exponentPart_of_ends (h : Ends after) : exponentPart after = [] := by
  cases after with
  | nil => rfl
  | cons x rest =>
    have hx : ¬ (x = 'e' ∨ x = 'E') := by
      rintro (rfl | rfl) <;> exact absurd (h _ rfl) (by decide)
    rw [exponentPart.eq_def]
    exact if_neg hx

theorem digitsPart_of_ends (hcs : ∀ x ∈ cs, x.isDigit = true) (h : Ends after) :
    (cs ++ after).takeWhile (fun c => c.isDigit || c == '.') ++
      exponentPart ((cs ++ after).dropWhile (fun c => c.isDigit || c == '.')) = cs := by
  have hin : ∀ x ∈ cs, (x.isDigit || x == '.') = true := fun x hx => by simp [hcs x hx]
  have hout : ∀ x, after.head? = some x → (x.isDigit || x == '.') = false := by
    intro x hx
    rw [Bool.or_eq_false_iff, beq_eq_false_iff_ne, ← Bool.not_eq_true]
    constructor
    · intro hdigit
      exact Bool.eq_false_iff.mp (h.not_word x hx) (isWordChar_of_isDigit hdigit)
    · rintro rfl
      exact h.head?_ne (by decide) hx
  rw [takeWhile_append_of_head hin hout, dropWhile_append_of_head hin hout,
    exponentPart_of_ends h, List.append_nil]

theorem numberPart_minus (hcs : ∀ x ∈ cs, x.isDigit = true) (h : Ends after) :
    numberPart ('-' :: (cs ++ after)) = '-' :: cs := by
  unfold numberPart
  split
  rename_i sign body heq
  cases heq
  dsimp only
  rw [List.append_assoc, digitsPart_of_ends hcs h, List.singleton_append]

theorem numberPart_digits (hc : c.isDigit = true) (hcs : ∀ x ∈ cs, x.isDigit = true)
    (h : Ends after) : numberPart (c :: (cs ++ after)) = c :: cs := by
  have hall : ∀ x ∈ c :: cs, x.isDigit = true := List.forall_mem_cons.mpr ⟨hc, hcs⟩
  unfold numberPart
  split
  rename_i sign body heq
  split at heq
  · rename_i hhead
    rw [(List.cons.inj hhead).1] at hc
    simp at hc
  · obtain ⟨rfl, rfl⟩ := Prod.mk.inj heq
    dsimp only
    rw [List.nil_append, ← List.cons_append, digitsPart_of_ends hall h]

theorem readsAs_number {n : JsonNumber} (hcs : ∀ x ∈ cs, x.isDigit = true)
    (hstart : c.isDigit = true ∨ c = '-' ∧ cs ≠ [])
    (hn : ∀ next, next.any isWordChar = false → number? (c :: cs) next = some n) :
    ReadsAs (c :: cs) (.literal (.number n)) := by
  have hblank : isBlank c = false := by
    rcases hstart with h | ⟨rfl, -⟩
    · exact isBlank_of_isWordChar (isWordChar_of_isDigit h)
    · decide
  have hquote : ¬ (c = '"' ∨ c.toNat = 39) := by
    rcases hstart with h | ⟨rfl, -⟩
    · have hrange := toNat_of_isDigit h
      rintro (rfl | h)
      · simp at hrange
      · omega
    · decide
  refine ⟨c, cs, rfl, hblank, fun offset after hafter => ?_⟩
  have hnumber : c.isDigit = true ∨ c = '-' ∧ (cs ++ after).head?.any Char.isDigit = true := by
    rcases hstart with h | ⟨rfl, hne⟩
    · exact Or.inl h
    · obtain ⟨d, ds, rfl⟩ := List.exists_cons_of_ne_nil hne
      exact Or.inr ⟨rfl, by simp [hcs d]⟩
  have hpart : numberPart (c :: (cs ++ after)) = c :: cs := by
    rcases hstart with h | ⟨rfl, -⟩
    · exact numberPart_digits h hcs hafter
    · exact numberPart_minus hcs hafter
  have hnext : after.head?.any isWordChar = false := by
    cases after with
    | nil => rfl
    | cons x rest => exact hafter.not_word x rfl
  unfold read
  rw [if_neg hquote, if_pos hnumber]
  dsimp only
  rw [hpart, List.length_cons, Nat.add_sub_cancel, List.drop_left, hn _ hnext]

theorem readsAs_int {n : Int} (h : isSignedWord n = true) :
    ReadsAs (toString n).toList (.literal (.number (.int n))) := by
  have hn : ∀ next : Option Char, next.any isWordChar = false →
      number? (toString n).toList next = some (.int n) := by
    intro next hnext
    rw [number?, hnext, intOfText?_toString h]
    rfl
  obtain ⟨c, cs, hdigits, hc, hcs⟩ := exists_toDigits_eq_cons n.natAbs
  rw [toList_toString_int, hdigits] at hn ⊢
  split at hn
  · rename_i hneg
    rw [if_pos hneg]
    exact readsAs_number (List.forall_mem_cons.mpr ⟨hc, hcs⟩) (Or.inr ⟨rfl, by simp⟩) hn
  · rename_i hneg
    rw [if_neg hneg]
    exact readsAs_number hcs (Or.inl hc) hn

/-! ### Strings -/

theorem escaped_cons (c : Char) (cs : List Char) :
    escaped (c :: cs) = (if c = '"' ∨ c = '\\' then ['\\', c] else [c]) ++ escaped cs := by
  rw [escaped, escaped, List.flatMap_cons]

theorem stringBody?_quote (quote : Char) (rest : List Char) :
    stringBody? quote (quote :: rest) = some ([], 1) := by
  rw [stringBody?.eq_def]
  exact if_pos rfl

theorem stringBody?_backslash {quote : Char} (hquote : '\\' ≠ quote) (c : Char) (rest : List Char) :
    stringBody? quote ('\\' :: c :: rest) =
      (stringBody? quote rest).map fun (s, n) => (unescape c :: s, n + 2) := by
  rw [stringBody?.eq_def]
  dsimp only
  rw [if_neg hquote, if_pos rfl]

theorem stringBody?_plain {quote c : Char} (hquote : c ≠ quote) (hc : c ≠ '\\')
    (rest : List Char) : stringBody? quote (c :: rest) =
      (stringBody? quote rest).map fun (s, n) => (c :: s, n + 1) := by
  rw [stringBody?.eq_def]
  dsimp only
  rw [if_neg hquote, if_neg hc]

theorem stringBody?_escaped (cs after : List Char) :
    stringBody? '"' (escaped cs ++ '"' :: after) = some (cs, (escaped cs).length + 1) := by
  induction cs with
  | nil => exact stringBody?_quote ..
  | cons c cs ih =>
    rw [escaped_cons]
    split
    · rename_i hc
      have hescape : unescape c = c := by
        rcases hc with rfl | rfl <;> rfl
      simp only [List.cons_append, List.nil_append]
      rw [stringBody?_backslash (by decide), ih, Option.map_some, hescape]
      rfl
    · rename_i hc
      rw [not_or] at hc
      rw [List.singleton_append, List.cons_append, stringBody?_plain hc.1 hc.2, ih]
      rfl

theorem readsAs_string (s : String) :
    ReadsAs ('"' :: (escaped s.toList ++ ['"'])) (.literal (.string s)) := by
  refine ⟨'"', _, rfl, by decide, fun offset after _ => ?_⟩
  unfold read
  rw [if_pos (Or.inl rfl), List.append_assoc, List.singleton_append, stringBody?_escaped]
  simp

/-! ### Every token -/

theorem ofWord_raw {p : Path} {text : String} (h : Path.parse text = .ok p) (plain : p.Plain) :
    ofWord p.raw = .ok (.path p) := by
  have hparse := Path.parse_raw h plain
  unfold ofWord
  split
  case h_7 => rw [hparse]
  all_goals
    rename_i hraw
    rw [hraw] at hparse
    cases hparse

theorem readsAs_compare (op : CompareOp) : ReadsAs op.symbol.toList (.compare op) := by
  cases op with
  | eq => exact readsAs_sign (by decide) fun _ _ => rfl
  | ne => exact readsAs_sign (by decide) fun _ _ => rfl
  | ge => exact readsAs_sign (by decide) fun _ _ => rfl
  | le => exact readsAs_sign (by decide) fun _ _ => rfl
  | gt => exact readsAs_sign (by decide) fun _ h => sign?_gt (h.head?_ne (by decide))
  | lt => exact readsAs_sign (by decide) fun _ h => sign?_lt (h.head?_ne (by decide))
  | contains => exact readsAs_word rfl rfl rfl
  | startsWith => exact readsAs_word rfl rfl rfl
  | endsWith => exact readsAs_word rfl rfl rfl

theorem readsAs_logical (op : LogicalOp) : ReadsAs op.symbol.toList (.logical op) := by
  cases op with
  | and => exact readsAs_sign (by decide) fun _ _ => rfl
  | or => exact readsAs_sign (by decide) fun _ _ => rfl

theorem readsAs_literal {v : Json} (h : v.IsWritable) : ReadsAs v.literalText (.literal v) := by
  cases v with
  | null => exact readsAs_word rfl rfl rfl
  | bool b => cases b <;> exact readsAs_word rfl rfl rfl
  | number n =>
    cases n with
    | int n => exact readsAs_int h
    | real => exact h.elim
  | string s => exact readsAs_string s
  | array | object => exact h.elim

theorem readsAs_path {p : Path} (h : p.IsWritable) : ReadsAs p.raw.toList (.path p) := by
  obtain ⟨plain, text, hparse⟩ := h
  obtain ⟨c, cs, hraw, hc, hchars⟩ := Path.raw_isWord hparse plain
  rw [hraw]
  refine readsAs_word hc (List.all_eq_true.mpr (List.forall_mem_cons.mp hchars).2) ?_
  rw [← hraw, String.ofList_toList]
  exact ofWord_raw hparse plain

theorem readsAs_text {kind : TokenKind} (h : kind.IsWritable) : ReadsAs kind.text kind := by
  cases kind with
  | literal v => exact readsAs_literal h
  | path p => exact readsAs_path h
  | compare op => exact readsAs_compare op
  | logical op => exact readsAs_logical op
  | not => exact readsAs_sign (by decide) fun _ h => sign?_not (h.head?_ne (by decide))
  | openParen => exact readsAs_sign (by decide) fun _ _ => rfl
  | closeParen => exact readsAs_sign (by decide) fun _ _ => rfl

/-! ## Texts with blanks -/

/-- A text of words. A blank or the end comes after every word, and more blanks may stand before it
and at the end. -/
inductive Spaced : List (List Char) → List Char → Prop where
  | nil : Spaced [] []
  | blank {words : List (List Char)} {c : Char} {cs : List Char} (blank : isBlank c = true)
      (more : Spaced words cs) : Spaced words (c :: cs)
  | word {words : List (List Char)} {word after : List Char} (ends : Ends after)
      (more : Spaced words after) : Spaced (word :: words) (word ++ after)

theorem spaced_flatMap (words : List (List Char)) : Spaced words (words.flatMap (· ++ [' '])) := by
  induction words with
  | nil => exact .nil
  | cons word words ih =>
    rw [List.flatMap_cons, List.append_assoc]
    refine .word (fun c hc => ?_) (.blank (by decide) ih)
    rw [← Option.some.inj hc]
    decide

theorem tokensFrom_spaced {kinds : List TokenKind} {cs : List Char}
    (h : Spaced (kinds.map TokenKind.text) cs) (writable : ∀ kind ∈ kinds, kind.IsWritable)
    (offset : Nat) : ∃ ts, tokensFrom offset cs = .ok ts ∧ ts.map Token.kind = kinds := by
  generalize hwords : kinds.map TokenKind.text = words at h
  induction h generalizing kinds offset with
  | nil =>
    rw [List.map_eq_nil_iff.mp hwords]
    exact ⟨[], by rw [tokensFrom], rfl⟩
  | blank blank _ ih =>
    obtain ⟨ts, hts, hkinds⟩ := ih writable (offset + 1) hwords
    refine ⟨ts, ?_, hkinds⟩
    rw [tokensFrom, if_pos blank, hts]
  | @word words word after ends _ ih =>
    obtain ⟨kind, kinds, rfl, rfl, hmore⟩ := List.map_eq_cons_iff.mp hwords
    obtain ⟨hkind, hrest⟩ := List.forall_mem_cons.mp writable
    obtain ⟨c, cs, htext, hblank, hread⟩ := readsAs_text hkind
    obtain ⟨ts, hts, hkinds⟩ := ih hrest (offset + 1 + cs.length) hmore
    refine ⟨⟨kind, offset⟩ :: ts, ?_, by rw [List.map_cons, hkinds]⟩
    rw [htext, List.cons_append, tokensFrom, if_neg (by simp [hblank]), hread offset after ends]
    dsimp only
    rw [List.drop_left, hts]

end Token

end Stepwise
