import Stepwise.Proofs.Expr.Lexemes
import Stepwise.Proofs.Expr.Placing

/-! # Blanks between tokens -/

namespace Stepwise

namespace Token

/-- The text with something put in before each of its characters and at its end. The first character
is at place `i`. -/
def spread (gap : Nat → List Char) : Nat → List Char → List Char
  | i, [] => gap i
  | i, c :: cs => gap i ++ c :: spread gap (i + 1) cs

/-- Blanks before some of the tokens or at the end. -/
structure BlankGaps (ts : List Token) (size : Nat) (gap : Nat → List Char) : Prop where
  blank : ∀ i, ∀ c ∈ gap i, isBlank c = true
  placed : ∀ i, gap i ≠ [] → i = size ∨ ∃ t ∈ ts, t.offset = i

variable {gap : Nat → List Char} {i : Nat} {cs was : List Char} {ts us : List Token}

theorem spread_append {front : List Char}
    (h : ∀ k, i ≤ k → k < i + front.length → gap k = []) (was : List Char) :
    spread gap i (front ++ was) = front ++ spread gap (i + front.length) was := by
  induction front generalizing i with
  | nil => rfl
  | cons c front ih =>
    rw [List.length_cons] at h ⊢
    have hrest := ih (i := i + 1) fun k hle hlt => h k (by omega) (by omega)
    rw [List.cons_append, spread, h i (Nat.le_refl i) (by omega), hrest, List.nil_append,
      List.cons_append, Nat.add_assoc, Nat.add_comm 1]

theorem sameEnd_spread (hblank : ∀ k, ∀ c ∈ gap k, isBlank c = true) (i : Nat) (was : List Char) :
    SameEnd was (spread gap i was) := by
  obtain ⟨after, hspread, hafter⟩ : ∃ after, spread gap i was = gap i ++ after ∧
      after.head? = was.head? := by
    cases was with
    | nil => exact ⟨[], (List.append_nil _).symm, rfl⟩
    | cons c was => exact ⟨c :: spread gap (i + 1) was, rfl, rfl⟩
  intro c hc
  rw [hspread] at hc
  cases hgap : gap i with
  | nil =>
    rw [hgap, List.nil_append, hafter] at hc
    exact Or.inr hc
  | cons x bs =>
    rw [hgap] at hc
    cases hc
    exact Or.inl (stops_of_isBlank (hblank i c (hgap ▸ List.mem_cons_self)))

theorem Lexed.spread {last : Nat} (h : Lexed i cs ts) (hlast : last = i + cs.length)
    (hblank : ∀ k, ∀ c ∈ gap k, isBlank c = true)
    (hplaced : ∀ k, i ≤ k → gap k ≠ [] → k = last ∨ ∃ t ∈ ts, t.offset = k) (j : Nat) :
    ∃ us, Lexed j (spread gap i cs) us ∧ Expr.SameKinds ts us := by
  induction h generalizing j with
  | nil i =>
    have hgap : Lexed j (gap i ++ []) [] := .blanks (hblank i) (.nil _)
    rw [List.append_nil] at hgap
    exact ⟨[], hgap, rfl⟩
  | @blank i c cs ts blank _ ih =>
    rw [List.length_cons] at hlast
    obtain ⟨us, hus, hkinds⟩ :=
      ih (by omega) (fun k hle => hplaced k (by omega)) (j + (gap i).length + 1)
    exact ⟨us, .blanks (hblank i) (.blank blank hus), hkinds⟩
  | @token i c cs was kind ts visible lexeme more ih =>
    rw [List.length_cons, List.length_append] at hlast
    have hlater : ∀ k, i + 1 ≤ k → gap k ≠ [] → k = last ∨ ∃ t ∈ ts, t.offset = k := by
      intro k hle hne
      rcases hplaced k (by omega) hne with hend | ⟨t, ht, hoffset⟩
      · exact Or.inl hend
      · rcases List.mem_cons.mp ht with rfl | ht
        · dsimp only at hoffset
          omega
        · exact Or.inr ⟨t, ht, hoffset⟩
    -- Nothing is put in between the characters of the token.
    have hinside : ∀ k, i + 1 ≤ k → k < i + 1 + cs.length → gap k = [] := by
      intro k hle hlt
      by_contra hne
      rcases hlater k hle hne with hend | ⟨t, ht, hoffset⟩
      · omega
      · have := more.le_offset t ht
        omega
    obtain ⟨us, hus, hkinds⟩ :=
      ih (by omega) (fun k hle => hlater k (by omega)) (j + (gap i).length + 1 + cs.length)
    have hlexeme := lexeme.change (sameEnd_spread hblank (i + 1 + cs.length) was)
    refine ⟨⟨kind, j + (gap i).length⟩ :: us, ?_, congrArg (kind :: ·) hkinds⟩
    rw [Token.spread, spread_append hinside]
    exact .blanks (hblank i) (.token visible hlexeme hus)

end Token

namespace Expr

open Token

variable {text : String} {ts us : List Token}

theorem parse_of_tokens (h : tokens text.toList = .ok ts) : parse text = ofTokens ts := by
  rw [parse, bind_of_ok h]

/-- Blanks between the tokens of a text do not change them, nor the condition they form. The places
of tokens grow, and no token stands at a blank. -/
theorem blanks_insignificant (h : tokens text.toList = .ok ts) :
    (∀ gap, BlankGaps ts text.length gap →
      ∃ us, tokens (spread gap 0 text.toList) = .ok us ∧ us.map Token.kind = ts.map Token.kind ∧
        (parse (String.ofList (spread gap 0 text.toList))).mapError ExprError.unplaced =
          (parse text).mapError ExprError.unplaced) ∧
    (ts.map Token.offset).Pairwise (· < ·) ∧
    ∀ t ∈ ts, ∃ c, text.toList[t.offset]? = some c ∧ isBlank c = false := by
  have hlexed : Lexed 0 text.toList ts := lexed_of_tokensFrom h
  refine ⟨fun gap hgap => ?_, hlexed.increasing, fun t ht => ?_⟩
  · have hlast : text.length = 0 + text.toList.length := by
      rw [Nat.zero_add, String.length_toList]
    obtain ⟨us, hus, hkinds⟩ :=
      hlexed.spread hlast hgap.blank (fun k _ hne => hgap.placed k hne) 0
    have htokens : tokens (String.ofList (spread gap 0 text.toList)).toList = .ok us := by
      rw [String.toList_ofList]
      exact hus.tokensFrom
    refine ⟨us, hus.tokensFrom, hkinds.symm, ?_⟩
    rw [parse_of_tokens h, parse_of_tokens htokens]
    exact (alike_ofTokens hkinds.symm).mapError_eq
  · obtain ⟨front, c, after, htext, hoffset, hc⟩ := hlexed.exists_char t ht
    refine ⟨c, ?_, hc⟩
    rw [htext, hoffset, Nat.zero_add]
    simp

/-! ## A text without blanks -/

def crowded : String := "!input>=-5"

def crowdedTokens : List Token :=
  [⟨.not, 0⟩, ⟨.path ⟨"input", .input, []⟩, 1⟩, ⟨.compare .ge, 6⟩, ⟨.literal (.int (-5)), 8⟩]

/-- Room before the comparison and at the end. -/
def crowdedGap (i : Nat) : List Char := if i = 6 ∨ i = 10 then ['\t', ' '] else []

theorem blankGaps_crowded : BlankGaps crowdedTokens crowded.length crowdedGap where
  blank i c hc := by
    unfold crowdedGap at hc
    split at hc
    · rcases List.mem_cons.mp hc with rfl | hc
      · decide
      · rw [List.mem_singleton.mp hc]
        decide
    · cases hc
  placed i hne := by
    unfold crowdedGap at hne
    split at hne
    · rename_i hi
      rcases hi with rfl | rfl
      · exact Or.inr ⟨⟨.compare .ge, 6⟩, by decide, rfl⟩
      · exact Or.inl rfl
    · exact absurd rfl hne

theorem blanks_insignificant_crowded :
    tokens crowded.toList = .ok crowdedTokens ∧
    BlankGaps crowdedTokens crowded.length crowdedGap ∧
    String.ofList (spread crowdedGap 0 crowded.toList) = "!input\t >=-5\t " ∧
    (∃ us, tokens "!input\t >=-5\t ".toList = .ok us ∧
      us.map Token.kind = crowdedTokens.map Token.kind) ∧
    (parse "!input\t >=-5\t ").mapError ExprError.unplaced =
      (parse crowded).mapError ExprError.unplaced ∧
    (crowdedTokens.map Token.offset).Pairwise (· < ·) := by
  have htokens : tokens crowded.toList = .ok crowdedTokens := by with_unfolding_all rfl
  have htext : spread crowdedGap 0 crowded.toList = "!input\t >=-5\t ".toList := by decide
  obtain ⟨hgaps, hoffsets, -⟩ := blanks_insignificant htokens
  obtain ⟨us, hus, hkinds, hparse⟩ := hgaps crowdedGap blankGaps_crowded
  rw [htext] at hus hparse ⊢
  rw [String.ofList_toList] at hparse
  exact ⟨htokens, blankGaps_crowded, String.ofList_toList, ⟨us, hus, hkinds⟩, hparse, hoffsets⟩

end Expr

end Stepwise
