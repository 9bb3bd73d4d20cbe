import Stepwise.Proofs.Expr.Lexing
import Stepwise.Proofs.Expr.Parsing

/-! # Conditions as texts -/

namespace Stepwise

namespace Expr

/-! ## Tokens of a tree -/

def isLeaf : Expr → Bool
  | literal _ => true
  | path _ => true
  | not _ => false
  | compare _ _ _ => false
  | logical _ _ _ => false

/-- An operand. Parentheses stand around it unless it is a single value. -/
def enclosed (leaf : Bool) (kinds : List TokenKind) : List TokenKind :=
  if leaf then kinds else .openParen :: (kinds ++ [.closeParen])

/-- The tokens of a tree. -/
def kinds : Expr → List TokenKind
  | literal v => [.literal v]
  | path p => [.path p]
  | not e => .not :: enclosed e.isLeaf e.kinds
  | compare op l r => enclosed l.isLeaf l.kinds ++ .compare op :: enclosed r.isLeaf r.kinds
  | logical op l r => enclosed l.isLeaf l.kinds ++ .logical op :: enclosed r.isLeaf r.kinds

/-- All values in the tree can be written. -/
def IsWritable : Expr → Prop
  | literal v => v.IsWritable
  | path p => p.IsWritable
  | not e => e.IsWritable
  | compare _ l r => l.IsWritable ∧ r.IsWritable
  | logical _ l r => l.IsWritable ∧ r.IsWritable

theorem mem_enclosed {leaf : Bool} {kinds : List TokenKind} {kind : TokenKind}
    (h : kind ∈ enclosed leaf kinds) : kind ∈ kinds ∨ kind.IsWritable := by
  unfold enclosed at h
  split at h
  · exact Or.inl h
  · simp only [List.mem_cons, List.mem_append, List.not_mem_nil, or_false] at h
    rcases h with rfl | h | rfl
    · exact Or.inr trivial
    · exact Or.inl h
    · exact Or.inr trivial

theorem IsWritable.kinds {e : Expr} (h : e.IsWritable) : ∀ kind ∈ e.kinds, kind.IsWritable := by
  induction e with
  | literal | path =>
    intro kind hkind
    rw [List.mem_singleton.mp hkind]
    exact h
  | not e ih =>
    intro kind hkind
    rcases List.mem_cons.mp hkind with rfl | hkind
    · trivial
    · exact (mem_enclosed hkind).elim (ih h kind) id
  | compare op l r ihl ihr | logical op l r ihl ihr =>
    intro kind hkind
    rcases List.mem_append.mp hkind with hkind | hkind
    · exact (mem_enclosed hkind).elim (ihl h.1 kind) id
    · rcases List.mem_cons.mp hkind with rfl | hkind
      · trivial
      · exact (mem_enclosed hkind).elim (ihr h.2 kind) id

/-! ## What the tokens derive -/

/-- The loosest part of a condition that a tree is. -/
def level : Expr → Level
  | literal _ => .primary
  | path _ => .primary
  | not _ => .unary
  | compare _ _ _ => .comparison
  | logical .and _ _ => .conjunction
  | logical .or _ _ => .disjunction

variable {ts : List Token} {e : Expr}

theorem Derives.loosen {level : Level} (h : Derives level ts e) : Derives .disjunction ts e := by
  cases level with
  | primary => exact .conjunction (.comparison (.unary (.primary h)))
  | unary => exact .conjunction (.comparison (.unary h))
  | comparison => exact .conjunction (.comparison h)
  | conjunction => exact .conjunction h
  | disjunction => exact h

theorem depth_pos (e : Expr) : 0 < e.depth := by
  cases e <;> simp only [depth] <;> omega

theorem exists_token {kind : TokenKind} {kinds : List TokenKind}
    (h : ts.map Token.kind = kind :: kinds) :
    ∃ i rest, ts = ⟨kind, i⟩ :: rest ∧ rest.map Token.kind = kinds := by
  obtain ⟨t, rest, rfl, rfl, hrest⟩ := List.map_eq_cons_iff.mp h
  exact ⟨t.offset, rest, rfl, hrest⟩

theorem nests_enclosed
    (ih : ∀ ts, ts.map Token.kind = e.kinds → Nests (2 * e.depth - 1) e.level ts e)
    (h : ts.map Token.kind = enclosed e.isLeaf e.kinds) : Nests (2 * e.depth) .primary ts e := by
  cases hleaf : e.isLeaf with
  | true =>
    rw [hleaf] at h
    have hlevel : e.level = .primary := by
      cases e <;> first | rfl | cases hleaf
    have hn := (ih ts h).mono (Nat.sub_le _ 1)
    exact hn.lift (hlevel ▸ hn.derives)
  | false =>
    rw [hleaf] at h
    obtain ⟨i, rest, rfl, hrest⟩ := exists_token h
    obtain ⟨inner, last, rfl, hinner, hlast⟩ := List.map_eq_append_iff.mp hrest
    obtain ⟨j, none, rfl, hnone⟩ := exists_token hlast
    rw [List.map_eq_nil_iff.mp hnone]
    have hn := ih inner hinner
    have hpos := depth_pos e
    exact ((hn.lift hn.derives.loosen).parens i j).mono (by omega)

theorem nests_sides {l r : Expr} {kind : TokenKind}
    (ihl : ∀ ts, ts.map Token.kind = l.kinds → Nests (2 * l.depth - 1) l.level ts l)
    (ihr : ∀ ts, ts.map Token.kind = r.kinds → Nests (2 * r.depth - 1) r.level ts r)
    (h : ts.map Token.kind = enclosed l.isLeaf l.kinds ++ kind :: enclosed r.isLeaf r.kinds) :
    ∃ ls i rs, ts = ls ++ ⟨kind, i⟩ :: rs ∧ Nests (2 * max l.depth r.depth) .primary ls l ∧
      Nests (2 * max l.depth r.depth) .primary rs r := by
  obtain ⟨ls, rest, rfl, hls, hrest⟩ := List.map_eq_append_iff.mp h
  obtain ⟨i, rs, rfl, hrs⟩ := exists_token hrest
  exact ⟨ls, i, rs, rfl, (nests_enclosed ihl hls).mono (by omega),
    (nests_enclosed ihr hrs).mono (by omega)⟩

/-- The tokens of a tree nest less than twice as deep as the tree is high. -/
theorem nests_kinds (e : Expr) (ts : List Token) (h : ts.map Token.kind = e.kinds) :
    Nests (2 * e.depth - 1) e.level ts e := by
  -- A node costs one for itself if it is a negation, and one for the parentheses of its operands.
  induction e generalizing ts with
  | literal v =>
    obtain ⟨i, rest, rfl, hrest⟩ := exists_token h
    rw [List.map_eq_nil_iff.mp hrest]
    exact .leaf (.literal v i) fun _ => rfl
  | path p =>
    obtain ⟨i, rest, rfl, hrest⟩ := exists_token h
    rw [List.map_eq_nil_iff.mp hrest]
    exact .leaf (.path p i) fun _ => rfl
  | not e ih =>
    obtain ⟨i, rest, rfl, hrest⟩ := exists_token h
    have hn := nests_enclosed ih hrest
    refine ((hn.lift (.primary hn.derives)).not i).mono ?_
    simp only [depth]
    omega
  | compare op l r ihl ihr =>
    obtain ⟨ls, i, rs, rfl, hl, hr⟩ := nests_sides ihl ihr h
    have hjoined := Derives.compare op i (.primary hl.derives) (.primary hr.derives)
    refine (hl.operator hr hjoined fun _ => rfl).mono ?_
    simp only [depth]
    omega
  | logical op l r ihl ihr =>
    obtain ⟨ls, i, rs, rfl, hl, hr⟩ := nests_sides ihl ihr h
    have hright : Derives .comparison rs r := .unary (.primary hr.derives)
    have hle : 2 * max l.depth r.depth ≤ 2 * (logical op l r).depth - 1 := by
      simp only [depth]
      omega
    cases op with
    | and =>
      have hleft : Derives .conjunction ls l := .comparison (.unary (.primary hl.derives))
      exact (hl.operator hr (.and i hleft hright) fun _ => rfl).mono hle
    | or =>
      have hjoined := Derives.or i hl.derives.loosen (.comparison hright)
      exact (hl.operator hr hjoined fun _ => rfl).mono hle

/-- A tree of no more than half the greatest height reads as itself, however it is spaced. -/
theorem parse_spaced (e : Expr) (text : String) (writable : e.IsWritable) (hdepth : e.depth ≤ 32)
    (spaced : Token.Spaced (e.kinds.map TokenKind.text) text.toList) : parse text = .ok e := by
  obtain ⟨ts, hts, hkinds⟩ := Token.tokensFrom_spaced spaced writable.kinds 0
  have hn := nests_kinds e ts hkinds
  have hfits : Fits maxDepth [] ts :=
    hn.fits [] maxDepth (by simp only [maxDepth, List.length_nil]; omega)
  have hparse : ofTokens ts = .ok e :=
    ofTokens_eq_ok_iff.mpr ⟨hn.derives.loosen, hfits, by simp only [maxDepth]; omega⟩
  rw [parse, Token.tokens, bind_of_ok hts, hparse]

/-! ## A condition as text -/

def found : Path :=
  ⟨"steps.find_all.output[0]", .steps, [.key "find_all", .key "output", .index 0]⟩

def sample : Expr :=
  .logical .or (.not (.compare .ge (.path ⟨"input", .input, []⟩) (.literal (.int (-5)))))
    (.compare .contains (.path found) (.literal (.string "say \"hi\"")))

def sampleText : String :=
  "( ! ( input >= -5 ) ) || ( steps.find_all.output[0] contains \"say \\\"hi\\\"\" ) "

theorem found_isWritable : found.IsWritable := by
  refine ⟨fun name hname => ?_, "steps.find_all.output[0]", by with_unfolding_all rfl⟩
  simp only [found, List.mem_cons, Segment.key.injEq, reduceCtorEq, List.not_mem_nil,
    or_false] at hname
  rcases hname with rfl | rfl <;> exact List.all_eq_true.mp rfl

theorem input_isWritable : (⟨"input", .input, []⟩ : Path).IsWritable :=
  ⟨nofun, "input", by with_unfolding_all rfl⟩

theorem parse_spaced_sample : sample.IsWritable ∧ sample.depth ≤ 32 ∧
    Token.Spaced (sample.kinds.map TokenKind.text) sampleText.toList ∧
    parse sampleText = .ok sample := by
  have writable : sample.IsWritable :=
    ⟨⟨input_isWritable, show isSignedWord (-5) = true by decide⟩, found_isWritable, trivial⟩
  have hdepth : sample.depth ≤ 32 := by decide
  have htext : sampleText.toList = (sample.kinds.map TokenKind.text).flatMap (· ++ [' ']) := by
    decide
  have spaced : Token.Spaced (sample.kinds.map TokenKind.text) sampleText.toList :=
    htext ▸ Token.spaced_flatMap _
  exact ⟨writable, hdepth, spaced, parse_spaced sample sampleText writable hdepth spaced⟩

end Expr

end Stepwise
