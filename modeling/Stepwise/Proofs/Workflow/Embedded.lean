import Stepwise.Proofs.Expr.Braces
import Stepwise.Proofs.Handler.Conditions
import Stepwise.Proofs.Template.Matches

/-!
# Conditions with placeholders

Some conditions pass for one placeholder although braces stand around it that belong to none.
-/

namespace Stepwise

namespace Template

variable {cs before body after : List Char}

/-- The one placeholder of the text is the whole text. -/
def IsWhole (cs : List Char) : Prop := ∃ body, FirstAt cs [] body []

/-- There is one placeholder in the text, with braces around it that belong to no placeholder, so
that the text starts and ends like one. -/
structure Disguise (cs before body after : List Char) : Prop where
  one : FirstAt cs before body after
  only : ¬ HasBraces after
  more : ¬ (before = [] ∧ after = [])
  opening : before = [] ∨ ['\x7b', '\x7b'] <+: before
  closing : after = [] ∨ after = ['\x7d'] ∨ ['\x7d', '\x7d'] <:+ after

def IsDisguised (cs : List Char) : Prop := ∃ before body after, Disguise cs before body after

theorem IsWhole.not_isDisguised (h : IsWhole cs) : ¬ IsDisguised cs := by
  rintro ⟨before, body, after, hdisguise⟩
  obtain ⟨body', hwhole⟩ := h
  obtain ⟨rfl, -, rfl⟩ := hwhole.unique hdisguise.one
  exact hdisguise.more ⟨rfl, rfl⟩

/-! ## What passes for one placeholder -/

theorem HasBraces.four_le_length (h : HasBraces cs) : 4 ≤ cs.length := by
  obtain ⟨body, -, hinfix⟩ := h
  have hle := hinfix.length_le
  simp only [Piece.source, List.length_append, List.length_cons, List.length_nil] at hle
  omega

theorem not_hasBraces_nil : ¬ HasBraces [] := fun h => absurd h.four_le_length (by decide)

theorem pair_prefix_iff {c : Char} {front back : List Char} :
    [c, c] <+: front ++ c :: c :: back ↔ front = [] ∨ front = [c] ∨ [c, c] <+: front := by
  rcases front with - | ⟨x, - | ⟨y, front⟩⟩
  · simp
  · simp [eq_comm]
  · simp

theorem pair_suffix_iff {c : Char} {front back : List Char} :
    [c, c] <:+ front ++ c :: c :: back ↔ back = [] ∨ back = [c] ∨ [c, c] <:+ back := by
  have hreverse : [c, c] <+: back.reverse ++ c :: c :: front.reverse ↔
      back.reverse = [] ∨ back.reverse = [c] ∨ [c, c] <+: back.reverse := pair_prefix_iff
  rw [← List.reverse_prefix, ← List.reverse_prefix]
  simpa using hreverse

theorem FirstAt.ne_brace (h : FirstAt cs before body after) : before ≠ ['\x7b'] := by
  rintro rfl
  refine h.first [] _ rfl (List.cons_ne_nil _ _) ⟨'\x7b' :: body, ?_, after, ?_⟩
  · exact List.not_mem_cons_of_ne_of_not_mem (by decide) h.isBody.line
  · simp [Piece.source]

/-! ## What a disguise comes to -/

theorem Disguise.starts (h : Disguise cs before body after) (hafter : after = []) :
    ∃ rest, before = '\x7b' :: rest := by
  have hbefore : before ≠ [] := fun hbefore => h.more ⟨hbefore, hafter⟩
  obtain ⟨rest, rfl⟩ := h.opening.resolve_left hbefore
  exact ⟨_, rfl⟩

theorem Disguise.ends (h : Disguise cs before body after) (hafter : after ≠ []) :
    ∃ front, after = front ++ ['\x7d'] := by
  rcases h.closing.resolve_left hafter with rfl | ⟨front, rfl⟩
  · exact ⟨[], rfl⟩
  · exact ⟨front ++ ['\x7d'], by simp⟩

/-- Whatever the placeholder stands for, a brace is left at the start or at the end. -/
theorem parse_error_of_isDisguised {condition : String}
    (h : IsDisguised (trim condition.toList)) (context : Context) :
    ∃ e, Expr.parse (resolve condition context) = .error e := by
  obtain ⟨before, body, after, hdisguise⟩ := h
  obtain ⟨lead, trail, htext, hlead, htrail⟩ := exists_trim condition.toList
  have hopening : '\x7b' ∉ lead := fun hmem => absurd (hlead _ hmem) (by decide)
  have hclosing : '\x7d' ∉ trail := fun hmem => absurd (htrail _ hmem) (by decide)
  -- the condition is resolved with the blanks that the check cuts off
  have hfirst := hdisguise.one.surround hopening hclosing
  have honly : ¬ HasBraces (after ++ trail) := mt (hasBraces_of_append hclosing) hdisguise.only
  rw [← htext] at hfirst
  obtain ⟨value, hvalue⟩ := resolve_of_firstAt hfirst honly context
  rw [String.ofList_toList] at hvalue
  rw [hvalue]
  by_cases hafter : after = []
  · obtain ⟨rest, rfl⟩ := hdisguise.starts hafter
    rw [List.append_assoc, List.append_assoc, List.cons_append]
    exact Expr.parse_error_of_opening hlead
  · obtain ⟨front, rfl⟩ := hdisguise.ends hafter
    rw [List.append_assoc front, ← List.append_assoc, List.singleton_append]
    exact Expr.parse_error_of_closing htrail

end Template

namespace Step

open Template

variable {cs before body after : List Char} {condition : String}

theorem startsWithBraces_iff (h : FirstAt cs before body after) :
    startsWithBraces cs = true ↔ before = [] ∨ ['\x7b', '\x7b'] <+: before := by
  have htext : cs = before ++ '\x7b' :: '\x7b' :: (body ++ '\x7d' :: '\x7d' :: after) := by
    rw [h.text]
    simp [Piece.source]
  rw [startsWithBraces, List.isPrefixOf_iff_prefix, htext, pair_prefix_iff,
    or_iff_right h.ne_brace]

theorem endsWithBraces_iff (h : FirstAt cs before body after) :
    endsWithBraces cs = true ↔ after = [] ∨ after = ['\x7d'] ∨ ['\x7d', '\x7d'] <:+ after := by
  have htext : cs = (before ++ '\x7b' :: '\x7b' :: body) ++ '\x7d' :: '\x7d' :: after := by
    rw [h.text]
    simp [Piece.source]
  rw [endsWithBraces, List.isSuffixOf_iff_suffix, htext, pair_suffix_iff]

theorem isSinglePlaceholder_iff : isSinglePlaceholder condition = true ↔
    IsWhole (trim condition.toList) ∨ IsDisguised (trim condition.toList) := by
  rw [isSinglePlaceholder]
  generalize trim condition.toList = cs
  simp only [Bool.and_eq_true, beq_iff_eq]
  constructor
  · rintro ⟨⟨hstart, hend⟩, hone⟩
    have hbraces : HasBraces cs := by
      by_contra hnone
      rw [paths_eq_nil_iff.mpr hnone] at hone
      cases hone
    obtain ⟨before, body, after, h⟩ := exists_firstAt hbraces
    by_cases hmore : before = [] ∧ after = []
    · obtain ⟨rfl, rfl⟩ := hmore
      exact Or.inl ⟨body, h⟩
    · exact Or.inr ⟨before, body, after, h, (length_paths_eq_one h).mp hone, hmore,
        (startsWithBraces_iff h).mp hstart, (endsWithBraces_iff h).mp hend⟩
  · rintro (⟨body, h⟩ | ⟨before, body, after, h⟩)
    · exact ⟨⟨(startsWithBraces_iff h).mpr (Or.inl rfl), (endsWithBraces_iff h).mpr (Or.inl rfl)⟩,
        (length_paths_eq_one h).mpr not_hasBraces_nil⟩
    · exact ⟨⟨(startsWithBraces_iff h.one).mpr h.opening, (endsWithBraces_iff h.one).mpr h.closing⟩,
        (length_paths_eq_one h.one).mpr h.only⟩

/-! ## Warnings -/

/-- The condition of a conditional step has a placeholder. -/
structure Templated (s : Step) (condition : String) : Prop where
  conditional : s.isConditional = true
  asks : s.params.get? conditionParam = some (.string condition)
  templated : Template.hasPlaceholders condition = true

namespace Templated

variable {s : Step} (h : s.Templated condition)
include h

theorem warned_unless_single :
    .embeddedPlaceholders s.id ∈ s.warnings ↔ ¬ isSinglePlaceholder condition = true := by
  have hcondition : s.stringParam? conditionParam = some condition := by
    rw [stringParam?, h.asks]
    rfl
  rw [mem_warnings_iff h.conditional (by simp) (by simp), conditionWarnings, hcondition]
  dsimp only
  rw [h.templated, if_pos rfl]
  split
  · rename_i hsingle
    simp [hsingle]
  · rename_i hsingle
    simp [hsingle]

/-- The report warns of values that become a part of the condition, unless the condition is one
placeholder as a whole or passes for one. What passes for one is false with any values. -/
theorem warned_unless_whole {w : Workflow} {before after : List Step}
    (hw : w.steps = before ++ s :: after) :
    w.validate.warnings =
        before.flatMap Step.warnings ++ s.warnings ++ after.flatMap Step.warnings ∧
      (.embeddedPlaceholders s.id ∈ s.warnings ↔
        ¬ IsWhole (trim condition.toList) ∧ ¬ IsDisguised (trim condition.toList)) ∧
      (IsWhole (trim condition.toList) → ¬ IsDisguised (trim condition.toList)) ∧
      (IsDisguised (trim condition.toList) →
        ∀ context, Expr.holds (Template.resolve condition context) context = false) := by
  refine ⟨?_, ?_, IsWhole.not_isDisguised, fun hdisguised context => ?_⟩
  · rw [Workflow.validate, hw]
    simp only [List.flatMap_append, List.flatMap_cons, List.append_assoc]
  · rw [h.warned_unless_single, isSinglePlaceholder_iff, not_or]
  · obtain ⟨e, he⟩ := parse_error_of_isDisguised hdisguised context
    exact Expr.holds_of_parse_error he context

end Templated

/-! ## Three conditions -/

/-- One placeholder as a whole. -/
def wholeCondition : String := "\x7b\x7binput.rule\x7d\x7d"

/-- The value becomes one side of a comparison. -/
def embeddedCondition : String := "\x7b\x7binput.rule\x7d\x7d == 1"

/-- Braces that close nothing stand behind the placeholder. -/
def disguisedCondition : String := "\x7b\x7binput.rule\x7d\x7d\x7d\x7d"

theorem templated_checkOf (condition : String) (h : FirstAt condition.toList before body after) :
    (checkOf condition).Templated condition where
  conditional := rfl
  asks := rfl
  templated := hasPlaceholders_of_firstAt h

theorem isWhole_wholeCondition : IsWhole (trim wholeCondition.toList) :=
  ⟨"input.rule".toList, firstAt_of_closing? rfl⟩

theorem not_isSinglePlaceholder_embeddedCondition :
    ¬ isSinglePlaceholder embeddedCondition = true := by
  have hend : endsWithBraces (trim embeddedCondition.toList) = false := by decide
  rw [isSinglePlaceholder, hend]
  simp

theorem isDisguised_disguisedCondition : IsDisguised (trim disguisedCondition.toList) := by
  have honly : ¬ HasBraces ['\x7d', '\x7d'] := fun h => absurd h.four_le_length (by decide)
  exact ⟨[], "input.rule".toList, ['\x7d', '\x7d'], firstAt_of_closing? rfl, honly, by decide,
    Or.inl rfl, Or.inr (Or.inr List.suffix_rfl)⟩

theorem warned_unless_whole_checkOf :
    (checkOf wholeCondition).Templated wholeCondition ∧
      (checkOf embeddedCondition).Templated embeddedCondition ∧
      (checkOf disguisedCondition).Templated disguisedCondition ∧
      .embeddedPlaceholders "check" ∉ (checkOf wholeCondition).warnings ∧
      .embeddedPlaceholders "check" ∈ (checkOf embeddedCondition).warnings ∧
      .embeddedPlaceholders "check" ∉ (checkOf disguisedCondition).warnings ∧
      ∀ context, Expr.holds (Template.resolve disguisedCondition context) context = false := by
  have hwhole := templated_checkOf wholeCondition (firstAt_of_closing? rfl)
  have hembedded := templated_checkOf embeddedCondition (firstAt_of_closing? rfl)
  have hdisguised := templated_checkOf disguisedCondition (firstAt_of_closing? rfl)
  obtain ⟨-, hwholeIff, -, -⟩ := hwhole.warned_unless_whole (steps_checking wholeCondition)
  obtain ⟨-, hembeddedIff, -, -⟩ := hembedded.warned_unless_whole (steps_checking embeddedCondition)
  obtain ⟨-, hdisguisedIff, -, hfalse⟩ :=
    hdisguised.warned_unless_whole (steps_checking disguisedCondition)
  have hsingle := not_isSinglePlaceholder_embeddedCondition
  rw [isSinglePlaceholder_iff, not_or] at hsingle
  exact ⟨hwhole, hembedded, hdisguised, fun h => (hwholeIff.mp h).1 isWhole_wholeCondition,
    hembeddedIff.mpr hsingle, fun h => (hdisguisedIff.mp h).2 isDisguised_disguisedCondition,
    hfalse isDisguised_disguisedCondition⟩

end Step

end Stepwise
