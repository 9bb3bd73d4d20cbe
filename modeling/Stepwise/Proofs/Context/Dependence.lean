import Stepwise.Expr.Basic
import Stepwise.Proofs.Except
import Stepwise.Proofs.Template.Pieces
import Stepwise.Proofs.Text.Characters

/-! # What a result depends on -/

namespace Stepwise

/-! ## Conditions -/

namespace Expr

variable {c c' : Context} {e : Expr}

theorem value_congr (h : ∀ p ∈ e.paths, p.resolve c = p.resolve c') : e.value c = e.value c' := by
  induction e with
  | literal v => rfl
  | path p =>
    have hp := h p (by simp [paths])
    simp only [value, hp]
  | not e ih =>
    have he := ih h
    simp only [value, he]
  | compare op l r ihl ihr =>
    have hl := ihl fun p hp => h p (List.mem_append_left _ hp)
    have hr := ihr fun p hp => h p (List.mem_append_right _ hp)
    simp only [value, hl, hr]
  | logical op l r ihl ihr =>
    have hl := ihl fun p hp => h p (List.mem_append_left _ hp)
    have hr := ihr fun p hp => h p (List.mem_append_right _ hp)
    cases op <;> simp only [value, hl, hr]

theorem evaluate_congr (h : ∀ p ∈ e.paths, p.resolve c = p.resolve c') :
    e.evaluate c = e.evaluate c' := by
  rw [evaluate, evaluate, value_congr h]

theorem exists_value (h : ∀ p ∈ e.paths, ∃ v, p.resolve c = .ok v) : ∃ v, e.value c = .ok v := by
  induction e with
  | literal v => exact ⟨v, rfl⟩
  | path p =>
    obtain ⟨v, hv⟩ := h p (by simp [paths])
    rw [value, bind_of_ok hv]
    exact ⟨v.getD .null, rfl⟩
  | not e ih =>
    obtain ⟨v, hv⟩ := ih h
    rw [value, bind_of_ok hv]
    exact ⟨.bool !v.truthy, rfl⟩
  | compare op l r ihl ihr =>
    obtain ⟨a, ha⟩ := ihl fun p hp => h p (List.mem_append_left _ hp)
    obtain ⟨b, hb⟩ := ihr fun p hp => h p (List.mem_append_right _ hp)
    rw [value, bind_of_ok ha, bind_of_ok hb]
    exact ⟨.bool (op.apply a b), rfl⟩
  | logical op l r ihl ihr =>
    obtain ⟨a, ha⟩ := ihl fun p hp => h p (List.mem_append_left _ hp)
    obtain ⟨b, hb⟩ := ihr fun p hp => h p (List.mem_append_right _ hp)
    cases op with
    | and =>
      rw [value, bind_of_ok ha]
      split
      · rw [bind_of_ok hb]
        exact ⟨.bool b.truthy, rfl⟩
      · exact ⟨.bool false, rfl⟩
    | or =>
      rw [value, bind_of_ok ha]
      split
      · exact ⟨.bool true, rfl⟩
      · rw [bind_of_ok hb]
        exact ⟨.bool b.truthy, rfl⟩

theorem exists_evaluate (h : ∀ p ∈ e.paths, ∃ v, p.resolve c = .ok v) :
    ∃ b, e.evaluate c = .ok b := by
  obtain ⟨v, hv⟩ := exists_value h
  rw [evaluate, bind_of_ok hv]
  exact ⟨v.truthy, rfl⟩

end Expr

/-! ## Templates -/

theorem Path.parse_trim (cs : List Char) :
    Path.parse (String.ofList (trim cs)) = Path.parse (String.ofList cs) := by
  unfold Path.parse
  simp only [String.toList_ofList, trim_trim]

namespace Template

variable {c c' : Context} {template : String}

theorem mem_paths_of_placeholder {body : List Char}
    (h : .placeholder body ∈ pieces template.toList) :
    String.ofList (trim body) ∈ paths template :=
  List.mem_filterMap.mpr ⟨.placeholder body, h, rfl⟩

theorem lookUp_trim (body : List Char) (c : Context) :
    lookUp (String.ofList (trim body)) c = lookUp (String.ofList body) c := by
  rw [lookUp, lookUp, Path.parse_trim]

theorem resolve_congr (h : ∀ body ∈ paths template, lookUp body c = lookUp body c') :
    resolve template c = resolve template c' := by
  have htext : ∀ piece ∈ pieces template.toList, piece.text c = piece.text c' := by
    intro piece hpiece
    cases piece with
    | literal ch => rfl
    | placeholder body =>
      have hbody := h _ (mem_paths_of_placeholder hpiece)
      rw [lookUp_trim, lookUp_trim] at hbody
      rw [Piece.text, Piece.text, hbody]
  rw [resolve, resolve, List.flatMap_def, List.flatMap_def, List.map_congr_left htext]

end Template

/-! ## Both -/

/-- The paths of a condition and of a template are all that their results depend on. -/
theorem results_depend_on_paths (c c' : Context) :
    (∀ e : Expr, (∀ p ∈ e.paths, p.resolve c = p.resolve c') → e.evaluate c = e.evaluate c') ∧
    (∀ e : Expr, (∀ p ∈ e.paths, ∃ v, p.resolve c = .ok v) → ∃ b, e.evaluate c = .ok b) ∧
    (∀ template : String,
      (∀ body ∈ Template.paths template, Template.lookUp body c = Template.lookUp body c') →
        Template.resolve template c = Template.resolve template c') :=
  ⟨fun _ => Expr.evaluate_congr, fun _ => Expr.exists_evaluate, fun _ => Template.resolve_congr⟩

def Context.waiting : Context :=
  .new (.object [("ready", .bool true)]) ⟨"flow", "run", "tenant"⟩

def Context.answered : Context := Context.waiting.recordStep "ask" (.string "yes") .null

def Expr.unready : Expr := .not (.path ⟨"input.ready", .input, [.key "ready"]⟩)

def Template.readiness : String := "\x7b\x7b input.ready \x7d\x7d!"

theorem results_depend_on_paths_unread :
    Context.waiting.stepCount ≠ Context.answered.stepCount ∧
    Expr.unready.evaluate .waiting = Expr.unready.evaluate .answered ∧
    (∃ b, Expr.unready.evaluate .waiting = .ok b) ∧
    Template.resolve Template.readiness .waiting = Template.resolve Template.readiness .answered := by
  obtain ⟨hevaluate, hok, hresolve⟩ := results_depend_on_paths .waiting .answered
  have hpaths : Expr.unready.paths = [⟨"input.ready", .input, [.key "ready"]⟩] := rfl
  have hbodies : Template.paths Template.readiness = ["input.ready"] := by
    with_unfolding_all rfl
  refine ⟨by decide, hevaluate Expr.unready ?_, hok Expr.unready ?_, hresolve Template.readiness ?_⟩
  · intro p hp
    rw [hpaths, List.mem_singleton] at hp
    rw [hp]
    rfl
  · intro p hp
    rw [hpaths, List.mem_singleton] at hp
    rw [hp]
    exact ⟨some (.bool true), rfl⟩
  · intro body hbody
    rw [hbodies, List.mem_singleton] at hbody
    rw [hbody]
    with_unfolding_all rfl

end Stepwise
