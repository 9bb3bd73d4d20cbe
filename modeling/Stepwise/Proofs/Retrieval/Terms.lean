import Mathlib.Data.List.TakeWhile
import Mathlib.Data.Set.Card
import Stepwise.Retrieval.Store

/-! # The terms of a text -/

namespace Stepwise

/-! ## Runs -/

/-- The characters are letters and numerals. -/
def Alphanumeric (cs : List Char) : Prop := ∀ c ∈ cs, isAlphanumeric c = true

/-- The characters `w` stand in a text, all of them letters or numerals, and no such character is
next to them. -/
def IsRun (cs w : List Char) : Prop :=
  ∃ before after, cs = before ++ w ++ after ∧ w ≠ [] ∧ Alphanumeric w ∧
    (∀ c, before.getLast? = some c → isAlphanumeric c = false) ∧
    ∀ c, after.head? = some c → isAlphanumeric c = false

variable {cs v w : List Char} {c : Char}

theorem Alphanumeric.eq_nil_of_head (h : Alphanumeric w)
    (head : ∀ c, (w ++ cs).head? = some c → isAlphanumeric c = false) : w = [] := by
  cases w with
  | nil => rfl
  | cons c w =>
    have hc := head c rfl
    rw [h c List.mem_cons_self] at hc
    cases hc

theorem Alphanumeric.eq_nil_of_getLast (h : Alphanumeric w)
    (last : ∀ c, w.getLast? = some c → isAlphanumeric c = false) : w = [] := by
  by_contra hne
  have hc := last _ (List.getLast?_eq_getLast_of_ne_nil hne)
  rw [h _ (List.getLast_mem hne)] at hc
  cases hc

theorem not_isRun_nil (w : List Char) : ¬IsRun [] w := by
  rintro ⟨before, after, hsplit, hne, -⟩
  simp only [List.nil_eq, List.append_eq_nil_iff] at hsplit
  exact hne hsplit.1.2

theorem isRun_cons_iff (hc : isAlphanumeric c = false) : IsRun (c :: cs) w ↔ IsRun cs w := by
  have hlast : ∀ before : List Char,
      (∀ d, (c :: before).getLast? = some d → isAlphanumeric d = false) ↔
        ∀ d, before.getLast? = some d → isAlphanumeric d = false := by
    intro before
    cases before.eq_nil_or_concat with
    | inl h => simp [h, hc]
    | inr h =>
      obtain ⟨init, d, rfl⟩ := h
      rw [List.concat_eq_append, ← List.cons_append, List.getLast?_append, List.getLast?_append]
      exact Iff.rfl
  constructor
  · rintro ⟨before, after, hsplit, hne, hw, hbefore, hafter⟩
    rcases before with _ | ⟨b, before⟩
    · obtain ⟨d, w, rfl⟩ := List.exists_cons_of_ne_nil hne
      obtain ⟨rfl, -⟩ := List.cons.inj hsplit
      exact absurd (hw c List.mem_cons_self) (by rw [hc]; decide)
    · obtain ⟨rfl, rfl⟩ := List.cons.inj hsplit
      exact ⟨before, after, rfl, hne, hw, (hlast before).mp hbefore, hafter⟩
  · rintro ⟨before, after, rfl, hne, hw, hbefore, hafter⟩
    exact ⟨c :: before, after, rfl, hne, hw, (hlast before).mpr hbefore, hafter⟩

/-- The run at the front, and the runs behind it. -/
theorem isRun_append_iff (hne : v ≠ []) (hv : Alphanumeric v)
    (hcs : ∀ c, cs.head? = some c → isAlphanumeric c = false) :
    IsRun (v ++ cs) w ↔ w = v ∨ IsRun cs w := by
  constructor
  · rintro ⟨before, after, hsplit, hwne, hw, hbefore, hafter⟩
    rw [List.append_assoc] at hsplit
    rcases List.append_eq_append_iff.mp hsplit.symm with ⟨x, rfl, hx⟩ | ⟨x, rfl, rfl⟩
    · -- nothing stands before the run, and it ends where the first one does
      have hnil : before = [] :=
        Alphanumeric.eq_nil_of_getLast (fun c h => hv c (List.mem_append_left x h)) hbefore
      subst hnil
      rw [List.nil_append] at hne hv ⊢
      rcases List.append_eq_append_iff.mp hx with ⟨y, rfl, rfl⟩ | ⟨y, rfl, rfl⟩
      · have hy : y = [] :=
          Alphanumeric.eq_nil_of_head (fun c h => hv c (List.mem_append_right w h)) hafter
        exact .inl (by rw [hy, List.append_nil])
      · have hy : y = [] :=
          Alphanumeric.eq_nil_of_head (fun c h => hw c (List.mem_append_right x h)) hcs
        exact .inl (by rw [hy, List.append_nil])
    · refine .inr ⟨x, after, (List.append_assoc ..).symm, hwne, hw, fun c hc => ?_, hafter⟩
      apply hbefore
      rw [List.getLast?_append, hc]
      rfl
  · rintro (rfl | ⟨before, after, rfl, hwne, hw, hbefore, hafter⟩)
    · exact ⟨[], cs, rfl, hne, hv, fun _ h => (nomatch h), hcs⟩
    · have hassoc : v ++ (before ++ w ++ after) = v ++ before ++ w ++ after := by
        simp only [List.append_assoc]
      refine ⟨v ++ before, after, hassoc, hwne, hw, fun c hc => ?_, hafter⟩
      rw [List.getLast?_append] at hc
      cases hlast : before.getLast? with
      | some d =>
        rw [hlast] at hc
        exact hbefore c (hlast.trans hc)
      | none =>
        -- the run would be the first one's continuation
        have hnil : before = [] := List.getLast?_eq_none_iff.mp hlast
        subst hnil
        rw [List.nil_append] at hcs
        exact absurd (hw.eq_nil_of_head hcs) hwne

theorem mem_runs (cs w : List Char) : w ∈ runs cs ↔ IsRun cs w := by
  fun_induction runs cs with
  | case1 => exact iff_of_false List.not_mem_nil (not_isRun_nil w)
  | case2 c rest hc ih =>
    have hfront : Alphanumeric (c :: rest.takeWhile isAlphanumeric) := by
      intro d hd
      rcases List.mem_cons.mp hd with rfl | hd
      · exact hc
      · exact List.mem_takeWhile_imp hd
    have hback : ∀ d, (rest.dropWhile isAlphanumeric).head? = some d →
        isAlphanumeric d = false := by
      intro d hd
      have hnot := List.head?_dropWhile_not isAlphanumeric rest
      rwa [hd] at hnot
    have hsplit : c :: rest =
        (c :: rest.takeWhile isAlphanumeric) ++ rest.dropWhile isAlphanumeric := by
      rw [List.cons_append, List.takeWhile_append_dropWhile]
    rw [List.mem_cons, ih, hsplit, isRun_append_iff (List.cons_ne_nil _ _) hfront hback]
  | case3 c rest hc ih =>
    rw [ih, isRun_cons_iff (Bool.eq_false_iff.mpr hc)]

theorem length_runs_le (cs : List Char) : (runs cs).length ≤ cs.length := by
  fun_induction runs cs with
  | case1 => exact Nat.le_refl 0
  | case2 c rest hc ih =>
    exact Nat.succ_le_succ (ih.trans (List.dropWhile_sublist isAlphanumeric).length_le)
  | case3 c rest hc ih => exact ih.trans (Nat.le_succ _)

/-! ## Terms -/

/-- The terms of a text. -/
def termsOf (text : String) : Set (List Char) := {t | ∃ w, IsRun text.toList w ∧ lowerCase w = t}

variable {text query : String} {t : List Char}

theorem mem_terms : t ∈ terms text ↔ t ∈ termsOf text := by
  rw [terms, List.mem_eraseDups, List.mem_map]
  simp only [mem_runs]
  rfl

theorem nodup_eraseDups {α : Type} [BEq α] [LawfulBEq α] (l : List α) : l.eraseDups.Nodup := by
  cases l with
  | nil => exact List.nodup_nil
  | cons a l =>
    rw [List.eraseDups_cons, List.nodup_cons]
    refine ⟨?_, nodup_eraseDups _⟩
    simp [List.mem_eraseDups]
termination_by l.length
decreasing_by exact Nat.lt_succ_of_le (List.length_filter_le _ _)

theorem nodup_terms (text : String) : (terms text).Nodup := nodup_eraseDups _

theorem coe_terms (text : String) : ((terms text).toFinset : Set (List Char)) = termsOf text := by
  ext t
  rw [Finset.mem_coe, List.mem_toFinset, mem_terms]

theorem ncard_termsOf (text : String) : (termsOf text).ncard = (terms text).length := by
  rw [← coe_terms, Set.ncard_coe_finset, List.toFinset_card_of_nodup (nodup_terms text)]

theorem nodup_matched (query text : String) : (matched (terms query) text).Nodup :=
  (nodup_terms query).filter _

theorem ncard_shared (query text : String) :
    (termsOf query ∩ termsOf text).ncard = (matched (terms query) text).length := by
  have hset : termsOf query ∩ termsOf text = ((matched (terms query) text).toFinset : Set _) := by
    ext t
    rw [Finset.mem_coe, List.mem_toFinset, matched, List.mem_filter, List.contains_iff_mem,
      mem_terms, mem_terms]
    rfl
  rw [hset, Set.ncard_coe_finset, List.toFinset_card_of_nodup (nodup_matched query text)]

theorem length_terms_le (text : String) : (terms text).length ≤ text.length := by
  have hle : (terms text).toFinset ⊆ ((runs text.toList).map lowerCase).toFinset := by
    intro t ht
    rwa [List.mem_toFinset, terms, List.mem_eraseDups, ← List.mem_toFinset] at ht
  calc (terms text).length = (terms text).toFinset.card :=
        (List.toFinset_card_of_nodup (nodup_terms text)).symm
    _ ≤ ((runs text.toList).map lowerCase).toFinset.card := Finset.card_le_card hle
    _ ≤ ((runs text.toList).map lowerCase).length := List.toFinset_card_le _
    _ = (runs text.toList).length := List.length_map _
    _ ≤ text.length := by
        rw [← String.length_toList]
        exact length_runs_le _

end Stepwise
