import Mathlib.Data.List.Induction
import Stepwise.Proofs.Template.Keeping

/-! # The first placeholder of a text -/

namespace Stepwise

namespace Template

variable {cs body before after : List Char}

/-! ## Bodies -/

/-- A body is on one line, and nothing in it closes the placeholder before its own braces do. -/
structure IsBody (body : List Char) : Prop where
  line : '\n' ∉ body
  ends : ¬ ['\x7d', '\x7d'] <:+: body ++ ['\x7d']

theorem isBody_nil : IsBody [] where
  line := List.not_mem_nil
  ends h := absurd h.length_le (by decide)

theorem IsBody.tail {c : Char} (h : IsBody (c :: body)) : IsBody body where
  line hmem := h.line (List.mem_cons_of_mem c hmem)
  ends hinfix := h.ends (List.infix_cons hinfix)

theorem closing?_of_isBody (h : IsBody body) (after : List Char) :
    closing? (body ++ '\x7d' :: '\x7d' :: after) = some (body, after) := by
  induction body with
  | nil => rfl
  | cons c body ih =>
    rw [List.cons_append, closing?, ih h.tail]
    · -- two braces at the front would be the first ones that close
      rintro rest rfl hrest
      refine h.ends (List.IsPrefix.isInfix ?_)
      cases body with
      | nil => exact List.prefix_rfl
      | cons d body =>
        obtain ⟨rfl, -⟩ := List.cons.inj hrest
        exact ⟨body ++ ['\x7d'], rfl⟩
    · rintro rfl
      exact h.line List.mem_cons_self

theorem not_infix_of_closing? (h : closing? cs = some (body, after)) :
    ¬ ['\x7d', '\x7d'] <:+: body ++ ['\x7d'] := by
  fun_induction closing? cs generalizing body after with
  | case1 rest =>
    obtain ⟨rfl, -⟩ := Prod.mk.inj (Option.some.inj h)
    exact isBody_nil.ends
  | case2 => cases h
  | case3 c rest hclose _ body' after' hrest ih =>
    obtain ⟨rfl, -⟩ := Prod.mk.inj (Option.some.inj h)
    intro hinfix
    rcases List.infix_cons_iff.mp hinfix with ⟨more, hprefix⟩ | hinfix
    · obtain ⟨hc, hmore⟩ := List.cons.inj hprefix
      rw [eq_of_closing? hrest] at hclose
      cases body' with
      | nil => exact hclose _ hc.symm rfl
      | cons d body' =>
        obtain ⟨rfl, -⟩ := List.cons.inj hmore
        exact hclose _ hc.symm rfl
    · exact ih hrest hinfix
  | case4 => cases h
  | case5 => cases h

theorem isBody_of_closing? (h : closing? cs = some (body, after)) : IsBody body where
  line := newline_notMem_of_closing? h
  ends := not_infix_of_closing? h

/-! ## Where a placeholder opens -/

/-- The text starts with braces that its line closes again. -/
def Opens (cs : List Char) : Prop :=
  ∃ body, '\n' ∉ body ∧ Piece.source (.placeholder body) <+: cs

/-- At a character there is a placeholder or a literal, whichever the line allows. -/
theorem pieces_cons_cases (c : Char) (cs : List Char) :
    (∃ body after, c :: cs = Piece.source (.placeholder body) ++ after ∧ IsBody body ∧
      pieces (c :: cs) = .placeholder body :: pieces after) ∨
    (¬ Opens (c :: cs) ∧ pieces (c :: cs) = .literal c :: pieces cs) := by
  by_cases hbraces : ∃ rest, c :: cs = '\x7b' :: '\x7b' :: rest
  · obtain ⟨rest, hrest⟩ := hbraces
    obtain ⟨rfl, rfl⟩ := List.cons.inj hrest
    cases hclosing : closing? rest with
    | some found =>
      obtain ⟨body, after⟩ := found
      refine Or.inl ⟨body, after, ?_, isBody_of_closing? hclosing, pieces_of_closing? hclosing⟩
      rw [eq_of_closing? hclosing]
      simp [Piece.source]
    | none =>
      refine Or.inr ⟨?_, ?_⟩
      · rintro ⟨body, hline, after, hprefix⟩
        have hrest : body ++ '\x7d' :: '\x7d' :: after = rest := by
          simpa [Piece.source] using hprefix
        exact closing?_ne_none hline (hrest ▸ hclosing)
      · rw [pieces]
        split
        · rename_i h
          rw [hclosing] at h
          cases h
        · rfl
  · refine Or.inr ⟨?_, ?_⟩
    · rintro ⟨body, -, after, hprefix⟩
      exact hbraces ⟨body ++ ['\x7d', '\x7d'] ++ after, by rw [← hprefix]; simp [Piece.source]⟩
    · rw [pieces]
      rintro rest rfl rfl
      exact hbraces ⟨rest, rfl⟩

/-! ## The first placeholder -/

/-- The first placeholder of a text, between what stands before it and after it. No placeholder
opens before it. -/
structure FirstAt (cs before body after : List Char) : Prop where
  text : cs = before ++ Piece.source (.placeholder body) ++ after
  isBody : IsBody body
  first : ∀ front rest, before = front ++ rest → rest ≠ [] →
    ¬ Opens (rest ++ Piece.source (.placeholder body) ++ after)

theorem firstAt_of_closing? {rest : List Char} (h : closing? rest = some (body, after)) :
    FirstAt ('\x7b' :: '\x7b' :: rest) [] body after where
  text := by
    rw [eq_of_closing? h]
    simp [Piece.source]
  isBody := isBody_of_closing? h
  first front rest hbefore hrest := absurd (List.append_eq_nil_iff.mp hbefore.symm).2 hrest

theorem FirstAt.tail {c : Char} (h : FirstAt (c :: cs) (c :: before) body after) :
    FirstAt cs before body after where
  text := (List.cons.inj h.text).2
  isBody := h.isBody
  first front rest hbefore hrest := h.first (c :: front) rest (congrArg (c :: ·) hbefore) hrest

theorem pieces_of_firstAt (h : FirstAt cs before body after) :
    pieces cs = before.map .literal ++ .placeholder body :: pieces after := by
  induction before generalizing cs with
  | nil =>
    rw [h.text]
    exact pieces_of_closing? (by simpa using closing?_of_isBody h.isBody after)
  | cons c before ih =>
    -- nothing opens at the first character, so the scan leaves it as a literal
    have hopens := h.first [] (c :: before) rfl (List.cons_ne_nil _ _)
    rw [← h.text] at hopens
    obtain ⟨cs, rfl⟩ : ∃ rest, cs = c :: rest := ⟨_, h.text⟩
    rcases pieces_cons_cases c cs with ⟨body', after', hcs, hbody', -⟩ | ⟨-, hpieces⟩
    · exact absurd ⟨body', hbody'.line, after', hcs.symm⟩ hopens
    · rw [hpieces, ih h.tail, List.map_cons, List.cons_append]

theorem firstAt_of_pieces {later : List Piece}
    (h : pieces cs = before.map .literal ++ .placeholder body :: later) :
    ∃ after, FirstAt cs before body after ∧ later = pieces after := by
  induction before generalizing cs with
  | nil =>
    cases cs with
    | nil => simp [pieces] at h
    | cons c cs =>
      rcases pieces_cons_cases c cs with ⟨body', after, hcs, hbody', hpieces⟩ | ⟨-, hpieces⟩
      · rw [hpieces] at h
        cases h
        refine ⟨after, ⟨hcs, hbody', fun front rest hnil hrest => ?_⟩, rfl⟩
        exact absurd (List.append_eq_nil_iff.mp hnil.symm).2 hrest
      · rw [hpieces] at h
        cases h
  | cons d before ih =>
    cases cs with
    | nil => simp [pieces] at h
    | cons c cs =>
      rcases pieces_cons_cases c cs with ⟨body', after, -, -, hpieces⟩ | ⟨hopens, hpieces⟩
      · rw [hpieces] at h
        cases h
      · rw [hpieces] at h
        obtain ⟨hliteral, hrest⟩ := List.cons.inj h
        obtain rfl : c = d := Piece.literal.inj hliteral
        obtain ⟨after, hfirst, hlater⟩ := ih hrest
        refine ⟨after, ⟨congrArg (c :: ·) hfirst.text, hfirst.isBody, ?_⟩, hlater⟩
        intro front rest hbefore hne
        cases front with
        | nil =>
          rw [List.nil_append] at hbefore
          rw [← hbefore]
          rw [hfirst.text] at hopens
          exact hopens
        | cons x front => exact hfirst.first front rest (List.cons.inj hbefore).2 hne

theorem literals_inj {before' body' : List Char} {later later' : List Piece}
    (h : before.map Piece.literal ++ .placeholder body :: later =
      before'.map Piece.literal ++ .placeholder body' :: later') :
    before = before' ∧ body = body' := by
  induction before generalizing before' with
  | nil =>
    cases before' with
    | nil => exact ⟨rfl, Piece.placeholder.inj (List.cons.inj h).1⟩
    | cons => cases h
  | cons c before ih =>
    cases before' with
    | nil => cases h
    | cons d before' =>
      obtain ⟨hliteral, hrest⟩ := List.cons.inj h
      obtain ⟨rfl, rfl⟩ := ih hrest
      exact ⟨congrArg (· :: before) (Piece.literal.inj hliteral), rfl⟩

theorem FirstAt.unique {before' body' after' : List Char} (h : FirstAt cs before body after)
    (h' : FirstAt cs before' body' after') : before = before' ∧ body = body' ∧ after = after' := by
  obtain ⟨rfl, rfl⟩ := literals_inj ((pieces_of_firstAt h).symm.trans (pieces_of_firstAt h'))
  exact ⟨rfl, rfl, List.append_cancel_left (h.text.symm.trans h'.text)⟩

theorem exists_first_placeholder {ps : List Piece} (h : .placeholder body ∈ ps) :
    ∃ before body later, ps = List.map Piece.literal before ++ .placeholder body :: later := by
  induction ps with
  | nil => cases h
  | cons p ps ih =>
    cases p with
    | placeholder body' => exact ⟨[], body', ps, rfl⟩
    | literal c =>
      obtain ⟨before, body', later, rfl⟩ := ih ((List.mem_cons.mp h).resolve_left nofun)
      exact ⟨c :: before, body', later, rfl⟩

theorem exists_firstAt (h : HasBraces cs) : ∃ before body after, FirstAt cs before body after := by
  obtain ⟨body, hline, hinfix⟩ := h
  obtain ⟨body, hmem⟩ := exists_placeholder_of_infix hline hinfix
  obtain ⟨before, body, later, hpieces⟩ := exists_first_placeholder hmem
  obtain ⟨after, hfirst, -⟩ := firstAt_of_pieces hpieces
  exact ⟨before, body, after, hfirst⟩

theorem hasPlaceholders_of_firstAt {template : String}
    (h : FirstAt template.toList before body after) : hasPlaceholders template = true := by
  rw [hasPlaceholders_iff, pieces_of_firstAt h]
  exact ⟨body, by simp⟩

theorem paths_of_firstAt (h : FirstAt cs before body after) :
    paths (String.ofList cs) = String.ofList (trim body) :: paths (String.ofList after) := by
  rw [paths, paths, String.toList_ofList, String.toList_ofList, pieces_of_firstAt h,
    List.filterMap_append, List.filterMap_cons, List.filterMap_eq_nil_iff.mpr, List.nil_append]
  intro piece hpiece
  obtain ⟨c, -, rfl⟩ := List.mem_map.mp hpiece
  rfl

theorem paths_eq_nil_iff : paths (String.ofList cs) = [] ↔ ¬ HasBraces cs := by
  rw [← not_iff_not, not_not, ← ne_eq, ← hasPlaceholders_iff_paths, hasPlaceholders_iff_hasBraces,
    String.toList_ofList]

theorem length_paths_eq_one (h : FirstAt cs before body after) :
    (paths (String.ofList cs)).length = 1 ↔ ¬ HasBraces after := by
  rw [paths_of_firstAt h, List.length_cons, Nat.add_eq_right, List.length_eq_zero_iff,
    paths_eq_nil_iff]

theorem resolve_of_firstAt (h : FirstAt cs before body after) (hone : ¬ HasBraces after)
    (c : Context) : ∃ value, resolve (String.ofList cs) c =
      String.ofList (before ++ value ++ after) := by
  have hafter : (pieces after).flatMap (Piece.text c) = after := by
    have hplain := (keepsText c (String.ofList after)).plain (by rwa [String.toList_ofList])
    rwa [resolve, String.ofList_inj, String.toList_ofList] at hplain
  refine ⟨Piece.text c (.placeholder body), ?_⟩
  rw [resolve, String.toList_ofList, pieces_of_firstAt h, List.flatMap_append, List.flatMap_cons,
    hafter, List.flatMap_map]
  simp [Piece.text]

/-! ## Text around a text -/

theorem prefix_of_prefix_append {c : Char} {front back : List Char} (hc : c ∉ back)
    (h : front ++ [c] <+: cs ++ back) : front ++ [c] <+: cs := by
  induction back using List.reverseRecOn with
  | nil => rwa [List.append_nil] at h
  | append_singleton back x ih =>
    rw [← List.append_assoc] at h
    rcases List.prefix_concat_iff.mp h with heq | h
    · obtain ⟨-, rfl⟩ := List.append_singleton_inj.mp heq
      exact absurd (by simp) hc
    · exact ih (fun hmem => hc (List.mem_append_left [x] hmem)) h

theorem source_eq_append (body : List Char) : Piece.source (.placeholder body) =
    '\x7b' :: '\x7b' :: (body ++ ['\x7d']) ++ ['\x7d'] := by
  simp [Piece.source]

variable {lead trail : List Char}

theorem opens_of_append (htrail : '\x7d' ∉ trail) (h : Opens (cs ++ trail)) : Opens cs := by
  obtain ⟨body, hline, hprefix⟩ := h
  rw [source_eq_append] at hprefix
  exact ⟨body, hline, source_eq_append body ▸ prefix_of_prefix_append htrail hprefix⟩

theorem hasBraces_of_append (htrail : '\x7d' ∉ trail) (h : HasBraces (cs ++ trail)) :
    HasBraces cs := by
  obtain ⟨body, hline, front, back, heq⟩ := h
  have hprefix : front ++ Piece.source (.placeholder body) <+: cs ++ trail := ⟨back, heq⟩
  rw [source_eq_append, ← List.append_assoc] at hprefix
  obtain ⟨back, hback⟩ := prefix_of_prefix_append htrail hprefix
  rw [List.append_assoc front, ← source_eq_append] at hback
  exact ⟨body, hline, front, back, hback⟩

theorem FirstAt.surround (h : FirstAt cs before body after) (hlead : '\x7b' ∉ lead)
    (htrail : '\x7d' ∉ trail) :
    FirstAt (lead ++ (cs ++ trail)) (lead ++ before) body (after ++ trail) where
  text := by
    rw [h.text]
    simp only [List.append_assoc]
  isBody := h.isBody
  first front rest hbefore hrest hopens := by
    rcases List.append_eq_append_iff.mp hbefore with ⟨more, -, hmore⟩ | ⟨more, hmore, rfl⟩
    · rw [← List.append_assoc] at hopens
      exact h.first more rest hmore hrest (opens_of_append htrail hopens)
    · cases more with
      | nil =>
        rw [← List.append_assoc] at hopens
        exact h.first [] before rfl hrest (opens_of_append htrail hopens)
      | cons c more =>
        -- braces would open among the characters before the text
        obtain ⟨body', -, after', hprefix⟩ := hopens
        obtain ⟨rfl, -⟩ := List.cons.inj hprefix
        exact hlead (hmore ▸ by simp)

end Template

end Stepwise
