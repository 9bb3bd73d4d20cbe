import Mathlib.Data.List.Induction
import Stepwise.Proofs.Numeric.Digits
import Stepwise.Proofs.Path.Raw

/-! # The grammar of paths -/

namespace Stepwise

/-! ## Segments and their texts -/

/-- A segment that can be written. -/
def Segment.Valid : Segment → Prop
  | key name => name ≠ "" ∧ ∀ c ∈ name.toList, Path.isNameChar c = true
  | index n => n < UInt64.size

theorem Segment.valid_key {name : String} (some : name ≠ "")
    (plain : name.toList.all Path.isNameChar = true) : (Segment.key name).Valid :=
  ⟨some, List.all_eq_true.mp plain⟩

/-- The text stands for the segment. An index may have zeros in front. -/
inductive Segment.Spells : Segment → List Char → Prop where
  | key {name : String} (some : name ≠ "") (plain : ∀ c ∈ name.toList, Path.isNameChar c = true) :
      Spells (.key name) ('.' :: name.toList)
  | index {digits : List Char} (some : digits ≠ []) (decimal : ∀ c ∈ digits, c.isDigit = true)
      (small : natOfDigits digits < UInt64.size) :
      Spells (.index (natOfDigits digits)) ('[' :: (digits ++ [']']))

namespace Path

/-- The segments fill the text. -/
inductive Spells : List Segment → List Char → Prop where
  | nil : Spells [] []
  | cons {segment : Segment} {segments : List Segment} {cs rest : List Char}
      (first : segment.Spells cs) (more : Spells segments rest) :
      Spells (segment :: segments) (cs ++ rest)

/-- The text is the name of the root with the segments after it. -/
def Written (root : Root) (segments : List Segment) (text : List Char) : Prop :=
  ∃ rest, text = root.name.toList ++ rest ∧ Spells segments rest

variable {segment : Segment} {segments : List Segment} {root : Root} {cs rest : List Char}

theorem Spells.head (h : Spells segments cs) :
    ∀ c, cs.head? = some c → isNameChar c = false := by
  cases h with
  | nil => simp
  | cons first _ =>
    cases first with
    | key | index =>
      intro c hc
      obtain rfl := Option.some.inj hc
      decide

/-! ## Reading segments -/

theorem segments?_key {name : String} (hsome : name ≠ "")
    (plain : ∀ c ∈ name.toList, isNameChar c = true) (h : Spells segments rest)
    (hrest : segments? rest = .ok segments) :
    segments? ('.' :: (name.toList ++ rest)) = .ok (.key name :: segments) := by
  have hname : (name.toList ++ rest).takeWhile isNameChar = name.toList :=
    takeWhile_append_of_head plain h.head
  have hafter : (name.toList ++ rest).dropWhile isNameChar = rest :=
    dropWhile_append_of_head plain h.head
  rw [segments?, hname, hafter, hrest, if_neg (by simpa using hsome), String.ofList_toList]

theorem segments?_index {digits : List Char} (hsome : digits ≠ [])
    (decimal : ∀ c ∈ digits, c.isDigit = true) (small : natOfDigits digits < UInt64.size)
    (hrest : segments? rest = .ok segments) :
    segments? ('[' :: (digits ++ ']' :: rest)) = .ok (.index (natOfDigits digits) :: segments) := by
  have hstop : ∀ c, (']' :: rest).head? = some c → c.isDigit = false := by
    intro c hc
    obtain rfl := Option.some.inj hc
    decide
  have hdigits : (digits ++ ']' :: rest).takeWhile Char.isDigit = digits :=
    takeWhile_append_of_head decimal hstop
  have hafter : (digits ++ ']' :: rest).dropWhile Char.isDigit = ']' :: rest :=
    dropWhile_append_of_head decimal hstop
  have hsmall : ¬ natOfDigits digits ≥ indexBound := Nat.not_le.mpr small
  rw [segments?, hdigits]
  split
  · rename_i rest' heq
    obtain rfl : rest = rest' := by
      rw [hafter] at heq
      exact (List.cons.inj heq).2
    rw [if_neg hsome, if_neg hsmall, hrest]
  · rename_i hne
    exact absurd hafter (hne rest)

theorem segments?_of_spells (h : Spells segments cs) : segments? cs = .ok segments := by
  induction h with
  | nil => rw [segments?]
  | cons first more ih =>
    cases first with
    | key some plain => exact segments?_key some plain more ih
    | index some decimal small =>
      rw [List.cons_append, List.append_assoc]
      exact segments?_index some decimal small ih

theorem spells_of_segments? (h : segments? cs = .ok segments) : Spells segments cs := by
  fun_induction segments? cs generalizing segments with
  | case1 =>
    cases h
    exact .nil
  | case3 rest name hname more hmore =>
    rename_i ih
    cases h
    have hspells : (Segment.key (String.ofList name)).Spells ('.' :: name) := by
      have hkey := @Segment.Spells.key (String.ofList name)
      rw [String.toList_ofList] at hkey
      refine hkey ?_ ?_
      · simpa using hname
      · intro c hc
        exact List.all_eq_true.mp List.all_takeWhile c hc
    have hspelled := Spells.cons hspells (ih hmore)
    rwa [List.cons_append, List.takeWhile_append_dropWhile] at hspelled
  | case7 rest digits rest' hrest hdigits hbound more hmore =>
    rename_i ih
    cases h
    have hspells : (Segment.index (natOfDigits digits)).Spells ('[' :: (digits ++ [']'])) := by
      refine .index hdigits ?_ (Nat.not_le.mp hbound)
      intro c hc
      exact List.all_eq_true.mp List.all_takeWhile c hc
    have hspelled := Spells.cons hspells (ih hmore)
    rwa [List.cons_append, List.append_assoc, List.singleton_append, ← hrest,
      List.takeWhile_append_dropWhile] at hspelled
  | case2 | case4 | case5 | case6 | case8 | case9 | case10 => cases h

/-! ## Reading paths -/

theorem root_name_isNameChar (root : Root) : ∀ c ∈ root.name.toList, isNameChar c = true := by
  have hall : root.name.toList.all isNameChar = true := by
    cases root <;> rfl
  exact List.all_eq_true.mp hall

theorem ofName?_name (root : Root) : Root.ofName? root.name = some root := by
  cases root <;> rfl

/-- The longest name that a text starts with. -/
def namePart (cs : List Char) : String := String.ofList (cs.takeWhile isNameChar)

theorem Written.namePart_eq (h : Written root segments cs) : namePart cs = root.name := by
  obtain ⟨rest, rfl, hrest⟩ := h
  rw [namePart, takeWhile_append_of_head (root_name_isNameChar root) hrest.head,
    String.ofList_toList]

theorem Written.spells (h : Written root segments cs) :
    Spells segments (cs.dropWhile isNameChar) := by
  obtain ⟨rest, rfl, hrest⟩ := h
  rwa [dropWhile_append_of_head (root_name_isNameChar root) hrest.head]

/-- What the reader answers to a text without blanks around it. -/
inductive Answers (cs : List Char) : Except PathError Path → Prop where
  | empty (nothing : cs = []) : Answers cs (.error .empty)
  | noRoot (some : cs ≠ []) (name : namePart cs = "") :
      Answers cs (.error (.malformed (String.ofList cs) .noRoot))
  | unknownRoot (name : namePart cs ≠ "") (unknown : ∀ root : Root, root.name ≠ namePart cs) :
      Answers cs (.error (.unknownRoot (namePart cs)))
  | malformed {root : Root} (fault : PathFault) (name : namePart cs = root.name)
      (unwritten : ∀ root segments, ¬ Written root segments cs) :
      Answers cs (.error (.malformed (String.ofList cs) fault))
  | path {root : Root} {segments : List Segment} (written : Written root segments cs) :
      Answers cs (.ok ⟨String.ofList cs, root, segments⟩)

theorem answers_parse (text : String) : Answers (trim text.toList) (parse text) := by
  unfold parse
  dsimp only
  split
  · rename_i hcs
    exact .empty hcs
  · rename_i hcs
    split
    · rename_i hname
      exact .noRoot hcs hname
    · rename_i hname
      split
      · rename_i hroot
        refine .unknownRoot hname ?_
        intro root heq
        rw [namePart] at heq
        rw [← heq, ofName?_name] at hroot
        cases hroot
      · rename_i root hroot
        have hpart := name_of_ofName? hroot
        split
        · rename_i segments hsegments
          refine .path ⟨_, ?_, spells_of_segments? hsegments⟩
          rw [← hpart, String.toList_ofList, List.takeWhile_append_dropWhile]
        · rename_i fault hfault
          refine .malformed fault hpart ?_
          intro root' segments hw
          rw [segments?_of_spells hw.spells] at hfault
          cases hfault

theorem root_name_ne (root : Root) : root.name ≠ "" := by
  cases root <;> decide

theorem root_ext {root root' : Root} (h : root.name = root'.name) : root = root' := by
  have hroot := ofName?_name root
  rw [h, ofName?_name] at hroot
  exact (Option.some.inj hroot).symm

theorem Written.unique {root' : Root} {segments' : List Segment} (h : Written root segments cs)
    (h' : Written root' segments' cs) : root = root' ∧ segments = segments' := by
  have hsegments := segments?_of_spells h.spells
  rw [segments?_of_spells h'.spells] at hsegments
  exact ⟨root_ext (h.namePart_eq.symm.trans h'.namePart_eq), (Except.ok.inj hsegments).symm⟩

theorem Written.ne_nil (h : Written root segments cs) : cs ≠ [] := by
  rintro rfl
  exact root_name_ne root h.namePart_eq.symm

theorem Answers.ok_iff {answer : Except PathError Path} {raw : String} (h : Answers cs answer) :
    answer = .ok ⟨raw, root, segments⟩ ↔ raw = String.ofList cs ∧ Written root segments cs := by
  constructor
  · rintro rfl
    cases h with
    | path written => exact ⟨rfl, written⟩
  · rintro ⟨rfl, hw⟩
    cases h with
    | empty nothing => exact absurd nothing hw.ne_nil
    | noRoot _ name => exact absurd (hw.namePart_eq.symm.trans name) (root_name_ne root)
    | unknownRoot _ unknown => exact absurd hw.namePart_eq.symm (unknown root)
    | malformed _ _ unwritten => exact absurd hw (unwritten root segments)
    | path written =>
      obtain ⟨rfl, rfl⟩ := hw.unique written
      rfl

theorem Answers.empty_iff {answer : Except PathError Path} (h : Answers cs answer) :
    answer = .error .empty ↔ cs = [] := by
  constructor
  · rintro rfl
    cases h with
    | empty nothing => exact nothing
  · rintro rfl
    cases h with
    | empty => rfl
    | noRoot some => exact absurd rfl some
    | unknownRoot name => exact absurd rfl name
    | malformed _ name => exact absurd name.symm (root_name_ne _)
    | path written => exact absurd rfl written.ne_nil

theorem Answers.unknownRoot_iff {answer : Except PathError Path} (h : Answers cs answer)
    (name : String) : answer = .error (.unknownRoot name) ↔
      name = namePart cs ∧ name ≠ "" ∧ ∀ root : Root, root.name ≠ name := by
  constructor
  · rintro rfl
    cases h with
    | unknownRoot name unknown => exact ⟨rfl, name, unknown⟩
  · rintro ⟨rfl, hname, hunknown⟩
    cases h with
    | empty nothing =>
      rw [nothing] at hname
      exact absurd rfl hname
    | noRoot _ name => exact absurd name hname
    | unknownRoot => rfl
    | malformed _ name => exact absurd name.symm (hunknown _)
    | path written => exact absurd written.namePart_eq.symm (hunknown _)

theorem Answers.malformed_iff {answer : Except PathError Path} (h : Answers cs answer) :
    (∃ fault, answer = .error (.malformed (String.ofList cs) fault)) ↔
      cs ≠ [] ∧ (namePart cs = "" ∨ ∃ root : Root, root.name = namePart cs) ∧
        ∀ root segments, ¬ Written root segments cs := by
  constructor
  · rintro ⟨fault, rfl⟩
    cases h with
    | noRoot some name =>
      refine ⟨some, Or.inl name, ?_⟩
      intro root segments hw
      exact root_name_ne root (hw.namePart_eq.symm.trans name)
    | malformed _ name unwritten =>
      refine ⟨?_, Or.inr ⟨_, name.symm⟩, unwritten⟩
      rintro rfl
      exact root_name_ne _ name.symm
  · rintro ⟨hcs, hname, hunwritten⟩
    cases h with
    | empty nothing => exact absurd nothing hcs
    | noRoot => exact ⟨_, rfl⟩
    | unknownRoot name unknown =>
      rcases hname with hname | ⟨root, hroot⟩
      · exact absurd hname name
      · exact absurd hroot (unknown root)
    | malformed fault => exact ⟨fault, rfl⟩
    | path written => exact absurd written (hunwritten _ _)

/-! ## Writing paths back -/

/-- The second text is the first one with zeros after opening brackets. -/
inductive ZeroPadded : List Char → List Char → Prop where
  | nil : ZeroPadded [] []
  | char (c : Char) {cs ds : List Char} (more : ZeroPadded cs ds) : ZeroPadded (c :: cs) (c :: ds)
  | index (zeros : Nat) {cs ds : List Char} (more : ZeroPadded cs ds) :
      ZeroPadded ('[' :: cs) ('[' :: (List.replicate zeros '0' ++ ds))

theorem zeroPadded_append (cs : List Char) {ds es : List Char} (h : ZeroPadded ds es) :
    ZeroPadded (cs ++ ds) (cs ++ es) := by
  induction cs with
  | nil => exact h
  | cons c cs ih => exact .char c ih

theorem zeroPadded_segment {ds es : List Char} (h : segment.Spells cs) (more : ZeroPadded ds es) :
    ZeroPadded (segment.chars ++ ds) (cs ++ es) := by
  cases h with
  | key => exact zeroPadded_append _ more
  | index some decimal small =>
    rename_i digits
    obtain ⟨zeros, hzeros⟩ := exists_zeros_append_toDigits some decimal
    have hpadded := ZeroPadded.index zeros
      (zeroPadded_append (Nat.toDigits 10 (natOfDigits digits)) (.char ']' more))
    rw [← List.append_assoc, ← hzeros] at hpadded
    simpa [Segment.chars] using hpadded

theorem zeroPadded_segments (h : Spells segments rest) :
    ZeroPadded (segments.flatMap Segment.chars) rest := by
  induction h with
  | nil => exact .nil
  | cons first _ ih => exact zeroPadded_segment first ih

theorem Written.zeroPadded (h : Written root segments cs) :
    ZeroPadded (render root segments).toList cs := by
  obtain ⟨rest, rfl, hrest⟩ := h
  rw [render, String.toList_ofList]
  exact zeroPadded_append _ (zeroPadded_segments hrest)

theorem spells_chars (h : segment.Valid) : segment.Spells segment.chars := by
  cases segment with
  | key name => exact .key h.1 h.2
  | index n =>
    have hspells := @Segment.Spells.index (Nat.toDigits 10 n) Nat.toDigits_ne_nil
      (List.all_eq_true.mp (all_isDigit_toDigits n))
    rw [natOfDigits_toDigits] at hspells
    exact hspells h

theorem spells_flatMap_chars (valid : ∀ segment ∈ segments, segment.Valid) :
    Spells segments (segments.flatMap Segment.chars) := by
  induction segments with
  | nil => exact .nil
  | cons segment segments ih =>
    have hfirst := spells_chars (valid segment List.mem_cons_self)
    exact .cons hfirst (ih fun s hs => valid s (List.mem_cons_of_mem _ hs))

theorem written_render (root : Root) (valid : ∀ segment ∈ segments, segment.Valid) :
    Written root segments (render root segments).toList := by
  refine ⟨segments.flatMap Segment.chars, ?_, spells_flatMap_chars valid⟩
  rw [render, String.toList_ofList]

/-! ## The grammar and the reader -/

/-- What the reader does with a text, by the text without the blanks around it. -/
structure FollowsGrammar (text : String) (cs : List Char) : Prop where
  /-- A path is what is written, and it keeps its text. -/
  ok_iff : ∀ raw root segments, parse text = .ok ⟨raw, root, segments⟩ ↔
    raw = String.ofList cs ∧ Written root segments cs
  empty_iff : parse text = .error .empty ↔ cs = []
  unknownRoot_iff : ∀ name, parse text = .error (.unknownRoot name) ↔
    name = namePart cs ∧ name ≠ "" ∧ ∀ root : Root, root.name ≠ name
  malformed_iff : (∃ fault, parse text = .error (.malformed (String.ofList cs) fault)) ↔
    cs ≠ [] ∧ (namePart cs = "" ∨ ∃ root : Root, root.name = namePart cs) ∧
      ∀ root segments, ¬ Written root segments cs
  /-- There are no other errors. -/
  failures : ∀ e, parse text = .error e → e = .empty ∨ (∃ name, e = .unknownRoot name) ∨
    ∃ fault, e = .malformed (String.ofList cs) fault
  /-- The text that is written for a path differs by zeros in front of its indexes only. -/
  written_back : ∀ p, parse text = .ok p → ZeroPadded (render p.root p.segments).toList cs

theorem followsGrammar (text : String) : FollowsGrammar text (trim text.toList) := by
  have h := answers_parse text
  refine ⟨fun _ _ _ => h.ok_iff, h.empty_iff, h.unknownRoot_iff, h.malformed_iff, ?_, ?_⟩
  · intro e he
    rw [he] at h
    cases h with
    | empty => exact Or.inl rfl
    | unknownRoot => exact Or.inr (Or.inl ⟨_, rfl⟩)
    | noRoot | malformed => exact Or.inr (Or.inr ⟨_, rfl⟩)
  · intro p hp
    exact (h.ok_iff.mp hp).2.zeroPadded

/-! ## Reading back -/

theorem isBlank_of_isNameChar {c : Char} (h : isNameChar c = true) : isBlank c = false := by
  simp only [isNameChar, Bool.and_eq_true, Bool.not_eq_true'] at h
  exact h.1.1.1

theorem isBlank_of_spells_segment (h : segment.Spells cs) : ∀ c ∈ cs, isBlank c = false := by
  intro c hc
  cases h with
  | key _ plain =>
    rcases List.mem_cons.mp hc with rfl | hc
    · decide
    · exact isBlank_of_isNameChar (plain c hc)
  | index _ decimal _ =>
    simp only [List.mem_cons, List.mem_append, List.not_mem_nil, or_false] at hc
    rcases hc with rfl | hc | rfl
    · decide
    · exact isBlank_of_isWordChar (isWordChar_of_isDigit (decimal c hc))
    · decide

theorem isBlank_of_spells (h : Spells segments rest) : ∀ c ∈ rest, isBlank c = false := by
  induction h with
  | nil => simp
  | cons first _ ih =>
    intro c hc
    rcases List.mem_append.mp hc with hc | hc
    · exact isBlank_of_spells_segment first c hc
    · exact ih c hc

theorem Written.trim_eq (h : Written root segments cs) : trim cs = cs := by
  obtain ⟨rest, rfl, hrest⟩ := h
  apply trim_eq_self
  intro c hc
  rcases List.mem_append.mp hc with hc | hc
  · exact isBlank_of_isNameChar (root_name_isNameChar root c hc)
  · exact isBlank_of_spells hrest c hc

theorem parse_render (root : Root) (valid : ∀ segment ∈ segments, segment.Valid) :
    parse (render root segments) = .ok ⟨render root segments, root, segments⟩ := by
  have hw := written_render root valid
  have hanswers := answers_parse (render root segments)
  rw [hw.trim_eq] at hanswers
  rw [hanswers.ok_iff, String.ofList_toList]
  exact ⟨rfl, hw⟩

/-- The reader of paths accepts exactly what the grammar allows, and reads back what is written. -/
theorem parse_grammar :
    (∀ text, FollowsGrammar text (trim text.toList)) ∧
      ∀ (root : Root) (segments : List Segment), (∀ segment ∈ segments, segment.Valid) →
        parse (render root segments) = .ok ⟨render root segments, root, segments⟩ :=
  ⟨followsGrammar, fun root _ valid => parse_render root valid⟩

theorem parse_grammar_indexed :
    parse (render .steps [.key "ask", .index 7]) =
      .ok ⟨render .steps [.key "ask", .index 7], .steps, [.key "ask", .index 7]⟩ := by
  refine parse_grammar.2 .steps [.key "ask", .index 7] ?_
  intro segment hsegment
  simp only [List.mem_cons, List.not_mem_nil, or_false] at hsegment
  rcases hsegment with rfl | rfl
  · exact Segment.valid_key (by decide) (by rfl)
  · exact (by decide : 7 < UInt64.size)

example : segments? ".ask[007]".toList = .ok [.key "ask", .index 7] := by cbv

end Path

end Stepwise
