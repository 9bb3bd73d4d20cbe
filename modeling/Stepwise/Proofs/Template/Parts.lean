import Mathlib.Data.List.Basic
import Stepwise.Proofs.Template.Pieces

/-! # Templates from parts -/

namespace Stepwise

namespace Template

/-- What a template can be put together from: texts, and placeholders by their bodies. -/
inductive Part where
  | text (s : String)
  | placeholder (body : String)
deriving DecidableEq, Repr

namespace Part

/-- A text that opens no placeholder, or a placeholder that ends with its own braces. -/
def IsPlain : Part → Prop
  | text s => '\x7b' ∉ s.toList
  | placeholder body => '\x7d' ∉ body.toList ∧ '\n' ∉ body.toList

instance (p : Part) : Decidable p.IsPlain :=
  match p with
  | text s => inferInstanceAs (Decidable ('\x7b' ∉ s.toList))
  | placeholder body => inferInstanceAs (Decidable ('\x7d' ∉ body.toList ∧ '\n' ∉ body.toList))

def isPlaceholder : Part → Bool
  | text _ => false
  | placeholder _ => true

def source : Part → String
  | text s => s
  | placeholder body => "\x7b\x7b" ++ body ++ "\x7d\x7d"

/-- A text stands for itself. A placeholder stands for what its path leads to, or for itself if its
path leads nowhere. -/
def value (c : Context) : Part → String
  | text s => s
  | placeholder body =>
    match Path.parse body with
    | .error _ => (placeholder body).source
    | .ok path =>
      match path.resolve c with
      | .error _ => (placeholder body).source
      | .ok v => formatted v

/-- The path of a placeholder. -/
def path? : Part → Option String
  | text _ => none
  | placeholder body => some (String.ofList (trim body.toList))

def pieces : Part → List Piece
  | text s => s.toList.map .literal
  | placeholder body => [.placeholder body.toList]

end Part

/-- The template that is put together from some parts. -/
def ofParts (parts : List Part) : String := String.join (parts.map Part.source)

/-! ## Where a template comes apart -/

theorem closing?_append {body : List Char} (hbrace : '\x7d' ∉ body) (hline : '\n' ∉ body)
    (after : List Char) : closing? (body ++ '\x7d' :: '\x7d' :: after) = some (body, after) := by
  induction body with
  | nil => simp [closing?]
  | cons c rest ih =>
    simp only [List.mem_cons, not_or] at hbrace hline
    have hrest := ih hbrace.2 hline.2
    rw [List.cons_append, closing?, hrest]
    · intro after' heq
      exact absurd heq.symm hbrace.1
    · intro heq
      exact hline.1 heq.symm

theorem pieces_of_closing? {rest body after : List Char} (h : closing? rest = some (body, after)) :
    pieces ('\x7b' :: '\x7b' :: rest) = .placeholder body :: pieces after := by
  rw [pieces]
  split
  · rename_i h'
    obtain ⟨rfl, rfl⟩ := Prod.mk.inj (Option.some.inj (h.symm.trans h'))
    rfl
  · rename_i h'
    rw [h] at h'
    cases h'

theorem pieces_cons {c : Char} (hc : c ≠ '\x7b') (rest : List Char) :
    pieces (c :: rest) = .literal c :: pieces rest := by
  rw [pieces]
  intro _ heq
  exact absurd heq hc

theorem pieces_append {cs : List Char} (h : '\x7b' ∉ cs) (rest : List Char) :
    pieces (cs ++ rest) = cs.map .literal ++ pieces rest := by
  induction cs with
  | nil => rfl
  | cons c cs ih =>
    simp only [List.mem_cons, not_or] at h
    rw [List.cons_append, pieces_cons (Ne.symm h.1), ih h.2, List.map_cons, List.cons_append]

theorem pieces_source_append {p : Part} (plain : p.IsPlain) (rest : List Char) :
    pieces (p.source.toList ++ rest) = p.pieces ++ pieces rest := by
  cases p with
  | text s => exact pieces_append plain rest
  | placeholder body =>
    have hclosing := closing?_append plain.1 plain.2 rest
    have hsource : (Part.placeholder body).source.toList ++ rest =
        '\x7b' :: '\x7b' :: (body.toList ++ '\x7d' :: '\x7d' :: rest) := by
      simp [Part.source]
    rw [hsource, pieces_of_closing? hclosing]
    rfl

theorem pieces_ofParts {parts : List Part} (plain : ∀ p ∈ parts, p.IsPlain) :
    pieces (ofParts parts).toList = parts.flatMap Part.pieces := by
  induction parts with
  | nil => simp [ofParts, pieces]
  | cons p parts ih =>
    have hrest := ih fun q hq => plain q (List.mem_cons_of_mem p hq)
    rw [ofParts, List.map_cons, String.join_cons, String.toList_append,
      pieces_source_append (plain p List.mem_cons_self)]
    rw [ofParts] at hrest
    rw [hrest, List.flatMap_cons]

/-! ## What becomes of the parts -/

theorem flatMap_text_pieces (c : Context) (p : Part) :
    p.pieces.flatMap (Piece.text c) = (p.value c).toList := by
  cases p with
  | text s => simp [Part.pieces, Part.value, Piece.text, List.flatMap_map]
  | placeholder body =>
    simp only [Part.pieces, Part.value, Piece.text, lookUp, List.flatMap_cons, List.flatMap_nil,
      List.append_nil, String.ofList_toList]
    cases Path.parse body with
    | error => simp [Part.source, Piece.source]
    | ok path =>
      dsimp only
      cases path.resolve c with
      | error => simp [Part.source, Piece.source]
      | ok => rfl

theorem resolve_of_pieces {template : String} {parts : List Part}
    (h : pieces template.toList = parts.flatMap Part.pieces) (c : Context) :
    resolve template c = String.join (parts.map (Part.value c)) := by
  apply String.toList_inj.mp
  rw [resolve, h, String.toList_ofList, String.toList_join, List.flatMap_assoc, List.flatMap_map]
  simp only [flatMap_text_pieces]

theorem paths_of_pieces {template : String} {parts : List Part}
    (h : pieces template.toList = parts.flatMap Part.pieces) :
    paths template = parts.filterMap Part.path? := by
  rw [paths, h, List.filterMap_flatMap, List.filterMap_eq_flatMap_toList]
  congr 1
  funext p
  cases p with
  | text s => simp [Part.pieces, Part.path?, List.filterMap_map]
  | placeholder body => rfl

theorem hasPlaceholders_of_pieces {template : String} {parts : List Part}
    (h : pieces template.toList = parts.flatMap Part.pieces) :
    hasPlaceholders template = parts.any Part.isPlaceholder := by
  rw [hasPlaceholders, h, List.any_flatMap]
  congr 1
  funext p
  cases p with
  | text s => simp [Part.pieces, Part.isPlaceholder]
  | placeholder body => rfl

/-- A template from parts resolves part by part, in one pass. Its placeholders are those among its
parts. -/
theorem resolve_ofParts (parts : List Part) (plain : ∀ p ∈ parts, p.IsPlain) (c : Context) :
    resolve (ofParts parts) c = String.join (parts.map (Part.value c)) ∧
      paths (ofParts parts) = parts.filterMap Part.path? ∧
      (hasPlaceholders (ofParts parts) = true ↔ ∃ p ∈ parts, p.isPlaceholder = true) := by
  have hpieces := pieces_ofParts plain
  refine ⟨resolve_of_pieces hpieces c, paths_of_pieces hpieces, ?_⟩
  rw [hasPlaceholders_of_pieces hpieces, List.any_eq_true]

/-! ## A value that looks like a template -/

/-- A text with closing braces, a placeholder with an opening brace in it, and one with blanks. -/
def tricky : List Part :=
  [.text "a \x7d\x7d ", .placeholder "\x7bx", .placeholder " input ", .text "\x7d"]

def trickyText : String :=
  "a \x7d\x7d \x7b\x7b\x7bx\x7d\x7d\x7b\x7b input \x7d\x7d\x7d"

/-- Its input is itself a placeholder. -/
def nested : Context :=
  .new (.string "\x7b\x7bsteps\x7d\x7d") ⟨"flow", "run", "tenant"⟩

theorem value_tricky : tricky.map (Part.value nested) =
    ["a \x7d\x7d ", "\x7b\x7b\x7bx\x7d\x7d", "\x7b\x7bsteps\x7d\x7d", "\x7d"] := by
  with_unfolding_all rfl

theorem resolve_ofParts_tricky : (∀ p ∈ tricky, p.IsPlain) ∧
    resolve trickyText nested =
      "a \x7d\x7d \x7b\x7b\x7bx\x7d\x7d\x7b\x7bsteps\x7d\x7d\x7d" ∧
    paths trickyText = ["\x7bx", "input"] ∧ hasPlaceholders trickyText = true := by
  have plain : ∀ p ∈ tricky, p.IsPlain := by decide
  have htext : trickyText = ofParts tricky := by decide
  obtain ⟨hresolve, hpaths, hhas⟩ := resolve_ofParts tricky plain nested
  rw [value_tricky] at hresolve
  rw [htext, hresolve, hpaths, hhas]
  exact ⟨plain, by decide, by decide, .placeholder " input ", by decide, by decide⟩

end Template

end Stepwise
