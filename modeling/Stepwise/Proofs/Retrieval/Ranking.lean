import Mathlib.Data.List.Pairwise
import Stepwise.Proofs.Retrieval.Numerals
import Stepwise.Proofs.Retrieval.Scores

/-! # What a search finds -/

namespace Stepwise

/-! ## Rankings -/

section Rankings

variable {α : Type} {documents ranking : List α} {key key' : α → ℚ}

/-- The documents in an order: the greater key first, and documents of one key as they stood. -/
structure RankedBy (key : α → ℚ) (documents ranking : List α) : Prop where
  perm : ranking.Perm documents
  descending : ranking.Pairwise fun a b => key b ≤ key a
  stable : ∀ d ∈ documents, ranking.filter (key · = key d) = documents.filter (key · = key d)

namespace RankedBy

theorem mem_iff (h : RankedBy key documents ranking) {d : α} : d ∈ ranking ↔ d ∈ documents :=
  h.perm.mem_iff

theorem congr (h : RankedBy key documents ranking)
    (same : ∀ a ∈ documents, ∀ b ∈ documents, key a ≤ key b ↔ key' a ≤ key' b) :
    RankedBy key' documents ranking where
  perm := h.perm
  descending := h.descending.imp_of_mem fun ha hb le =>
    (same _ (h.mem_iff.mp hb) _ (h.mem_iff.mp ha)).mp le
  stable := by
    intro d hd
    have heq : ∀ a ∈ documents, (key' a = key' d ↔ key a = key d) := fun a ha => by
      rw [le_antisymm_iff, le_antisymm_iff, same a ha d hd, same d hd a ha]
    have hfilter : ∀ l : List α, (∀ a ∈ l, a ∈ documents) →
        l.filter (key' · = key' d) = l.filter (key · = key d) := fun l hl =>
      List.filter_congr fun a ha => decide_eq_decide.mpr (heq a (hl a ha))
    rw [hfilter _ fun a ha => h.mem_iff.mp ha, hfilter _ fun _ ha => ha]
    exact h.stable d hd

end RankedBy

theorem rankedBy_mergeSort (key : α → ℚ) (documents : List α) :
    RankedBy key documents (documents.mergeSort fun a b => decide (key b ≤ key a)) := by
  have htrans : ∀ a b c : α, decide (key b ≤ key a) = true → decide (key c ≤ key b) = true →
      decide (key c ≤ key a) = true := by
    intro a b c hab hbc
    rw [decide_eq_true_eq] at hab hbc ⊢
    exact hbc.trans hab
  have htotal : ∀ a b : α, (decide (key b ≤ key a) || decide (key a ≤ key b)) = true := by
    intro a b
    rw [Bool.or_eq_true, decide_eq_true_eq, decide_eq_true_eq]
    exact le_total _ _
  have hperm := List.mergeSort_perm documents fun a b => decide (key b ≤ key a)
  refine ⟨hperm, ?_, fun d _ => ?_⟩
  · exact (List.pairwise_mergeSort htrans htotal documents).imp fun h => of_decide_eq_true h
  · -- documents of one key are in order already, so they stay a part of the sorted list
    have hequal : (documents.filter (key · = key d)).Pairwise fun a b =>
        decide (key b ≤ key a) = true := by
      refine List.pairwise_of_forall_mem_list fun a ha b hb => decide_eq_true ?_
      rw [List.mem_filter, decide_eq_true_eq] at ha hb
      exact (hb.2.trans ha.2.symm).le
    have hsub := (List.sublist_mergeSort htrans htotal hequal List.filter_sublist).filter
      (key · = key d)
    simp only [List.filter_filter, Bool.and_self] at hsub
    exact (hsub.eq_of_length (hperm.filter _).length_eq.symm).symm

end Rankings

/-! ## Documents that a search is about -/

/-- The document is in the collection, for the tenant or for all. -/
def Document.InView (d : Document) (r : SearchRequest) : Prop :=
  d.collectionId = r.collectionId ∧ (d.tenantId = none ∨ d.tenantId = some r.tenantId)

/-- The document has every filter and a term of the query. -/
def Document.Answers (d : Document) (r : SearchRequest) : Prop :=
  (∀ f ∈ r.filters, ∃ found, Named.lookup f.1 d.metadata = some found ∧ found.same f.2 = true) ∧
    (termsOf r.query ∩ termsOf d.text).Nonempty

/-- The hit that a document is shown as. -/
def SearchRequest.hit (r : SearchRequest) (d : Document) : SearchHit :=
  ⟨d.text, score (terms r.query) d.text, d.metadata⟩

variable {s : Store} {r : SearchRequest} {d : Document}

theorem Document.visibleTo_iff :
    d.visibleTo r.collectionId r.tenantId = true ↔ d.InView r := by
  rw [visibleTo, belongsTo, Bool.and_eq_true, beq_iff_eq, InView]
  cases d.tenantId with
  | none => simp
  | some t => simp

theorem Document.passes_iff : d.passes r.filters = true ↔
    ∀ f ∈ r.filters, ∃ found, Named.lookup f.1 d.metadata = some found ∧
      found.same f.2 = true := by
  simp [passes, Option.any_eq_true]

instance (d : Document) (r : SearchRequest) : Decidable (d.InView r) :=
  inferInstanceAs (Decidable (_ ∧ _))

instance (d : Document) (r : SearchRequest) : Decidable (d.Answers r) :=
  decidable_of_iff (d.passes r.filters = true ∧ 0 < (matched (terms r.query) d.text).length)
    (and_congr Document.passes_iff (shared_nonempty_iff r.query d.text).symm)

namespace Store

/-- The documents of the collection that the tenant can see. -/
def inView (s : Store) (r : SearchRequest) : List Document := s.filter (·.InView r)

/-- Those among them that a search has to find. -/
def answering (s : Store) (r : SearchRequest) : List Document := (s.inView r).filter (·.Answers r)

theorem visible_eq_inView (s : Store) (r : SearchRequest) :
    s.visible r.collectionId r.tenantId = s.inView r :=
  List.filter_congr fun _ _ => Bool.eq_iff_iff.mpr
    (Document.visibleTo_iff.trans decide_eq_true_iff.symm)

theorem isFinite_hit (hquery : r.query.length < UInt64.size) (d : Document) :
    (r.hit d).score.isFinite = true := isFinite_score hquery d.text

theorem hits_eq (hquery : r.query.length < UInt64.size) (documents : List Document) :
    hits documents r = (documents.filter (·.Answers r)).map r.hit := by
  have hscored : ∀ d, (Binary.zero false).less (r.hit d).score = true ↔
      (termsOf r.query ∩ termsOf d.text).Nonempty := fun d => by
    rw [Binary.less_iff rfl (isFinite_hit hquery d), Binary.value_zero]
    exact score_pos_iff hquery d.text
  unfold hits
  dsimp only
  rw [List.filter_map, List.filter_filter]
  refine congrArg (List.map r.hit) (List.filter_congr fun d _ => Bool.eq_iff_iff.mpr ?_)
  rw [Bool.and_eq_true, decide_eq_true_iff, Document.passes_iff, and_comm]
  exact and_congr_right fun _ => hscored d

theorem ranked_hits (hquery : r.query.length < UInt64.size) (documents : List Document) :
    ranked (documents.map r.hit) =
      (documents.mergeSort fun a b => decide ((r.hit b).score.value ≤ (r.hit a).score.value)).map
        r.hit := by
  refine (List.map_mergeSort fun a _ b _ => Bool.eq_iff_iff.mpr ?_).symm
  rw [decide_eq_true_iff, Binary.atMost_iff (isFinite_hit hquery b) (isFinite_hit hquery a)]

/-- A search cuts off the ranking of the documents that answer. -/
theorem search_eq (hquery : r.query.length < UInt64.size) (hview : s.inView r ≠ [])
    (topK : UInt64) :
    s.search { r with topK } = .ok ((((s.answering r).mergeSort fun a b =>
      decide ((r.hit b).score.value ≤ (r.hit a).score.value)).take topK.toNat).map r.hit) := by
  rw [search, visible_eq_inView]
  refine (if_neg hview).trans ?_
  rw [hits_eq (r := { r with topK }) hquery, ranked_hits (r := { r with topK }) hquery,
    ← List.map_take]
  rfl

/-- A search finds the best of the documents that answer, as many as it asks for. Only a query of
more than `2 ^ 24` terms can have different shares that are rounded to one score. -/
theorem search_exact (s : Store) (r : SearchRequest) (hquery : r.query.length < UInt64.size) :
    (s.inView r = [] → s.search r = .error (.notFound ("Collection '" ++ r.collectionId
      ++ "' not found for tenant '" ++ r.tenantId ++ "'"))) ∧
    (s.inView r ≠ [] → ∃ ranking,
      RankedBy (fun d => (r.hit d).score.value) (s.answering r) ranking ∧
      (∀ d ∈ ranking, ∀ e ∈ ranking, share r.query d.text ≤ share r.query e.text →
        (r.hit d).score.value ≤ (r.hit e).score.value) ∧
      ((termsOf r.query).ncard ≤ 2 ^ 24 →
        RankedBy (fun d => share r.query d.text) (s.answering r) ranking ∧
        ∀ d ∈ ranking, BinaryFormat.single.Rounds (share r.query d.text) (r.hit d).score.value) ∧
      (∀ topK, s.search { r with topK } = .ok ((ranking.take topK.toNat).map r.hit)) ∧
      ∀ fewer more : UInt64, fewer ≤ more → ∃ front rest,
        s.search { r with topK := fewer } = .ok front ∧
        s.search { r with topK := more } = .ok (front ++ rest)) := by
  refine ⟨fun hnil => ?_, fun hview => ?_⟩
  · rw [search, visible_eq_inView, hnil]
    rfl
  · have hranked := rankedBy_mergeSort (fun d => (r.hit d).score.value) (s.answering r)
    have hsearch := search_eq hquery hview
    generalize (s.answering r).mergeSort _ = ranking at hranked hsearch
    refine ⟨ranking, hranked, fun d _ e _ le => score_mono hquery le,
      fun few => ⟨?_, fun d hd => ?_⟩, hsearch, fun fewer more le => ?_⟩
    · exact hranked.congr fun a _ b _ => score_le_iff hquery few
    · have hanswers := (List.mem_filter.mp (hranked.mem_iff.mp hd)).2
      exact score_rounds_share hquery few (of_decide_eq_true hanswers).2
    · have hprefix : ranking.take fewer.toNat <+: ranking.take more.toNat :=
        List.take_prefix_take_left (UInt64.le_iff_toNat_le.mp le)
      obtain ⟨rest, hrest⟩ := hprefix.map r.hit
      exact ⟨_, rest, hsearch fewer, by rw [hsearch more, ← hrest]⟩

/-- Two documents, one of them for one tenant. -/
def shelf : Store := [⟨"docs", none, "Rust and Go", []⟩, ⟨"docs", some "acme", "Rust", []⟩]

/-- A search of the shelf for one hit. -/
def shelfRequest (collectionId : String) : SearchRequest := ⟨collectionId, "rust", 1, [], "acme"⟩

theorem search_exact_shelf :
    shelf.search (shelfRequest "kb") =
        .error (.notFound "Collection 'kb' not found for tenant 'acme'") ∧
      ∃ ranking, RankedBy (fun d => share "rust" d.text) (shelf.answering (shelfRequest "docs"))
          ranking ∧
        shelf.search (shelfRequest "docs") =
          .ok ((ranking.take 1).map (shelfRequest "docs").hit) := by
  obtain ⟨hmissing, -⟩ := search_exact shelf (shelfRequest "kb") (by decide)
  obtain ⟨-, hfound⟩ := search_exact shelf (shelfRequest "docs") (by decide)
  obtain ⟨ranking, -, -, hshare, hsearch, -⟩ := hfound (by decide)
  have hfew : (termsOf "rust").ncard ≤ 2 ^ 24 := by
    rw [ncard_termsOf]
    exact (length_terms_le "rust").trans (by decide)
  exact ⟨hmissing (by decide), ranking, (hshare hfew).1, hsearch 1⟩

/-! ### More terms than the single format counts -/

/-- A document of the numbers below `n`. -/
def tally (n : ℕ) : Document := ⟨"docs", none, numerals n, []⟩

def tallies : Store := [tally (2 ^ 24), tally (2 ^ 24 + 1)]

/-- One term more than the single format counts exactly. -/
def tallyRequest : SearchRequest := ⟨"docs", numerals (2 ^ 24 + 1), 1, [], "acme"⟩

theorem tally_answers {n : ℕ} (hpos : 0 < n) (h : n ≤ 2 ^ 24 + 1) :
    (tally n).Answers tallyRequest := by
  refine ⟨fun f hf => absurd hf List.not_mem_nil, Set.nonempty_of_ncard_ne_zero ?_⟩
  exact (ncard_shared_numerals h).trans_ne hpos.ne'

theorem answering_tallies : tallies.answering tallyRequest = tallies := by
  have hview : tallies.inView tallyRequest = tallies :=
    List.filter_eq_self.mpr fun d hd => decide_eq_true (by
      rcases List.mem_pair.mp hd with rfl | rfl <;> exact ⟨rfl, .inl rfl⟩)
  rw [answering, hview]
  refine List.filter_eq_self.mpr fun d hd => decide_eq_true ?_
  rcases List.mem_pair.mp hd with rfl | rfl
  · exact tally_answers (by decide) (by decide)
  · exact tally_answers (by decide) (by decide)

-- The query has as many terms as the single format does not tell from one less.
theorem score_tallies : (tallyRequest.hit (tally (2 ^ 24))).score =
    (tallyRequest.hit (tally (2 ^ 24 + 1))).score := by
  have hsame : Binary.ofInt .single (2 ^ 24 : ℕ) = Binary.ofInt .single (2 ^ 24 + 1 : ℕ) := by
    decide +kernel
  have hpart := score_numerals (Nat.le_succ (2 ^ 24)) (Nat.succ_pos _)
  have hwhole := score_numerals (Nat.le_refl (2 ^ 24 + 1)) (Nat.succ_pos _)
  rw [hsame] at hpart
  exact hpart.trans hwhole.symm

/-- The second document has all the terms of the query, but the first is found. -/
theorem search_inexact :
    tallyRequest.query.length < UInt64.size ∧
      share tallyRequest.query (tally (2 ^ 24)).text <
        share tallyRequest.query (tally (2 ^ 24 + 1)).text ∧
      tallies.search tallyRequest = .ok [tallyRequest.hit (tally (2 ^ 24))] ∧
      ¬∃ ranking, RankedBy (fun d => share tallyRequest.query d.text)
          (tallies.answering tallyRequest) ranking ∧
        tallies.search tallyRequest =
          .ok ((ranking.take tallyRequest.topK.toNat).map tallyRequest.hit) := by
  have hquery : tallyRequest.query.length < UInt64.size :=
    (length_numerals_le (by decide)).trans_lt (by decide)
  have hshare : share tallyRequest.query (tally (2 ^ 24)).text <
      share tallyRequest.query (tally (2 ^ 24 + 1)).text := by
    have hpart := share_numerals (Nat.le_succ (2 ^ 24))
    have hwhole := share_numerals (Nat.le_refl (2 ^ 24 + 1))
    refine hpart.trans_lt (lt_of_lt_of_eq ?_ hwhole.symm)
    norm_num
  have hsearch : tallies.search tallyRequest = .ok [tallyRequest.hit (tally (2 ^ 24))] := by
    have hview : tallies.inView tallyRequest ≠ [] := fun hnil => by
      have hanswering := answering_tallies
      rw [answering, hnil] at hanswering
      cases hanswering
    have hsorted : tallies.mergeSort (fun a b => decide ((tallyRequest.hit b).score.value ≤
        (tallyRequest.hit a).score.value)) = tallies :=
      List.mergeSort_of_pairwise (List.pairwise_pair.mpr (decide_eq_true
        (congrArg Binary.value score_tallies).ge))
    refine (search_eq hquery hview 1).trans ?_
    rw [answering_tallies, hsorted]
    rfl
  refine ⟨hquery, hshare, hsearch, ?_⟩
  rintro ⟨ranking, hranked, htake⟩
  rw [answering_tallies] at hranked
  rw [hsearch] at htake
  have hwhole : tally (2 ^ 24 + 1) ∈ ranking := hranked.mem_iff.mpr (by simp [tallies])
  cases ranking with
  | nil => cases hwhole
  | cons d rest =>
    have hfirst : tallyRequest.hit (tally (2 ^ 24)) = tallyRequest.hit d :=
      (List.cons.inj (Except.ok.inj htake)).1
    have htext : (tally (2 ^ 24)).text = d.text := (SearchHit.mk.inj hfirst).1
    rw [htext] at hshare
    rcases List.mem_cons.mp hwhole with rfl | hrest
    · exact lt_irrefl _ hshare
    · exact (List.rel_of_pairwise_cons hranked.descending hrest).not_gt hshare

end Store

end Stepwise
