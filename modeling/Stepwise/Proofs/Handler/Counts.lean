import Stepwise.Proofs.Handler.Fields
import Stepwise.Proofs.Handler.Gate
import Stepwise.Proofs.Numeric.Digits

/-!
# Counts in params

As text an integer goes up to the greatest signed word, and as a number up to the greatest word.
-/

namespace Stepwise

variable {members : List (String × Json)} {v : Json}

/-! ## Counts -/

namespace Params

theorem nat?_nat (n : Nat) : nat? (.nat n) = some n := rfl

theorem nat?_toString {n : Nat} (h : n < UInt64.size) :
    nat? (.string (toString n)) = some n := by
  rw [nat?, toList_toString_nat, trim_toDigits, natOfText?_toDigits, if_pos (by omega)]

end Params

theorem ParamType.integer_accepts_nat (n : Nat) : integer.accepts (.nat n) = true := rfl

theorem ParamType.integer_accepts_toString (n : Nat) :
    integer.accepts (.string (toString n)) = isSignedWord n := by
  rw [accepts, toList_toString_nat, trim_toDigits, intOfText?_toDigits]
  cases isSignedWord n <;> rfl

/-! ## Searches -/

namespace Retrieval

/-- Params that ask for a search, whatever they say about the number of results. -/
structure Searches (members : List (String × Json)) (collectionId query : String)
    (filters : List (String × Json)) : Prop where
  names : Named.lookup "collectionId" members = some (.string collectionId)
  name_not_blank : trim collectionId.toList ≠ []
  asks : Named.lookup "query" members = some (.string query)
  query_not_blank : trim query.toList ≠ []
  filtered : ∃ given, Params.optionalObject (.object members) "filters" = .ok given ∧
    given.getD [] = filters
  bounded : ∃ given, Params.optionalDouble (.object members) "minScore" = .ok given

variable {collectionId query : String} {filters : List (String × Json)}

/-- The params with a number of results. -/
def withTopK (v : Json) (members : List (String × Json)) : List (String × Json) :=
  Named.insert "topK" v members

theorem present?_withTopK {n : Nat} (hread : Params.nat? v = some n) :
    Params.present? (.object (withTopK v members)) "topK" = some v := by
  have hv : v ≠ .null := by
    rintro rfl
    cases hread
  refine Params.present?_of_get? ?_ hv
  rw [Json.get?, withTopK, Named.lookup_insert, if_pos rfl]

theorem present?_withTopK_of_ne {name : String} (hne : "topK" ≠ name) (v : Json) :
    Params.present? (.object (withTopK v members)) name =
      Params.present? (.object members) name :=
  Params.present?_insert_of_ne hne v

namespace Searches

variable (h : Searches members collectionId query filters)
include h

theorem present?_collectionId (v : Json) :
    Params.present? (.object (withTopK v members)) "collectionId" = some (.string collectionId) :=
  (present?_withTopK_of_ne (by decide) v).trans (Params.present?_of_get?_string h.names)

theorem present?_query (v : Json) :
    Params.present? (.object (withTopK v members)) "query" = some (.string query) :=
  (present?_withTopK_of_ne (by decide) v).trans (Params.present?_of_get?_string h.asks)

theorem ofParams : ∃ minScore, ∀ {v : Json} {n : Nat}, Params.nat? v = some n → 0 < n →
    Query.ofParams (.object (withTopK v members)) =
      .ok ⟨collectionId, query, n, filters, minScore⟩ := by
  obtain ⟨given, hgiven, hfilters⟩ := h.filtered
  obtain ⟨least, hleast⟩ := h.bounded
  refine ⟨least.map (·.roundTo .single), fun {v n} hread hpos => ?_⟩
  have htopK : Params.optionalNat (.object (withTopK v members)) "topK" = .ok (some n) :=
    Params.optionalNat_of_present (present?_withTopK hread) hread
  have hfilters' : Params.optionalObject (.object (withTopK v members)) "filters" = .ok given := by
    rw [← hgiven, Params.optionalObject, Params.optionalObject, present?_withTopK_of_ne (by decide)]
  have hcollectionId : Params.requiredString (.object (withTopK v members)) "collectionId" =
      .ok collectionId :=
    (Params.requiredString_of_present (h.present?_collectionId v)).trans (if_neg h.name_not_blank)
  have hquery : Params.requiredString (.object (withTopK v members)) "query" = .ok query :=
    (Params.requiredString_of_present (h.present?_query v)).trans (if_neg h.query_not_blank)
  have hminScore : Params.optionalDouble (.object (withTopK v members)) "minScore" = .ok least := by
    rw [← hleast, Params.optionalDouble, Params.optionalDouble, present?_withTopK_of_ne (by decide)]
  unfold Query.ofParams
  rw [bind_of_ok htopK]
  dsimp only
  rw [Option.getD_some, if_neg hpos.ne', bind_of_ok hfilters', bind_of_ok hcollectionId,
    bind_of_ok hquery, bind_of_ok hminScore, ← hfilters]
  rfl

theorem check {n : Nat} (hread : Params.nat? v = some n) :
    schema.check (.object (withTopK v members)) = if ParamType.integer.accepts v then .ok () else
      .error (.invalidParams "param 'topK' must be of type Integer") := by
  obtain ⟨given, hgiven, -⟩ := h.filtered
  obtain ⟨least, hleast⟩ := h.bounded
  have hothers : ∀ f ∈ schema.fields.take 2 ++ schema.fields.drop 3,
      ParamSchema.faultOf? f (withTopK v members) = none := by
    simp only [schema, List.take_succ_cons, List.take_zero, List.drop_succ_cons, List.drop_zero,
      List.cons_append, List.nil_append, List.forall_mem_cons]
    refine ⟨?_, ?_, ?_, ?_, nofun⟩
    · exact (ParamSchema.faultOf?_of_present (h.present?_collectionId v)).trans (if_pos rfl)
    · exact (ParamSchema.faultOf?_of_present (h.present?_query v)).trans (if_pos rfl)
    · refine ParamSchema.faultOf?_of_optional rfl fun w hw => ?_
      rw [present?_withTopK_of_ne (by decide)] at hw
      exact Params.accepts_of_optionalObject hgiven hw
    · refine ParamSchema.faultOf?_of_optional rfl fun w hw => ?_
      rw [present?_withTopK_of_ne (by decide)] at hw
      exact Params.accepts_of_optionalDouble hleast hw
  have hfault : schema.fault? (.object (withTopK v members)) =
      if ParamType.integer.accepts v then none else some (.wrongType "topK" .integer) :=
    (ParamSchema.fault?_of_others rfl hothers).trans
      (ParamSchema.faultOf?_of_present (present?_withTopK hread))
  rw [ParamSchema.check, hfault]
  cases ParamType.integer.accepts v <;> rfl

theorem validate {n : Nat} (hread : Params.nat? v = some n) (hpos : 0 < n) :
    Retrieval.validate (.object (withTopK v members)) =
      if ParamType.integer.accepts v then .ok () else
        .error (.invalidParams "param 'topK' must be of type Integer") := by
  obtain ⟨minScore, hq⟩ := h.ofParams
  rw [Retrieval.validate, h.check hread]
  split
  · rw [hq hread hpos]
    rfl
  · rfl

end Searches

/-- A search with the number of results as text is the search with the number itself. The check lets
the number pass, and the text only up to the greatest signed word. -/
theorem topK_as_text {σ : Type} (h : Searches members collectionId query filters) {n : Nat}
    (hpos : 1 ≤ n) (hn : n < UInt64.size) (service : SearchService σ) (context : Context)
    (world : σ × List SearchRequest) :
    let asNumber : Json := .object (withTopK (.nat n) members)
    let asText : Json := .object (withTopK (.string (toString n)) members)
    let request : SearchRequest :=
      { collectionId, query, topK := .ofNat n, filters, tenantId := context.scope.tenantId }
    let execute := (handler (notingRequests id service)).execute
    validate asNumber = .ok () ∧
      validate asText = (if n < 0x8000000000000000 then .ok () else
        .error (.invalidParams "param 'topK' must be of type Integer")) ∧
      (execute asNumber context world).2.2 = world.2 ++ [request] ∧
      execute asText context world = execute asNumber context world := by
  intro asNumber asText request execute
  have hnumber : Params.nat? (.nat n) = some n := Params.nat?_nat n
  have htext : Params.nat? (.string (toString n)) = some n := Params.nat?_toString hn
  have hword : isSignedWord n = decide (n < 0x8000000000000000) := by
    rw [isSignedWord, Bool.eq_iff_iff]
    simp only [Bool.and_eq_true, decide_eq_true_eq]
    omega
  obtain ⟨minScore, hq⟩ := h.ofParams
  have asked {v : Json} (hread : Params.nat? v = some n) :
      execute (.object (withTopK v members)) context world =
        ((service request world.1).1.map (result ⟨collectionId, query, n, filters, minScore⟩),
          (service request world.1).2, world.2 ++ [request]) :=
    (handler_asks (notingRequests id service)).asked (hq hread hpos) context world
  refine ⟨?_, ?_, ?_, ?_⟩
  · rw [h.validate hnumber hpos, ParamType.integer_accepts_nat, if_pos rfl]
  · rw [h.validate htext hpos, ParamType.integer_accepts_toString, hword]
    simp only [decide_eq_true_eq]
  · exact congrArg (·.2.2) (asked hnumber)
  · exact (asked htext).trans (asked hnumber).symm

/-- A search without a number of results. -/
def rustSearch : List (String × Json) :=
  [("collectionId", .string "docs"), ("query", .string "rust")]

theorem searches_rustSearch : Searches rustSearch "docs" "rust" [] where
  names := rfl
  name_not_blank := by decide
  asks := rfl
  query_not_blank := by decide
  filtered := ⟨none, rfl, rfl⟩
  bounded := ⟨none, rfl⟩

theorem topK_as_text_unsigned :
    let asNumber : Json := .object (withTopK (.nat 0x8000000000000000) rustSearch)
    let asText : Json :=
      .object (withTopK (.string (toString 0x8000000000000000)) rustSearch)
    let noHits : SearchService Unit := fun _ world => (.now (.ok []), world)
    let execute := (handler (notingRequests id noHits)).execute
    let context : Context := .new .null ⟨"wf", "run", "acme"⟩
    Searches rustSearch "docs" "rust" [] ∧ 1 ≤ 0x8000000000000000 ∧
      0x8000000000000000 < UInt64.size ∧ validate asNumber = .ok () ∧
      validate asText = .error (.invalidParams "param 'topK' must be of type Integer") ∧
      (execute asNumber context ((), [])).2.2 =
        [⟨"docs", "rust", .ofNat 0x8000000000000000, [], "acme"⟩] ∧
      execute asText context ((), []) = execute asNumber context ((), []) := by
  intro asNumber asText noHits execute context
  obtain ⟨hnumber, htext, hrequest, hsame⟩ := topK_as_text searches_rustSearch
    (n := 0x8000000000000000) (by decide) (by decide) noHits context ((), [])
  exact ⟨searches_rustSearch, by decide, by decide, hnumber, htext, hrequest, hsame⟩

end Retrieval

end Stepwise
