import Stepwise.Retrieval.Search
import Stepwise.Text.Letters
import Stepwise.Text.LowerCase

/-! # Documents in memory -/

namespace Stepwise

open Json (required omittable need needOr memberIfSome)

structure Document where
  collectionId : String
  tenantId : Option String := none
  text : String
  metadata : List (String × Json) := []
deriving DecidableEq, Repr

namespace Document

def fields : List Json.FieldSpec :=
  [required "collectionId" Json.decodeString,
    omittable "tenantId" (Json.decodeOption Json.decodeString), required "text" Json.decodeString,
    omittable "metadata" Json.decodeMap]

def decode (origin : Origin) (j : Json) : Except DecodeError Document := do
  let r ← Json.decodeRecord origin "RetrievalDocument" fields j
  let collectionId ← need r "collectionId" Json.decodeString
  let tenantId ← needOr r "tenantId" (Json.decodeOption Json.decodeString) none
  let text ← need r "text" Json.decodeString
  let metadata ← needOr r "metadata" Json.decodeMap []
  return { collectionId, tenantId, text, metadata }

def toJson (d : Document) : Json :=
  .object ([("collectionId", .string d.collectionId)]
    ++ memberIfSome "tenantId" (d.tenantId.map .string)
    ++ [("text", .string d.text), ("metadata", .object d.metadata)])

/-- A document without a tenant is for every tenant. -/
def belongsTo (d : Document) (tenantId : String) : Bool := d.tenantId.all (· == tenantId)

def visibleTo (d : Document) (collectionId tenantId : String) : Bool :=
  d.collectionId == collectionId && d.belongsTo tenantId

/-- The document has every filter among its metadata. -/
def passes (d : Document) (filters : List (String × Json)) : Bool :=
  filters.all fun (key, expected) => (Named.lookup key d.metadata).any (·.same expected)

end Document

/-! ## Terms -/

/-- The longest runs of letters and numerals in a text. -/
def runs (cs : List Char) : List (List Char) :=
  match cs with
  | [] => []
  | c :: rest =>
    if isAlphanumeric c then
      (c :: rest.takeWhile isAlphanumeric) :: runs (rest.dropWhile isAlphanumeric)
    else runs rest
termination_by cs.length
decreasing_by
  · simpa using Nat.lt_succ_of_le (List.dropWhile_sublist isAlphanumeric).length_le
  · simp

/-- The different terms of a text, in lower case. -/
def terms (text : String) : List (List Char) := ((runs text.toList).map lowerCase).eraseDups

/-- The terms of a query that occur among the terms of a text. -/
def matched (queryTerms : List (List Char)) (text : String) : List (List Char) :=
  let docTerms := terms text
  queryTerms.filter docTerms.contains

/-- The share of the query terms that a text contains. -/
def score (queryTerms : List (List Char)) (text : String) : Binary :=
  if queryTerms = [] then .zero false
  else .divide .single (.ofInt .single (matched queryTerms text).length)
    (.ofInt .single queryTerms.length)

/-! ## Searching -/

abbrev Store := List Document

namespace Store

/-- The documents of a collection that a tenant can see. -/
def visible (s : Store) (collectionId tenantId : String) : List Document :=
  s.filter (·.visibleTo collectionId tenantId)

/-- Better hits come first. Hits with one score stay in the order of the documents. -/
def ranked (hits : List SearchHit) : List SearchHit :=
  hits.mergeSort fun a b => b.score.atMost a.score

def hits (documents : List Document) (r : SearchRequest) : List SearchHit :=
  let queryTerms := terms r.query
  let scored := (documents.filter (·.passes r.filters)).map fun d =>
    (⟨d.text, score queryTerms d.text, d.metadata⟩ : SearchHit)
  scored.filter fun h => (Binary.zero false).less h.score

def search (s : Store) (r : SearchRequest) : Except ServiceError (List SearchHit) :=
  let documents := s.visible r.collectionId r.tenantId
  if documents = [] then
    .error (.notFound ("Collection '" ++ r.collectionId ++ "' not found for tenant '"
      ++ r.tenantId ++ "'"))
  else .ok ((ranked (hits documents r)).take r.topK.toNat)

/-- The store as a service. It answers at once. -/
def service {σ : Type} (s : Store) : SearchService σ := fun r world => (.now (s.search r), world)

end Store

end Stepwise
