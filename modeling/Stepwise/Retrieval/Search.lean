import Stepwise.Handler.Basic
import Stepwise.Service.Error

/-! # Searching a collection -/

namespace Stepwise

open Json (required omittable need needOr)

structure SearchRequest where
  collectionId : String
  query : String
  topK : UInt64
  /-- Members that the metadata of every hit has. -/
  filters : List (String × Json) := []
  tenantId : String
deriving DecidableEq, Repr

namespace SearchRequest

def fields : List Json.FieldSpec :=
  [required "collectionId" Json.decodeString, required "query" Json.decodeString,
    required "topK" Json.decodeSize, omittable "filters" Json.decodeMap,
    required "tenantId" Json.decodeString]

def decode (origin : Origin) (j : Json) : Except DecodeError SearchRequest := do
  let r ← Json.decodeRecord origin "SearchRequest" fields j
  let collectionId ← need r "collectionId" Json.decodeString
  let query ← need r "query" Json.decodeString
  let topK ← need r "topK" Json.decodeSize
  let filters ← needOr r "filters" Json.decodeMap []
  let tenantId ← need r "tenantId" Json.decodeString
  return { collectionId, query, topK, filters, tenantId }

def toJson (r : SearchRequest) : Json :=
  .object [("collectionId", .string r.collectionId), ("query", .string r.query),
    ("topK", .nat r.topK.toNat), ("filters", .object r.filters), ("tenantId", .string r.tenantId)]

end SearchRequest

/-- A passage that was found. Its score is a number of the single format. -/
structure SearchHit where
  text : String
  score : Binary
  metadata : List (String × Json) := []
deriving DecidableEq, Repr

def SearchHit.toJson (h : SearchHit) : Json :=
  .object [("metadata", .object h.metadata), ("score", .ofBinary h.score), ("text", .string h.text)]

/-- A service that searches, in a world `σ`. -/
abbrev SearchService (σ : Type) :=
  SearchRequest → σ → Reply (Except ServiceError (List SearchHit)) × σ

end Stepwise
