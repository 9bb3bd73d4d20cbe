import Stepwise.Retrieval.Handler
import Stepwise.Retrieval.Store

/-! # What a tenant can find -/

namespace Stepwise

namespace Store

variable {s s₁ s₂ : Store} {tenantId : String}

/-- The documents that belong to a tenant, in all collections. -/
def ofTenant (s : Store) (tenantId : String) : Store := s.filter (·.belongsTo tenantId)

theorem ofTenant_ofTenant (s : Store) (tenantId : String) :
    (s.ofTenant tenantId).ofTenant tenantId = s.ofTenant tenantId := by
  rw [ofTenant, ofTenant, List.filter_filter]
  simp only [Bool.and_self]

theorem visible_eq_filter (s : Store) (collectionId tenantId : String) :
    s.visible collectionId tenantId =
      (s.ofTenant tenantId).filter (·.collectionId == collectionId) := by
  rw [ofTenant, List.filter_filter]
  rfl

theorem search_congr {r : SearchRequest} (same : s₁.ofTenant r.tenantId = s₂.ofTenant r.tenantId) :
    s₁.search r = s₂.search r := by
  rw [search, search, visible_eq_filter, visible_eq_filter, same]

end Store

theorem Retrieval.execute_congr {σ : Type} {s₁ s₂ : Store} {context : Context}
    (same : s₁.ofTenant context.scope.tenantId = s₂.ofTenant context.scope.tenantId)
    (params : Json) (world : σ) :
    (Retrieval.handler s₁.service).execute params context world =
      (Retrieval.handler s₂.service).execute params context world := by
  simp only [handler]
  split
  · rfl
  · simp only [Store.service]
    rw [Store.search_congr (r := _) same]

end Stepwise
