/-! # Failures of services -/

namespace Stepwise

inductive ServiceError where
  | notFound (message : String)
  | validation (message : String)
  | provider (name message : String)
  | configuration (message : String)
  | internal (message : String)
deriving DecidableEq, Repr

namespace ServiceError

def message : ServiceError → String
  | notFound m => "Not found: " ++ m
  | validation m => "Validation error: " ++ m
  | provider name m => "Provider error: " ++ name ++ " - " ++ m
  | configuration m => "Configuration error: " ++ m
  | internal m => "Internal error: " ++ m

/-- The same call may succeed later. -/
def isTransient : ServiceError → Bool
  | provider .. => true
  | internal _ => true
  | _ => false

end ServiceError

end Stepwise
