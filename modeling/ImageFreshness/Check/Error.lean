import ImageFreshness.Cache.Error

/-!
# What can go wrong with a check

Specification: section 12, `CheckError`.
-/

namespace ImageFreshness

/-- Why a check gave no verdict. -/
inductive CheckError where
  | notFound (imageUrl : String)
  | fetch (imageUrl : String) (error : CacheError)
  deriving DecidableEq, Repr

namespace CheckError

def message : CheckError → String
  | .notFound imageUrl => "No tag found for " ++ imageUrl ++ " matching the policy"
  | .fetch imageUrl error => "Failed to fetch tags for " ++ imageUrl ++ ": " ++ error.message

def isNotFound : CheckError → Bool
  | .notFound _ => true
  | .fetch _ _ => false

def isCancelled : CheckError → Bool
  | .fetch _ .cancelled => true
  | _ => false

end CheckError

end ImageFreshness
