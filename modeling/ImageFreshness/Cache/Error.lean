import ImageFreshness.Registry.Error

/-!
# What can go wrong with a cache lookup

Specification: section 12, `CacheError`.
-/

namespace ImageFreshness

inductive CacheError where
  /-- The cache cannot be used any more. -/
  | poisoned
  | cancelled
  | fetch (error : RegistryError)
  deriving DecidableEq, Repr

def CacheError.message : CacheError → String
  | .poisoned => "Cache lock poisoned"
  | .cancelled => "Fetch cancelled"
  | .fetch error => "Fetch failed: " ++ error.message

end ImageFreshness
