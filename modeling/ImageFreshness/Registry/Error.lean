import ImageFreshness.Text.Decimal

/-!
# What can go wrong with a registry

Specification: section 12, `RegistryError`.
-/

namespace ImageFreshness

inductive RegistryError where
  | network
  /-- The registry wants fewer requests; it may say for how many seconds. -/
  | rateLimited (retryAfter : Option Nat)
  | notFound (what : String)
  | invalidResponse (what : String)
  deriving DecidableEq, Repr

/-- The message of a registry error.  How the network failed is not part of it. -/
def RegistryError.message : RegistryError → String
  | .network => "Network error"
  | .rateLimited retryAfter =>
    let seconds := match retryAfter with
      | some n => "Some(" ++ String.ofList (Text.Decimal.ofNat n) ++ ")"
      | none => "None"
    "Rate limited: retry after " ++ seconds ++ " seconds"
  | .notFound what => "Image not found: " ++ what
  | .invalidResponse what => "Invalid response: " ++ what

end ImageFreshness
