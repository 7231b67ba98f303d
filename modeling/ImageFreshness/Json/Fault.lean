/-!
# What can be wrong with a JSON text
-/

namespace ImageFreshness.Json

inductive Fault where
  /-- The text ends before its value does. -/
  | unfinished
  | malformed
  /-- The text is JSON of another shape than the one asked for. -/
  | mismatched
  deriving DecidableEq, Repr

end ImageFreshness.Json
