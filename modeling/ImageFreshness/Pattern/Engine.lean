/-!
# Patterns

Which texts are patterns, and what a pattern matches, is up to the engine that compiles it.
Everything about policies holds for any engine.
-/

namespace ImageFreshness

/-- Compiles patterns: for a text that is one, whether the pattern matches anywhere in a text. -/
class PatternEngine where
  compile? : String → Option (String → Bool)

variable [PatternEngine]

/-- A text that compiles, with what it was compiled to. -/
structure Pattern where
  source : String
  isMatch : String → Bool
  compiles : PatternEngine.compile? source = some isMatch

def Pattern.compile? (source : String) : Option Pattern :=
  match h : PatternEngine.compile? source with
  | some isMatch => some ⟨source, isMatch, h⟩
  | none => none

end ImageFreshness
