import ImageFreshness.Pattern.Engine
import ImageFreshness.Pattern.Match
import ImageFreshness.Pattern.Reader
import ImageFreshness.Pattern.Size

/-!
# The engine of the program

A pattern is read, and turned into an expression that is then looked for.  A text that is too large
an expression is no pattern.  There are tables for general categories, scripts and properties that
hold or do not; a pattern that asks for the value of any other property does not compile.
-/

namespace ImageFreshness.Pattern

/-- The expression that a text stands for. -/
def exprOf? (source : String) : Option Expr := do
  let ast ← Ast.parse? source.toList
  let (expr, _) ← ast.toExpr? .initial
  if expr.size ≤ maxSize then some expr else none

instance engine : PatternEngine where
  compile? source := (exprOf? source).map fun expr text => expr.occursIn text.toList

end ImageFreshness.Pattern
