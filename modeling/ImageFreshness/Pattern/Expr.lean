import ImageFreshness.Pattern.Charset

/-!
# What patterns match

A pattern without flags and names: sets of characters, tests of positions, sequences, choices and
repetitions.  `Ast.toExpr?` gives the expression of a pattern that was read.
-/

namespace ImageFreshness.Pattern

open Unicode

inductive Look where
  | textStart | textEnd | lineStart | lineEnd | crlfStart | crlfEnd
  /-- Words of ASCII characters only, or of all characters. -/
  | wordBoundary (unicode : Bool) | noWordBoundary (unicode : Bool)
  | wordStart (unicode : Bool) | wordEnd (unicode : Bool)
  | wordStartHalf (unicode : Bool) | wordEndHalf (unicode : Bool)
  deriving DecidableEq, Repr

inductive Expr where
  | oneOf (set : CodeSet)
  | look (test : Look)
  | concat (parts : List Expr)
  | choice (branches : List Expr)
  | times (least : Nat) (most : Option Nat) (body : Expr)
  | capture (body : Expr)

def Expr.empty : Expr := .concat []

def Assertion.toLook (flags : Flags) : Assertion → Look
  | .startLine =>
    if flags.multiLine then if flags.crlf then .crlfStart else .lineStart else .textStart
  | .endLine => if flags.multiLine then if flags.crlf then .crlfEnd else .lineEnd else .textEnd
  | .startText => .textStart
  | .endText => .textEnd
  | .wordBoundary => .wordBoundary flags.unicode
  | .noWordBoundary => .noWordBoundary flags.unicode
  | .wordStart => .wordStart flags.unicode
  | .wordEnd => .wordEnd flags.unicode
  | .wordStartHalf => .wordStartHalf flags.unicode
  | .wordEndHalf => .wordEndHalf flags.unicode

/-- The characters that a literal matches.  Where Unicode is off a byte that is no character by
    itself is no literal, and only ASCII letters have another case. -/
def Flags.literalSet (flags : Flags) (l : Literal) : Option CodeSet :=
  let n := l.char.toNat
  if flags.unicode || n < 0x80 then some (flags.fold [(n, n)])
  else if l.isByte then none
  else some [(n, n)]

def Flags.dotSet (flags : Flags) : Option CodeSet :=
  if !flags.unicode then none
  else if flags.dotAll then some CodeSet.univ
  else if flags.crlf then some (CodeSet.complement [(0x0A, 0x0A), (0x0D, 0x0D)])
  else some (CodeSet.complement [(0x0A, 0x0A)])

/-- The expression of a pattern, and the flags after it. -/
def Ast.toExpr? (flags : Flags) : Ast → Option (Expr × Flags)
  | .empty => some (.empty, flags)
  | .flags changes => some (.empty, flags.apply changes)
  | .literal l => (flags.literalSet l).map fun set => (.oneOf set, flags)
  | .dot => flags.dotSet.map fun set => (.oneOf set, flags)
  | .assertion a => some (.look (a.toLook flags), flags)
  | .letter negated cls => (flags.letterClass negated cls).map fun set => (.oneOf set, flags)
  | .property negated query =>
    (flags.propertyClass negated query).map fun set => (.oneOf set, flags)
  | .bracketed negated set => do
    return (.oneOf (← flags.negate negated (flags.fold (← set.ranges? flags))), flags)
  | .repetition least most body => do
    let (body, flags) ← body.toExpr? flags
    return (.times least most body, flags)
  | .group isCapture changes body => do
    let (body, _) ← body.toExpr? (flags.apply changes)
    return (if isCapture then .capture body else body, flags)
  | .concat parts => do
    let (parts, flags) ← listToExpr? flags parts
    return (.concat parts, flags)
  | .alternation branches => do
    let (branches, flags) ← listToExpr? flags branches
    return (.choice branches, flags)
where
  /-- The expressions of some patterns, each under the flags after the one before. -/
  listToExpr? (flags : Flags) : List Ast → Option (List Expr × Flags)
    | [] => some ([], flags)
    | ast :: rest => do
      let (expr, flags) ← ast.toExpr? flags
      let (exprs, flags) ← listToExpr? flags rest
      return (expr :: exprs, flags)

end ImageFreshness.Pattern
