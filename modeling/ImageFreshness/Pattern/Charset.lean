import ImageFreshness.Pattern.Ast
import ImageFreshness.Unicode.CaseFolding
import ImageFreshness.Unicode.Category
import ImageFreshness.Unicode.Property
import ImageFreshness.Unicode.Script

/-!
# The characters of a class

What the classes of a pattern stand for.  Where Unicode is off a class is one of bytes, and only
those bytes count that are characters by themselves.
-/

namespace ImageFreshness.Pattern

open Unicode

/-- The flags that are on at some place of a pattern, as far as they change what it matches. -/
structure Flags where
  ignoreCase : Bool
  multiLine : Bool
  dotAll : Bool
  unicode : Bool
  crlf : Bool
  deriving DecidableEq, Repr

def Flags.initial : Flags := ⟨false, false, false, true, false⟩

def Flags.apply (flags : Flags) (changes : FlagChanges) : Flags where
  ignoreCase := (changes.value? .ignoreCase).getD flags.ignoreCase
  multiLine := (changes.value? .multiLine).getD flags.multiLine
  dotAll := (changes.value? .dotAll).getD flags.dotAll
  unicode := (changes.value? .unicode).getD flags.unicode
  crlf := (changes.value? .crlf).getD flags.crlf

def NamedClass.ranges : NamedClass → CodeSet
  | .alnum => [(0x30, 0x39), (0x41, 0x5A), (0x61, 0x7A)]
  | .alpha => [(0x41, 0x5A), (0x61, 0x7A)]
  | .ascii => [(0x00, 0x7F)]
  | .blank => [(0x09, 0x09), (0x20, 0x20)]
  | .cntrl => [(0x00, 0x1F), (0x7F, 0x7F)]
  | .digit => [(0x30, 0x39)]
  | .graph => [(0x21, 0x7E)]
  | .lower => [(0x61, 0x7A)]
  | .print => [(0x20, 0x7E)]
  | .punct => [(0x21, 0x2F), (0x3A, 0x40), (0x5B, 0x60), (0x7B, 0x7E)]
  | .space => [(0x09, 0x0D), (0x20, 0x20)]
  | .upper => [(0x41, 0x5A)]
  | .word => [(0x30, 0x39), (0x41, 0x5A), (0x5F, 0x5F), (0x61, 0x7A)]
  | .xdigit => [(0x30, 0x39), (0x41, 0x46), (0x61, 0x66)]

def wordChars : CodeSet :=
  (alphabetic.union (ofCategories ["Mn", "Mc", "Me", "Nd", "Pc"])).union joinControl

def LetterClass.ranges (unicode : Bool) : LetterClass → CodeSet
  | .digit => if unicode then ofCategories ["Nd"] else NamedClass.digit.ranges
  | .space => if unicode then whiteSpace else NamedClass.space.ranges
  | .word => if unicode then wordChars else NamedClass.word.ranges

/-- The name of a property in the form in which names are compared: in lower case, without blanks,
    underscores, dashes, characters beyond ASCII, and the word `is` at its front. -/
def looseName (name : String) : String :=
  let cs := name.toList
  let startsWithIs : Bool := (cs.take 2).map Char.toLower = ['i', 's']
  let kept := (if startsWithIs then cs.drop 2 else cs).filter fun c =>
    c.toNat < 0x80 && c ≠ ' ' && c ≠ '_' && c ≠ '-'
  let loose := String.ofList (kept.map Char.toLower)
  -- the property `isc` is not the category `c`
  if startsWithIs && loose = "c" then "isc" else loose

def PropertyQuery.ranges? : PropertyQuery → Option CodeSet
  | .name asked =>
    let loose := looseName asked
    if loose = "cf" ∨ loose = "sc" ∨ loose = "lc" then categoryNamed loose
    else propertyNamed loose <|> categoryNamed loose <|> scriptNamed loose
  | .value property asked =>
    let loose := looseName asked
    match looseName property with
    | "gc" | "generalcategory" => categoryNamed loose
    | "sc" | "script" => scriptNamed loose
    | "scx" | "scriptextensions" => scriptExtensionsNamed loose
    | _ => none

/-- The letters of a set of bytes together with those of the other case. -/
def foldBytes (set : CodeSet) : CodeSet :=
  let upper := set.inter [(0x41, 0x5A)]
  let lower := set.inter [(0x61, 0x7A)]
  (set.union (upper.map fun (lo, hi) => (lo + 0x20, hi + 0x20))).union
    (lower.map fun (lo, hi) => (lo - 0x20, hi - 0x20))

def Flags.fold (flags : Flags) (set : CodeSet) : CodeSet :=
  if flags.ignoreCase then if flags.unicode then foldClosure set else foldBytes set else set

/-- The set or its complement.  A class of bytes may not hold bytes that are no characters. -/
def Flags.negate (flags : Flags) (negated : Bool) (set : CodeSet) : Option CodeSet :=
  if flags.unicode then some (if negated then set.complement else set)
  else
    let set := if negated then set.complement.inter [(0, 0xFF)] else set
    if set.isAscii then some set else none

/-- The code of a character in a class; in a class of bytes it has to be ASCII. -/
def Flags.code (flags : Flags) (l : Literal) : Option Nat :=
  if flags.unicode || l.char.toNat < 0x80 then some l.char.toNat else none

def Flags.letterClass (flags : Flags) (negated : Bool) (cls : LetterClass) : Option CodeSet :=
  flags.negate negated (cls.ranges flags.unicode)

/-- The characters with a property, or without it; there are no properties where Unicode is
    off. -/
def Flags.propertyClass (flags : Flags) (negated : Bool) (query : PropertyQuery) :
    Option CodeSet := do
  if flags.unicode then flags.negate negated (flags.fold (← query.ranges?)) else none

def SetOperation.apply : SetOperation → CodeSet → CodeSet → CodeSet
  | .intersection => CodeSet.inter
  | .difference => CodeSet.diff
  | .symmetricDifference => CodeSet.symmDiff

def ClassSet.ranges? (flags : Flags) : ClassSet → Option CodeSet
  | .empty => some []
  | .literal l => (flags.code l).map fun n => [(n, n)]
  | .range first last => do return [(← flags.code first, ← flags.code last)]
  | .named negated cls => flags.negate negated (flags.fold cls.ranges)
  | .letter negated cls => flags.letterClass negated cls
  | .property negated query => flags.propertyClass negated query
  | .bracketed negated set => do flags.negate negated (flags.fold (← set.ranges? flags))
  | .union parts => unionRanges? parts
  | .operation op left right => do
    return op.apply (flags.fold (← left.ranges? flags)) (flags.fold (← right.ranges? flags))
where
  unionRanges? : List ClassSet → Option CodeSet
    | [] => some []
    | set :: rest => do return (← set.ranges? flags).union (← unionRanges? rest)

end ImageFreshness.Pattern
