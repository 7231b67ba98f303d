import ImageFreshness.Pattern.Ast
import ImageFreshness.Text.Blank
import ImageFreshness.Text.Cut
import ImageFreshness.Text.Decimal
import ImageFreshness.Text.Hex

/-!
# Reading escapes

What follows a backslash in a pattern.  In verbose mode white space and comments may stand almost
anywhere; `skip` passes over them.
-/

namespace ImageFreshness.Pattern

open Text

/-- Passes over white space and comments, from inside a comment or from outside. -/
def skipVerbose : Bool → List Char → List Char
  | _, [] => []
  | true, c :: cs => skipVerbose (c ≠ '\n') cs
  | false, c :: cs =>
    if isBlank c then skipVerbose false cs
    else if c = '#' then skipVerbose true cs
    else c :: cs

def skip (verbose : Bool) (cs : List Char) : List Char :=
  if verbose then skipVerbose false cs else cs

/-- Splits off the leading characters with `p`, at most `fuel` of them; in verbose mode white
    space after each does not count. -/
def collectAtMost (verbose : Bool) (p : Char → Bool) : Nat → List Char → List Char × List Char
  | fuel + 1, c :: cs =>
    if p c then
      let (more, rest) := collectAtMost verbose p fuel (skip verbose cs)
      (c :: more, rest)
    else ([], c :: cs)
  | _, cs => ([], cs)

def collect (verbose : Bool) (p : Char → Bool) (cs : List Char) : List Char × List Char :=
  collectAtMost verbose p cs.length cs

/-- A single piece of a pattern. -/
inductive Primitive where
  | literal (literal : Literal)
  | assertion (assertion : Assertion)
  | letter (negated : Bool) (cls : LetterClass)
  | property (negated : Bool) (query : PropertyQuery)

def Primitive.toAst : Primitive → Ast
  | .literal l => .literal l
  | .assertion a => .assertion a
  | .letter negated cls => .letter negated cls
  | .property negated query => .property negated query

def Primitive.toSet? : Primitive → Option ClassSet
  | .literal l => some (.literal l)
  | .assertion _ => none
  | .letter negated cls => some (.letter negated cls)
  | .property negated query => some (.property negated query)

def charOf? (n : Nat) : Option Char := if n.isValidChar then some (Char.ofNat n) else none

def isHex (c : Char) : Bool := (Hex.digit? c).isSome

def readHexDigits (verbose : Bool) :
    Nat → List Char → List Char → Option (Char × List Char)
  | 0, digits, cs => do
    let c ← charOf? (← Hex.value? digits.reverse)
    return (c, skip verbose cs)
  | count + 1, digits, cs =>
    match skip verbose cs with
    | c :: rest => if isHex c then readHexDigits verbose count (c :: digits) rest else none
    | [] => none

/-- A character given by hexadecimal digits: `count` of them, or any number in braces. -/
def readHex (verbose : Bool) (count : Nat) (cs : List Char) : Option (Literal × List Char) :=
  match skip verbose cs with
  | '\x7b' :: cs =>
    match collect verbose isHex (skip verbose cs) with
    | (d :: digits, '\x7d' :: rest) => do
      let c ← charOf? (← Hex.value? (d :: digits))
      return (⟨c, false⟩, skip verbose rest)
    | _ => none
  | cs => (readHexDigits verbose count [] cs).map fun (c, rest) => (⟨c, count = 2⟩, rest)

def cutAt (separator : List Char) : List Char → Option (List Char × List Char)
  | [] => none
  | c :: cs =>
    match afterPrefix? separator (c :: cs) with
    | some rest => some ([], rest)
    | none => (cutAt separator cs).map fun (before, after) => (c :: before, after)

/-- What the text between the braces of a property asks for, and whether for its complement. -/
def propertyQuery (name : List Char) : Bool × PropertyQuery :=
  match cutAt ['!', '='] name with
  | some (p, v) => (true, .value (String.ofList p) (String.ofList v))
  | none =>
    match cutAt [':'] name with
    | some (p, v) => (false, .value (String.ofList p) (String.ofList v))
    | none =>
      match cutAt ['='] name with
      | some (p, v) => (false, .value (String.ofList p) (String.ofList v))
      | none => (false, .name (String.ofList name))

def readProperty (verbose negated : Bool) (cs : List Char) : Option (Primitive × List Char) :=
  match skip verbose cs with
  | '\x7b' :: cs =>
    match collect verbose (· ≠ '\x7d') (skip verbose cs) with
    | (name, _ :: rest) =>
      let (complement, query) := propertyQuery name
      some (.property (negated != complement) query, rest)
    | (_, []) => none
  | '\\' :: _ => none
  | c :: rest => some (.property negated (.name c.toString), skip verbose rest)
  | [] => none

def isBoundaryChar (c : Char) : Bool :=
  ('A' ≤ c && c ≤ 'Z') || ('a' ≤ c && c ≤ 'z') || c = '-'

/-- A boundary of words: `\b`, or one named in braces.  Braces that start with no such name are
    left where they are. -/
def readBoundary (verbose : Bool) (cs : List Char) : Option (Primitive × List Char) :=
  match cs with
  | '\x7b' :: inner =>
    match skip verbose inner with
    | [] => none
    | c :: more =>
      if isBoundaryChar c then
        match collect verbose isBoundaryChar (c :: more) with
        | (name, '\x7d' :: rest) =>
          match String.ofList name with
          | "start" => some (.assertion .wordStart, rest)
          | "end" => some (.assertion .wordEnd, rest)
          | "start-half" => some (.assertion .wordStartHalf, rest)
          | "end-half" => some (.assertion .wordEndHalf, rest)
          | _ => none
        | _ => none
      else some (.assertion .wordBoundary, cs)
  | _ => some (.assertion .wordBoundary, cs)

def controlChar (c : Char) : Option Char :=
  match c with
  | 'a' => some '\x07'
  | 'f' => some '\x0c'
  | 't' => some '\t'
  | 'n' => some '\n'
  | 'r' => some '\r'
  | 'v' => some '\x0b'
  | _ => none

/-- Whether a character may stand after a backslash to mean itself: ASCII that is neither letter
    nor digit, and no angle bracket. -/
def isEscapable (c : Char) : Bool :=
  c.toNat < 0x80 && !c.isAlphanum && c ≠ '<' && c ≠ '>'

def readEscape (verbose : Bool) : List Char → Option (Primitive × List Char)
  | [] => none
  | c :: cs =>
    match c with
    | 'x' => (readHex verbose 2 cs).map fun (l, rest) => (.literal l, rest)
    | 'u' => (readHex verbose 4 cs).map fun (l, rest) => (.literal l, rest)
    | 'U' => (readHex verbose 8 cs).map fun (l, rest) => (.literal l, rest)
    | 'p' => readProperty verbose false cs
    | 'P' => readProperty verbose true cs
    | 'd' => some (.letter false .digit, cs)
    | 'D' => some (.letter true .digit, cs)
    | 's' => some (.letter false .space, cs)
    | 'S' => some (.letter true .space, cs)
    | 'w' => some (.letter false .word, cs)
    | 'W' => some (.letter true .word, cs)
    | 'A' => some (.assertion .startText, cs)
    | 'z' => some (.assertion .endText, cs)
    | 'b' => readBoundary verbose cs
    | 'B' => some (.assertion .noWordBoundary, cs)
    | '<' => some (.assertion .wordStart, cs)
    | '>' => some (.assertion .wordEnd, cs)
    | _ =>
      match controlChar c with
      | some control => some (.literal ⟨control, false⟩, cs)
      | none => if isEscapable c then some (.literal ⟨c, false⟩, cs) else none

end ImageFreshness.Pattern
