import ImageFreshness.Pattern.Escape

/-!
# Reading classes in brackets
-/

namespace ImageFreshness.Pattern

def namedClass? (name : String) : Option NamedClass :=
  match name with
  | "alnum" => some .alnum
  | "alpha" => some .alpha
  | "ascii" => some .ascii
  | "blank" => some .blank
  | "cntrl" => some .cntrl
  | "digit" => some .digit
  | "graph" => some .graph
  | "lower" => some .lower
  | "print" => some .print
  | "punct" => some .punct
  | "space" => some .space
  | "upper" => some .upper
  | "word" => some .word
  | "xdigit" => some .xdigit
  | _ => none

def readNamedClass (cs : List Char) : Option (ClassSet × List Char) := do
  let (negated, cs) ← match cs with
    | ':' :: '^' :: rest => some (true, rest)
    | ':' :: rest => some (false, rest)
    | _ => none
  match cs.dropWhile (· ≠ ':') with
  | ':' :: ']' :: rest => do
    let cls ← namedClass? (String.ofList (cs.takeWhile (· ≠ ':')))
    return (.named negated cls, rest)
  | _ => none

/-- What is left of the text after the dashes at its front, each taken as a literal, last first. -/
def readDashes (verbose : Bool) : Nat → List ClassSet → List Char → List ClassSet × List Char
  | fuel + 1, items, '-' :: cs =>
    readDashes verbose fuel (.literal ⟨'-', false⟩ :: items) (skip verbose cs)
  | _, items, cs => (items, cs)

/-- Reads the start of a class after its opening bracket: whether it is negated, and the dashes or
    the closing bracket that stand for themselves because they come first. -/
def readClassStart (verbose : Bool) (cs : List Char) : Bool × List ClassSet × List Char :=
  let cs := skip verbose cs
  let (negated, cs) := match cs with
    | '^' :: rest => (true, skip verbose rest)
    | _ => (false, cs)
  match readDashes verbose cs.length [] cs with
  | ([], ']' :: rest) => (negated, [.literal ⟨']', false⟩], skip verbose rest)
  | (items, cs) => (negated, items, cs)

/-- The next character that counts after a dash.  In verbose mode white space does not count, nor
    does the sign that starts a comment. -/
def peekBehind (verbose : Bool) (cs : List Char) : Option Char :=
  if verbose then
    match cs.dropWhile Text.isBlank with
    | '#' :: rest => (rest.dropWhile Text.isBlank).head?
    | rest => rest.head?
  else cs.head?

def readClassItem (verbose : Bool) : List Char → Option (Primitive × List Char)
  | '\\' :: cs => readEscape verbose cs
  | c :: cs => some (.literal ⟨c, false⟩, cs)
  | [] => none

def readRange (verbose : Bool) (cs : List Char) : Option (ClassSet × List Char) := do
  let (first, cs) ← readClassItem verbose cs
  match skip verbose cs with
  | [] => none
  | c :: rest =>
    let next := peekBehind verbose rest
    if c ≠ '-' ∨ next = some ']' ∨ next = some '-' then return (← first.toSet?, c :: rest)
    else do
      let (last, cs) ← readClassItem verbose (skip verbose rest)
      match first, last with
      | .literal a, .literal b => if a.char ≤ b.char then some (.range a b, cs) else none
      | _, _ => none

/-- The union of some sets, given last first. -/
def unionOf : List ClassSet → ClassSet
  | [] => .empty
  | [set] => set
  | sets => .union sets.reverse

def combine (pending : Option (SetOperation × ClassSet)) (right : ClassSet) : ClassSet :=
  match pending with
  | some (op, left) => .operation op left right
  | none => right

/-- Reads a class up to its closing bracket.  `pending` is the operation whose right side is being
    read, `items` are the items of that side so far, last first. -/
def readClassRest (verbose : Bool) :
    Nat → Option (SetOperation × ClassSet) → List ClassSet → List Char →
      Option (ClassSet × List Char)
  | 0, _, _, _ => none
  | fuel + 1, pending, items, cs =>
    match skip verbose cs with
    | [] => none
    | ']' :: rest => some (combine pending (unionOf items), rest)
    | '[' :: rest =>
      match readNamedClass rest with
      | some (cls, rest) => readClassRest verbose fuel pending (cls :: items) rest
      | none => do
        let (negated, inner, rest) := readClassStart verbose rest
        let (set, rest) ← readClassRest verbose fuel none inner rest
        readClassRest verbose fuel pending (.bracketed negated set :: items) rest
    | '&' :: '&' :: rest =>
      readClassRest verbose fuel (some (.intersection, combine pending (unionOf items))) [] rest
    | '-' :: '-' :: rest =>
      readClassRest verbose fuel (some (.difference, combine pending (unionOf items))) [] rest
    | '~' :: '~' :: rest =>
      readClassRest verbose fuel (some (.symmetricDifference, combine pending (unionOf items)))
        [] rest
    | cs => do
      let (item, rest) ← readRange verbose cs
      readClassRest verbose fuel pending (item :: items) rest

def readClass (verbose : Bool) (cs : List Char) : Option (Ast × List Char) := do
  let (negated, items, rest) := readClassStart verbose cs
  let (set, rest) ← readClassRest verbose (cs.length + 1) none items rest
  return (.bracketed negated set, rest)

end ImageFreshness.Pattern
