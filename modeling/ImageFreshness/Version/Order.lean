import ImageFreshness.Version.Tag

/-!
# The order of versions

`lessThan` compares the numbers of two versions and then their metadata, word by word.  It is a
strict partial order and not a total one: a version without metadata is never below one with
metadata, so many pairs are not ordered at all.

Specification: section 4.1, `less_than` and `equal`.
-/

namespace ImageFreshness

open Text

/-- A maximal run of digits, or of other characters, in the metadata of a version. -/
inductive Word where
  | number (digits : List Char)
  | text (chars : List Char)
  deriving DecidableEq, Repr

namespace Word

def chars : Word → List Char
  | .number digits => digits
  | .text chars => chars

def split : List Char → List Word
  | [] => []
  | c :: cs =>
    match split cs, c.isDigit with
    | .number digits :: rest, true => .number (c :: digits) :: rest
    | .text chars :: rest, false => .text (c :: chars) :: rest
    | rest, true => .number [c] :: rest
    | rest, false => .text [c] :: rest

def compareText : List Char → List Char → Ordering
  | [], [] => .eq
  | [], _ :: _ => .lt
  | _ :: _, [] => .gt
  | a :: as, b :: bs => (compare a.toNat b.toNat).then (compareText as bs)

/-- Compares two runs of digits of any length by the number they denote: without leading zeros
    the longer run is the larger number. -/
def compareDigits (a b : List Char) : Ordering :=
  let a := a.dropWhile (· = '0')
  let b := b.dropWhile (· = '0')
  (compare a.length b.length).then (compareText a b)

/-- Compares two words.  Text comes before every number. -/
def compare : Word → Word → Ordering
  | .text a, .text b => compareText a b
  | .number a, .number b => compareDigits a b
  | .text _, .number _ => .lt
  | .number _, .text _ => .gt

/-- Whether the first list of words comes before the second.  Of two lists that agree as far as
    both go, the longer one comes first: more words mark an earlier build. -/
def listLess : List Word → List Word → Bool
  | [], _ => false
  | _ :: _, [] => true
  | a :: as, b :: bs =>
    match compare a b with
    | .lt => true
    | .gt => false
    | .eq => listLess as bs

end Word

namespace TagVersion

def numbers (v : TagVersion) : List Nat := [v.major, v.minor, v.patch]

def words (v : TagVersion) : List Word := Word.split v.metadata.toList

def compareNumbers : List Nat → List Nat → Ordering
  | a :: as, b :: bs => (Ord.compare a b).then (compareNumbers as bs)
  | _, _ => .eq

/-- Whether `a` comes strictly before `b`.  The empty tag comes before all others.  A version
    without metadata is not below one with metadata, whatever their numbers. -/
def lessThan (a b : TagVersion) : Bool :=
  if a.tag = "" ∨ b.tag = "" then a.tag = "" ∧ b.tag ≠ ""
  else if !a.hasMetadata && b.hasMetadata then false
  else
    match compareNumbers a.numbers b.numbers with
    | .lt => true
    | .gt => false
    | .eq => Word.listLess a.words b.words

def sameTag (a b : TagVersion) : Bool := a.tag = b.tag

end TagVersion

end ImageFreshness
