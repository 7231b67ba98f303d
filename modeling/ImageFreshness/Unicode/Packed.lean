import ImageFreshness.Unicode.CodeSet

/-!
# Packed tables

Reading the compact form in which the tables of this library are written: lines of words
separated by single blanks, a word being a decimal number, a number with a label, or numbers
joined by `+`.
-/

namespace ImageFreshness.Unicode.Packed

def pieces (sep : Char) (text : List Char) : List (List Char) :=
  text.foldr
    (fun c acc =>
      if c = sep then [] :: acc
      else match acc with
        | [] => [[c]]
        | piece :: rest => (c :: piece) :: rest)
    [[]]

def words (lines : List String) : List (List Char) :=
  lines.flatMap fun line => pieces ' ' line.toList

def number (digits : List Char) : Nat := Nat.ofDigitChars 10 digits 0

/-- Ranges from alternating gaps and lengths, counted from code point `start`. -/
def gapsFrom : Nat → List Nat → List (Nat × Nat)
  | start, gap :: len :: rest =>
    (start + gap, start + gap + len - 1) :: gapsFrom (start + gap + len) rest
  | _, _ => []

def gaps (lines : List String) : CodeSet := gapsFrom 0 ((words lines).map number)

/-- Consecutive runs, each written as its length followed by its label, from `start` on. -/
def labelledRunsFrom : Nat → List (List Char) → List (Nat × Nat × String)
  | _, [] => []
  | start, word :: rest =>
    let len := number (word.takeWhile Char.isDigit)
    (start, start + len - 1, String.ofList (word.dropWhile Char.isDigit)) ::
      labelledRunsFrom (start + len) rest

def labelledRuns (lines : List String) : List (Nat × Nat × String) :=
  labelledRunsFrom 0 (words lines)

/-- Runs written as gap, length and labels joined by `+`, from `start` on. -/
def labelledGapsFrom : Nat → List (List Char) → List (Nat × Nat × List String)
  | start, gap :: len :: labels :: rest =>
    let lo := start + number gap
    let next := lo + number len
    (lo, next - 1, (pieces '+' labels).map String.ofList) :: labelledGapsFrom next rest
  | _, _ => []

def labelledGaps (lines : List String) : List (Nat × Nat × List String) :=
  labelledGapsFrom 0 (words lines)

def sums (lines : List String) : List (List Nat) :=
  (words lines).map fun word => (pieces '+' word).map number

end ImageFreshness.Unicode.Packed
