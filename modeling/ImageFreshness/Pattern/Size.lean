import ImageFreshness.Pattern.Expr

/-!
# The size of patterns

A pattern is run as an automaton over the UTF-8 bytes of a text, and one whose automaton would
take more than `maxSize` bytes is refused.  `Expr.size` is the size of that automaton: a fixed
amount for each state, and some more for each way out of a state with several of them.
-/

namespace ImageFreshness.Pattern

open Unicode

/-- The ranges of digits in base 64 that the numbers from `lo` to `hi` go through, for numbers of
    `places` digits after the first. -/
def digitRanges : Nat → Nat → Nat → List (List (Nat × Nat))
  | 0, lo, hi => [[(lo, hi)]]
  | places + 1, lo, hi =>
    let unit := 64 ^ (places + 1)
    let first := lo / unit
    let last := hi / unit
    let within (digit lo hi : Nat) := (digitRanges places lo hi).map ((digit, digit) :: ·)
    if first = last then within first (lo % unit) (hi % unit)
    else
      let startsLate := lo % unit ≠ 0
      let endsEarly := hi % unit ≠ unit - 1
      let fullFirst := if startsLate then first + 1 else first
      let fullLast := if endsEarly then last - 1 else last
      (if startsLate then within first (lo % unit) (unit - 1) else []) ++
        (if fullFirst ≤ fullLast then
          [(fullFirst, fullLast) :: List.replicate (places + 1) (0, 63)] else []) ++
        (if endsEarly then within last 0 (hi % unit) else [])

/-- The blocks of characters whose UTF-8 form has the same number of bytes: first and last
    character, and the number of bytes after the first one. -/
def lengthBlocks : List (Nat × Nat × Nat) :=
  [(0, 0x7F, 0), (0x80, 0x7FF, 1), (0x800, 0xD7FF, 2), (0xE000, 0xFFFF, 2), (0x10000, 0x10FFFF, 3)]

/-- The sequences of ranges of bytes that the characters of a range go through. -/
def byteSequences (lo hi : Nat) : List (List (Nat × Nat)) :=
  lengthBlocks.flatMap fun (first, last, places) =>
    let lo := max lo first
    let hi := min hi last
    if lo ≤ hi then digitRanges places lo hi else []

def commonLength {α : Type} [DecidableEq α] : List α → List α → Nat
  | a :: as, b :: bs => if a = b then commonLength as bs + 1 else 0
  | _, _ => 0

/-- The number of different beginnings that some lists have, neighbours with the same beginning
    standing together. -/
def countBeginnings {α : Type} [DecidableEq α] : List α → List (List α) → Nat
  | _, [] => 0
  | before, list :: rest =>
    list.length - commonLength before list + countBeginnings list rest

def stateSize : Nat := 32

def setSize (set : CodeSet) : Nat :=
  match set with
  | [(lo, hi)] =>
    if lo = hi then stateSize * (byteSequences lo hi).flatten.length
    else listSize
  | _ => listSize
where
  listSize : Nat :=
    if set.isAscii then 2 * stateSize + 8 * set.length
    else
      let sequences := set.flatMap fun (lo, hi) => byteSequences lo hi
      stateSize * (countBeginnings [] sequences + 2) + 4 * sequences.length

/-- Whether an expression matches nothing but the empty text. -/
def Expr.isEmptyOnly : Expr → Bool
  | .oneOf _ => false
  | .look _ => true
  | .concat parts => allEmpty parts
  | .choice branches => allEmpty branches
  | .times _ most body => most = some 0 || body.isEmptyOnly
  | .capture body => body.isEmptyOnly
where
  allEmpty : List Expr → Bool
    | [] => true
    | expr :: rest => expr.isEmptyOnly && allEmpty rest

/-- The size of a repetition: its body is laid out once for every round that is counted. -/
def timesSize (least : Nat) (most : Option Nat) (body : Nat) : Nat :=
  match most with
  | none => (max least 1) * body + stateSize
  | some most => least * body + (most - least) * (body + stateSize) + stateSize

def Expr.size : Expr → Nat
  | .oneOf set => setSize set
  | .look _ => stateSize
  | .concat parts => max stateSize (sizes parts)
  | .choice branches => sizes branches + 2 * stateSize + 4 * branches.length
  | .times least most body =>
    if body.isEmptyOnly then timesSize (min least 1) (some (min (most.getD 1) 1)) body.size
    else timesSize least most body.size
  | .capture body => body.size + 2 * stateSize
where
  sizes : List Expr → Nat
    | [] => 0
    | expr :: rest => expr.size + sizes rest

def maxSize : Nat := 10485760

end ImageFreshness.Pattern
