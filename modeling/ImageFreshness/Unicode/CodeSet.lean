/-!
# Sets of code points

A set of code points as a list of closed ranges in increasing order.  `ofRanges` brings any list
of ranges into that form; union, complement, intersection and difference keep it.
-/

namespace ImageFreshness.Unicode

/-- A set of code points: closed ranges in increasing order that neither overlap nor touch. -/
abbrev CodeSet := List (Nat × Nat)

namespace CodeSet

def maxCode : Nat := 0x10FFFF

def univ : CodeSet := [(0, maxCode)]

def contains (set : CodeSet) (n : Nat) : Bool :=
  List.any set fun (lo, hi) => lo ≤ n && n ≤ hi

/-- Joins a range with those after it that it overlaps or touches, in a list sorted by lower end,
    and does the same with the rest. -/
def coalesceFrom : Nat × Nat → List (Nat × Nat) → CodeSet
  | range, [] => [range]
  | (lo, hi), (lo', hi') :: rest =>
    if lo' ≤ hi + 1 then coalesceFrom (lo, max hi hi') rest
    else (lo, hi) :: coalesceFrom (lo', hi') rest

/-- Joins the ranges of a list sorted by lower end that overlap or touch. -/
def coalesce : List (Nat × Nat) → CodeSet
  | [] => []
  | range :: rest => coalesceFrom range rest

def ofRanges (ranges : List (Nat × Nat)) : CodeSet :=
  coalesce ((ranges.filter fun (lo, hi) => lo ≤ hi).mergeSort fun a b => a.1 ≤ b.1)

def union (a b : CodeSet) : CodeSet := ofRanges (a ++ b)

/-- The gaps of the set from code point `from` on. -/
def gapsFrom : Nat → CodeSet → CodeSet
  | start, [] => if start ≤ maxCode then [(start, maxCode)] else []
  | start, (lo, hi) :: rest =>
    if start < lo then (start, lo - 1) :: gapsFrom (hi + 1) rest else gapsFrom (hi + 1) rest

def complement (set : CodeSet) : CodeSet := gapsFrom 0 set

def inter (a b : CodeSet) : CodeSet := (a.complement.union b.complement).complement

def diff (a b : CodeSet) : CodeSet := a.inter b.complement

/-- The code points in exactly one of the sets. -/
def symmDiff (a b : CodeSet) : CodeSet := (a.union b).diff (a.inter b)

def isAscii (set : CodeSet) : Bool := List.all set fun (_, hi) => hi < 0x80

end CodeSet

end ImageFreshness.Unicode
