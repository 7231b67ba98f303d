import ImageFreshness.Time.Date

/-!
# Instants

Points in time with the precision of a nanosecond, counted from the start of 1970 in UTC.
-/

namespace ImageFreshness

/-- A point in time.  The nanoseconds may run on past one second: this is how the second that is
    inserted at the end of a minute is told apart from the one before it. -/
structure Instant where
  seconds : Int
  nanos : Nat
  deriving DecidableEq, Repr

namespace Instant

def nanosPerSecond : Nat := 1000000000

def epoch : Instant := ⟨0, 0⟩

def ofMillis (ms : Int) : Instant := ⟨ms / 1000, (ms % 1000).toNat * 1000000⟩

def millis (t : Instant) : Int := t.seconds * 1000 + (t.nanos / 1000000 : Nat)

/-- Whether `a` is earlier than `b`. -/
def before (a b : Instant) : Bool :=
  a.seconds < b.seconds || (a.seconds == b.seconds && a.nanos < b.nanos)

def dayAndSecond (t : Instant) : Int × Nat := (t.seconds / 86400, (t.seconds % 86400).toNat)

/-- The first and the last year that instants may lie in. -/
def minYear : Int := -262143

@[inherit_doc minYear]
def maxYear : Int := 262142

def yearInRange (year : Int) : Bool := minYear ≤ year && year ≤ maxYear

end Instant

end ImageFreshness
