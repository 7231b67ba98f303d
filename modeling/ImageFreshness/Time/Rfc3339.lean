import ImageFreshness.Text.Blank
import ImageFreshness.Text.Decimal
import ImageFreshness.Time.Instant

/-!
# Instants in text

Instants are written as RFC 3339 has it, in UTC, with as many fraction digits as they need in
groups of three.  Years outside of 0 to 9999 carry a sign.

Reading is more lenient.  White space may stand before every number and around the separators of
the parts, one digit is enough for every number but those of an offset, and a fraction may have
any number of digits.
-/

namespace ImageFreshness.Instant

open Text

/-! ### Writing -/

def yearText (year : Int) : List Char :=
  if 0 ≤ year ∧ year ≤ 9999 then Decimal.padded 4 year.toNat
  else (if year < 0 then '-' else '+') :: Decimal.padded 4 year.natAbs

/-- The text of a fraction of a second: none, or a point and as few groups of three digits as
    hold it. -/
def fractionText (nanos : Nat) : List Char :=
  if nanos = 0 then []
  else if nanos % 1000000 = 0 then '.' :: Decimal.padded 3 (nanos / 1000000)
  else if nanos % 1000 = 0 then '.' :: Decimal.padded 6 (nanos / 1000)
  else '.' :: Decimal.padded 9 nanos

def dateText (d : Date) : List Char :=
  yearText d.year ++ '-' :: Decimal.padded 2 d.month ++ '-' :: Decimal.padded 2 d.day

def render (t : Instant) : List Char :=
  let (day, second) := t.dayAndSecond
  let inserted := t.nanos / nanosPerSecond
  dateText (Date.ofDayNumber day) ++ 'T' :: Decimal.padded 2 (second / 3600) ++
    ':' :: Decimal.padded 2 (second / 60 % 60) ++
    ':' :: Decimal.padded 2 (second % 60 + inserted) ++
    fractionText (t.nanos % nanosPerSecond) ++ ['Z']

/-! ### Reading -/

/-- A part of the text and what follows it. -/
abbrev Scan (α : Type) := List Char → Option (α × List Char)

def skipBlanks (cs : List Char) : List Char := cs.dropWhile isBlank

def scanNumber (width : Nat) : Scan Nat := fun cs =>
  let cs := skipBlanks cs
  match (cs.takeWhile Char.isDigit).take width with
  | [] => none
  | digits => some (Decimal.value digits, cs.drop digits.length)

/-- A number of at most two digits within bounds. -/
def scanField (least most : Nat) : Scan Nat := fun cs => do
  let (n, rest) ← scanNumber 2 cs
  if least ≤ n ∧ n ≤ most then some (n, rest) else none

/-- A year: up to four digits, or a sign and any number of digits. -/
def scanYear : Scan Int := fun cs =>
  match skipBlanks cs with
  | '-' :: rest => signed rest (- ·)
  | '+' :: rest => signed rest id
  | cs => do
    let (n, rest) ← scanNumber 4 cs
    return ((n : Int), rest)
where
  signed (cs : List Char) (sign : Int → Int) : Option (Int × List Char) :=
    match cs.takeWhile Char.isDigit with
    | [] => none
    | digits => some (sign (Decimal.value digits), cs.dropWhile Char.isDigit)

def scanSeparator (c : Char) : Scan Unit := fun cs =>
  match skipBlanks cs with
  | x :: rest => if x = c then some ((), rest) else none
  | [] => none

def scanDate : Scan Date := fun cs => do
  let (year, cs) ← scanYear cs
  let ((), cs) ← scanSeparator '-' cs
  let (month, cs) ← scanField 1 12 cs
  let ((), cs) ← scanSeparator '-' cs
  let (day, cs) ← scanField 1 31 cs
  let date : Date := ⟨year, month, day⟩
  if date.IsValid ∧ yearInRange year then some (date, cs) else none

def scanMiddle : Scan Unit := fun cs =>
  match cs with
  | c :: rest => if c = 'T' ∨ c = 't' ∨ c = ' ' then some ((), rest) else none
  | [] => none

/-- The nanoseconds of a fraction, if there is one.  Digits after the ninth do not count. -/
def scanFraction : Scan Nat := fun cs =>
  match cs with
  | '.' :: rest =>
    match rest.takeWhile Char.isDigit with
    | [] => none
    | digits =>
      let counted := digits.take 9
      some (Decimal.value counted * Nat.pow 10 (9 - counted.length), rest.dropWhile Char.isDigit)
  | _ => some (0, cs)

/-- A time of day: its second and its nanoseconds.  The inserted second 60 is the second 59 with
    its nanoseconds run on. -/
def scanTime : Scan (Nat × Nat) := fun cs => do
  let (hour, cs) ← scanField 0 23 cs
  let ((), cs) ← scanSeparator ':' cs
  let (minute, cs) ← scanField 0 59 cs
  let ((), cs) ← scanSeparator ':' cs
  let (second, cs) ← scanField 0 60 cs
  let (nanos, cs) ← scanFraction cs
  let minutes := hour * 60 + minute
  if second = 60 then some ((minutes * 60 + 59, nanosPerSecond + nanos), cs)
  else some ((minutes * 60 + second, nanos), cs)

def twoDigits? (a b : Char) : Option Nat :=
  if a.isDigit ∧ b.isDigit then some (Decimal.value [a, b]) else none

/-- The hours and minutes of an offset, in seconds.  Colons and white space between them do not
    count. -/
def scanOffsetSize : Scan Nat := fun cs =>
  match cs with
  | a :: b :: cs => do
    let hours ← twoDigits? a b
    match cs.dropWhile fun c => c = ':' || isBlank c with
    | c :: d :: cs => do
      let minutes ← twoDigits? c d
      if hours < 24 ∧ minutes < 60 then some (hours * 3600 + minutes * 60, cs) else none
    | _ => none
  | _ => none

def scanOffset : Scan Int := fun cs =>
  match skipBlanks cs with
  | 'Z' :: cs | 'z' :: cs => some (0, cs)
  | '+' :: cs => (scanOffsetSize cs).map fun (n, cs) => ((n : Int), cs)
  | '-' :: cs | '−' :: cs => (scanOffsetSize cs).map fun (n, cs) => (-(n : Int), cs)
  | a :: b :: c :: cs =>
    if [a.toUpper, b.toUpper, c.toUpper] = ['U', 'T', 'C'] then some (0, cs) else none
  | _ => none

/-- Reads an instant from a text that holds nothing else. -/
def parse? (cs : List Char) : Option Instant := do
  let (date, cs) ← scanDate cs
  let ((), cs) ← scanMiddle cs
  let ((second, nanos), cs) ← scanTime cs
  let (offset, cs) ← scanOffset cs
  let seconds := date.dayNumber * 86400 + second - offset
  if skipBlanks cs = [] ∧ yearInRange (Date.yearOf (seconds / 86400)) then
    some ⟨seconds, nanos⟩
  else none

end ImageFreshness.Instant
