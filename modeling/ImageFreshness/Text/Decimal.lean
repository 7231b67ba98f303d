/-!
# Decimal numbers in text

Numbers written with the ASCII digits, read with the bounds of the 64-bit integers.  A sign is
read where the type has one; a plus sign always is.
-/

namespace ImageFreshness.Text.Decimal

def maxUnsigned : Nat := 18446744073709551615

def maxSigned : Nat := 9223372036854775807

/-- The number that a list of digits denotes; leading zeros do not count. -/
def value (digits : List Char) : Nat := Nat.ofDigitChars 10 digits 0

def natural? (cs : List Char) : Option Nat :=
  if cs ≠ [] ∧ cs.all Char.isDigit then some (value cs) else none

/-- Reads digits after an optional plus sign, up to `maxUnsigned`. -/
def unsigned? (cs : List Char) : Option Nat := do
  let n ← natural? (match cs with | '+' :: rest => rest | _ => cs)
  if n ≤ maxUnsigned then some n else none

/-- Reads digits after an optional sign, from `-2 ^ 63` to `maxSigned`. -/
def signed? (cs : List Char) : Option Int :=
  match cs with
  | '-' :: rest => do
    let n ← natural? rest
    if n ≤ maxSigned + 1 then some (-(n : Int)) else none
  | _ => do
    let n ← natural? (match cs with | '+' :: rest => rest | _ => cs)
    if n ≤ maxSigned then some (n : Int) else none

def ofNat (n : Nat) : List Char := Nat.toDigits 10 n

def ofInt (n : Int) : List Char :=
  if n < 0 then '-' :: ofNat n.natAbs else ofNat n.natAbs

/-- At least `width` digits, filled up with zeros in front. -/
def padded (width n : Nat) : List Char :=
  let digits := ofNat n
  List.replicate (width - digits.length) '0' ++ digits

end ImageFreshness.Text.Decimal
