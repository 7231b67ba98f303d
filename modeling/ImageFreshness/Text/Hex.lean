/-!
# Hexadecimal digits
-/

namespace ImageFreshness.Text.Hex

def digit? (c : Char) : Option Nat :=
  if '0' ≤ c ∧ c ≤ '9' then some (c.toNat - '0'.toNat)
  else if 'a' ≤ c ∧ c ≤ 'f' then some (c.toNat - 'a'.toNat + 10)
  else if 'A' ≤ c ∧ c ≤ 'F' then some (c.toNat - 'A'.toNat + 10)
  else none

def value? (cs : List Char) : Option Nat :=
  cs.foldlM (fun n c => (digit? c).map (16 * n + ·)) 0

/-- The shortest lower-case hexadecimal text of a number. -/
def ofNat (n : Nat) : List Char := Nat.toDigits 16 n

end ImageFreshness.Text.Hex
