import ImageFreshness.Json.Fault
import ImageFreshness.Json.Value

/-!
# Numbers of a JSON text

`Lexeme.scan` reads the form of a number and `Lexeme.value?` what it denotes.  Numbers that are no
64-bit integers are binary64 numbers to a reader; those too large for that have no value.
-/

namespace ImageFreshness.Json

open Text

/-- Where a text stops being a number.  A text that just ends there is `unfinished` to a reader
    that wants the value, and malformed to one that only passes over it. -/
structure Stop where
  wanted : Fault
  skipped : Fault
  deriving DecidableEq, Repr

def Stop.before (rest : List Char) : Stop :=
  if rest.isEmpty then ⟨.unfinished, .malformed⟩ else ⟨.malformed, .malformed⟩

structure Lexeme where
  minus : Bool
  whole : List Char
  fraction : List Char
  hasPoint : Bool
  exponentMinus : Bool
  exponent : List Char
  hasExponent : Bool
  deriving DecidableEq, Repr

namespace Lexeme

def scanDigits (cs : List Char) : Except Stop (List Char × List Char) :=
  match cs.takeWhile Char.isDigit with
  | [] => .error (.before cs)
  | digits => .ok (digits, cs.dropWhile Char.isDigit)

/-- Splits off the digits before the point: a zero stands alone. -/
def scanWhole (cs : List Char) : Except Stop (List Char × List Char) := do
  let (digits, rest) ← scanDigits cs
  match digits with
  | '0' :: _ :: _ => .error ⟨.malformed, .malformed⟩
  | _ => return (digits, rest)

def scanFraction (cs : List Char) : Except Stop ((Bool × List Char) × List Char) :=
  match cs with
  | '.' :: rest => (scanDigits rest).map fun (digits, rest) => ((true, digits), rest)
  | _ => .ok ((false, []), cs)

def scanExponent (cs : List Char) : Except Stop ((Bool × Bool × List Char) × List Char) :=
  match cs with
  | c :: rest =>
    if c = 'e' ∨ c = 'E' then
      let (minus, rest) := match rest with
        | '-' :: rest => (true, rest)
        | '+' :: rest => (false, rest)
        | _ => (false, rest)
      (scanDigits rest).map fun (digits, rest) => ((true, minus, digits), rest)
    else .ok ((false, false, []), cs)
  | [] => .ok ((false, false, []), [])

def scan (cs : List Char) : Except Stop (Lexeme × List Char) := do
  let (minus, cs) := match cs with
    | '-' :: rest => (true, rest)
    | _ => (false, cs)
  let (whole, cs) ← scanWhole cs
  let ((hasPoint, fraction), cs) ← scanFraction cs
  let ((hasExponent, exponentMinus, exponent), cs) ← scanExponent cs
  return (⟨minus, whole, fraction, hasPoint, exponentMinus, exponent, hasExponent⟩, cs)

/-- The number as it is written, with a plain exponent. -/
def text (l : Lexeme) : List Char :=
  (if l.minus then ['-'] else []) ++ l.whole ++ (if l.hasPoint then '.' :: l.fraction else []) ++
    (if l.hasExponent then 'e' :: (if l.exponentMinus then ['-'] else []) ++ l.exponent else [])

/-- The binary64 number nearest to `n`, ties to even, for numbers within its range. -/
def nearest (n : Nat) : Nat :=
  if n < Nat.pow 2 53 then n
  else
    let shift := n.log2 - 52
    let kept := n >>> shift
    let lost := n % Nat.pow 2 shift
    let half := Nat.pow 2 (shift - 1)
    let up := half < lost ∨ (lost = half ∧ kept % 2 = 1)
    (if up then kept + 1 else kept) <<< shift

/-- The digits that fit into 64 bits, and how many were left over. -/
def leading (start : Nat) (digits : List Char) : Nat × Nat :=
  digits.foldl
    (fun (n, dropped) c =>
      let next := 10 * n + (c.toNat - '0'.toNat)
      if dropped = 0 ∧ next ≤ Decimal.maxUnsigned then (next, 0) else (n, dropped + 1))
    (start, 0)

/-- Whether the magnitude is beyond binary64.  It is taken as the product of the digits that fit
    into 64 bits and a power of ten, each rounded before they are multiplied. -/
def isTooLarge (l : Lexeme) : Bool :=
  let (significand, dropped) := leading 0 l.whole
  let (significand, unused) := leading significand l.fraction
  let shown : Int := l.fraction.length - unused
  let written : Int := Decimal.value l.exponent
  let power : Int := dropped - shown + (if l.exponentMinus then -written else written)
  significand ≠ 0 ∧ (308 < power ∨ (0 ≤ power ∧
    Nat.pow 2 1024 - Nat.pow 2 970 ≤ nearest significand * nearest (Nat.pow 10 power.toNat)))

def value? (l : Lexeme) : Except Fault Number :=
  let n := Decimal.value l.whole
  if l.hasPoint || l.hasExponent then
    if l.isTooLarge then .error .malformed else .ok (.real l.text)
  else if l.minus then
    if 0 < n ∧ n ≤ Decimal.maxSigned + 1 then .ok (.negative n)
    else if l.isTooLarge then .error .malformed else .ok (.real l.text)
  else if n ≤ Decimal.maxUnsigned then .ok (.unsigned n)
  else if l.isTooLarge then .error .malformed else .ok (.real l.text)

end Lexeme

end ImageFreshness.Json
