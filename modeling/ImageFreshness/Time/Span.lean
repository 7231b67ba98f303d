import ImageFreshness.Text.Decimal

/-!
# Spans of time in messages

A number of milliseconds is written in the largest unit that does not exceed it, with a decimal
fraction of as many digits as it needs.
-/

namespace ImageFreshness.Span

open Text

/-- The three digits of the milliseconds within a second, without zeros at the end, after a
    point. -/
def fractionText (ms : Nat) : List Char :=
  match ((Decimal.padded 3 ms).reverse.dropWhile (· = '0')).reverse with
  | [] => []
  | digits => '.' :: digits

/-- The text of a span of milliseconds, such as `1.5s` or `7ms`. -/
def text (ms : Nat) : String :=
  String.ofList <|
    if ms = 0 then "0ns".toList
    else if ms < 1000 then Decimal.ofNat ms ++ "ms".toList
    else Decimal.ofNat (ms / 1000) ++ fractionText (ms % 1000) ++ ['s']

end ImageFreshness.Span
