/-!
# Names in ASCII

`Punycode.encode` writes a label of a host name with ASCII characters only: first those that it
has, then the places and code points of the others, as numbers with a variable base.
-/

namespace ImageFreshness.Punycode

def digit (n : Nat) : Char := if n < 26 then Char.ofNat (n + 97) else Char.ofNat (n - 26 + 48)

/-- Brings a bias down to the range of one digit, counting the digits that takes. -/
def reduce : Nat → Nat → Nat → Nat × Nat
  | 0, delta, k => (delta, k)
  | fuel + 1, delta, k => if 455 < delta then reduce fuel (delta / 35) (k + 36) else (delta, k)

/-- The bias for the next number, after one that was followed by `count` characters in all. -/
def adapt (delta count : Nat) (isFirst : Bool) : Nat :=
  let delta := if isFirst then delta / 700 else delta / 2
  let delta := delta + delta / count
  let (delta, k) := reduce delta delta 0
  k + 36 * delta / (delta + 38)

/-- The digits of a number, least significant first, `k` being 36 times the place of the next. -/
def digits (bias : Nat) : Nat → Nat → Nat → List Char
  | 0, _, _ => []
  | fuel + 1, n, k =>
    let threshold := if k ≤ bias then 1 else if bias + 26 ≤ k then 26 else k - bias
    if n < threshold then [digit n]
    else
      digit (threshold + (n - threshold) % (36 - threshold)) ::
        digits bias fuel ((n - threshold) / (36 - threshold)) (k + 36)

structure State where
  delta : Nat
  bias : Nat
  handled : Nat
  isFirst : Bool
  output : List (List Char)

def insertCode (code : Nat) (label : List Nat) (s : State) : State :=
  label.foldl
    (fun s c =>
      if c < code then { s with delta := s.delta + 1 }
      else if c = code then
        { delta := 0
          bias := adapt s.delta (s.handled + 1) s.isFirst
          handled := s.handled + 1
          isFirst := false
          output := digits s.bias (s.delta + 1) s.delta 36 :: s.output }
      else s)
    s

/-- Writes the code points beyond ASCII in increasing order, from `from` on. -/
def insertCodes (label : List Nat) : Nat → Nat → State → State
  | 0, _, s => s
  | fuel + 1, start, s =>
    match (label.filter (start ≤ ·)).min? with
    | none => s
    | some code =>
      let s := { s with delta := s.delta + (code - start) * (s.handled + 1) }
      let s := insertCode code label s
      insertCodes label fuel (code + 1) { s with delta := s.delta + 1 }

/-- A label in ASCII, without the mark in front of it. -/
def encode (label : List Char) : List Char :=
  let basic := label.filter (·.toNat < 0x80)
  let codes := label.map Char.toNat
  let s := insertCodes codes label.length 0x80 ⟨0, 72, basic.length, true, []⟩
  basic ++ (if basic.isEmpty then [] else ['-']) ++ s.output.reverse.flatten

end ImageFreshness.Punycode
