import ImageFreshness.Http.Punycode
import ImageFreshness.Text.Cut
import ImageFreshness.Text.Decimal
import ImageFreshness.Text.Hex
import ImageFreshness.Unicode.CaseFolding
import ImageFreshness.Unicode.Category

/-!
# Hosts of URLs

A host is a name or an address, brought into the one form in which it is compared and sent.
-/

namespace ImageFreshness.Host

open Text

def splitAt (sep : Char) (cs : List Char) : List (List Char) :=
  cs.foldr
    (fun c pieces =>
      if c = sep then [] :: pieces
      else
        match pieces with
        | [] => [[c]]
        | piece :: rest => (c :: piece) :: rest)
    [[]]

def joinWith (sep : List Char) : List (List Char) → List Char
  | [] => []
  | [piece] => piece
  | piece :: rest => piece ++ sep ++ joinWith sep rest

/-- The bytes of a text, with those given by a percent sign and two digits. -/
def percentDecode : List Char → List UInt8
  | [] => []
  | '%' :: a :: b :: rest =>
    match Hex.value? [a, b] with
    | some n => UInt8.ofNat n :: percentDecode rest
    | none => '%'.toUInt8 :: percentDecode (a :: b :: rest)
  | c :: rest => c.toString.toUTF8.data.toList ++ percentDecode rest

/-! ### Names -/

def lower (c : Char) : Char :=
  if c.toNat < 0x80 then c.toLower
  else if (Unicode.ofCategories ["Lu"]).contains c.toNat then
    let partner := (Unicode.caseOrbits.find? (·.contains c.toNat)).bind fun orbit =>
      orbit.find? fun n => (Unicode.ofCategories ["Ll"]).contains n
    (partner.map Char.ofNat).getD c
  else c

/-- A label of a name in ASCII. -/
def asciiLabel (label : List Char) : List Char :=
  if label.all (·.toNat < 0x80) then label else "xn--".toList ++ Punycode.encode label

def isForbidden (c : Char) : Bool :=
  c.toNat ≤ 0x20 || c = '\x7f' || "#/:<>?@[\\]^|%\"\x60\x7b\x7d".toList.contains c

/-! ### Addresses of four bytes -/

/-- A number of an address: decimal, or octal or hexadecimal where it is marked so. -/
def addressNumber? (cs : List Char) : Option Nat :=
  match cs with
  | [] => none
  | '0' :: 'x' :: digits => Hex.value? digits
  | '0' :: digit :: digits =>
    if (digit :: digits).all fun c => '0' ≤ c && c ≤ '7' then
      some (Nat.ofDigitChars 8 (digit :: digits) 0)
    else none
  | _ => Decimal.natural? cs

/-- The last label that is not empty because of a dot at the end, and the labels before it. -/
def addressParts (name : List Char) : List (List Char) :=
  match (splitAt '.' name).reverse with
  | [] :: part :: rest => (part :: rest).reverse
  | parts => parts.reverse

def endsInNumber (name : List Char) : Bool :=
  match (addressParts name).getLast? with
  | none | some [] => false
  | some last =>
    last.all Char.isDigit ||
      match last with
      | '0' :: 'x' :: digits => (Hex.value? digits).isSome
      | _ => false

/-- The number that the numbers of an address denote; the last one fills the bytes that are
    left. -/
def addressValue? (numbers : List Nat) : Option Nat :=
  match numbers.reverse with
  | [] => none
  | last :: rest =>
    let first := rest.reverse
    if first.length ≤ 3 ∧ first.all (· ≤ 255) ∧ last < Nat.pow 256 (4 - first.length) then
      some (first.foldl (fun n byte => 256 * n + byte) 0 * Nat.pow 256 (4 - first.length) + last)
    else none

def addressText (n : Nat) : List Char :=
  joinWith ['.'] ([16777216, 65536, 256, 1].map fun unit => Decimal.ofNat (n / unit % 256))

/-- A name in its one form. -/
def name? (cs : List Char) : Option (List Char) := do
  let text ← String.fromUTF8? ⟨(percentDecode cs).toArray⟩
  let name := joinWith ['.'] ((splitAt '.' (text.toList.map lower)).map asciiLabel)
  if name.isEmpty || name.any isForbidden then none
  else if endsInNumber name then do
    let numbers ← (addressParts name).mapM addressNumber?
    let value ← addressValue? numbers
    return addressText value
  else some name

/-! ### Addresses of eight groups -/

def group? (cs : List Char) : Option Nat :=
  if cs.isEmpty || 4 < cs.length then none else Hex.value? cs

/-- The groups of a part of an address without a gap; the last one may be an address of four
    bytes. -/
def groups? (cs : List Char) : Option (List Nat) :=
  if cs.isEmpty then some []
  else
    match (splitAt ':' cs).reverse with
    | [] => none
    | last :: rest => do
      let first ← rest.reverse.mapM group?
      if '.' ∈ last then do
        let bytes ← (splitAt '.' last).mapM fun part =>
          if part.length ≤ 3 && (part.length = 1 || part.head? ≠ some '0') then
            Decimal.natural? part
          else none
        match bytes with
        | [a, b, c, d] =>
          if bytes.all (· ≤ 255) then some (first ++ [256 * a + b, 256 * c + d]) else none
        | _ => none
      else return first ++ [← group? last]

def cutGap : List Char → Option (List Char × List Char)
  | ':' :: ':' :: rest => some ([], rest)
  | c :: rest => (cutGap rest).map fun (before, after) => (c :: before, after)
  | [] => none

def eightGroups? (cs : List Char) : Option (List Nat) := do
  match cutGap cs with
  | some (before, after) => do
    let first ← groups? before
    let last ← groups? after
    if first.length + last.length ≤ 7 then
      some (first ++ List.replicate (8 - first.length - last.length) 0 ++ last)
    else none
  | none => do
    let groups ← groups? cs
    if groups.length = 8 then some groups else none

def longestGap (groups : List Nat) : Nat × Nat :=
  (List.range 8).foldl
    (fun best start =>
      let run := ((groups.drop start).takeWhile (· = 0)).length
      if best.2 < run then (start, run) else best)
    (0, 0)

/-- The text of an address of eight groups; the longest run of more than one zero is left out. -/
def groupsText (groups : List Nat) : List Char :=
  let text (part : List Nat) := joinWith [':'] (part.map Hex.ofNat)
  let (start, run) := longestGap groups
  if run < 2 then text groups
  else text (groups.take start) ++ [':', ':'] ++ text (groups.drop (start + run))

def parse? (cs : List Char) : Option (List Char) :=
  match cs with
  | '[' :: rest =>
    match rest.reverse with
    | ']' :: inner =>
      (eightGroups? inner.reverse).map fun groups => '[' :: groupsText groups ++ [']']
    | _ => none
  | _ => name? cs

end ImageFreshness.Host
