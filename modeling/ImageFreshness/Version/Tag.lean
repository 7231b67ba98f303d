import ImageFreshness.Text.Decimal

/-!
# Versions in tags

Tags rarely are strict versions (`v1.2`, `0.21.0-debian-10-r9`, `latest`), so every text is
accepted: `TagVersion.parse` reads up to three numbers at the front and keeps the rest as
metadata.

Specification: section 4.1, `parse` and `has_metadata`.
-/

namespace ImageFreshness

open Text

structure TagVersion where
  major : Nat
  minor : Nat
  patch : Nat
  /-- What follows the numbers, or the whole tag if it starts with none. -/
  metadata : String
  tag : String
  deriving DecidableEq, Repr

namespace TagVersion

def spanDigits (cs : List Char) : List Char × List Char :=
  (cs.takeWhile Char.isDigit, cs.dropWhile Char.isDigit)

def spanDotted (cs : List Char) : Option (List Char × List Char) :=
  match cs with
  | '.' :: rest =>
    match spanDigits rest with
    | ([], _) => none
    | digits => some digits
  | _ => none

/-- What follows the `v` that may stand before the numbers. -/
def withoutLead : List Char → List Char
  | 'v' :: rest => rest
  | cs => cs

/-- The digits of the three numbers of a tag and the rest.  A missing number has no digits. -/
def split (cs : List Char) : Option ((List Char × List Char × List Char) × List Char) :=
  if '\n' ∈ cs then none
  else
    match spanDigits (withoutLead cs) with
    | ([], _) => none
    | (major, rest) =>
      match spanDotted rest with
      | none => some ((major, [], []), rest)
      | some (minor, rest) =>
        match spanDotted rest with
        | none => some ((major, minor, []), rest)
        | some (patch, rest) => some ((major, minor, patch), rest)

/-- The number that some digits denote.  No digits, and digits beyond 63 bits, count as zero. -/
def component (digits : List Char) : Nat :=
  let n := Decimal.value digits
  if n ≤ Decimal.maxSigned then n else 0

def parse (tag : String) : TagVersion :=
  match split tag.toList with
  | some ((major, minor, patch), rest) =>
    ⟨component major, component minor, component patch, String.ofList rest, tag⟩
  | none => ⟨0, 0, 0, tag, tag⟩

@[simp] theorem parse_tag (tag : String) : (parse tag).tag = tag := by
  unfold parse
  split <;> rfl

def hasMetadata (v : TagVersion) : Bool := v.metadata ≠ ""

end TagVersion

end ImageFreshness
