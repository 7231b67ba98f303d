import ImageFreshness.Json.Value
import ImageFreshness.Pattern.Engine

/-!
# Policies

A policy says which tags of an image are candidates and how the latest of them is found.

Specification: section 3, `Policy`.
-/

namespace ImageFreshness

variable [PatternEngine]

/-- Which tags are candidates and how the latest of them is found. -/
structure Policy where
  useDigest : Bool
  resolveDigest : Bool
  /-- Only tags that match are candidates; nothing else is asked of them. -/
  pattern : Option Pattern
  useMetadata : Bool
  pinMajor : Option Int
  pinMinor : Option Int
  pinPatch : Option Int
  /-- The image to look up in place of the declared one. -/
  overrideUrl : Option String

namespace Policy

def empty : Policy := ⟨false, false, none, false, none, none, none, none⟩

def member {α : Type} (name : String) (value : Option α) (encode : α → Json) :
    List (String × Json) :=
  match value with
  | some a => [(name, encode a)]
  | none => []

/-- The JSON form.  Options that are unset are left out. -/
def toJson (p : Policy) : Json :=
  let pin (n : Int) : Json := .number (.ofInt n)
  .object ([("use-sha", .bool p.useDigest), ("resolve-sha-to-tags", .bool p.resolveDigest)] ++
    member "match-regex" p.pattern (fun pattern => .string pattern.source) ++
    [("use-metadata", .bool p.useMetadata)] ++
    member "pin-major" p.pinMajor pin ++ member "pin-minor" p.pinMinor pin ++
    member "pin-patch" p.pinPatch pin ++ member "override-url" p.overrideUrl .string)

end Policy

end ImageFreshness
