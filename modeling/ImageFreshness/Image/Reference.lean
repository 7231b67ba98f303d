import ImageFreshness.Text.Cut

/-!
# Image references

A container declares its image as `host[:port]/path[:tag][@digest]`.  `ImageReference.parse`
takes such a text apart.  It accepts every text: what does not look like a tag or a digest stays
in the URL.  `ImageReference.render` puts the parts together again.

Specification: section 4.4, `parse_image`.
-/

namespace ImageFreshness

open Text

/-- The parts of a declared image.  A part that was not declared is empty. -/
structure ImageReference where
  url : String
  tag : String
  digest : String
  deriving DecidableEq, Repr

namespace ImageReference

/-- The host part of an image text and the path from its first slash on.  Without a slash all of
    it is path. -/
def splitPath (cs : List Char) : List Char × List Char :=
  if '/' ∈ cs then (cs.takeWhile (· ≠ '/'), cs.dropWhile (· ≠ '/')) else ([], cs)

/-- Cuts off the tag of an image that also has a digest: it starts after the first colon of the
    path, so that the port of a host is no tag. -/
def cutTagOfPath (cs : List Char) : List Char × List Char :=
  let (host, path) := splitPath cs
  match cutFirst ':' path with
  | some (before, tag) => (host ++ before, tag)
  | none => (cs, [])

/-- Cuts off the tag of an image without a digest: it starts after the last colon, unless a slash
    follows there. -/
def cutTagAtEnd (cs : List Char) : List Char × List Char :=
  match cutLast ':' cs with
  | some (before, tag) => if '/' ∈ tag then (cs, []) else (before, tag)
  | none => (cs, [])

def parse (image : String) : ImageReference :=
  match cutFirst '@' image.toList with
  | some (left, digest) =>
    let (url, tag) := cutTagOfPath left
    ⟨String.ofList url, String.ofList tag, String.ofList digest⟩
  | none =>
    let (url, tag) := cutTagAtEnd image.toList
    ⟨String.ofList url, String.ofList tag, ""⟩

/-- The image text with these parts: empty ones are left out with their separators. -/
def render (image : ImageReference) : String :=
  image.url ++ (if image.tag = "" then "" else ":" ++ image.tag) ++
    (if image.digest = "" then "" else "@" ++ image.digest)

end ImageReference

end ImageFreshness
