import ImageFreshness.Text.Cut

/-!
# Image locations

Where an image lives: a registry host, a repository path and an image name.
`ImageLocation.ofUrl` finds them in the URL part of an image reference.

Specification: section 14, `split_image_url`.
-/

namespace ImageFreshness

open Text

structure ImageLocation where
  host : String
  repo : String
  image : String
  deriving DecidableEq, Repr

namespace ImageLocation

def defaultHost : String := "docker.io"

/-- The repository of the images that the default registry lists without one. -/
def officialRepo : String := "library"

/-- Whether the first segment of a URL names a registry: it has a dot or a port, or is the local
    host. -/
def isHost (segment : List Char) : Bool :=
  '.' ∈ segment || ':' ∈ segment || segment = "localhost".toList

def splitHost (url : List Char) : List Char × List Char :=
  match cutFirst '/' url with
  | some (first, path) => if isHost first then (first, path) else (defaultHost.toList, url)
  | none => (defaultHost.toList, url)

/-- Where the image with this URL lives.  A path of one segment on the default registry is an
    official image. -/
def ofUrl (url : String) : ImageLocation :=
  let (host, path) := splitHost url.toList
  match cutLast '/' path with
  | some (repo, image) => ⟨String.ofList host, String.ofList repo, String.ofList image⟩
  | none =>
    ⟨String.ofList host, if host = defaultHost.toList then officialRepo else "",
      String.ofList path⟩

def name (location : ImageLocation) : String :=
  if location.repo = "" then location.image else location.repo ++ "/" ++ location.image

end ImageLocation

end ImageFreshness
