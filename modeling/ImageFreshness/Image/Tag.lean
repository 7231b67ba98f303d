import ImageFreshness.Json.Reader
import ImageFreshness.Time.Rfc3339

/-!
# Tags of an image

What a registry reports about one tag of an image, and its JSON form.

Specification: section 3, `ImageTag`.
-/

namespace ImageFreshness

open Json

structure ImageTag where
  tag : String
  digest : String
  /-- When the image was made; the epoch if the registry does not say. -/
  created : Instant
  architecture : String
  os : String
  deriving DecidableEq, Repr

namespace ImageTag

def ofDigest (tag digest : String) : ImageTag := ⟨tag, digest, .epoch, "", ""⟩

/-- The JSON form.  Empty names of the architecture and the system are left out. -/
def toJson (t : ImageTag) : Json :=
  .object ([("tag", .string t.tag), ("sha", .string t.digest),
    ("timestamp", .string (String.ofList t.created.render))] ++
    (if t.architecture = "" then [] else [("architecture", .string t.architecture)]) ++
    (if t.os = "" then [] else [("os", .string t.os)]))

def reader : Reader ImageTag :=
  .record [
    .required "tag" .string fun t s => { t with tag := s },
    .required "sha" .string fun t s => { t with digest := s },
    .required "timestamp" (.refine .string fun s => Instant.parse? s.toList)
      fun t created => { t with created },
    .optional "architecture" .string fun t s => { t with architecture := s },
    .optional "os" .string fun t s => { t with os := s }] (ofDigest "" "")

def parse (text : String) : Except Fault ImageTag := reader.run text

end ImageTag

end ImageFreshness
