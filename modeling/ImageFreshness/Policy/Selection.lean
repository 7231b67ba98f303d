import ImageFreshness.Image.Tag
import ImageFreshness.Policy.Basic
import ImageFreshness.Version.Order

/-!
# The latest tag

Out of the tags of an image a policy selects the latest candidate: by version, or by the time at
which the image was made.  Either way the first of several that are equally late is taken.

Specification: section 4.2, `select_latest_semver` and `select_latest_digest`.
-/

namespace ImageFreshness

/-- The last element that was better than the one kept before it; the first element is kept to
    begin with. -/
def pickBest {α : Type} (better : α → α → Bool) (xs : List α) : Option α :=
  xs.foldl
    (fun best x =>
      match best with
      | none => some x
      | some b => if better b x then some x else some b)
    none

namespace ImageTag

def version (t : ImageTag) : TagVersion := TagVersion.parse t.tag

/-- The ends of the names of tags that hold signatures and the like, and no images. -/
def artifactSuffixes : List (List Char) := [".att".toList, ".sig".toList, ".sbom".toList]

def isArtifact (t : ImageTag) : Bool := artifactSuffixes.any fun s => s.isSuffixOf t.tag.toList

end ImageTag

namespace Policy

variable [PatternEngine]

/-- Whether a component of a version is the one that is pinned, if any is. -/
def pinHolds (pin : Option Int) (component : Nat) : Bool :=
  match pin with
  | some n => n = component
  | none => true

/-- Whether a tag is a candidate when versions are compared.  A pattern decides alone. -/
def allowsVersion (policy : Policy) (t : ImageTag) : Bool :=
  match policy.pattern with
  | some pattern => pattern.isMatch t.tag
  | none =>
    let v := t.version
    (policy.useMetadata || !v.hasMetadata) && pinHolds policy.pinMajor v.major &&
      pinHolds policy.pinMinor v.minor && pinHolds policy.pinPatch v.patch

/-- Whether `t` is to be preferred to `best`: a later version, or the same tag made later. -/
def laterVersion (best t : ImageTag) : Bool :=
  best.version.lessThan t.version ||
    (best.version.sameTag t.version && best.created.before t.created)

def latestVersion? (policy : Policy) (tags : List ImageTag) : Option ImageTag :=
  pickBest laterVersion (tags.filter policy.allowsVersion)

def allowsDigest (policy : Policy) (t : ImageTag) : Bool :=
  !t.isArtifact && policy.pattern.all fun pattern => pattern.isMatch t.tag

def latestDigest? (policy : Policy) (tags : List ImageTag) : Option ImageTag :=
  pickBest (fun best t => best.created.before t.created) (tags.filter policy.allowsDigest)

end Policy

end ImageFreshness
