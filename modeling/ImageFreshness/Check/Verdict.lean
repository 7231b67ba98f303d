import ImageFreshness.Check.Error
import ImageFreshness.Image.Reference
import ImageFreshness.Policy.Fingerprint
import ImageFreshness.Policy.Selection
import ImageFreshness.Workload.Pod

/-!
# Verdicts

Whether a running image is the latest that its policy allows, given the tags of the image.  Images
are compared by version, or by digest where the policy wants it or the running tag says nothing.

Specification: section 4.5, steps 4 to 7.
-/

namespace ImageFreshness

variable [PatternEngine]

structure Verdict where
  currentVersion : String
  latestVersion : String
  isLatest : Bool
  imageUrl : String
  deriving DecidableEq, Repr

/-- A running container that is to be checked. -/
structure Subject where
  pod : Pod
  container : Container
  policy : Policy

namespace Subject

def image (s : Subject) : ImageReference := ImageReference.parse s.container.image

def runningDigest (s : Subject) : String := s.pod.runningDigest s.container.name

def wantsResolution (s : Subject) : Bool := s.policy.resolveDigest && s.image.digest ≠ ""

def lookupUrl (s : Subject) : String := s.policy.overrideUrl.getD s.image.url

def cacheKey (s : Subject) : String := s.policy.cacheKey s.lookupUrl

end Subject

/-- The tag that a container counts as running, and the digest it is pinned to as well. -/
structure RunningTag where
  tag : String
  pin : Option String
  deriving DecidableEq, Repr

namespace RunningTag

def declared (image : ImageReference) : RunningTag :=
  ⟨image.tag, if image.digest = "" then none else some image.digest⟩

/-- The tag that always is compared by digest, since it moves. -/
def floating : String := "latest"

/-- What is known about the running tag once a registry has been asked for it: a tag that it gave
    stands in place of the declared one and of the digest. -/
def afterResolution (image : ImageReference) (answer : Except RegistryError String) : RunningTag :=
  match answer with
  | .ok tag => if tag = "" then declared image else ⟨tag, none⟩
  | .error _ => declared image

def text (r : RunningTag) : String :=
  match r.pin with
  | some digest => r.tag ++ "@" ++ digest
  | none => r.tag

end RunningTag

namespace Verdict

def tagAtDigest (tag digest : String) : String :=
  if tag = "" then digest else tag ++ "@" ++ digest

def byDigest (latest : ImageTag) (running : RunningTag) (digest imageUrl : String) : Verdict where
  currentVersion := tagAtDigest running.tag digest
  latestVersion := tagAtDigest latest.tag latest.digest
  isLatest := latest.digest = digest
  imageUrl

/-- Whether a tag is the running one, but has come to point to another digest. -/
def isRepublished (latest : ImageTag) (running : RunningTag) (digest : String) : Bool :=
  running.tag = latest.tag ∧ latest.digest ≠ "" ∧ latest.digest ≠ digest

/-- The verdict from versions: the running one must not be below the latest, and not be published
    again. -/
def byVersion (latest : ImageTag) (running : RunningTag) (digest imageUrl : String) : Verdict :=
  let republished := isRepublished latest running digest
  { currentVersion := running.text
    latestVersion := if republished then latest.tag ++ "@" ++ latest.digest else latest.tag
    isLatest := !(TagVersion.parse running.tag).lessThan latest.version && !republished
    imageUrl }

end Verdict

namespace Subject

def comparesDigests (s : Subject) (running : RunningTag) : Bool :=
  s.policy.useDigest || running.tag = "" || running.tag = RunningTag.floating

def judge (s : Subject) (running : RunningTag) (tags : List ImageTag) :
    Except CheckError Verdict :=
  if s.comparesDigests running then
    match s.policy.latestDigest? tags with
    | some latest => .ok (.byDigest latest running s.runningDigest s.lookupUrl)
    | none => .error (.notFound s.lookupUrl)
  else
    match s.policy.latestVersion? tags with
    | some latest => .ok (.byVersion latest running s.runningDigest s.lookupUrl)
    | none => .error (.notFound s.lookupUrl)

end Subject

end ImageFreshness
