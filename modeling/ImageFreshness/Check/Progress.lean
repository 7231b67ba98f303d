import ImageFreshness.Cache.Session
import ImageFreshness.Check.Verdict
import ImageFreshness.Image.Location

/-!
# The course of a check

A check may have to wait twice: for the tag of a pinned digest, and for the tags of its image
unless they are cached.  In between it does what it has to at once.  `begin`, `resolved` and
`fetched` say what happens at the start of a check and at the end of each wait; each gives the
stage that the check is at then, and the cache.

Specification: section 4.5, the steps of `container` and where it can be cancelled.
-/

namespace ImageFreshness

/-- How a check ends: with a verdict, with none while the container runs nothing, or with an
    error. -/
abbrev CheckEnding := Except CheckError (Option Verdict)

/-- Where a check stands once it has looked the tags of its image up. -/
inductive LookupStage where
  | ended (ending : CheckEnding)
  | fetching (running : RunningTag) (flight : Nat)

/-- Where a check stands once it has started. -/
inductive StartStage where
  | resolving
  | lookup (stage : LookupStage)

abbrev TagCache := CacheSession (List ImageTag)

namespace Subject

variable [PatternEngine]

def cancelledAt (imageUrl : String) : CheckEnding := .error (.fetch imageUrl .cancelled)

def conclude (s : Subject) (running : RunningTag) (tags : List ImageTag) : CheckEnding :=
  (s.judge running tags).map some

def lookupNotices (s : Subject) : List Notice :=
  if s.lookupUrl = s.image.url then [] else [.lookingElsewhere s.lookupUrl s.image.url]

def fetchNotice (s : Subject) : Notice :=
  let location := ImageLocation.ofUrl s.lookupUrl
  .fetchingTags location.name location.host

def consult (s : Subject) (running : RunningTag) (cancelled : Bool) (cache : TagCache) :
    LookupStage × TagCache :=
  let (outcome, cache) := (cache.note s.lookupNotices).lookup s.cacheKey cancelled
  match outcome with
  | .hit tags => (.ended (s.conclude running tags), cache)
  | .cancelled => (.ended (cancelledAt s.lookupUrl), cache)
  | .fetching flight => (.fetching running flight, cache.note [s.fetchNotice])

def begin (s : Subject) (cancelled : Bool) (cache : TagCache) : StartStage × TagCache :=
  if s.runningDigest = "" then
    (.lookup (.ended (.ok none)),
      cache.note [.notRunning s.pod.metadata.name s.container.name])
  else if s.wantsResolution then
    if cancelled then
      (.lookup (.ended (cancelledAt s.image.url)),
        cache.note [.resolvingCancelled s.image.url s.image.digest])
    else (.resolving, cache)
  else
    let (stage, cache) := s.consult (.declared s.image) cancelled cache
    (.lookup stage, cache)

def resolutionNotices (s : Subject) (answer : Except RegistryError String) : List Notice :=
  match answer with
  | .ok tag => if tag = "" then [] else [.resolved s.image.url s.image.digest tag]
  | .error error => [.resolvingFailed s.image.url s.image.digest error]

/-- Goes on once the registry has answered for the pinned digest, or the wait was cancelled. -/
def resolved (s : Subject) (cancelled : Bool) (answer : Except RegistryError String)
    (cache : TagCache) : LookupStage × TagCache :=
  if cancelled then
    (.ended (cancelledAt s.image.url), cache.note [.resolvingCancelled s.image.url s.image.digest])
  else
    s.consult (.afterResolution s.image answer) false (cache.note (s.resolutionNotices answer))

/-- Goes on once the registry has answered for the tags, or the wait was cancelled. -/
def fetched (s : Subject) (running : RunningTag) (flight : Nat) (cancelled : Bool)
    (answer : Except RegistryError (List ImageTag)) (cache : TagCache) :
    CheckEnding × TagCache :=
  match cache.finish flight cancelled answer with
  | (.ok tags, cache) => (s.conclude running tags, cache)
  | (.error error, cache) => (.error (.fetch s.lookupUrl error), cache)

end Subject

end ImageFreshness
