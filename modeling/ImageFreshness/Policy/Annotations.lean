import ImageFreshness.Policy.Basic
import ImageFreshness.Text.Blank
import ImageFreshness.Text.Decimal
import ImageFreshness.Text.Quoted

/-!
# Policies in annotations

The policy of a container is written in the annotations of its pod, each option under a key that
names the option and the container.  `Policy.ofAnnotations` reads it.  White space around a value
does not count, and the first option that is wrong is reported.

Specification: section 13, `from_annotations`.
-/

namespace ImageFreshness

open Text

inductive PolicyOption where
  | enable
  | useDigest
  | resolveDigest
  | useMetadata
  | pattern
  | pinMajor
  | pinMinor
  | pinPatch
  | overrideUrl
  deriving DecidableEq, Repr

def PolicyOption.name : PolicyOption → String
  | .enable => "enable"
  | .useDigest => "use-sha"
  | .resolveDigest => "resolve-sha-to-tags"
  | .useMetadata => "use-metadata"
  | .pattern => "match-regex"
  | .pinMajor => "pin-major"
  | .pinMinor => "pin-minor"
  | .pinPatch => "pin-patch"
  | .overrideUrl => "override-url"

def annotationKey (option container : String) : String :=
  option ++ ".version-checker.io/" ++ container

def PolicyOption.key (option : PolicyOption) (container : String) : String :=
  annotationKey option.name container

/-- Annotations: keys and values, no two of one key. -/
abbrev Annotations := List (String × String)

inductive PolicyError where
  | invalidBool (option : PolicyOption) (value : String)
  /-- The value is no natural number of 63 bits. -/
  | invalidPin (option : PolicyOption) (value : String)
  | invalidPattern
  /-- Digests are to be compared, so this option cannot be honoured. -/
  | conflict (option : PolicyOption)
  deriving DecidableEq, Repr

def PolicyError.message (container : String) : PolicyError → String
  | .invalidBool option value =>
    "Invalid boolean for " ++ option.key container ++ ": " ++ Quoted.encode value
  | .invalidPin option value =>
    "Invalid version pin for " ++ option.key container ++ ": " ++ Quoted.encode value
  | .invalidPattern => "Invalid regex for " ++ PolicyOption.pattern.key container
  | .conflict option =>
    PolicyOption.useDigest.key container ++ " cannot be combined with " ++ option.key container

namespace Policy

variable [PatternEngine]

/-- The value of an option, without white space around it. -/
def optionValue (annotations : Annotations) (container : String) (option : PolicyOption) :
    Option String :=
  (annotations.lookup (option.key container)).map trim

def readBool (option : PolicyOption) (value : String) : Except PolicyError Bool :=
  match value with
  | "true" => .ok true
  | "false" => .ok false
  | _ => .error (.invalidBool option value)

def readPin (option : PolicyOption) (value : String) : Except PolicyError Int :=
  match Decimal.signed? value.toList with
  | some n => if 0 ≤ n then .ok n else .error (.invalidPin option value)
  | none => .error (.invalidPin option value)

def readPattern (value : String) : Except PolicyError (Option Pattern) :=
  if value = "" then .ok none
  else
    match Pattern.compile? value with
    | some pattern => .ok (some pattern)
    | none => .error .invalidPattern

/-- Reads an option that may be missing. -/
def readOption {α : Type} (value : Option String) (missing : α)
    (read : String → Except PolicyError α) : Except PolicyError α :=
  match value with
  | some s => read s
  | none => .ok missing

/-- The first option that cannot be honoured because digests are to be compared. -/
def firstConflict (p : Policy) : Option PolicyOption :=
  if !p.useDigest then none
  else if p.pattern.isSome then some .pattern
  else if p.pinMajor.isSome then some .pinMajor
  else if p.pinMinor.isSome then some .pinMinor
  else if p.pinPatch.isSome then some .pinPatch
  else if p.useMetadata then some .useMetadata
  else none

/-- Reads all options but the one that enables the check, in the order in which their errors are
    reported. -/
def readOptions (get : PolicyOption → Option String) : Except PolicyError Policy := do
  let bool (option : PolicyOption) := readOption (get option) false (readBool option)
  let pin (option : PolicyOption) :=
    readOption (get option) none fun s => (readPin option s).map some
  let useDigest ← bool .useDigest
  let resolveDigest ← bool .resolveDigest
  let useMetadata ← bool .useMetadata
  let pattern ← readOption (get .pattern) none readPattern
  let pinMajor ← pin .pinMajor
  let pinMinor ← pin .pinMinor
  let pinPatch ← pin .pinPatch
  let overrideUrl := (get .overrideUrl).filter (· ≠ "")
  return { useDigest, resolveDigest, pattern, useMetadata, pinMajor, pinMinor, pinPatch,
           overrideUrl }

/-- The policy of a container, or none if it is not to be checked.  Where the annotations do not
    say, it is checked if `testAll`. -/
def ofAnnotations (annotations : Annotations) (container : String) (testAll : Bool) :
    Except PolicyError (Option Policy) := do
  let get := optionValue annotations container
  let enabled ← readOption (get .enable) testAll (readBool .enable)
  if !enabled then return none
  let policy ← readOptions get
  match policy.firstConflict with
  | some option => .error (.conflict option)
  | none => return some policy

end Policy

end ImageFreshness
